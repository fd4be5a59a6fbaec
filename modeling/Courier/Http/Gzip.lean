/-!
# Packed bytes

Bytes that are packed with gzip: members one behind the other, each with a head, blocks, and a sum
and a size that the unpacked bytes have to have. A block holds bytes as they are, or codes for
bytes and for copies of what was unpacked before. What breaks the format is not unpacked at all.
-/

namespace Courier.Http.Gzip

/-! ## Bits -/

/-- The bits of bytes, the lowest of each byte first. -/
def bitsOf (bytes : List UInt8) : List Bool :=
  bytes.flatMap fun b => (List.range 8).map b.toNat.testBit

/-- The number that so many bits are, the lowest first, and the bits behind it. -/
def takeNumber : Nat → List Bool → Option (Nat × List Bool)
  | 0, bits => some (0, bits)
  | _ + 1, [] => none
  | n + 1, bit :: rest =>
    (takeNumber n rest).map fun (higher, left) => (2 * higher + bit.toNat, left)

/-- So many bytes, and the bits behind them. -/
def takeBytes : Nat → List Bool → Option (List UInt8 × List Bool)
  | 0, bits => some ([], bits)
  | n + 1, bits => do
    let (b, bits) ← takeNumber 8 bits
    let (bytes, bits) ← takeBytes n bits
    return (b.toUInt8 :: bytes, bits)

/-- The bits from the next byte on. -/
def skipToByte (bits : List Bool) : List Bool :=
  bits.drop (bits.length % 8)

/-! ## Codes -/

/-- A code by the lengths of its words: the symbols of words with one bit, with two and so on. The
words are numbered through, the shorter first. -/
abbrev Code := List (List Nat)

/-- The most bits that a word has. -/
def maxBits : Nat := 15

/-- The code whose symbols have words of these lengths; a symbol without a word has the length 0. -/
def codeOf (lengths : List Nat) : Code :=
  (List.range maxBits).map fun bits =>
    (List.range lengths.length).filter fun symbol => lengths.getD symbol 0 = bits + 1

/-- How many words of the greatest length would be left over if there is room for so many. -/
def room : Code → Nat → Int
  | [], left => left
  | symbols :: longer, left =>
    if symbols.length ≤ left then room longer (2 * (left - symbols.length)) else -1

/-- A code that uses up all words, or has but one. -/
def isCode (code : Code) : Bool :=
  room code 2 = 0 || code.flatten.length ≤ 1

/-- The code of these lengths, if it is one. -/
def code? (lengths : List Nat) : Option Code :=
  let code := codeOf lengths
  if isCode code then some code else none

/-- The symbol whose word comes first, and the bits behind it. The place of a word is counted from
the first word of its length. -/
def takeSymbol : Code → Nat → List Bool → Option (Nat × List Bool)
  | symbols :: longer, before, bit :: rest =>
    let place := 2 * before + bit.toNat
    match symbols[place]? with
    | some symbol => some (symbol, rest)
    | none => takeSymbol longer (place - symbols.length) rest
  | _, _, _ => none

/-- What symbols stand for: a number, and how many bits to add follow. -/
abbrev Scale := List (Nat × Nat)

/-- A scale from the numbers of bits, without gaps. -/
def scaleOf : Nat → List Nat → Scale
  | _, [] => []
  | base, bits :: rest => (base, bits) :: scaleOf (base + 2 ^ bits) rest

/-- How much is copied. The greatest length has a symbol of its own. -/
def lengthScale : Scale :=
  (scaleOf 3
      [0, 0, 0, 0, 0, 0, 0, 0, 1, 1, 1, 1, 2, 2, 2, 2, 3, 3, 3, 3, 4, 4, 4, 4, 5, 5, 5, 5]) ++
    [(258, 0)]

/-- How far back it stands. -/
def distanceScale : Scale :=
  scaleOf 1 [0, 0, 0, 0, 1, 1, 2, 2, 3, 3, 4, 4, 5, 5, 6, 6, 7, 7, 8, 8, 9, 9, 10, 10, 11, 11, 12,
    12, 13, 13]

/-- The number that a symbol and the bits behind it stand for. -/
def takeScaled (scale : Scale) (symbol : Nat) (bits : List Bool) : Option (Nat × List Bool) := do
  let (base, extra) ← scale[symbol]?
  let (n, bits) ← takeNumber extra bits
  return (base + n, bits)

/-! ## Blocks

What was unpacked so far stands last to first. -/

/-- Copies so many bytes that stand so far back. -/
def copy (distance : Nat) : Nat → List UInt8 → Option (List UInt8)
  | 0, done => some done
  | n + 1, done =>
    match done[distance - 1]? with
    | none => none
    | some b => copy distance n (b :: done)

/-- The symbol that ends a block; those below are bytes, those above lengths. -/
def endOfBlock : Nat := 256

/-- A block of codes, so many at most. -/
def takeCodes (literals distances : Code) :
    Nat → List UInt8 → List Bool → Option (List UInt8 × List Bool)
  | 0, _, _ => none
  | steps + 1, done, bits => do
    let (symbol, bits) ← takeSymbol literals 0 bits
    if symbol < endOfBlock then
      takeCodes literals distances steps (symbol.toUInt8 :: done) bits
    else if symbol = endOfBlock then some (done, bits)
    else
      let (length, bits) ← takeScaled lengthScale (symbol - (endOfBlock + 1)) bits
      let (far, bits) ← takeSymbol distances 0 bits
      let (distance, bits) ← takeScaled distanceScale far bits
      let done ← copy distance length done
      takeCodes literals distances steps done bits

/-- A block of bytes as they are: their number twice, the second time with every bit turned. -/
def takeStored (done : List UInt8) (bits : List Bool) : Option (List UInt8 × List Bool) := do
  let (size, bits) ← takeNumber 16 (skipToByte bits)
  let (turned, bits) ← takeNumber 16 bits
  if size + turned ≠ 0xFFFF then none
  else
    let (bytes, bits) ← takeBytes size bits
    return (bytes.reverse ++ done, bits)

/-- The lengths of the words of the codes that are agreed upon. -/
def agreedLengths : List Nat × List Nat :=
  (List.replicate 144 8 ++ List.replicate 112 9 ++ List.replicate 24 7 ++ List.replicate 8 8,
    List.replicate 32 5)

/-- The order in which the lengths of the words for lengths are told. -/
def lengthOrder : List Nat :=
  [16, 17, 18, 0, 8, 7, 9, 6, 10, 5, 11, 4, 12, 3, 13, 2, 14, 1, 15]

/-- So many numbers of three bits. -/
def takeTriples : Nat → List Bool → Option (List Nat × List Bool)
  | 0, bits => some ([], bits)
  | n + 1, bits => do
    let (first, bits) ← takeNumber 3 bits
    let (rest, bits) ← takeTriples n bits
    return (first :: rest, bits)

/-- So many lengths of words in code, in so many steps at most: a length, the one before again, or
a run of symbols without a word. -/
def takeLengths (code : Code) (count : Nat) :
    Nat → List Nat → List Bool → Option (List Nat × List Bool)
  | 0, _, _ => none
  | steps + 1, done, bits =>
    if count ≤ done.length then
      if done.length = count then some (done, bits) else none
    else do
      let (symbol, bits) ← takeSymbol code 0 bits
      if symbol < 16 then takeLengths code count steps (done ++ [symbol]) bits
      else
        let (fewest, extra) :=
          if symbol = 16 then (3, 2) else if symbol = 17 then (3, 3) else (11, 7)
        let (more, bits) ← takeNumber extra bits
        let length ← if symbol = 16 then done.getLast? else some 0
        takeLengths code count steps (done ++ List.replicate (fewest + more) length) bits

/-- The codes that a block tells of itself, for bytes and lengths and for distances. -/
def takeOwnCodes (bits : List Bool) : Option ((Code × Code) × List Bool) := do
  let (literals, bits) ← takeNumber 5 bits
  let (distances, bits) ← takeNumber 5 bits
  let (told, bits) ← takeNumber 4 bits
  let literals := literals + 257
  let distances := distances + 1
  if literals > 286 || distances > 30 then none
  else
    let (triples, bits) ← takeTriples (told + 4) bits
    let lengths := (List.range 19).map fun symbol => triples.getD (lengthOrder.idxOf symbol) 0
    let code ← code? lengths
    let (lengths, bits) ← takeLengths code (literals + distances) (literals + distances + 1) [] bits
    let literalCode ← code? (lengths.take literals)
    let distanceCode ← code? (lengths.drop literals)
    return ((literalCode, distanceCode), bits)

/-- Blocks up to the last one, so many at most. -/
def takeBlocks : Nat → List UInt8 → List Bool → Option (List UInt8 × List Bool)
  | 0, _, _ => none
  | blocks + 1, done, bits => do
    let (last, bits) ← takeNumber 1 bits
    let (kind, bits) ← takeNumber 2 bits
    let (done, bits) ← match kind with
      | 0 => takeStored done bits
      | 1 =>
        takeCodes (codeOf agreedLengths.1) (codeOf agreedLengths.2) (bits.length + 1) done bits
      | 2 => do
        let ((literals, distances), bits) ← takeOwnCodes bits
        takeCodes literals distances (bits.length + 1) done bits
      | _ => none
    if last = 1 then some (done, bits) else takeBlocks blocks done bits

/-! ## Members -/

/-- The sum of bytes by which errors are found, so far. -/
def checksum (bytes : List UInt8) : Nat :=
  let step := fun (sum : Nat) (_ : Nat) =>
    if sum % 2 = 1 then (sum / 2).xor 0xEDB88320 else sum / 2
  (bytes.foldl (fun sum b => (List.range 8).foldl step (sum.xor b.toNat)) 0xFFFFFFFF).xor 0xFFFFFFFF

/-- The number that bytes are, the lowest first. -/
def littleEndian (bytes : List UInt8) : Nat :=
  bytes.foldr (fun b higher => 256 * higher + b.toNat) 0

/-- The bytes behind the next one that is zero. -/
def skipText (bytes : List UInt8) : Option (List UInt8) :=
  match bytes.dropWhile (· ≠ 0) with
  | [] => none
  | _ :: rest => some rest

/-- The bytes behind so many others. -/
def skipBytes (n : Nat) (bytes : List UInt8) : Option (List UInt8) :=
  if bytes.length < n then none else some (bytes.drop n)

/-- The bytes behind the head of a member: after ten bytes, as the fourth of these says, a field
with its size, two texts and a sum of the head itself. -/
def skipHead (bytes : List UInt8) : Option (List UInt8) :=
  match bytes with
  | 0x1F :: 0x8B :: 8 :: flags :: rest => do
    let has := flags.toNat.testBit
    if flags ≥ 0x20 then none
    else
      let rest ← skipBytes 6 rest
      let rest ← if has 2 then
          (skipBytes 2 rest).bind (skipBytes (littleEndian (rest.take 2)))
        else some rest
      let rest ← if has 3 then skipText rest else some rest
      let rest ← if has 4 then skipText rest else some rest
      if has 1 then
        let left ← skipBytes 2 rest
        let head := bytes.take (bytes.length - rest.length)
        if checksum head % 0x10000 = littleEndian (rest.take 2) then some left else none
      else some rest
  | _ => none

/-- The unpacked bytes of the first member, and the bytes behind it. -/
def takeMember (bytes : List UInt8) : Option (List UInt8 × List UInt8) := do
  let packed ← skipHead bytes
  let bits := bitsOf packed
  let (done, bits) ← takeBlocks (bits.length + 1) [] bits
  let unpacked := done.reverse
  let rest := packed.drop (packed.length - bits.length / 8)
  let left ← skipBytes 8 rest
  if checksum unpacked = littleEndian (rest.take 4) ∧
      unpacked.length % Nat.pow 2 32 = littleEndian ((rest.drop 4).take 4) then
    some (unpacked, left)
  else none

/-- The unpacked bytes of members, so many at most; there is at least one. -/
def takeMembers : Nat → List UInt8 → Option (List UInt8)
  | 0, _ => none
  | members + 1, bytes => do
    let (first, rest) ← takeMember bytes
    if rest = [] then some first else (takeMembers members rest).map (first ++ ·)

/-- The bytes that were packed, if these are such. -/
def unpack? (bytes : List UInt8) : Option (List UInt8) :=
  takeMembers (bytes.length + 1) bytes

end Courier.Http.Gzip
