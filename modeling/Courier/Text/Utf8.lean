/-!
# UTF-8

Bytes to characters and back. `decode` cuts a byte sequence into characters and ill-formed pieces,
each piece as long as it could still have become a character; reading strictly, reading with
replacement and showing bytes are three views of that one list.
-/

namespace Courier.Text.Utf8

/-- The bytes of one character. -/
def encodeChar (c : Char) : List UInt8 :=
  let n := c.toNat
  if n < 0x80 then [n.toUInt8]
  else if n < 0x800 then [(0xC0 + n / 0x40).toUInt8, (0x80 + n % 0x40).toUInt8]
  else if n < 0x10000 then
    [(0xE0 + n / 0x1000).toUInt8, (0x80 + n / 0x40 % 0x40).toUInt8, (0x80 + n % 0x40).toUInt8]
  else
    [(0xF0 + n / 0x40000).toUInt8, (0x80 + n / 0x1000 % 0x40).toUInt8,
      (0x80 + n / 0x40 % 0x40).toUInt8, (0x80 + n % 0x40).toUInt8]

/-- The bytes of a text. -/
def encode (text : List Char) : List UInt8 :=
  text.flatMap encodeChar

/-- What a byte sequence is made of. -/
inductive Piece where
  | char (c : Char)
  /-- Bytes that begin no character, or begin one that is not finished. -/
  | illFormed (bytes : List UInt8)
  deriving Repr, DecidableEq

/-- A character that has begun: the bits so far, the bounds of the next byte, how many bytes must
follow that one, and the bytes seen, last first. -/
structure Begun where
  bits : Nat
  low : Nat
  high : Nat
  after : Nat
  seen : List UInt8
  deriving Repr

/-- What a byte does where a character may begin. -/
def begin? (b : UInt8) : Piece ⊕ Begun :=
  let n := b.toNat
  if n < 0x80 then .inl (.char (Char.ofNat n))
  else if n < 0xC2 then .inl (.illFormed [b])
  else if n < 0xE0 then .inr ⟨n - 0xC0, 0x80, 0xBF, 0, [b]⟩
  else if n = 0xE0 then .inr ⟨0, 0xA0, 0xBF, 1, [b]⟩
  else if n = 0xED then .inr ⟨0xD, 0x80, 0x9F, 1, [b]⟩
  else if n < 0xF0 then .inr ⟨n - 0xE0, 0x80, 0xBF, 1, [b]⟩
  else if n = 0xF0 then .inr ⟨0, 0x90, 0xBF, 2, [b]⟩
  else if n < 0xF4 then .inr ⟨n - 0xF0, 0x80, 0xBF, 2, [b]⟩
  else if n = 0xF4 then .inr ⟨4, 0x80, 0x8F, 2, [b]⟩
  else .inl (.illFormed [b])

/-- The pieces of a byte sequence that continues a character, if one has begun. -/
def decodeFrom : Option Begun → List UInt8 → List Piece
  | none, [] => []
  | some begun, [] => [.illFormed begun.seen.reverse]
  | none, b :: rest =>
    match begin? b with
    | .inl piece => piece :: decodeFrom none rest
    | .inr begun => decodeFrom (some begun) rest
  | some begun, b :: rest =>
    if begun.low ≤ b.toNat ∧ b.toNat ≤ begun.high then
      let bits := begun.bits * 0x40 + (b.toNat - 0x80)
      match begun.after with
      | 0 => .char (Char.ofNat bits) :: decodeFrom none rest
      | after + 1 => decodeFrom (some ⟨bits, 0x80, 0xBF, after, b :: begun.seen⟩) rest
    else
      .illFormed begun.seen.reverse ::
        match begin? b with
        | .inl piece => piece :: decodeFrom none rest
        | .inr begun => decodeFrom (some begun) rest

/-- The characters and ill-formed pieces of a byte sequence, in order. -/
def decode (bytes : List UInt8) : List Piece :=
  decodeFrom none bytes

/-- The characters of a list of pieces, if all of them are characters. -/
def characters? : List Piece → Option (List Char)
  | [] => some []
  | .char c :: rest => (characters? rest).map (c :: ·)
  | .illFormed _ :: _ => none

/-- The text of a byte sequence, if it is well formed throughout. -/
def decode? (bytes : List UInt8) : Option (List Char) :=
  characters? (decode bytes)

/-- The text of a byte sequence with the replacement character for each ill-formed piece. -/
def decodeLossy (bytes : List UInt8) : List Char :=
  (decode bytes).map fun
    | .char c => c
    | .illFormed _ => '\uFFFD'

/-- The number of bytes of a text. -/
def size (text : List Char) : Nat :=
  (encode text).length

end Courier.Text.Utf8
