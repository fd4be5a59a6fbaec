import Courier.Http.Gzip
import Courier.Text.Numeral
import Courier.Text.Utf8

/-!
# Responses

A response is read from the bytes that come over a connection: a line with the status, headers up
to an empty line, and a body whose end is told by its chunks, by its length, or by the end of the
connection. The body is read only when it is wanted, and may then turn out to be unreadable.

`content?` and `text` are `read_to_string` on the reply of `deliver`, and what it puts in its place
where that fails.
-/

namespace Courier.Http

open Courier.Text

/-- The bytes of a text. -/
abbrev Bytes := List UInt8

/-- Why bytes are no response. -/
inductive WireFault where
  /-- The connection ended too early. -/
  | ended
  /-- The head is longer than what is read of one. -/
  | headTooLarge (size : Nat)
  | version
  | status
  | headerName
  | headerValue
  | lineEnd
  | length
  deriving Repr, DecidableEq

/-- A response, its body as the bytes that follow the head. -/
structure Response where
  status : Nat
  /-- Names in lower case with their values, in the order received. -/
  headers : List (List Char × List Char)
  rest : Bytes
  deriving Repr, DecidableEq

/-- The bytes of a text of ASCII. -/
def ascii (text : String) : Bytes :=
  Utf8.encode text.toList

/-- A byte as the character with its number. -/
def byteChar (b : UInt8) : Char :=
  Char.ofNat b.toNat

/-- The line at the front of some bytes without its end, and the bytes behind it. A carriage
return has to stand before a line feed. -/
def takeLine : Bytes → Except WireFault (Bytes × Bytes)
  | [] => .error .ended
  | b :: rest =>
    if b = 0x0A then .ok ([], rest)
    else if b = 0x0D then
      match rest with
      | 0x0A :: left => .ok ([], left)
      | [] => .error .ended
      | _ => .error .lineEnd
    else (takeLine rest).map fun (line, left) => (b :: line, left)

/-- Whether a byte may stand in the name of a header. -/
def isNameByte (b : UInt8) : Bool :=
  let c := byteChar b
  isDigit c || ('a' ≤ c && c ≤ 'z') || ('A' ≤ c && c ≤ 'Z') ||
    "!#$%&*+-.^_|~'".toList.contains c || b = 0x60

/-- Whether a byte may stand in a value: no control but the tab. -/
def isValueByte (b : UInt8) : Bool :=
  b = 0x09 || (0x20 ≤ b && b ≠ 0x7F)

/-- The status that a line tells. -/
def statusOf (line : Bytes) : Except WireFault Nat :=
  let version := line.take 9
  if version ≠ ascii "HTTP/1.1 " ∧ version ≠ ascii "HTTP/1.0 " then .error .version
  else
    let digits := ((line.drop 9).take 3).map byteChar
    let tail := line.drop 12
    if digits.length = 3 ∧ digits.all isDigit ∧
        (tail = [] ∨ (tail.head? = some 0x20 ∧ tail.all isValueByte)) then
      .ok (decimalValue digits)
    else .error .status

/-- The header that a line is. -/
def headerOf (line : Bytes) : Except WireFault (List Char × List Char) :=
  let name := line.takeWhile isNameByte
  match line.dropWhile isNameByte with
  | 0x3A :: value =>
    if name = [] then .error .headerName
    else if value.all isValueByte = false then .error .headerValue
    else
      let isBlank := fun c : Char => c = ' ' || c = '\t'
      let text := (Utf8.decodeLossy value).dropWhile isBlank
      .ok (name.map fun b => (byteChar b).toLower, (text.reverse.dropWhile isBlank).reverse)
  | _ => .error .headerName

/-- The headers up to an empty line, and the bytes behind it, reading so many lines at most. -/
def takeHeaders : Nat → Bytes → Except WireFault (List (List Char × List Char) × Bytes)
  | 0, _ => .error .ended
  | lines + 1, bytes => do
    let (line, rest) ← takeLine bytes
    if line = [] then .ok ([], rest)
    else
      let header ← headerOf line
      let (headers, left) ← takeHeaders lines rest
      return (header :: headers, left)

/-- The bytes without empty lines at their front. -/
def skipEmptyLines : Bytes → Bytes
  | 0x0D :: 0x0A :: rest => skipEmptyLines rest
  | 0x0A :: rest => skipEmptyLines rest
  | bytes => bytes

namespace Response

/-- The value of a header: the first of those with its name. -/
def header? (r : Response) (name : String) : Option (List Char) :=
  (r.headers.find? fun h => h.1 = name.toList).map (·.2)

/-- The length that a header tells of the body, a number of 64 bits. One that is no text of ASCII is
passed over. -/
def length? (r : Response) : Except WireFault (Option Nat) :=
  match r.header? "content-length" with
  | none => .ok none
  | some text =>
    if text.any (0x80 ≤ ·.toNat) then .ok none
    else
      match boundedNumeral? maxWord text with
      | some n => .ok (some n)
      | none => .error .length

/-- Status and headers, and as the rest what stands behind them. -/
def readHead (bytes : Bytes) : Except WireFault Response := do
  let (line, rest) ← takeLine (skipEmptyLines bytes)
  let status ← statusOf line
  let (headers, body) ← takeHeaders (rest.length + 1) rest
  return ⟨status, headers, body⟩

/-- The longest head that is read. -/
def maxHead : Nat := 64 * 1024

/-- Reads a response up to its body. -/
def read (bytes : Bytes) : Except WireFault Response :=
  match readHead bytes with
  | .error .ended =>
    if maxHead < bytes.length then .error (.headTooLarge bytes.length) else .error .ended
  | .error fault => .error fault
  | .ok r =>
    let size := bytes.length - r.rest.length
    match r.length? with
    | .error fault => .error fault
    | .ok _ => if maxHead < size then .error (.headTooLarge size) else .ok r

/-- The size that a line of digits gives a chunk; what follows a semicolon does not count. -/
def chunkSize? (line : Bytes) : Option Nat :=
  let digits := (line.map byteChar).takeWhile fun c => c ≠ ';' && c ≠ ' '
  if digits.isEmpty || !areDigits 16 digits then none else some (hexValue digits)

/-- The payload of a chunked body, reading so many chunks at most. -/
def unchunk? : Nat → Bytes → Option Bytes
  | 0, _ => none
  | chunks + 1, bytes =>
    match takeLine bytes with
    | .error _ => none
    | .ok (line, rest) =>
      match chunkSize? line with
      | none => none
      | some 0 => some []
      | some size =>
        match rest.drop size with
        | 0x0D :: 0x0A :: left =>
          if rest.length < size then none else (unchunk? chunks left).map (rest.take size ++ ·)
        | _ => none

/-- The payload of the body, if it is whole: chunks, so many bytes, or all there is. -/
def payload? (r : Response) : Option Bytes :=
  if r.status = 204 ∨ r.status = 304 then some []
  else if (r.header? "transfer-encoding").any (·.map Char.toLower = "chunked".toList) then
    unchunk? (r.rest.length + 1) r.rest
  else
    match r.length? with
    | .ok (some size) => if r.rest.length < size then none else some (r.rest.take size)
    | .ok none => some r.rest
    | .error _ => none

/-- The largest body that is read. -/
def maxBody : Nat := 10 * 1024 * 1024

/-- The bytes of the body, unpacked if they are packed: none if they are not whole, too many, or
cannot be unpacked. -/
def content? (r : Response) : Option Bytes :=
  match r.payload? with
  | none => none
  | some bytes =>
    if maxBody < bytes.length then none
    else if r.header? "content-encoding" = some "gzip".toList then Gzip.unpack? bytes
    else some bytes

/-- What stands for the text of a body that cannot be read. -/
def unreadable : String := "<unreadable body>"

/-- The text of the body; an ill-formed piece of it becomes a question mark. -/
def text (r : Response) : List Char :=
  match r.content? with
  | none => unreadable.toList
  | some bytes =>
    (Utf8.decode bytes).map fun
      | .char c => c
      | .illFormed _ => '?'

/-- Whether only the end of the connection ends the body. -/
def isOpenEnded (r : Response) : Bool :=
  r.status ≠ 204 && r.status ≠ 304 && (r.header? "transfer-encoding").isNone &&
    match r.length? with
    | .ok length => length.isNone
    | .error _ => false

/-- Whether nothing more has to come of a response than these bytes. -/
def isWhole (bytes : Bytes) : Bool :=
  match read bytes with
  | .error fault => fault ≠ .ended
  | .ok r => !r.isOpenEnded && r.payload?.isSome

/-- Whether the response sends the client elsewhere. -/
def isRedirect (r : Response) : Bool :=
  300 ≤ r.status && r.status < 400 && r.status ≠ 304

/-- Whether the client would have to repeat the request as it is. -/
def keepsMethod (r : Response) : Bool :=
  r.status = 307 || r.status = 308

end Response

end Courier.Http
