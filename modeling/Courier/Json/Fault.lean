import Courier.Decimal.Layout
import Courier.Text.Numeral
import Courier.Text.Utf8

/-!
# Faults in JSON texts

What is wrong with a text, and where: the place is how many bytes were left unread, from which the
line and the column in bytes follow. A message of another's making may name a place in its last
words; the place is then told apart from the message.
-/

namespace Courier.Json

open Courier.Decimal Courier.Text

/-- What is wrong with a text. -/
inductive Flaw where
  | endInList
  | endInObject
  | endInString
  | endInValue
  | expectedColon
  | expectedCommaOrBracket
  | expectedCommaOrBrace
  | expectedWord
  | expectedValue
  | invalidEscape
  | invalidNumber
  | numberOutOfRange
  | controlCharacter
  | keyNotString
  | loneSurrogate
  | trailingComma
  | trailingCharacters
  | endOfHexEscape
  | tooDeep
  deriving Repr, DecidableEq

/-- The wording of a flaw. -/
def Flaw.message : Flaw → String
  | .endInList => "EOF while parsing a list"
  | .endInObject => "EOF while parsing an object"
  | .endInString => "EOF while parsing a string"
  | .endInValue => "EOF while parsing a value"
  | .expectedColon => "expected `:`"
  | .expectedCommaOrBracket => "expected `,` or `]`"
  | .expectedCommaOrBrace => "expected `,` or `\x7d`"
  | .expectedWord => "expected ident"
  | .expectedValue => "expected value"
  | .invalidEscape => "invalid escape"
  | .invalidNumber => "invalid number"
  | .numberOutOfRange => "number out of range"
  | .controlCharacter => "control character (\\u0000-\\u001F) found while parsing a string"
  | .keyNotString => "key must be a string"
  | .loneSurrogate => "lone leading surrogate in hex escape"
  | .trailingComma => "trailing comma"
  | .trailingCharacters => "trailing characters"
  | .endOfHexEscape => "unexpected end of hex escape"
  | .tooDeep => "recursion limit exceeded"

/-- A flaw, and how many bytes behind it were not read. -/
structure Fault where
  flaw : Flaw
  unread : Nat
  deriving Repr, DecidableEq

/-- A message with a place: line zero stands for none. -/
structure Report where
  message : List Char
  line : Nat
  column : Nat
  deriving Repr, DecidableEq

/-- The number of line ends in a byte sequence, and of bytes after the last one. -/
def place (bytes : List UInt8) : Nat × Nat :=
  bytes.foldl (fun (p : Nat × Nat) b => if b = 0x0A then (p.1 + 1, 0) else (p.1, p.2 + 1))
    (0, 0)

/-- The report of a fault in a text. -/
def Fault.report (text : List Char) (fault : Fault) : Report :=
  let bytes := Utf8.encode text
  let (lines, column) := place (bytes.take (bytes.length - fault.unread))
  ⟨fault.flaw.message.toList, lines + 1, column⟩

namespace Report

/-- The words before the line of a place. -/
def lineMark : List Char := " at line ".toList

/-- The words before the column of a place. -/
def columnMark : List Char := " column ".toList

/-- The text of a report. -/
def text (r : Report) : List Char :=
  if r.line = 0 then r.message
  else r.message ++ lineMark ++ naturalText r.line ++ columnMark ++ naturalText r.column

/-- The text before the last occurrence of a mark, and the text after it. -/
def splitLast? (mark : List Char) : List Char → Option (List Char × List Char)
  | [] => none
  | c :: rest =>
    match splitLast? mark rest with
    | some (before, after) => some (c :: before, after)
    | none => if mark.isPrefixOf (c :: rest) then some ([], (c :: rest).drop mark.length) else none

/-- A number of a place: digits, below 2 to the 64. -/
def number? (digits : List Char) : Option Nat :=
  if digits.isEmpty || Nat.pow 2 64 ≤ decimalValue digits then none else some (decimalValue digits)

/-- The place that the words after a line mark name, up to the end of the text. -/
def place? (text : List Char) : Option (Nat × Nat) :=
  let line := text.takeWhile isDigit
  let rest := text.dropWhile isDigit
  if columnMark.isPrefixOf rest then
    let column := rest.drop columnMark.length
    if column.all isDigit then
      match number? line, number? column with
      | some l, some c => some (l, c)
      | _, _ => none
    else none
  else none

/-- The report that a message is, its place told apart if its last words name one. -/
def ofMessage (message : List Char) : Report :=
  match splitLast? lineMark message with
  | none => ⟨message, 0, 0⟩
  | some (before, after) =>
    match place? after with
    | none => ⟨message, 0, 0⟩
    | some (line, column) => ⟨before, line, column⟩

end Report

end Courier.Json
