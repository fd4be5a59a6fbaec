import Courier.Json.Basic
import Courier.Json.Fault
import Courier.Text.Found

/-!
# Reading JSON

A value is read from the front of a text; each reader returns what it found together with the
text behind it, which is shorter. Containers may stand in one another up to a depth.

An integer that fits is kept whole; `-0`, a fraction, an exponent or a greater integer makes a
binary fraction. It is computed from the digits that fit 64 bits by one multiplication with, or
division by, a power of ten, so that it may miss the nearest number by a little.

What `read_payload` has of `from_str`.
-/

namespace Courier.Json

open Courier.Decimal Courier.Text

/-- A reader of values. -/
abbrev Reader (α : Type) := (text : List Char) → Except Fault (Found α text)

/-- A fault so many bytes into a text. -/
def faultAt {α : Type} (flaw : Flaw) (text : List Char) (bytes : Nat) : Except Fault α :=
  .error ⟨flaw, Utf8.size text - bytes⟩

/-- A blank between tokens. -/
def isBlank (c : Char) : Bool :=
  c = ' ' || c = '\n' || c = '\t' || c = '\r'

/-- The text from the next token on. -/
def skipBlanks (text : List Char) : List Char :=
  text.dropWhile isBlank

/-- Skipping makes no text longer. -/
theorem skipBlanks_length_le (text : List Char) : (skipBlanks text).length ≤ text.length :=
  length_dropWhile_le _ _

/-- What stands behind the next token's first character is shorter. -/
theorem length_lt_of_skipBlanks {text rest : List Char} {c : Char}
    (h : skipBlanks text = c :: rest) : rest.length < text.length :=
  Nat.lt_of_lt_of_le (length_lt_cons c rest) (h ▸ skipBlanks_length_le text)

/-! ## Strings -/

/-- Four hexadecimal digits. -/
def readHex : Reader Nat := fun text =>
  match text with
  | a :: b :: c :: d :: rest =>
    if areDigits 16 [a, b, c, d] then
      .ok ((((Found.head (hexValue [a, b, c, d]) d rest).behind c).behind b).behind a)
    else faultAt .invalidEscape (a :: b :: c :: d :: rest) 4
  | _ => if Utf8.size text < 4 then faultAt .endInString [] 0 else faultAt .invalidEscape text 4

/-- The character that two surrogates stand for. -/
def pairSurrogates (high low : Nat) : Char :=
  Char.ofNat ((high - 0xD800) * 0x400 + (low - 0xDC00) + 0x10000)

/-- The second of two surrogates with the escape mark before it; the pair makes a character. -/
def readLowSurrogate (high : Nat) : Reader Char := fun text =>
  match text with
  | [] => faultAt .endInString [] 0
  | ['\\'] => faultAt .endInString [] 0
  | '\\' :: 'u' :: rest =>
    match readHex rest with
    | .error fault => .error fault
    | .ok found =>
      if 0xDC00 ≤ found.value ∧ found.value ≤ 0xDFFF then
        .ok (((found.map (pairSurrogates high)).behind 'u').behind '\\')
      else faultAt .loneSurrogate found.rest 0
  | '\\' :: rest => faultAt .endOfHexEscape rest 1
  | _ => faultAt .endOfHexEscape text 1

/-- The character of a numeric escape, from the digits on. -/
def readNumbered : Reader Char := fun text =>
  match readHex text with
  | .error fault => .error fault
  | .ok found =>
    if 0xDC00 ≤ found.value ∧ found.value ≤ 0xDFFF then faultAt .loneSurrogate found.rest 0
    else if 0xD800 ≤ found.value ∧ found.value ≤ 0xDBFF then
      match readLowSurrogate found.value found.rest with
      | .error fault => .error fault
      | .ok low => .ok (found.andThen low)
    else .ok (found.map Char.ofNat)

/-- The character that an escape stands for, from the letter after the backslash on. -/
def readEscape : Reader Char := fun text =>
  match text with
  | [] => faultAt .endInString [] 0
  | '"' :: rest => .ok (.head '"' _ rest)
  | '\\' :: rest => .ok (.head '\\' _ rest)
  | '/' :: rest => .ok (.head '/' _ rest)
  | 'b' :: rest => .ok (.head '\x08' _ rest)
  | 'f' :: rest => .ok (.head '\x0C' _ rest)
  | 'n' :: rest => .ok (.head '\n' _ rest)
  | 'r' :: rest => .ok (.head '\r' _ rest)
  | 't' :: rest => .ok (.head '\t' _ rest)
  | 'u' :: rest =>
    match readNumbered rest with
    | .error fault => .error fault
    | .ok found => .ok (found.behind 'u')
  | c :: rest => faultAt .invalidEscape (c :: rest) 1

/-- The characters of a string, from behind its opening quote on. -/
def readString (text : List Char) : Except Fault (Found (List Char) text) :=
  match text with
  | [] => faultAt .endInString [] 0
  | c :: rest =>
    if c = '"' then .ok (.head [] c rest)
    else if c = '\\' then
      match readEscape rest with
      | .error fault => .error fault
      | .ok escaped =>
        match readString escaped.rest with
        | .error fault => .error fault
        | .ok found => .ok ((escaped.andThen (found.map (escaped.value :: ·))).behind c)
    else if c.toNat < 0x20 then faultAt .controlCharacter (c :: rest) 1
    else
      match readString rest with
      | .error fault => .error fault
      | .ok found => .ok ((found.map (c :: ·)).behind c)
termination_by text.length
decreasing_by
  · exact escaped.rest_lt_cons c
  · exact length_lt_cons c rest

/-! ## Numbers -/

/-- Digits at the front of a text, appended to a number while it stays within a limit: the number,
how many were taken, and the text behind them. -/
def takeDigits (limit number : Nat) : List Char → Nat × Nat × List Char
  | [] => (number, 0, [])
  | c :: rest =>
    let next := number * 10 + (c.toNat - '0'.toNat)
    if isDigit c ∧ next ≤ limit then
      let (total, count, left) := takeDigits limit next rest
      (total, count + 1, left)
    else (number, 0, c :: rest)

/-- Ten to a power up to 308, as a number of the format. -/
def powerOfTen (n : Nat) : Fraction :=
  match Format.double.round false (Nat.pow 10 n) 1 with
  | .finite x => x
  | _ => ⟨false, 0, 0⟩

/-- A finite result, if it is one. -/
def finite? : Binary → Option Fraction
  | .finite x => some x
  | _ => none

/-- A number times ten to a power, if it is in range: one operation while the power of ten is in
range, and divisions in steps below that. -/
def scaleByTen (x : Fraction) (exponent : Int) : Option Fraction :=
  if exponent.natAbs ≤ 308 then
    finite? (if 0 ≤ exponent then Format.double.mul x (powerOfTen exponent.natAbs)
      else Format.double.div x (powerOfTen exponent.natAbs))
  else if x.significand = 0 then some x
  else if _h : 0 ≤ exponent then none
  else (finite? (Format.double.div x (powerOfTen 308))).bind fun y => scaleByTen y (exponent + 308)
termination_by (-exponent).toNat
decreasing_by omega

/-- The binary fraction of a sign, digits and a power of ten. -/
def fractionOf (negative : Bool) (digits : Nat) (exponent : Int) : Option Fraction :=
  match Format.double.round false digits 1 with
  | .finite x => (scaleByTen x exponent).map fun y => { y with negative }
  | _ => none

/-- The value of a number, unless it is out of range; the text behind it comes with it. -/
def finishFraction (negative : Bool) (digits : Nat) (exponent : Int) (rest : List Char) :
    Except Fault (Json × List Char) :=
  match fractionOf negative digits exponent with
  | some x => .ok (.real x, rest)
  | none => faultAt .numberOutOfRange rest 0

/-- Reads a number from behind the letter of its exponent. -/
def readExponent (negative : Bool) (digits : Nat) (exponent : Int) (text : List Char) :
    Except Fault (Json × List Char) :=
  let (down, text) := match text with
    | '+' :: rest => (false, rest)
    | '-' :: rest => (true, rest)
    | rest => (false, rest)
  match takeDigits (Nat.pow 2 31 - 1) 0 text with
  | (_, 0, []) => faultAt .endInValue [] 0
  | (_, 0, rest) => faultAt .invalidNumber rest 1
  | (shift, _, rest) =>
    if (rest.takeWhile isDigit).isEmpty then
      finishFraction negative digits (if down then exponent - shift else exponent + shift) rest
    else if digits ≠ 0 ∧ down = false then faultAt .numberOutOfRange rest 1
    else .ok (.real ⟨negative, 0, Format.double.lowest⟩, rest.dropWhile isDigit)

/-- Reads a number from behind its point. -/
def readFraction (negative : Bool) (digits : Nat) (exponent : Int) (text : List Char) :
    Except Fault (Json × List Char) :=
  let (digits, count, rest) := takeDigits (Nat.pow 2 64 - 1) digits text
  match count, rest.takeWhile isDigit, rest with
  | 0, [], [] => faultAt .endInValue [] 0
  | 0, [], rest => faultAt .invalidNumber rest 1
  | _, _, _ =>
    match rest.dropWhile isDigit with
    | 'e' :: left | 'E' :: left => readExponent negative digits (exponent - count) left
    | left => finishFraction negative digits (exponent - count) left

/-- The value of a whole number that fits: negative zero and what is below the least integer are
binary fractions. -/
def wholeNumber (negative : Bool) (digits : Nat) : Json :=
  if negative = false then .integer digits
  else if digits = 0 ∨ -(digits : Int) < least then
    match fractionOf true digits 0 with
    | some x => .real x
    | none => .null
  else .integer (-(digits : Int))

/-- Reads a number from its first digit on. -/
def readNumber (negative : Bool) (text : List Char) : Except Fault (Json × List Char) :=
  match text with
  | [] => faultAt .endInValue [] 0
  | '0' :: d :: rest =>
    if isDigit d then faultAt .invalidNumber (d :: rest) 1 else readWhole (('0' :: d :: rest))
  | c :: rest => if isDigit c then readWhole (c :: rest) else faultAt .invalidNumber (c :: rest) 1
where
  readWhole (text : List Char) : Except Fault (Json × List Char) :=
    let (digits, _, rest) := takeDigits (Nat.pow 2 64 - 1) 0 text
    let exponent := (rest.takeWhile isDigit).length
    match rest.dropWhile isDigit with
    | '.' :: left => readFraction negative digits exponent left
    | 'e' :: left | 'E' :: left => readExponent negative digits exponent left
    | left =>
      if exponent = 0 then .ok (wholeNumber negative digits, left)
      else finishFraction negative digits exponent left

/-- What was read, if the text behind it is shorter. -/
def checked {text : List Char} (result : Except Fault (Json × List Char)) :
    Except Fault (Found Json text) :=
  match result with
  | .error fault => .error fault
  | .ok (value, rest) =>
    if h : rest.length < text.length then .ok ⟨value, rest, h⟩ else faultAt .invalidNumber rest 0

/-! ## Values -/

/-- Reads the letters of a word. -/
def readWord (value : Json) : List Char → List Char → Except Fault (Json × List Char)
  | [], text => .ok (value, text)
  | _ :: _, [] => faultAt .endInValue [] 0
  | letter :: letters, c :: rest =>
    if c = letter then readWord value letters rest else faultAt .expectedWord (c :: rest) 1

/-- The items of an array behind the first one, and its closing bracket. -/
def readItems (item : Reader Json) (text : List Char) : Except Fault (Found (List Json) text) :=
  match h : skipBlanks text with
  | [] => faultAt .endInList [] 0
  | c :: rest =>
    have hrest := length_lt_of_skipBlanks h
    if c = ']' then .ok ⟨[], rest, hrest⟩
    else if c = ',' then
      match skipBlanks rest with
      | [] => faultAt .endInValue [] 0
      | ']' :: left => faultAt .trailingComma (']' :: left) 1
      | _ =>
        match item rest with
        | .error fault => .error fault
        | .ok first =>
          match readItems item first.rest with
          | .error fault => .error fault
          | .ok found =>
            .ok ((first.andThen (found.map (first.value :: ·))).within (Nat.le_of_lt hrest))
    else faultAt .expectedCommaOrBracket (c :: rest) 1
termination_by text.length
decreasing_by exact first.rest_lt_of_le (Nat.le_of_lt hrest)

/-- The items of an array, from behind its opening bracket on. -/
def readArray (item : Reader Json) : Reader (List Json) := fun text =>
  match h : skipBlanks text with
  | [] => faultAt .endInList [] 0
  | c :: rest =>
    if c = ']' then .ok ⟨[], rest, length_lt_of_skipBlanks h⟩
    else
      match item text with
      | .error fault => .error fault
      | .ok first =>
        match readItems item first.rest with
        | .error fault => .error fault
        | .ok found => .ok (first.andThen (found.map (first.value :: ·)))

/-- A field, from behind the opening quote of its name on. -/
def readField (item : Reader Json) : Reader (String × Json) := fun text =>
  match readString text with
  | .error fault => .error fault
  | .ok name =>
    match h : skipBlanks name.rest with
    | [] => faultAt .endInObject [] 0
    | c :: rest =>
      if c = ':' then
        match item rest with
        | .error fault => .error fault
        | .ok found =>
          .ok (name.andThen ((found.map (String.ofList name.value, ·)).within
            (Nat.le_of_lt (length_lt_of_skipBlanks h))))
      else faultAt .expectedColon (c :: rest) 1

/-- The fields of an object behind the first one, and its closing brace. -/
def readFields (item : Reader Json) (text : List Char) :
    Except Fault (Found (List (String × Json)) text) :=
  match h : skipBlanks text with
  | [] => faultAt .endInObject [] 0
  | c :: rest =>
    have hrest := length_lt_of_skipBlanks h
    if c = '}' then .ok ⟨[], rest, hrest⟩
    else if c = ',' then
      match hq : skipBlanks rest with
      | [] => faultAt .endInValue [] 0
      | d :: left =>
        have hleft := Nat.lt_trans (length_lt_of_skipBlanks hq) hrest
        if d = '"' then
          match readField item left with
          | .error fault => .error fault
          | .ok first =>
            match readFields item first.rest with
            | .error fault => .error fault
            | .ok found =>
              .ok ((first.andThen (found.map (first.value :: ·))).within (Nat.le_of_lt hleft))
        else faultAt (if d = '}' then .trailingComma else .keyNotString) (d :: left) 1
    else faultAt .expectedCommaOrBrace (c :: rest) 1
termination_by text.length
decreasing_by exact first.rest_lt_of_le (Nat.le_of_lt hleft)

/-- The fields of an object, from behind its opening brace on. -/
def readObject (item : Reader Json) : Reader (List (String × Json)) := fun text =>
  match h : skipBlanks text with
  | [] => faultAt .endInObject [] 0
  | c :: rest =>
    have hrest := length_lt_of_skipBlanks h
    if c = '}' then .ok ⟨[], rest, hrest⟩
    else if c = '"' then
      match readField item rest with
      | .error fault => .error fault
      | .ok first =>
        match readFields item first.rest with
        | .error fault => .error fault
        | .ok found =>
          .ok ((first.andThen (found.map (first.value :: ·))).within (Nat.le_of_lt hrest))
    else faultAt .keyNotString (c :: rest) 1

/-- Reads a value in which containers stand in one another up to a depth. -/
def readValue (depth : Nat) : Reader Json := fun text =>
  match h : skipBlanks text with
  | [] => faultAt .endInValue [] 0
  | c :: rest =>
    have hrest := Nat.le_of_lt (length_lt_of_skipBlanks h)
    if c = 'n' then checked (readWord .null ['u', 'l', 'l'] rest)
    else if c = 't' then checked (readWord (.bool true) ['r', 'u', 'e'] rest)
    else if c = 'f' then checked (readWord (.bool false) ['a', 'l', 's', 'e'] rest)
    else if c = '-' then checked (readNumber true rest)
    else if isDigit c then checked (readNumber false (c :: rest))
    else if c = '"' then
      match readString rest with
      | .error fault => .error fault
      | .ok found => .ok ((found.map fun s => .string (String.ofList s)).within hrest)
    else if c = '[' then
      match depth with
      | 0 => faultAt .tooDeep (c :: rest) 1
      | depth + 1 =>
        match readArray (readValue depth) rest with
        | .error fault => .error fault
        | .ok found => .ok ((found.map .array).within hrest)
    else if c = '{' then
      match depth with
      | 0 => faultAt .tooDeep (c :: rest) 1
      | depth + 1 =>
        match readObject (readValue depth) rest with
        | .error fault => .error fault
        | .ok found => .ok ((found.map ofFields).within hrest)
    else faultAt .expectedValue (c :: rest) 1

/-- How deep containers may stand in one another. -/
def maxDepth : Nat := 127

/-- The value that a text is. -/
def parse (text : List Char) : Except Fault Json :=
  match readValue maxDepth text with
  | .error fault => .error fault
  | .ok found =>
    match skipBlanks found.rest with
    | [] => .ok found.value
    | left => faultAt .trailingCharacters left 1

end Courier.Json
