import Courier.Decimal.Layout
import Courier.Json.Basic

/-!
# Writing JSON

The compact text of a value: nothing between its tokens, and in its strings a backslash before
quotes and backslashes and instead of the controls, and every other character as it is.

What `submit` has of `to_string`, for the value that the hook has left.
-/

namespace Courier.Json

open Courier.Decimal

/-- The two lower hexadecimal digits of a number below 256. -/
def lowDigits (n : Nat) : List Char :=
  [Nat.digitChar (n / 16), Nat.digitChar (n % 16)]

/-- How a character stands in a string. -/
def escape (c : Char) : List Char :=
  if c = '"' then ['\\', '"']
  else if c = '\\' then ['\\', '\\']
  else if c.toNat < 0x20 then
    if c = '\x08' then ['\\', 'b']
    else if c = '\x0C' then ['\\', 'f']
    else if c = '\n' then ['\\', 'n']
    else if c = '\r' then ['\\', 'r']
    else if c = '\t' then ['\\', 't']
    else ['\\', 'u', '0', '0'] ++ lowDigits c.toNat
  else [c]

/-- A string token. -/
def stringText (text : List Char) : List Char :=
  '"' :: text.flatMap escape ++ ['"']

/-- A number token: of the numerals that read back as the number the shortest. -/
def realText (x : Fraction) : List Char :=
  Format.double.text doubleWindow x

/-- Texts with a comma between neighbours. -/
def commaText : List (List Char) → List Char
  | [] => []
  | [text] => text
  | text :: rest => text ++ ',' :: commaText rest

mutual

/-- The text of a value. -/
def text : Json → List Char
  | .null => ['n', 'u', 'l', 'l']
  | .bool true => ['t', 'r', 'u', 'e']
  | .bool false => ['f', 'a', 'l', 's', 'e']
  | .integer i => integerText i
  | .real x => realText x
  | .string s => stringText s.toList
  | .array items => '[' :: commaText (itemTexts items) ++ [']']
  | .object fields => '{' :: commaText (fieldTexts fields) ++ ['}']

/-- The texts of the items of an array. -/
def itemTexts : List Json → List (List Char)
  | [] => []
  | item :: rest => text item :: itemTexts rest

/-- The texts of the fields of an object. -/
def fieldTexts : List (String × Json) → List (List Char)
  | [] => []
  | (name, value) :: rest => (stringText name.toList ++ ':' :: text value) :: fieldTexts rest

end

end Courier.Json
