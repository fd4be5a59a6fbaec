import Courier.Json.Printer
import Courier.Payload.Basic

/-!
# Writing payloads directly

The compact text of a payload in the order it has: keys may repeat, integers are whole whatever
their size, and a number of 32 bits has the numeral of one. A variant is an object with one field,
its name. Writing fails at the first value, a key before what it leads to, that cannot be written.

What `try_send` has of `to_string`.
-/

namespace Courier.Payload

open Courier.Decimal Courier.Json

/-- The text of a number of a binary format: null unless it is finite. -/
def realText (f : Format) (w : Window) : Binary → List Char
  | .finite x => f.text w x
  | _ => ['n', 'u', 'l', 'l']

/-- An array token of texts. -/
def arrayText (items : List (List Char)) : List Char :=
  '[' :: commaText items ++ [']']

/-- A field: its name as a string, and the text of its value. -/
def fieldText (name value : List Char) : List Char :=
  stringText name ++ ':' :: value

/-- An object token of the texts of its fields. -/
def objectText (fields : List (List Char)) : List Char :=
  '{' :: commaText fields ++ ['}']

/-- An object with one field. -/
def variantText (name : String) (value : List Char) : List Char :=
  objectText [fieldText name.toList value]

mutual

/-- The text of a payload. -/
def text : Payload → Except Report (List Char)
  | .nothing => .ok ['n', 'u', 'l', 'l']
  | .bool true => .ok ['t', 'r', 'u', 'e']
  | .bool false => .ok ['f', 'a', 'l', 's', 'e']
  | .integer i => .ok (integerText i)
  | .single x => .ok (realText .single singleWindow x)
  | .double x => .ok (realText .double doubleWindow x)
  | .char c => .ok (stringText [c])
  | .string s => .ok (stringText s.toList)
  | .bytes bs => .ok (arrayText (bs.map fun b => naturalText b.toNat))
  | .present value => text value
  | .wrapped value => text value
  | .unitVariant name => .ok (stringText name.toList)
  | .newtypeVariant name value => (text value).map (variantText name)
  | .seq items => (itemTexts items).map arrayText
  | .tupleVariant name items => (itemTexts items).map fun ts => variantText name (arrayText ts)
  | .map entries => (entryTexts entries).map objectText
  | .struct fields => (fieldTexts fields).map objectText
  | .structVariant name fields =>
    (fieldTexts fields).map fun ts => variantText name (objectText ts)
  | .failing message => .error (.ofMessage message.toList)

/-- The texts of items. -/
def itemTexts : List Payload → Except Report (List (List Char))
  | [] => .ok []
  | item :: rest => do
    let first ← text item
    return first :: (← itemTexts rest)

/-- The texts of the entries of a map. -/
def entryTexts : List (Payload × Payload) → Except Report (List (List Char))
  | [] => .ok []
  | (key, value) :: rest => do
    let name ← keyText true key
    let first ← text value
    return fieldText name first :: (← entryTexts rest)

/-- The texts of fields. -/
def fieldTexts : List (String × Payload) → Except Report (List (List Char))
  | [] => .ok []
  | (name, value) :: rest => do
    let first ← text value
    return fieldText name.toList first :: (← fieldTexts rest)

end

end Courier.Payload
