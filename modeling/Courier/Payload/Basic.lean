import Courier.Decimal.Layout
import Courier.Json.Fault

/-!
# Payloads

A payload is a value as a program holds it: richer than JSON in its kinds, ordered, possibly with
repeated keys, and possibly not fit to be written at all. The name of a field is a text; the key
of a map is any payload, of which some have a text.
-/

namespace Courier

open Courier.Decimal

/-- A value to be written as JSON. -/
inductive Payload where
  /-- Nothing: an absent option, a unit. -/
  | nothing
  | bool (value : Bool)
  /-- An integer of at most 128 bits. -/
  | integer (value : Int)
  | single (value : Binary)
  | double (value : Binary)
  | char (value : Char)
  | string (text : String)
  | bytes (bytes : List UInt8)
  /-- An option that is there. -/
  | present (value : Payload)
  /-- A value under a name that is not written. -/
  | wrapped (value : Payload)
  | unitVariant (name : String)
  | newtypeVariant (name : String) (value : Payload)
  | seq (items : List Payload)
  | tupleVariant (name : String) (items : List Payload)
  | map (entries : List (Payload × Payload))
  | struct (fields : List (String × Payload))
  | structVariant (name : String) (fields : List (String × Payload))
  /-- A value that refuses to be written. -/
  | failing (message : String)
  deriving Repr, Inhabited

namespace Payload

/-- A report without a place. -/
def problem (message : String) : Json.Report :=
  ⟨message.toList, 0, 0⟩

/-- What is said of a key that has no text. -/
def keyNotString : Json.Report :=
  problem Json.Flaw.keyNotString.message

/-- The text of a finite key. -/
def realKey (f : Format) (w : Window) : Binary → Except Json.Report (List Char)
  | .finite x => .ok (f.text w x)
  | _ => .error (problem "float key must be finite (got NaN or +/-inf)")

/-- The text of the key of a map. Whether an option that is there counts as what is in it is up to
the writer. -/
def keyText (throughOptions : Bool) : Payload → Except Json.Report (List Char)
  | .string text => .ok text.toList
  | .char c => .ok [c]
  | .unitVariant name => .ok name.toList
  | .bool true => .ok ['t', 'r', 'u', 'e']
  | .bool false => .ok ['f', 'a', 'l', 's', 'e']
  | .integer i => .ok (integerText i)
  | .single x => realKey .single singleWindow x
  | .double x => realKey .double doubleWindow x
  | .wrapped value => keyText throughOptions value
  | .present value => if throughOptions then keyText throughOptions value else .error keyNotString
  | .failing message => .error (.ofMessage message.toList)
  | _ => .error keyNotString

end Payload

end Courier
