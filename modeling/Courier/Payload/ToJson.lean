import Courier.Json.Basic
import Courier.Payload.Basic

/-!
# Payloads as JSON values

The value that a payload stands for: the fields of objects are sorted, of repeated keys the last
counts, a number of 32 bits becomes one of 64, and an integer has to fit 64 bits.

What `submit` has of `to_value`.
-/

namespace Courier.Payload

open Courier.Decimal Courier.Json

/-- The same number as one of 64 bits. -/
def widen (x : Fraction) : Binary :=
  let (num, den) := x.ratio
  Format.double.round x.negative num den

/-- The value of a number: null unless it is finite. -/
def realJson : Binary → Json
  | .finite x => .real x
  | _ => .null

/-- The value of an integer, if it fits. -/
def integerJson (i : Int) : Except Report Json :=
  if least ≤ i ∧ i ≤ greatest then .ok (.integer i)
  else .error (problem Flaw.numberOutOfRange.message)

/-- An object with one field. -/
def variantJson (name : String) (value : Json) : Json :=
  .object [(name, value)]

mutual

/-- The value of a payload. -/
def toJson : Payload → Except Report Json
  | .nothing => .ok .null
  | .bool b => .ok (.bool b)
  | .integer i => integerJson i
  | .single (.finite x) => .ok (realJson (widen x))
  | .single _ => .ok .null
  | .double x => .ok (realJson x)
  | .char c => .ok (.string (String.ofList [c]))
  | .string s => .ok (.string s)
  | .bytes bs => .ok (.array (bs.map fun b => .integer b.toNat))
  | .present value => toJson value
  | .wrapped value => toJson value
  | .unitVariant name => .ok (.string name)
  | .newtypeVariant name value => (toJson value).map (variantJson name)
  | .seq items => (itemsToJson items).map .array
  | .tupleVariant name items => (itemsToJson items).map fun vs => variantJson name (.array vs)
  | .map entries => (entriesToJson entries).map ofFields
  | .struct fields => (fieldsToJson fields).map ofFields
  | .structVariant name fields =>
    (fieldsToJson fields).map fun fs => variantJson name (ofFields fs)
  | .failing message => .error (.ofMessage message.toList)

/-- The values of items. -/
def itemsToJson : List Payload → Except Report (List Json)
  | [] => .ok []
  | item :: rest => do
    let first ← toJson item
    return first :: (← itemsToJson rest)

/-- The fields that the entries of a map are. -/
def entriesToJson : List (Payload × Payload) → Except Report (List (String × Json))
  | [] => .ok []
  | (key, value) :: rest => do
    let name ← keyText false key
    let first ← toJson value
    return (String.ofList name, first) :: (← entriesToJson rest)

/-- The values of fields. -/
def fieldsToJson : List (String × Payload) → Except Report (List (String × Json))
  | [] => .ok []
  | (name, value) :: rest => do
    let first ← toJson value
    return (name, first) :: (← fieldsToJson rest)

end

end Courier.Payload
