import Courier.Decimal.Binary
import Courier.Fields

/-!
# JSON values

A number is an integer or a binary fraction, and the two never compare as equal. The fields of an
object stand in ascending order of their names, each name once.
-/

namespace Courier

open Courier.Decimal

/-- A JSON value. -/
inductive Json where
  | null
  | bool (value : Bool)
  | integer (value : Int)
  | real (value : Fraction)
  | string (text : String)
  | array (items : List Json)
  | object (fields : List (String × Json))
  deriving Repr, Inhabited

namespace Json

/-- The least integer that is kept whole. -/
def least : Int := -(Nat.pow 2 63)

/-- The greatest integer that is kept whole. -/
def greatest : Int := Nat.pow 2 64 - 1

/-- The object whose fields are set one after the other: of fields with one name the last counts. -/
def ofFields (fields : List (String × Json)) : Json :=
  .object (Fields.ofList fields)

/-- The member of a value with a name: null unless the value is an object that has it. -/
def member (name : String) : Json → Json
  | .object fields => (Fields.get? name fields).getD .null
  | _ => .null

mutual

/-- Whether two values are equal, numbers as numbers of one kind: the two zeros are. -/
def same : Json → Json → Bool
  | .null, .null => true
  | .bool a, .bool b => a = b
  | .integer a, .integer b => a = b
  | .real a, .real b => a.same b
  | .string a, .string b => a = b
  | .array as, .array bs => sameItems as bs
  | .object as, .object bs => sameFields as bs
  | _, _ => false

/-- Whether two lists of values are equal. -/
def sameItems : List Json → List Json → Bool
  | [], [] => true
  | a :: as, b :: bs => same a b && sameItems as bs
  | _, _ => false

/-- Whether two lists of fields are equal. -/
def sameFields : List (String × Json) → List (String × Json) → Bool
  | [], [] => true
  | (m, a) :: as, (n, b) :: bs => m = n && same a b && sameFields as bs
  | _, _ => false

end

mutual

/-- Whether a value is as values are kept: its integers in range, the names of its fields in order
and each once. -/
def IsProper : Json → Prop
  | .integer i => least ≤ i ∧ i ≤ greatest
  | .array items => AreProper items
  | .object fields => Fields.IsAscending fields ∧ FieldsAreProper fields
  | _ => True

/-- Whether all items are proper. -/
def AreProper : List Json → Prop
  | [] => True
  | item :: rest => IsProper item ∧ AreProper rest

/-- Whether the values of all fields are proper. -/
def FieldsAreProper : List (String × Json) → Prop
  | [] => True
  | (_, value) :: rest => IsProper value ∧ FieldsAreProper rest

end

end Json

end Courier
