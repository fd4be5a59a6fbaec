import Courier.Fields

/-!
# TOML values

A number is kept as the numeral it is written as; what it amounts to is decided by whoever uses
it. A date or a time is kept as its text in normal form.
-/

namespace Courier.Toml

/-- A TOML value. -/
inductive Value where
  | string (text : String)
  | bool (value : Bool)
  /-- A sign and digits in a base. -/
  | integer (base : Nat) (numeral : List Char)
  | float (numeral : List Char)
  | moment (text : String)
  | array (items : List Value)
  | table (fields : List (String × Value))
  deriving Repr, Inhabited

end Courier.Toml
