import Courier.Decimal.Read
import Courier.Settings.Tree
import Courier.Text.Numeral
import Courier.Toml.Basic

/-!
# Settings out of a document

The values of a document as a tree of settings. A numeral has to be in range: an integer within 64
bits with its sign, a fraction below infinity unless it says so.
-/

namespace Courier.Settings

open Courier.Decimal Courier.Text

/-- What is wrong with a numeral. -/
inductive NumeralFault where
  | empty
  | invalidDigit
  | tooLarge
  | tooSmall
  | overflowed
  deriving Repr, DecidableEq

/-- The wording of a fault. -/
def NumeralFault.message : NumeralFault → String
  | .empty => "cannot parse integer from empty string"
  | .invalidDigit => "invalid digit found in string"
  | .tooLarge => "number too large to fit in target type"
  | .tooSmall => "number too small to fit in target type"
  | .overflowed => "floating-point number overflowed"

/-- The magnitude of an integer digit by digit, at most `limit`. -/
def magnitude (base limit : Nat) (beyond : NumeralFault) :
    Nat → List Char → Except NumeralFault Nat
  | n, [] => .ok n
  | n, c :: rest =>
    match (hexDigit? c).filter (· < base) with
    | none => .error .invalidDigit
    | some d =>
      let next := base * n + d
      if next ≤ limit then magnitude base limit beyond next rest else .error beyond

/-- The integer of a numeral. -/
def integerOf (base : Nat) (numeral : List Char) : Except NumeralFault Int :=
  let (negative, digits) := takeSign numeral
  if digits.isEmpty then .error .empty
  else if negative then
    (magnitude base (Nat.pow 2 63) .tooSmall 0 digits).map fun n => -(n : Int)
  else (magnitude base (Nat.pow 2 63 - 1) .tooLarge 0 digits).map fun n => (n : Int)

/-- The number of a fraction or of a word for infinity or no number. -/
def floatOf (numeral : List Char) : Except NumeralFault Binary :=
  match Format.double.read? numeral with
  | none => .error .invalidDigit
  | some (.infinite negative) =>
    if numeral.any (· = 'i') then .ok (.infinite negative) else .error .overflowed
  | some x => .ok x

mutual

/-- The tree of a value that comes from an origin. -/
def ofToml (origin : String) : Toml.Value → Except NumeralFault Tree
  | .string s => .ok (.scalar (some origin) (.text s))
  | .bool b => .ok (.scalar (some origin) (.bool b))
  | .integer base numeral =>
    (integerOf base numeral).map fun i => .scalar (some origin) (.integer i)
  | .float numeral => (floatOf numeral).map fun x => .scalar (some origin) (.float x)
  | .moment s => .ok (.scalar (some origin) (.text s))
  | .array items => (itemsOfToml origin items).map fun ts => .array (some origin) ts
  | .table fields => (fieldsOfToml origin fields).map .table

/-- The trees of items. -/
def itemsOfToml (origin : String) : List Toml.Value → Except NumeralFault (List Tree)
  | [] => .ok []
  | item :: rest => do
    let first ← ofToml origin item
    return first :: (← itemsOfToml origin rest)

/-- The trees of fields. -/
def fieldsOfToml (origin : String) :
    List (String × Toml.Value) → Except NumeralFault (List (String × Tree))
  | [] => .ok []
  | (name, value) :: rest => do
    let first ← ofToml origin value
    return (name, first) :: (← fieldsOfToml origin rest)

end

end Courier.Settings
