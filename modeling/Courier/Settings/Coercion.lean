import Courier.Decimal.Layout
import Courier.Settings.Tree
import Courier.Text.Lowercase
import Courier.Text.Numeral
import Courier.Text.Quoted

/-!
# What a setting asks for

A text or a whole number of 64 bits without sign. Values of other kinds are taken for these where
they can be: any scalar has a text, and truth values, numbers and texts of either can count.

The types are those of the fields of `Settings`.
-/

namespace Courier.Settings

open Courier.Decimal Courier.Text

/-- A value that is not what a setting asks for. -/
structure Mismatch where
  found : String
  expected : String
  origin : Option String
  deriving Repr, DecidableEq

/-- The wording of a mismatch under a key. -/
def Mismatch.message (m : Mismatch) (key : String) : String :=
  "invalid type: " ++ m.found ++ ", expected " ++ m.expected ++ " for key `" ++ key ++ "`" ++
    match m.origin with
    | some origin => " in " ++ origin
    | none => ""

/-- The text of a scalar. -/
def Scalar.text? : Scalar → Option String
  | .nothing => none
  | .bool true => some "true"
  | .bool false => some "false"
  | .integer i => some (String.ofList (integerText i))
  | .float x => some (String.ofList (plainText x))
  | .text s => some s

/-- A number rounded to a whole one, and brought into 64 bits. -/
def wordOfFloat : Binary → Nat
  | .nan => 0
  | .infinite negative => if negative then 0 else maxWord
  | .finite x => if x.negative then 0 else min x.roundAway maxWord

/-- The number that a text is: a word for yes or no in any case, or a numeral. -/
def wordOfText? (text : String) : Option Nat :=
  match lowercase text with
  | "true" | "on" | "yes" => some 1
  | "false" | "off" | "no" => some 0
  | _ => boundedNumeral? maxWord text.toList

/-- The number of a scalar, or what was found instead and what was expected. -/
def Scalar.word : Scalar → Except (String × String) Nat
  | .nothing => .error ("unit value", "an integer")
  | .bool b => .ok (if b then 1 else 0)
  | .integer i =>
    if 0 ≤ i then .ok i.toNat
    else .error ("64-bit integer `" ++ String.ofList (integerText i) ++ "`",
      "an unsigned 64 bit or less integer")
  | .float x => .ok (wordOfFloat x)
  | .text s =>
    match wordOfText? s with
    | some n => .ok n
    | none => .error ("string " ++ String.ofList (Quoted.quote s.toList), "an integer")

/-- The text that a tree is. -/
def Tree.text : Tree → Except Mismatch String
  | .scalar origin value =>
    match value.text? with
    | some s => .ok s
    | none => .error ⟨"unit value", "a string", origin⟩
  | .array origin _ => .error ⟨"sequence", "a string", origin⟩
  | .table _ => .error ⟨"map", "a string", none⟩

/-- The text that a tree is, if it is set. -/
def Tree.text? : Tree → Except Mismatch (Option String)
  | .scalar _ .nothing => .ok none
  | tree => tree.text.map some

/-- The number that a tree is. -/
def Tree.word : Tree → Except Mismatch Nat
  | .scalar origin value =>
    match value.word with
    | .ok n => .ok n
    | .error (found, expected) => .error ⟨found, expected, origin⟩
  | .array origin _ => .error ⟨"sequence", "an integer", origin⟩
  | .table _ => .error ⟨"map", "an integer", none⟩

end Courier.Settings
