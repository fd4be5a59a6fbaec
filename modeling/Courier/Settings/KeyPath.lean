import Courier.Settings.Tree
import Courier.Text.Found
import Courier.Text.Numeral

/-!
# Keys that are paths

A key such as `servers[0].name` names a place inside a tree: a name, then names behind points and
indices in brackets. A key that is not of this form is a plain name.
-/

namespace Courier.Settings.KeyPath

open Courier.Text

/-- A character of a name. -/
def isNameChar (c : Char) : Bool :=
  isDigit c || ('a' ≤ c && c ≤ 'z') || ('A' ≤ c && c ≤ 'Z') || c = '_' || c = '-'

/-- A blank within brackets. -/
def isBlank (c : Char) : Bool :=
  c = ' ' || c = '\t'

/-- The index that the text between brackets is: at most 64 bits with its sign. -/
def index? (text : List Char) : Option Int :=
  let core := (((text.dropWhile isBlank).reverse).dropWhile isBlank).reverse
  let (negative, digits) := match core with
    | '-' :: rest => (true, rest)
    | rest => (false, rest)
  if digits.isEmpty || !digits.all isDigit then none
  else
    let n := decimalValue digits
    if negative then (if n ≤ Nat.pow 2 63 then some (-(n : Int)) else none)
    else if n < Nat.pow 2 63 then some n else none

/-- The steps behind the first name. -/
def steps? (text : List Char) : Option (List Step) :=
  match text with
  | [] => some []
  | '.' :: rest =>
    match takeRun isNameChar rest with
    | none => none
    | some name =>
      have := name.shorter
      (steps? name.rest).map (.key (String.ofList name.value) :: ·)
  | '[' :: rest =>
    match _h : rest.dropWhile (· ≠ ']') with
    | _ :: left =>
      have : left.length < rest.length := by
        have := length_dropWhile_le (· ≠ ']') rest
        rw [_h] at this
        simp at this
        omega
      match index? (rest.takeWhile (· ≠ ']')) with
      | none => none
      | some i => (steps? left).map (.index i :: ·)
    | [] => none
  | _ => none
termination_by text.length

/-- The steps of a key of path form. -/
def parse? (key : List Char) : Option (List Step) :=
  match takeRun isNameChar key with
  | none => none
  | some name => (steps? name.rest).map (.key (String.ofList name.value) :: ·)

/-- The steps of a key. -/
def steps (key : String) : List Step :=
  (parse? key.toList).getD [.key key]

end Courier.Settings.KeyPath
