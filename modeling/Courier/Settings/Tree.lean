import Courier.Decimal.Binary
import Courier.Fields

/-!
# Trees of settings

Settings from all sources are put into one tree, the later over the earlier. A table is merged key
by key with the table it comes upon; any other value replaces what was there. Values remember
where they come from; a table, which may come from several places, does not.

`update` and `put` are how the builder of `load_settings` puts a value under a path. A list is
lengthened up to a subscript, and there is no way on where no list can have that length.
-/

namespace Courier.Settings

open Courier.Decimal

/-- A value without parts. -/
inductive Scalar where
  | nothing
  | bool (value : Bool)
  | integer (value : Int)
  | float (value : Binary)
  | text (text : String)
  deriving Repr

/-- A tree of settings. -/
inductive Tree where
  | scalar (origin : Option String) (value : Scalar)
  | array (origin : Option String) (items : List Tree)
  | table (fields : List (String × Tree))
  deriving Repr

/-- A step into a tree. A negative index counts from the end. -/
inductive Step where
  | key (name : String)
  | index (i : Int)
  deriving Repr, DecidableEq

namespace Tree

/-- A value that nobody has set. -/
def unset : Tree := .scalar none .nothing

/-- The fields of a table: none unless it is one. -/
def fields : Tree → Fields Tree
  | .table fields => fields
  | _ => []

/-- The items of an array, and where it comes from: no items unless it is one. -/
def items : Tree → Option String × List Tree
  | .array origin items => (origin, items)
  | _ => (none, [])

/-- The most items that an array has room for: the bytes of an array are counted in 63 bits, and an
item takes 96 of them. There is memory for an array within this bound. -/
def room : Nat := (Nat.pow 2 63 - 1) / 96

/-- How many items an array has at least that has one at an index. -/
def needed (i : Int) : Nat :=
  if 0 ≤ i then i.toNat + 1 else i.natAbs

/-- The items before an index, the one there, and those behind it. Where there are too few, unset
ones are added at the end or in front, if there is room for so many. -/
def splitAt? (i : Int) (items : List Tree) : Option (List Tree × Tree × List Tree) :=
  if room < needed i then none
  else
    let missing := List.replicate (needed i - items.length) unset
    let (items, place) :=
      if 0 ≤ i then (items ++ missing, i.toNat) else (missing ++ items, items.length - i.natAbs)
    some (items.take place, items.getD place unset, items.drop (place + 1))

/-- Changes the value that steps lead to. What is not there, or of another kind, is made anew; for
an array without room for an index that cannot be done. -/
def update (change : Tree → Tree) : List Step → Tree → Option Tree
  | [], tree => some (change tree)
  | .key name :: steps, tree =>
    (update change steps ((tree.fields.get? name).getD unset)).map fun inner =>
      .table (tree.fields.set name inner)
  | .index i :: steps, tree =>
    match splitAt? i tree.items.2 with
    | none => none
    | some (before, item, behind) =>
      (update change steps item).map fun item => .array tree.items.1 (before ++ item :: behind)

mutual

/-- The value that comes about when `tree` is put over `old`. -/
def put (tree old : Tree) : Tree :=
  match tree with
  | .table fields => .table (putFields fields old.fields)
  | other => other

/-- The fields that come about when a table is put over others. -/
def putFields (fields : List (String × Tree)) (old : Fields Tree) : Fields Tree :=
  match fields with
  | [] => old
  | (name, tree) :: rest =>
    putFields rest (old.set name (put tree ((old.get? name).getD unset)))

end

end Tree

end Courier.Settings
