import Courier.Toml.Basic

/-!
# Tables in the making

A table comes about in one of three ways: under a header, on the way to another table, or by keys
with points. Only a table that was on the way may still get a header, only once, and keys with
points may go on only where keys with points began. A value, tables in braces included, is closed.
-/

namespace Courier.Toml

/-- How a table came about. -/
inductive Making where
  | headed
  | passed
  | pointed
  deriving Repr, DecidableEq

/-- What stands under a key so far. -/
inductive Draft where
  | closed (value : Value)
  | table (making : Making) (fields : List (String × Draft))
  /-- Tables under one repeated header, in order. -/
  | repeated (tables : List (List (String × Draft)))

namespace Draft

/-- Changes the table that a path leads to: of repeated tables the last, and of missing ones a
fresh one. -/
def update (change : Fields Draft → Option (Fields Draft)) :
    List String → Fields Draft → Option (Fields Draft)
  | [], fields => change fields
  | key :: path, fields =>
    match fields.get? key with
    | none => (update change path []).map fun inner => fields.set key (.table .passed inner)
    | some (.table making inner) =>
      (update change path inner).map fun inner => fields.set key (.table making inner)
    | some (.repeated tables) =>
      match tables.getLast? with
      | none => none
      | some last =>
        (update change path last).map fun inner =>
          fields.set key (.repeated (tables.dropLast ++ [inner]))
    | some (.closed _) => none

/-- Gives a table its header. -/
def openTable (key : String) (fields : Fields Draft) : Option (Fields Draft) :=
  match fields.get? key with
  | none => some (fields.set key (.table .headed []))
  | some (.table .passed inner) => some (fields.set key (.table .headed inner))
  | some _ => none

/-- Adds a table under a repeated header. -/
def addTable (key : String) (fields : Fields Draft) : Option (Fields Draft) :=
  match fields.get? key with
  | none => some (fields.set key (.repeated [[]]))
  | some (.repeated tables) => some (fields.set key (.repeated (tables ++ [[]])))
  | some _ => none

/-- Gives a key with points its value. -/
def assign (value : Value) : List String → Fields Draft → Option (Fields Draft)
  | [], _ => none
  | [key], fields =>
    match fields.get? key with
    | none => some (fields.set key (.closed value))
    | some _ => none
  | key :: path, fields =>
    match fields.get? key with
    | none => (assign value path []).map fun inner => fields.set key (.table .pointed inner)
    | some (.table making inner) =>
      if making = .headed ∨ (path.length = 1 ∧ making ≠ .pointed) then none
      else (assign value path inner).map fun inner => fields.set key (.table making inner)
    | some (.repeated tables) =>
      match tables.getLast? with
      | none => none
      | some last =>
        if path.length = 1 then none
        else
          (assign value path last).map fun inner =>
            fields.set key (.repeated (tables.dropLast ++ [inner]))
    | some (.closed _) => none

mutual

/-- What a draft comes to. -/
def finish : Draft → Value
  | .closed value => value
  | .table _ fields => .table (finishFields fields)
  | .repeated tables => .array (finishTables tables)

/-- What the fields of a table come to. -/
def finishFields : List (String × Draft) → List (String × Value)
  | [] => []
  | (key, draft) :: rest => (key, finish draft) :: finishFields rest

/-- What repeated tables come to. -/
def finishTables : List (List (String × Draft)) → List Value
  | [] => []
  | fields :: rest => .table (finishFields fields) :: finishTables rest

end

end Draft

end Courier.Toml
