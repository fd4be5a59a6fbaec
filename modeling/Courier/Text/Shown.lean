/-!
# Values laid out for a reader

A value that is shown is a text, an optional value, or a record of named fields. It is laid out on
one line, or as a block with one field a line, a comma after each and four blanks a level.
-/

namespace Courier.Text

/-- A value to be shown. -/
inductive Shown where
  | leaf (text : List Char)
  | absent
  | present (value : Shown)
  | record (name : String) (fields : List (String × Shown))

namespace Shown

mutual

/-- The value on one line. -/
def inline : Shown → List Char
  | .leaf text => text
  | .absent => "None".toList
  | .present value => "Some(".toList ++ inline value ++ [')']
  | .record name fields => name.toList ++ " \x7b ".toList ++ inlineFields fields ++ " \x7d".toList

/-- Fields on one line, a comma and a blank between neighbours. -/
def inlineFields : List (String × Shown) → List Char
  | [] => []
  | [(name, value)] => name.toList ++ ": ".toList ++ inline value
  | (name, value) :: rest =>
    name.toList ++ ": ".toList ++ inline value ++ ", ".toList ++ inlineFields rest

end

/-- A line end and the blanks of a level. -/
def newline (level : Nat) : List Char :=
  '\n' :: List.replicate (4 * level) ' '

mutual

/-- The value as a block whose last line stands at a level. -/
def block (level : Nat) : Shown → List Char
  | .leaf text => text
  | .absent => "None".toList
  | .present value =>
    "Some(".toList ++ newline (level + 1) ++ block (level + 1) value ++ [','] ++ newline level ++
      [')']
  | .record name fields =>
    name.toList ++ " \x7b".toList ++ blockFields (level + 1) fields ++ newline level ++ ['}']

/-- Fields one a line, each with a comma behind it. -/
def blockFields (level : Nat) : List (String × Shown) → List Char
  | [] => []
  | (name, value) :: rest =>
    newline level ++ name.toList ++ ": ".toList ++ block level value ++ [','] ++
      blockFields level rest

end

/-! The layouts of each kind of value. -/

section

variable (level : Nat) (text : List Char) (value : Shown) (name : String)
  (field : String × Shown) (fields : List (String × Shown))

@[simp] theorem inline_leaf : (leaf text).inline = text := rfl

@[simp] theorem inline_absent : absent.inline = "None".toList := rfl

@[simp] theorem inline_present :
    (present value).inline = "Some(".toList ++ value.inline ++ [')'] := rfl

@[simp] theorem inline_record : (record name fields).inline =
    name.toList ++ " \x7b ".toList ++ inlineFields fields ++ " \x7d".toList := rfl

@[simp] theorem inlineFields_singleton :
    inlineFields [(name, value)] = name.toList ++ ": ".toList ++ value.inline := rfl

@[simp] theorem inlineFields_cons_cons : inlineFields ((name, value) :: field :: fields) =
    name.toList ++ ": ".toList ++ value.inline ++ ", ".toList ++
      inlineFields (field :: fields) := rfl

@[simp] theorem block_leaf : (leaf text).block level = text := rfl

@[simp] theorem block_absent : absent.block level = "None".toList := rfl

@[simp] theorem block_present : (present value).block level =
    "Some(".toList ++ newline (level + 1) ++ value.block (level + 1) ++ [','] ++ newline level ++
      [')'] := rfl

@[simp] theorem block_record : (record name fields).block level =
    name.toList ++ " \x7b".toList ++ blockFields (level + 1) fields ++ newline level ++ ['}'] := rfl

@[simp] theorem blockFields_nil : blockFields level [] = [] := rfl

@[simp] theorem blockFields_cons : blockFields level ((name, value) :: fields) =
    newline level ++ name.toList ++ ": ".toList ++ value.block level ++ [','] ++
      blockFields level fields := rfl

end

end Shown

end Courier.Text
