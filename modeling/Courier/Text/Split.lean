/-!
# Cutting texts

A text divided at every occurrence of a mark, at the first one, or at runs of blanks.
-/

namespace Courier.Text

/-- The maximal runs of characters other than blanks and line ends. -/
def words (text : List Char) : List (List Char) :=
  go text []
where
  go : List Char → List Char → List (List Char)
    | [], word => if word.isEmpty then [] else [word.reverse]
    | c :: rest, word =>
      if c = ' ' ∨ c = '\n' then
        if word.isEmpty then go rest [] else word.reverse :: go rest []
      else go rest (c :: word)

/-- The text before the first `mark`, and the text after it. -/
def cut (mark : Char) (text : List Char) : List Char × List Char :=
  (text.takeWhile (· ≠ mark), (text.dropWhile (· ≠ mark)).drop 1)

/-- The parts of a text between occurrences of a mark; a text without one is a single part. -/
def fields (mark : Char) : List Char → List (List Char)
  | [] => [[]]
  | c :: rest =>
    if c = mark then [] :: fields mark rest
    else match fields mark rest with
      | [] => [[c]]
      | part :: others => (c :: part) :: others

/-- There is always a first part. -/
theorem fields_ne_nil (mark : Char) (text : List Char) : fields mark text ≠ [] := by
  induction text with
  | nil => simp [fields]
  | cons c rest ih =>
    unfold fields
    split
    · simp
    · split <;> simp

/-- The parts with a mark between neighbours. -/
def joinFields (mark : Char) : List (List Char) → List Char
  | [] => []
  | [part] => part
  | part :: rest => part ++ mark :: joinFields mark rest

end Courier.Text
