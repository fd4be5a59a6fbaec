/-!
# What a reader finds

A reader takes something from the front of a text. What it returns carries the text behind it and
the fact that this text is shorter, so that readers can be repeated without counting steps.
-/

namespace Courier.Text

/-- What was found at the front of a text, and the shorter text behind it. -/
structure Found (α : Type) (text : List Char) where
  value : α
  rest : List Char
  shorter : rest.length < text.length

namespace Found

variable {α β : Type} {inner text : List Char}

/-- What was found in a text stands in any text that is as long. -/
def within (found : Found α inner) (h : inner.length ≤ text.length) : Found α text :=
  ⟨found.value, found.rest, Nat.lt_of_lt_of_le found.shorter h⟩

/-- What was found, as another value. -/
def map (f : α → β) (found : Found α text) : Found β text :=
  ⟨f found.value, found.rest, found.shorter⟩

/-- A value that the first character of a text stands for. -/
def head (value : α) (c : Char) (rest : List Char) : Found α (c :: rest) :=
  ⟨value, rest, Nat.lt_succ_self _⟩

/-- What was found behind the first character of a text. -/
def behind (c : Char) (found : Found α text) : Found α (c :: text) :=
  found.within (Nat.le_succ _)

/-- What was found behind something else that was found. -/
def andThen (first : Found α text) (second : Found β first.rest) : Found β text :=
  second.within (Nat.le_of_lt first.shorter)

/-- The text behind what was found is shorter yet than the text with a character more. -/
theorem rest_lt_cons (found : Found α text) (c : Char) :
    found.rest.length < (c :: text).length :=
  Nat.lt_succ_of_lt found.shorter

/-- The text behind what was found is shorter than any text that is as long. -/
theorem rest_lt_of_le (found : Found α inner) (h : inner.length ≤ text.length) :
    found.rest.length < text.length :=
  Nat.lt_of_lt_of_le found.shorter h

end Found

/-- The text behind the first character is shorter. -/
theorem length_lt_cons (c : Char) (rest : List Char) : rest.length < (c :: rest).length :=
  Nat.lt_succ_self _

/-- The text behind the characters of a kind is no longer. -/
theorem length_dropWhile_le (p : Char → Bool) (text : List Char) :
    (text.dropWhile p).length ≤ text.length :=
  (List.dropWhile_sublist _).length_le

/-- The characters of a kind at the front of a text, if there are any. -/
def takeRun (p : Char → Bool) (text : List Char) : Option (Found (List Char) text) :=
  match text with
  | [] => none
  | c :: rest =>
    if p c then
      some ⟨c :: rest.takeWhile p, rest.dropWhile p, by
        have := length_dropWhile_le p rest
        simp
        omega⟩
    else none

end Courier.Text
