import Courier.Text.Split
import Courier.Text.Numeral

/-!
# Tables over code points

A property of characters is a table of disjoint intervals in ascending order. A table is written
down as text, one row a word: `41-5A:+32` gives the interval and, after the colon, what the table
says about its characters; a lone code point stands for an interval of one, and a row without a
colon has an empty label. `ofText` reads the text, `find?` looks a character up by bisection.
-/

namespace Courier.Text

/-- One row of a table: an interval of code points and the value of each of them. -/
structure Row (α : Type) where
  first : Nat
  last : Nat
  value : α
  deriving Repr

/-- Whether the code point lies in the interval of the row. -/
def Row.covers {α : Type} (row : Row α) (c : Nat) : Bool :=
  row.first ≤ c && c ≤ row.last

/-- A property of characters, as rows in ascending order. -/
structure RangeTable (α : Type) where
  rows : Array (Row α)

/-- Reads one row, its label by `read`. -/
def Row.ofWord? {α : Type} (read : List Char → Option α) (word : List Char) : Option (Row α) :=
  let (interval, label) := cut ':' word
  let (first, last) := cut '-' interval
  (read label).map fun value =>
    ⟨hexValue first, if last.isEmpty then hexValue first else hexValue last, value⟩

namespace RangeTable

variable {α : Type}

/-- Reads a table; a row whose label `read` refuses is left out. -/
def ofText (read : List Char → Option α) (text : String) : RangeTable α :=
  ⟨((words text.toList).filterMap (Row.ofWord? read)).toArray⟩

/-- Bisection between the row numbers `lo` (included) and `hi` (excluded). -/
def search (t : RangeTable α) (c : Nat) (lo hi : Nat) : Option (Row α) :=
  if lo < hi then
    let mid := (lo + hi) / 2
    match t.rows[mid]? with
    | none => none
    | some row =>
      if c < row.first then search t c lo mid
      else if row.last < c then search t c (mid + 1) hi
      else some row
  else none
termination_by hi - lo

/-- The row that covers a character, if there is one. -/
def find? (t : RangeTable α) (c : Char) : Option (Row α) :=
  t.search c.toNat 0 t.rows.size

/-- Whether some row covers the character. -/
def contains (t : RangeTable α) (c : Char) : Bool :=
  (t.find? c).isSome

/-- A row that the search finds covers the code point. -/
theorem covers_of_search {t : RangeTable α} {c lo hi : Nat} {row : Row α}
    (h : t.search c lo hi = some row) : row.covers c = true := by
  fun_induction search t c lo hi with
  | case1 => simp at h
  | case2 => simp_all
  | case3 => simp_all
  | case4 lo hi _ mid r _ h1 h2 =>
    obtain rfl : r = row := by simpa using h
    simp [Row.covers]
    omega
  | case5 => simp at h

end RangeTable

/-- A set of characters, as a table whose rows carry nothing. -/
abbrev RangeSet := RangeTable Unit

/-- Reads a set of characters. -/
def RangeSet.ofText (text : String) : RangeSet :=
  RangeTable.ofText (fun _ => some ()) text

end Courier.Text
