import Courier.Text.Unprintable
import Mathlib.Data.List.Basic

/-!
# Looking characters up

Results:

* `contains_iff`: in a table whose rows ascend, bisection finds a character exactly when some row
  covers it.
* `ascends_unprintable`: the rows of the characters without a glyph do.
* `unprintable_of_isControl`: so the controls beyond ASCII and the separators of lines and
  paragraphs are among these characters.
-/

namespace Courier.Text

variable {α : Type} {c : Char}

/-- Whether rows ascend from a code point on, none of them empty and no two overlapping. -/
def ascend (start : Nat) : List (Row α) → Bool
  | [] => true
  | row :: rest => start ≤ row.first && row.first ≤ row.last && ascend (row.last + 1) rest

theorem ascend_cons_iff {start : Nat} {row : Row α} {rest : List (Row α)} :
    ascend start (row :: rest) = true ↔
      start ≤ row.first ∧ row.first ≤ row.last ∧ ascend (row.last + 1) rest = true := by
  simp [ascend, and_assoc]

/-- Every row of an ascending list has a first code point, and lies behind those before it. -/
theorem pairwise_of_ascend {start : Nat} {rows : List (Row α)} (h : ascend start rows = true) :
    (∀ row ∈ rows, start ≤ row.first ∧ row.first ≤ row.last) ∧
      rows.Pairwise fun row later => row.last < later.first := by
  induction rows generalizing start with
  | nil => exact ⟨nofun, .nil⟩
  | cons row rest ih =>
    obtain ⟨hstart, hrow, hrest⟩ := ascend_cons_iff.mp h
    obtain ⟨hall, hpair⟩ := ih hrest
    refine ⟨List.forall_mem_cons.mpr ⟨⟨hstart, hrow⟩, fun r hr => ?_⟩,
      .cons (fun r hr => (hall r hr).1) hpair⟩
    obtain ⟨hbehind, hr⟩ := hall r hr
    exact ⟨by omega, hr⟩

namespace RangeTable

variable {t : RangeTable α}

/-- Whether the rows of a table ascend. -/
def Ascends (t : RangeTable α) : Prop :=
  ascend 0 t.rows.toList = true

/-- Of two rows of an ascending table the earlier one ends before the later one begins. -/
theorem Ascends.last_lt_first (h : t.Ascends) {i j : Nat} {row later : Row α} (hij : i < j)
    (hi : t.rows[i]? = some row) (hj : t.rows[j]? = some later) : row.last < later.first := by
  obtain ⟨hlt, rfl⟩ := Array.getElem?_eq_some_iff.mp hi
  obtain ⟨hlt', rfl⟩ := Array.getElem?_eq_some_iff.mp hj
  have hpair := List.pairwise_iff_getElem.mp (pairwise_of_ascend h).2 i j
  simpa [hlt, hlt', hij] using hpair

/-- No row of an ascending table is empty. -/
theorem Ascends.first_le_last (h : t.Ascends) {i : Nat} {row : Row α}
    (hi : t.rows[i]? = some row) : row.first ≤ row.last :=
  ((pairwise_of_ascend h).1 row (Array.mem_toList_iff.mpr (Array.mem_of_getElem? hi))).2

/-- Bisection does not leave the half in which the covering row stands. -/
theorem search_isSome (h : t.Ascends) {c k lo hi : Nat} {row : Row α}
    (hk : t.rows[k]? = some row) (hc : row.covers c = true) (hlo : lo ≤ k) (hhi : k < hi)
    (hsize : hi ≤ t.rows.size) : (t.search c lo hi).isSome = true := by
  simp only [Row.covers, Bool.and_eq_true, decide_eq_true_eq] at hc
  fun_induction search t c lo hi with
  | case1 lo hi hlt mid hnone =>
    have hmid : t.rows.size ≤ mid := Array.getElem?_eq_none_iff.mp hnone
    omega
  | case2 lo hi hlt mid r hr hbefore ih =>
    have hle := h.first_le_last hr
    refine ih hlo ?_ (by omega)
    rcases Nat.lt_trichotomy k mid with hlt | rfl | hgt
    · exact hlt
    · cases hr.symm.trans hk
      omega
    · have := h.last_lt_first hgt hr hk
      omega
  | case3 lo hi hlt mid r hr hbefore hbehind ih =>
    have hle := h.first_le_last hr
    refine ih ?_ hhi hsize
    rcases Nat.lt_trichotomy k mid with hlt | rfl | hgt
    · have := h.last_lt_first hlt hk hr
      omega
    · cases hr.symm.trans hk
      omega
    · exact hgt
  | case4 => rfl
  | case5 lo hi hge => omega

/-- A row that the search finds is a row of the table. -/
theorem mem_of_search {code lo hi : Nat} {row : Row α} (h : t.search code lo hi = some row) :
    row ∈ t.rows := by
  fun_induction search t code lo hi with
  | case1 => cases h
  | case2 lo hi _ mid r hr _ ih => exact ih h
  | case3 lo hi _ mid r hr _ _ ih => exact ih h
  | case4 lo hi _ mid r hr =>
    cases h
    exact Array.mem_of_getElem? hr
  | case5 => cases h

/-- In an ascending table a character is found exactly when some row covers it. -/
theorem contains_iff (h : t.Ascends) :
    t.contains c = true ↔ ∃ row ∈ t.rows, row.covers c.toNat = true := by
  constructor
  · intro hc
    obtain ⟨row, hrow⟩ := Option.isSome_iff_exists.mp hc
    exact ⟨row, mem_of_search hrow, covers_of_search hrow⟩
  · rintro ⟨row, hmem, hc⟩
    obtain ⟨k, hk⟩ := Array.mem_iff_getElem?.mp hmem
    have hlt : k < t.rows.size := (Array.getElem?_eq_some_iff.mp hk).1
    exact search_isSome h hk hc (Nat.zero_le k) hlt (Nat.le_refl _)

end RangeTable

/-! ## The characters without a glyph -/

/-- The rows that the letters of a set spell. -/
def rowsOf (letters : List Char) : List (Row Unit) :=
  (words letters).filterMap (Row.ofWord? fun _ => some ())

theorem rows_ofText {text : String} {letters : List Char} (h : text = String.ofList letters) :
    (RangeSet.ofText text).rows.toList = rowsOf letters := by
  subst h
  simp [RangeSet.ofText, RangeTable.ofText, rowsOf, String.toList_ofList]

set_option maxRecDepth 100000 in
theorem ascends_unprintable : unprintable.Ascends := by
  refine (congrArg (ascend 0) (rows_ofText rfl)).trans ?_
  decide +kernel

set_option maxRecDepth 100000 in
/-- One row reaches from the end of ASCII to the fixed blank, and one over the separators. -/
theorem spans_unprintable :
    (∃ row ∈ unprintable.rows.toList, row.first ≤ 0x7F ∧ 0xA0 ≤ row.last) ∧
      ∃ row ∈ unprintable.rows.toList, row.first ≤ 0x2028 ∧ 0x2029 ≤ row.last := by
  rw [show unprintable.rows.toList = _ from rows_ofText rfl]
  decide +kernel

/-- A character that moves on to another line or steers what shows it: category `Cc`, `Zl` or
`Zp`. -/
def IsControl (c : Char) : Prop :=
  c.toNat < 0x20 ∨ 0x7F ≤ c.toNat ∧ c.toNat < 0xA0 ∨ c.toNat = 0x2028 ∨ c.toNat = 0x2029

/-- A blank or a visible character of ASCII. -/
def isAscii (c : Char) : Bool :=
  0x20 ≤ c.toNat && c.toNat < 0x7F

theorem not_isControl_of_isAscii (h : isAscii c = true) : ¬IsControl c := by
  simp only [isAscii, Bool.and_eq_true, decide_eq_true_eq] at h
  unfold IsControl
  omega

theorem unprintable_of_isControl (h : IsControl c) (hc : 0x7F ≤ c.toNat) :
    unprintable.contains c = true := by
  obtain ⟨⟨row, hrow, hfirst, hlast⟩, sep, hsep, hfirst', hlast'⟩ := spans_unprintable
  have covers (r : Row Unit) (hf : r.first ≤ c.toNat) (hl : c.toNat ≤ r.last) :
      r.covers c.toNat = true := by
    simp [Row.covers, hf, hl]
  refine (RangeTable.contains_iff ascends_unprintable).mpr ?_
  rcases h with h | h | h | h
  · omega
  · exact ⟨row, Array.mem_toList_iff.mp hrow, covers row (by omega) (by omega)⟩
  · exact ⟨sep, Array.mem_toList_iff.mp hsep, covers sep (by omega) (by omega)⟩
  · exact ⟨sep, Array.mem_toList_iff.mp hsep, covers sep (by omega) (by omega)⟩

end Courier.Text
