import Courier.Json.Reader
import Courier.Proofs.Results
import Mathlib.Tactic.SplitIfs

/-!
# What is read is proper

A value that is read from a text is kept as values are: an integer that does not fit is read as a
fraction, and the fields of an object are put in order, of fields with one name the last.

Results:

* `isProper_of_parse` — the value of a text is proper.
-/

namespace Courier.Json

open Courier.Text

variable {text : List Char} {item : Reader Json}

/-! ## Numbers -/

theorem takeDigits_le {limit number : Nat} (h : number ≤ limit) (text : List Char) :
    (takeDigits limit number text).1 ≤ limit := by
  induction text generalizing number with
  | nil => exact h
  | cons c rest ih =>
    unfold takeDigits
    dsimp only
    split
    · next hnext => exact ih hnext.2
    · exact h

theorem isProper_wholeNumber (negative : Bool) {digits : Nat} (h : digits ≤ Nat.pow 2 64 - 1) :
    (wholeNumber negative digits).IsProper := by
  unfold wholeNumber
  split
  · refine ⟨?_, ?_⟩
    · exact Int.le_trans (by decide) (Int.natCast_nonneg digits)
    · exact Int.ofNat_le.mpr h
  · split
    · split <;> trivial
    · next hn =>
      simp only [not_or, Int.not_lt] at hn
      exact ⟨hn.2, Int.le_trans (Int.neg_nonpos_of_nonneg (Int.natCast_nonneg digits)) (by decide)⟩

/-- A fraction is proper, however it comes about. -/
theorem isProper_finishFraction {negative : Bool} {digits : Nat} {exponent : Int}
    {rest left : List Char} {value : Json}
    (h : finishFraction negative digits exponent rest = .ok (value, left)) : value.IsProper := by
  unfold finishFraction at h
  split at h
  · cases h
    trivial
  · exact absurd h nofun

theorem isProper_readExponent {negative : Bool} {digits : Nat} {exponent : Int}
    {left : List Char} {value : Json}
    (h : readExponent negative digits exponent text = .ok (value, left)) : value.IsProper := by
  unfold readExponent at h
  dsimp only at h
  split at h
  · exact absurd h nofun
  · exact absurd h nofun
  · split_ifs at h
    · exact isProper_finishFraction h
    · exact isProper_finishFraction h
    · exact absurd h nofun
    · cases h
      trivial

theorem isProper_readFraction {negative : Bool} {digits : Nat} {exponent : Int}
    {left : List Char} {value : Json}
    (h : readFraction negative digits exponent text = .ok (value, left)) : value.IsProper := by
  unfold readFraction at h
  dsimp only at h
  split at h
  · exact absurd h nofun
  · exact absurd h nofun
  · split at h
    · exact isProper_readExponent h
    · exact isProper_readExponent h
    · exact isProper_finishFraction h

theorem isProper_readWhole {negative : Bool} {left : List Char} {value : Json}
    (h : readNumber.readWhole negative text = .ok (value, left)) : value.IsProper := by
  have hle := takeDigits_le (Nat.zero_le (Nat.pow 2 64 - 1)) text
  unfold readNumber.readWhole at h
  dsimp only at h
  split at h
  · exact isProper_readFraction h
  · exact isProper_readExponent h
  · exact isProper_readExponent h
  · split at h
    · cases h
      exact isProper_wholeNumber negative hle
    · exact isProper_finishFraction h

/-- A number that is read is proper. -/
theorem isProper_readNumber {negative : Bool} {left : List Char} {value : Json}
    (h : readNumber negative text = .ok (value, left)) : value.IsProper := by
  unfold readNumber at h
  split at h
  · exact absurd h nofun
  · split at h
    · exact absurd h nofun
    · exact isProper_readWhole h
  · split at h
    · exact isProper_readWhole h
    · exact absurd h nofun

theorem eq_of_readWord {word : Json} {letters left : List Char} {value : Json}
    (h : readWord word letters text = .ok (value, left)) : value = word := by
  induction letters generalizing text with
  | nil =>
    cases h
    rfl
  | cons letter letters ih =>
    cases text with
    | nil => exact absurd h nofun
    | cons c rest =>
      unfold readWord at h
      split at h
      · exact ih h
      · exact absurd h nofun

theorem eq_of_checked {result : Except Fault (Json × List Char)} {found : Found Json text}
    (h : checked result = .ok found) : result = .ok (found.value, found.rest) := by
  unfold checked at h
  split at h
  · exact absurd h nofun
  · split at h
    · cases h
      rfl
    · exact absurd h nofun

/-! ## Containers -/

theorem areProper_iff {items : List Json} : AreProper items ↔ ∀ item ∈ items, item.IsProper := by
  induction items with
  | nil => simp [AreProper]
  | cons first rest ih => simp only [AreProper, ih, List.forall_mem_cons]

theorem fieldsAreProper_iff {fields : List (String × Json)} :
    FieldsAreProper fields ↔ ∀ field ∈ fields, field.2.IsProper := by
  induction fields with
  | nil => simp [FieldsAreProper]
  | cons first rest ih => simp only [FieldsAreProper, ih, List.forall_mem_cons]

/-- An object whose fields are set one after the other is proper if their values are. -/
theorem isProper_ofFields {fields : List (String × Json)}
    (h : ∀ field ∈ fields, field.2.IsProper) : (ofFields fields).IsProper :=
  ⟨Fields.isAscending_ofList fields,
    fieldsAreProper_iff.mpr fun field hm => h field (Fields.mem_of_mem_ofList hm)⟩

theorem isProper_single (name : String) {value : Json} (h : value.IsProper) :
    (Json.object [(name, value)]).IsProper :=
  ⟨List.pairwise_singleton _ _, h, trivial⟩

/-- What a reader finds is proper. -/
def Keeps (item : Reader Json) : Prop :=
  ∀ {text : List Char} {found : Found Json text}, item text = .ok found → found.value.IsProper

theorem isProper_of_readItems (hi : Keeps item) {found : Found (List Json) text}
    (h : readItems item text = .ok found) : ∀ value ∈ found.value, value.IsProper := by
  fun_induction readItems item text with
  | case2 =>
    cases h
    exact nofun
  | case7 x rest first hfirst more hmore _ _ _ _ _ ih =>
    cases h
    exact List.forall_mem_cons.mpr ⟨hi hfirst, ih hmore⟩
  | _ => exact absurd h nofun

theorem isProper_of_readArray (hi : Keeps item) {found : Found (List Json) text}
    (h : readArray item text = .ok found) : ∀ value ∈ found.value, value.IsProper := by
  unfold readArray at h
  split at h
  · cases h
  · split at h
    · cases h
      exact fun _ hm => absurd hm List.not_mem_nil
    · split at h
      · cases h
      · next hfirst =>
        split at h
        · cases h
        · next hmore =>
          cases h
          exact List.forall_mem_cons.mpr ⟨hi hfirst, isProper_of_readItems hi hmore⟩

theorem isProper_of_readField (hi : Keeps item) {found : Found (String × Json) text}
    (h : readField item text = .ok found) : found.value.2.IsProper := by
  unfold readField at h
  split at h
  · cases h
  · split at h
    · cases h
    · split at h
      · split at h
        · cases h
        · next hvalue =>
          cases h
          exact hi hvalue
      · cases h

theorem isProper_of_readFields (hi : Keeps item) {found : Found (List (String × Json)) text}
    (h : readFields item text = .ok found) : ∀ field ∈ found.value, field.2.IsProper := by
  fun_induction readFields item text with
  | case2 =>
    cases h
    exact nofun
  | case6 x rest rest_1 first hfirst more hmore _ _ _ _ _ ih =>
    cases h
    exact List.forall_mem_cons.mpr ⟨isProper_of_readField hi hfirst, ih hmore⟩
  | _ => exact absurd h nofun

theorem isProper_of_readObject (hi : Keeps item) {found : Found (List (String × Json)) text}
    (h : readObject item text = .ok found) : ∀ field ∈ found.value, field.2.IsProper := by
  unfold readObject at h
  split at h
  · cases h
  · split at h
    · cases h
      exact fun _ hm => absurd hm List.not_mem_nil
    · split at h
      · split at h
        · cases h
        · next hfirst =>
          split at h
          · cases h
          · next hmore =>
            cases h
            exact List.forall_mem_cons.mpr
              ⟨isProper_of_readField hi hfirst, isProper_of_readFields hi hmore⟩
      · cases h

/-! ## Values -/

/-- By recursion on how deep containers may still stand in one another. -/
theorem keeps_readValue (depth : Nat) : Keeps (readValue depth) := by
  intro text found h
  unfold readValue at h
  split at h
  · exact absurd h nofun
  · dsimp only at h
    split_ifs at h
    · rw [eq_of_readWord (eq_of_checked h)]
      trivial
    · rw [eq_of_readWord (eq_of_checked h)]
      trivial
    · rw [eq_of_readWord (eq_of_checked h)]
      trivial
    · exact isProper_readNumber (eq_of_checked h)
    · exact isProper_readNumber (eq_of_checked h)
    · split at h
      · exact absurd h nofun
      · cases h
        trivial
    · cases depth with
      | zero => exact absurd h nofun
      | succ depth =>
        dsimp only at h
        split at h
        · exact absurd h nofun
        · next hfound =>
          cases h
          exact areProper_iff.mpr (isProper_of_readArray (keeps_readValue depth) hfound)
    · cases depth with
      | zero => exact absurd h nofun
      | succ depth =>
        dsimp only at h
        split at h
        · exact absurd h nofun
        · next hfound =>
          cases h
          exact isProper_ofFields (isProper_of_readObject (keeps_readValue depth) hfound)
    · exact absurd h nofun

/-- **The value of a text is proper.** -/
theorem isProper_of_parse {value : Json} (h : parse text = .ok value) : value.IsProper := by
  unfold parse at h
  split at h
  · cases h
  · next hfound =>
    split at h
    · cases h
      exact keeps_readValue maxDepth hfound
    · cases h

end Courier.Json
