import Courier.Decimal.Layout
import Courier.Text.Numeral
import Mathlib.Data.List.Basic

/-!
# The characters of numerals

Results:

* `areNumerals_integerText`, `integerText_ne_nil`: an integer is written in digits and a sign, and
  with at least one of them.
* `areNumerals_text`, `text_ne_nil`: a finite number of a binary format too, in which there may
  also be a point and the letter of an exponent.
-/

namespace Courier.Decimal

open Courier.Text

variable {c : Char}

/-- A character of a number: a digit, a minus sign, a point, or the letter of an exponent. -/
def isNumeral (c : Char) : Bool :=
  isDigit c || c = '-' || c = '.' || c = 'e'

theorem isNumeral_of_isDigit (h : isDigit c = true) : isNumeral c = true := by
  simp [isNumeral, h]

theorem isDigit_of_mem_naturalText {n : Nat} (h : c ∈ naturalText n) : isDigit c = true :=
  Nat.isDigit_of_mem_toDigits (by decide) (by decide) h

theorem naturalText_ne_nil (n : Nat) : naturalText n ≠ [] :=
  Nat.toDigits_ne_nil

theorem decimalValue_naturalText (n : Nat) : decimalValue (naturalText n) = n :=
  Nat.ofDigitChars_toDigits (by decide) (by decide)

/-- Whether all characters are characters of numbers. -/
def AreNumerals (text : List Char) : Prop :=
  ∀ c ∈ text, isNumeral c = true

@[simp] theorem areNumerals_nil : AreNumerals [] :=
  nofun

@[simp] theorem areNumerals_cons_iff {text : List Char} :
    AreNumerals (c :: text) ↔ isNumeral c = true ∧ AreNumerals text :=
  List.forall_mem_cons

@[simp] theorem areNumerals_append_iff {front back : List Char} :
    AreNumerals (front ++ back) ↔ AreNumerals front ∧ AreNumerals back :=
  List.forall_mem_append

@[simp] theorem areNumerals_naturalText (n : Nat) : AreNumerals (naturalText n) :=
  fun _ h => isNumeral_of_isDigit (isDigit_of_mem_naturalText h)

/-! ## Integers -/

@[simp] theorem areNumerals_integerText (i : Int) : AreNumerals (integerText i) := by
  unfold integerText
  split
  · exact areNumerals_cons_iff.mpr ⟨rfl, areNumerals_naturalText _⟩
  · exact areNumerals_naturalText _

theorem integerText_ne_nil (i : Int) : integerText i ≠ [] := by
  unfold integerText
  split
  · exact List.cons_ne_nil _ _
  · exact naturalText_ne_nil _

/-! ## Binary fractions -/

section

variable {digits : List Char}

@[simp] theorem areNumerals_signText (negative : Bool) : AreNumerals (signText negative) := by
  cases negative <;> simp [signText, isNumeral]

theorem isDigit_of_mem_zeros {n : Nat} (h : c ∈ zeros n) : isDigit c = true := by
  rw [List.eq_of_mem_replicate h]
  rfl

@[simp] theorem areNumerals_zeros (n : Nat) : AreNumerals (zeros n) :=
  fun _ h => isNumeral_of_isDigit (isDigit_of_mem_zeros h)

theorem areNumerals_positional (h : AreNumerals digits) (exponent : Int) :
    AreNumerals (positional digits exponent) := by
  have hpoint : isNumeral '.' = true := rfl
  have hzero : isNumeral '0' = true := rfl
  simp only [positional]
  split
  · simp [h]
  split
  · have htake (n : Nat) : AreNumerals (digits.take n) := fun c hc => h c (List.mem_of_mem_take hc)
    have hdrop (n : Nat) : AreNumerals (digits.drop n) := fun c hc => h c (List.mem_of_mem_drop hc)
    simp [htake, hdrop, hpoint]
  · simp [h, hpoint, hzero]

theorem positional_ne_nil (h : digits ≠ []) (exponent : Int) : positional digits exponent ≠ [] := by
  simp only [positional]
  repeat' split
  all_goals simp [h]

theorem areNumerals_windowed (h : AreNumerals digits) (w : Window) (exponent : Int) :
    AreNumerals (windowed w digits exponent) := by
  have hpoint : isNumeral '.' = true := rfl
  have hzero : isNumeral '0' = true := rfl
  have hletter : isNumeral 'e' = true := rfl
  simp only [windowed]
  split
  · simp [areNumerals_positional h, hpoint, hzero]
  split
  · exact areNumerals_positional h exponent
  cases digits with
  | nil => exact areNumerals_nil
  | cons first rest =>
    obtain ⟨hfirst, hrest⟩ := areNumerals_cons_iff.mp h
    by_cases he : rest.isEmpty = true <;> simp [he, hfirst, hrest, hpoint, hletter]

theorem windowed_ne_nil (h : digits ≠ []) (w : Window) (exponent : Int) :
    windowed w digits exponent ≠ [] := by
  simp only [windowed]
  split
  · simp
  split
  · exact positional_ne_nil h exponent
  · cases digits with
    | nil => exact absurd rfl h
    | cons first rest => exact List.cons_ne_nil _ _

end

@[simp] theorem areNumerals_text (f : Format) (w : Window) (x : Fraction) :
    AreNumerals (f.text w x) := by
  unfold Format.text
  refine areNumerals_append_iff.mpr ⟨areNumerals_signText _, ?_⟩
  split
  · simp [isNumeral, isDigit]
  · exact areNumerals_windowed (areNumerals_naturalText _) _ _

theorem text_ne_nil (f : Format) (w : Window) (x : Fraction) : f.text w x ≠ [] := by
  unfold Format.text
  refine List.append_ne_nil_of_right_ne_nil _ ?_
  split
  · exact List.cons_ne_nil _ _
  · exact windowed_ne_nil (naturalText_ne_nil _) _ _

end Courier.Decimal
