import Courier.Proofs.Decimal.Shortest
import Courier.Proofs.Json.Numbers

/-!
# Fractions are number tokens

However a finite number is laid out, with its point inside of the digits, before or behind them, or
with an exponent, there is a digit on each side of the point and no idle zero in front.

Results:

* `isUnsigned_windowed`: the layouts of a numeral that begins with no zero.
* `isNumber_text`: **the text of a finite number is a number token.**
-/

namespace Courier.Json

open Courier.Decimal Courier.Text

variable {letters digits more : List Char} {first : Char} {exponent : ℤ}

/-! ## Without a sign -/

/-- A number token without a sign. -/
inductive IsUnsigned : List Char → Prop
  | mk {whole fraction exponent : List Char} (hw : IsWholeNumeral whole) (hf : IsFraction fraction)
      (he : IsExponent exponent) : IsUnsigned (whole ++ (fraction ++ exponent))

theorem IsUnsigned.isNumber (h : IsUnsigned letters) (negative : Bool) :
    IsNumber (signText negative ++ letters) := by
  obtain ⟨hw, hf, he⟩ := h
  refine .mk ?_ hw hf he
  cases negative with
  | false => exact .inl rfl
  | true => exact .inr rfl

theorem isUnsigned_of_fraction {whole fraction : List Char} (hw : IsWholeNumeral whole)
    (hf : IsFraction fraction) : IsUnsigned (whole ++ fraction) := by
  have h := IsUnsigned.mk hw hf .none
  rwa [List.append_nil] at h

theorem isUnsigned_zero : IsUnsigned ['0', '.', '0'] :=
  isUnsigned_of_fraction .zero (.some ⟨List.cons_ne_nil _ _, by simp [isDigit]⟩)

/-! ## Layouts -/

/-- Digits, the first of which is not zero. -/
def IsSignificant (digits : List Char) : Prop :=
  (∀ c ∈ digits, isDigit c = true) ∧ ∃ first more, digits = first :: more ∧ first ≠ '0'

theorem isSignificant_naturalText {n : ℕ} (h : n ≠ 0) : IsSignificant (naturalText n) :=
  ⟨fun _ => isDigit_of_mem_naturalText, exists_naturalText_eq_cons h⟩

theorem IsSignificant.isWholeNumeral (h : IsSignificant digits) : IsWholeNumeral digits := by
  obtain ⟨hall, first, more, rfl, hz⟩ := h
  obtain ⟨hf, hr⟩ := List.forall_mem_cons.mp hall
  exact .digits hf hz hr

/-- Behind digits there may be more of them. -/
theorem IsSignificant.append (h : IsSignificant digits) (hm : ∀ c ∈ more, isDigit c = true) :
    IsSignificant (digits ++ more) := by
  obtain ⟨hall, first, rest, rfl, hz⟩ := h
  exact ⟨List.forall_mem_append.mpr ⟨hall, hm⟩, first, rest ++ more, rfl, hz⟩

theorem IsSignificant.take (h : IsSignificant digits) {n : ℕ} (hn : 0 < n) :
    IsSignificant (digits.take n) := by
  obtain ⟨hall, first, rest, rfl, hz⟩ := h
  obtain ⟨n, rfl⟩ := Nat.exists_eq_add_of_lt hn
  refine ⟨fun c hc => hall c (List.mem_of_mem_take hc), first, rest.take n, ?_, hz⟩
  rw [Nat.zero_add, List.take_succ_cons]

theorem isRun_drop (h : ∀ c ∈ digits, isDigit c = true) {n : ℕ} (hn : n < digits.length) :
    IsRun (digits.drop n) :=
  ⟨List.ne_nil_of_length_pos (by rw [List.length_drop]; omega),
    fun c hc => h c (List.mem_of_mem_drop hc)⟩

/-- Digits with a negative power of ten have a point inside, or behind a zero in front. -/
theorem isUnsigned_positional (h : IsSignificant digits) (he : exponent < 0) :
    IsUnsigned (positional digits exponent) := by
  unfold positional
  dsimp only
  rw [if_neg (Int.not_le.mpr he)]
  split
  · next hpoint =>
    have hpos : 0 < ((digits.length : ℤ) + exponent).toNat := by omega
    have hlt : ((digits.length : ℤ) + exponent).toNat < digits.length := by omega
    exact isUnsigned_of_fraction (h.take hpos).isWholeNumeral (.some (isRun_drop h.1 hlt))
  · have hrun : IsRun (zeros (-((digits.length : ℤ) + exponent)).toNat ++ digits) := by
      obtain ⟨hall, first, rest, rfl, -⟩ := h
      exact ⟨List.append_ne_nil_of_right_ne_nil _ (List.cons_ne_nil _ _),
        List.forall_mem_append.mpr ⟨fun _ => isDigit_of_mem_zeros, hall⟩⟩
    have h := isUnsigned_of_fraction .zero (.some hrun)
    rwa [List.append_assoc]

/-- A whole number gets a point and a zero. -/
theorem isUnsigned_whole (h : IsSignificant digits) (he : 0 ≤ exponent) :
    IsUnsigned (positional digits exponent ++ ['.', '0']) := by
  have hwhole := (h.append fun _ => isDigit_of_mem_zeros (n := exponent.toNat)).isWholeNumeral
  unfold positional
  dsimp only
  rw [if_pos he]
  exact isUnsigned_of_fraction hwhole (.some ⟨List.cons_ne_nil _ _, by simp [isDigit]⟩)

theorem isExponent_integerText (i : ℤ) : IsExponent ('e' :: integerText i) := by
  have hrun : IsRun (naturalText i.natAbs) :=
    ⟨naturalText_ne_nil _, fun _ => isDigit_of_mem_naturalText⟩
  unfold integerText
  split
  · exact .some (.inl rfl) (.inr (.inr rfl)) hrun
  · exact .some (.inl rfl) (.inl rfl) hrun

/-- **The layouts of digits that begin with no zero.** -/
theorem isUnsigned_windowed (w : Window) (h : IsSignificant digits) (exponent : ℤ) :
    IsUnsigned (windowed w digits exponent) := by
  unfold windowed
  dsimp only
  split
  · next hwhole => exact isUnsigned_whole h hwhole.1
  split
  · next hwhole hpoint =>
    refine isUnsigned_positional h (Int.not_le.mp fun he => hwhole ⟨he, hpoint.2⟩)
  · obtain ⟨hall, first, rest, rfl, hz⟩ := h
    obtain ⟨hf, hr⟩ := List.forall_mem_cons.mp hall
    have hfirst : IsWholeNumeral [first] := .digits hf hz nofun
    have hfraction : IsFraction (if rest.isEmpty then [] else '.' :: rest) := by
      split
      · exact .none
      · next hne => exact .some ⟨fun he => hne (he ▸ rfl), hr⟩
    exact .mk hfirst hfraction (isExponent_integerText _)

/-! ## Finite numbers -/

/-- **The text of a finite number is a number token.** -/
theorem isNumber_text {f : Format} {x : Fraction} (hp : f.precision ≤ 53) (h : f.Holds x)
    (w : Window) : IsNumber (f.text w x) := by
  unfold Format.text
  refine IsUnsigned.isNumber ?_ x.negative
  split
  · exact isUnsigned_zero
  · next hne =>
    have hbits : x.significand < 2 ^ 53 :=
      Nat.lt_of_lt_of_le h (Nat.pow_le_pow_right (by decide) hp)
    have hdigits := isSignificant_naturalText (digits_shortest_ne_zero f .toEven hne hbits)
    exact isUnsigned_windowed w hdigits _

end Courier.Json
