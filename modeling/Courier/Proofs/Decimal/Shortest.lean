import Courier.Decimal.Shortest
import Mathlib

/-!
# Shortest numerals are found

The search for the shortest numeral of a number goes through a few powers of ten only, from one that
is too large. That is enough, since a number of at most 53 bits is less than ten to the seventeen
times as large as the half of its interval that lies above it.

Results:

* `holds_shortest`: **what is found lies in the interval of what rounds to the number**, and so has
  a digit other than zero.
* `holds_of_round`: rounding gives numbers of no more bits than a format keeps.
-/

namespace Courier.Decimal

/-- A number with a significand of no more bits than a format keeps. -/
def Format.Holds (f : Format) (x : Fraction) : Prop :=
  x.significand < 2 ^ f.precision

/-! ## Numbers of digits -/

theorem lt_pow_length_toDigits (n : ℕ) : n < 10 ^ (Nat.toDigits 10 n).length :=
  (Nat.length_toDigits_le_iff (by decide) Nat.length_toDigits_pos).mp (Nat.le_refl _)

theorem pow_pred_length_toDigits_le {n : ℕ} (h : n ≠ 0) :
    10 ^ ((Nat.toDigits 10 n).length - 1) ≤ n := by
  by_cases hone : (Nat.toDigits 10 n).length - 1 = 0
  · rw [hone]
    exact Nat.one_le_iff_ne_zero.mpr h
  · refine Nat.le_of_not_lt fun hlt => ?_
    have hle := (Nat.length_toDigits_le_iff (by decide) (Nat.pos_of_ne_zero hone)).mpr hlt
    omega

/-! ## Intervals -/

namespace Interval

variable {i : Interval} {tie : Tie} {digits : ℕ}

/-- What is nearest lies in the interval. -/
theorem holds_of_nearest? (h : i.nearest? tie = some digits) : i.holds digits = true := by
  cases hb : i.holds (i.value / i.den) with
  | false =>
    cases ha : i.holds (i.value / i.den + 1) with
    | false => simp [nearest?, hb, ha] at h
    | true =>
      simp only [nearest?, hb, ha, Option.some.injEq] at h
      exact h ▸ ha
  | true =>
    cases ha : i.holds (i.value / i.den + 1) with
    | false =>
      simp only [nearest?, hb, ha, Option.some.injEq] at h
      exact h ▸ hb
    | true =>
      -- Both neighbours lie in it, so that either may be taken.
      have hboth : digits = i.value / i.den ∨ digits = i.value / i.den + 1 := by
        simp only [nearest?, hb, ha] at h
        grind
      rcases hboth with rfl | rfl <;> assumption

/-- The next natural number above the value lies in an interval whose upper half is longer than one
unit. -/
theorem isSome_nearest? (hd : 0 < i.den) (hl : i.low ≤ i.value) (hw : i.value + i.den < i.high) :
    (i.nearest? tie).isSome = true := by
  have hbelow : i.value < (i.value / i.den + 1) * i.den := by
    rw [Nat.mul_comm]
    exact Nat.lt_mul_div_succ i.value hd
  have habove : (i.value / i.den + 1) * i.den ≤ i.value + i.den := by
    rw [Nat.succ_mul]
    exact Nat.add_le_add_right (Nat.div_mul_le_self _ _) _
  have hnext : i.holds (i.value / i.den + 1) = true := by
    unfold holds
    split <;> simp only [Bool.and_eq_true, decide_eq_true_eq] <;> omega
  unfold nearest?
  simp only [hnext]
  cases i.holds (i.value / i.den) with
  | false => rfl
  | true =>
    simp only
    repeat' split
    all_goals rfl

/-- A number in an interval above zero is not zero. -/
theorem ne_zero_of_holds (hl : 0 < i.low) (h : i.holds digits = true) : digits ≠ 0 := by
  rintro rfl
  unfold holds at h
  split at h <;> simp only [Nat.zero_mul, Bool.and_eq_true, decide_eq_true_eq] at h <;> omega

/-- An interval around a number that is not zero, and not too narrow above it. -/
structure Surrounds (i : Interval) : Prop where
  den_pos : 0 < i.den
  low_pos : 0 < i.low
  low_le : i.low ≤ i.value
  wide : i.value < 10 ^ 17 * (i.high - i.value)

/-- In units of ten to an exponent the ends keep their order. -/
theorem Surrounds.inUnits (h : i.Surrounds) (exponent : ℤ) :
    0 < (i.inUnits exponent).den ∧ 0 < (i.inUnits exponent).low ∧
      (i.inUnits exponent).low ≤ (i.inUnits exponent).value := by
  have hpow (n : ℕ) : 0 < Nat.pow 10 n := Nat.pow_pos (by decide)
  unfold Interval.inUnits
  split
  · exact ⟨Nat.mul_pos h.den_pos (hpow _), h.low_pos, h.low_le⟩
  · exact ⟨h.den_pos, Nat.mul_pos h.low_pos (hpow _), Nat.mul_le_mul_right _ h.low_le⟩

/-- How many more digits a value has than the denominator. -/
def excess (i : Interval) : ℤ :=
  (Nat.toDigits 10 i.value).length - (Nat.toDigits 10 i.den).length

section

variable {a b k den w : ℕ} (hden : den < 10 ^ b) (hw : 10 ^ a < 10 ^ 17 * w)

include hden hw

/-- A unit above one is shorter than what has at most so many digits less than the value. -/
theorem den_mul_lt (h : a = b + k + 21) : den * 10 ^ k < w := by
  have hlow : 10 ^ (b + k + 4) < w := by
    rw [show a = 17 + (b + k + 4) by omega, pow_add] at hw
    exact Nat.lt_of_mul_lt_mul_left hw
  calc
    den * 10 ^ k ≤ 10 ^ b * 10 ^ k := Nat.mul_le_mul_right _ hden.le
    _ = 10 ^ (b + k) := (pow_add 10 b k).symm
    _ ≤ 10 ^ (b + k + 4) := Nat.pow_le_pow_right (by decide) (by omega)
    _ < w := hlow

/-- So is a unit below one. -/
theorem den_lt_mul (h : a + k = b + 21) : den < w * 10 ^ k := by
  have hscaled : 10 ^ (17 + (b + 4)) < 10 ^ 17 * (w * 10 ^ k) := by
    rw [show 17 + (b + 4) = a + k by omega, pow_add, ← Nat.mul_assoc]
    exact Nat.mul_lt_mul_of_pos_right hw (Nat.pow_pos (by decide))
  rw [pow_add] at hscaled
  calc
    den < 10 ^ b := hden
    _ ≤ 10 ^ (b + 4) := Nat.pow_le_pow_right (by decide) (by omega)
    _ < w * 10 ^ k := Nat.lt_of_mul_lt_mul_left hscaled

end

/-- A unit is shorter than the upper half, twenty-two places below the first digit. -/
theorem Surrounds.unit_lt (h : i.Surrounds) :
    (i.inUnits (i.excess - 22)).value + (i.inUnits (i.excess - 22)).den <
      (i.inUnits (i.excess - 22)).high := by
  have hden := lt_pow_length_toDigits i.den
  have hvalue : 10 ^ ((Nat.toDigits 10 i.value).length - 1) ≤ i.value :=
    pow_pred_length_toDigits_le (Nat.ne_of_gt (Nat.lt_of_lt_of_le h.low_pos h.low_le))
  have hpos : 0 < (Nat.toDigits 10 i.value).length := Nat.length_toDigits_pos
  have hwide := h.wide
  have hhigh : i.value ≤ i.high := by omega
  obtain ⟨w, hw⟩ := Nat.exists_eq_add_of_le hhigh
  rw [hw, Nat.add_sub_cancel_left] at hwide
  have hlow := Nat.lt_of_le_of_lt hvalue hwide
  unfold excess Interval.inUnits
  rw [hw]
  split
  · next hk =>
    obtain ⟨k, hk⟩ := Int.eq_ofNat_of_zero_le hk
    rw [hk, Int.toNat_natCast]
    exact Nat.add_lt_add_left (den_mul_lt hden hlow (by omega)) i.value
  · next hk =>
    obtain ⟨k, hk⟩ :=
      Int.eq_ofNat_of_zero_le (Int.le_of_lt (Int.neg_pos_of_neg (Int.not_le.mp hk)))
    rw [hk, Int.toNat_natCast]
    change i.value * 10 ^ k + i.den < (i.value + w) * 10 ^ k
    rw [Nat.add_mul]
    exact Nat.add_lt_add_left (den_lt_mul hden hlow (by omega)) _

/-! ## The search -/

/-- What the search finds is nearest in units that it has tried, if there is anything. -/
theorem nearest?_of_search {steps back : ℕ} {exponent : ℤ} (hb : back < steps)
    (h : ((i.inUnits (exponent - back)).nearest? tie).isSome = true) :
    (i.inUnits (i.search tie steps exponent).2).nearest? tie =
      some (i.search tie steps exponent).1 := by
  induction steps generalizing back exponent with
  | zero => exact absurd hb (Nat.not_lt_zero back)
  | succ steps ih =>
    unfold search
    split
    · next hfound => exact hfound
    · next hnone =>
      cases back with
      | zero =>
        rw [Int.natCast_zero, Int.sub_zero, hnone] at h
        cases h
      | succ back =>
        refine ih (Nat.lt_of_succ_lt_succ hb) ?_
        rwa [show exponent - 1 - back = exponent - (back + 1 : ℕ) by push_cast; omega]

/-- **What the search finds lies in the interval.** -/
theorem Surrounds.holds_search (h : i.Surrounds) (tie : Tie) :
    (i.inUnits (i.search tie 24 (i.excess + 1)).2).holds (i.search tie 24 (i.excess + 1)).1 =
      true := by
  obtain ⟨hden, -, hle⟩ := h.inUnits (i.excess - 22)
  have hsome : ((i.inUnits (i.excess + 1 - (23 : ℕ))).nearest? tie).isSome = true := by
    rw [show i.excess + 1 - (23 : ℕ) = i.excess - 22 by push_cast; omega]
    exact isSome_nearest? hden hle h.unit_lt
  exact holds_of_nearest? (nearest?_of_search (by decide : 23 < 24) hsome)

end Interval

/-! ## Numbers -/

variable {f : Format} {x : Fraction}

/-- An interval around so many quarters of a power of two is not too narrow for the search. -/
theorem surrounds_of_quarters {m low scale den : ℕ} (hm : m ≠ 0) (hx : m < 2 ^ 53)
    (hlow : low = 4 * m - 1 ∨ low = 4 * m - 2) (hs : 0 < scale) (hd : 0 < den) (closed : Bool) :
    Interval.Surrounds ⟨low * scale, 4 * m * scale, (4 * m + 2) * scale, den, closed⟩ where
  den_pos := hd
  low_pos := Nat.mul_pos (by omega) hs
  low_le := Nat.mul_le_mul_right scale (by omega)
  wide := by
    change 4 * m * scale < 10 ^ 17 * ((4 * m + 2) * scale - 4 * m * scale)
    rw [← Nat.sub_mul, Nat.add_sub_cancel_left, ← Nat.mul_assoc]
    exact Nat.mul_lt_mul_of_pos_right (by omega) hs

/-- The interval of a number is not too narrow for the search. -/
theorem surrounds_interval (f : Format) (h : x.significand ≠ 0) (hx : x.significand < 2 ^ 53) :
    (f.interval x).Surrounds := by
  have hpow (n : ℕ) : 0 < Nat.pow 2 n := Nat.pow_pos (by decide)
  unfold Format.interval
  dsimp only
  split
  · exact surrounds_of_quarters h hx (ite_eq_or_eq _ _ _) (hpow _) Nat.one_pos _
  · have hs {low : ℕ} (hlow : low = 4 * x.significand - 1 ∨ low = 4 * x.significand - 2) :=
      surrounds_of_quarters h hx hlow Nat.one_pos (hpow (2 - x.exponent).toNat)
        (decide (x.significand % 2 = 0))
    simp only [Nat.mul_one] at hs
    exact hs (ite_eq_or_eq _ _ _)

/-- **The shortest numeral rounds to the number**: it lies in the interval of what does. -/
theorem holds_shortest (f : Format) (tie : Tie) (h : x.significand ≠ 0)
    (hx : x.significand < 2 ^ 53) :
    ((f.interval x).inUnits (f.shortest tie x).2).holds (f.shortest tie x).1 = true :=
  (surrounds_interval f h hx).holds_search tie

theorem digits_shortest_ne_zero (f : Format) (tie : Tie) (h : x.significand ≠ 0)
    (hx : x.significand < 2 ^ 53) : (f.shortest tie x).1 ≠ 0 :=
  Interval.ne_zero_of_holds ((surrounds_interval f h hx).inUnits _).2.1 (holds_shortest f tie h hx)

/-! ## Rounding -/

theorem divideToEven_le {num den c : ℕ} (h : num < c * den) : divideToEven num den ≤ c := by
  have hq : num / den < c := Nat.div_lt_of_lt_mul (by rwa [Nat.mul_comm])
  unfold divideToEven
  dsimp only
  split <;> omega

section

variable {num den c : ℕ}

theorem unscale_of_nonneg (k : ℕ) : unscale num den k = (num, den * 2 ^ k) := by
  unfold unscale
  rw [if_pos (Int.natCast_nonneg k), Int.toNat_natCast]
  rfl

theorem unscale_of_nonpos (k : ℕ) : unscale num den (-k) = (num * 2 ^ k, den) := by
  cases k with
  | zero =>
    have h : unscale num den (0 : ℕ) = (num, den * 2 ^ 0) := unscale_of_nonneg 0
    simpa using h
  | succ k =>
    unfold unscale
    rw [if_neg (by omega), Int.neg_neg, Int.toNat_natCast]
    rfl

/-- Divided by twice as much a ratio stays below a bound. -/
theorem unscale_lt_succ {exponent : ℤ}
    (h : (unscale num den exponent).1 < c * (unscale num den exponent).2) :
    (unscale num den (exponent + 1)).1 < c * (unscale num den (exponent + 1)).2 := by
  have hpow (k : ℕ) : 2 ^ k ≤ 2 ^ (k + 1) := Nat.pow_le_pow_right (by decide) (Nat.le_succ k)
  cases exponent with
  | ofNat k =>
    rw [Int.ofNat_eq_natCast, unscale_of_nonneg] at h
    rw [show Int.ofNat k + 1 = (k + 1 : ℕ) from rfl, unscale_of_nonneg]
    exact Nat.lt_of_lt_of_le h (Nat.mul_le_mul_left c (Nat.mul_le_mul_left den (hpow k)))
  | negSucc k =>
    rw [Int.negSucc_eq, show -((k : ℤ) + 1) = -(k + 1 : ℕ) from rfl, unscale_of_nonpos] at h
    rw [show Int.negSucc k + 1 = -(k : ℤ) by omega, unscale_of_nonpos]
    exact Nat.lt_of_le_of_lt (Nat.mul_le_mul_left num (hpow k)) h

theorem unscale_lt_mono {exponent other : ℤ} (he : exponent ≤ other)
    (h : (unscale num den exponent).1 < c * (unscale num den exponent).2) :
    (unscale num den other).1 < c * (unscale num den other).2 := by
  obtain ⟨k, rfl⟩ := Int.le.dest he
  induction k with
  | zero => rwa [Int.natCast_zero, Int.add_zero]
  | succ k ih =>
    rw [Int.natCast_succ, ← Int.add_assoc]
    exact unscale_lt_succ (ih (by omega))

/-- A ratio has at most one bit more than its parts differ by. -/
theorem unscale_lt_two_pow (precision : ℕ) (hd : den ≠ 0) :
    (unscale num den (num.log2 - den.log2 - precision + 1)).1 <
      2 ^ precision * (unscale num den (num.log2 - den.log2 - precision + 1)).2 := by
  have hnum : num < 2 ^ (num.log2 + 1) := Nat.lt_log2_self
  have hden : 2 ^ den.log2 ≤ den := Nat.log2_self_le hd
  obtain ⟨k, hk | hk⟩ := ((num.log2 : ℤ) - den.log2 - precision + 1).eq_nat_or_neg
  · rw [hk, unscale_of_nonneg]
    calc
      num < 2 ^ precision * (2 ^ den.log2 * 2 ^ k) := by
        rwa [← pow_add, ← pow_add, show precision + (den.log2 + k) = num.log2 + 1 by omega]
      _ ≤ 2 ^ precision * (den * 2 ^ k) :=
        Nat.mul_le_mul_left _ (Nat.mul_le_mul_right _ hden)
  · rw [hk, unscale_of_nonpos]
    calc
      num * 2 ^ k < 2 ^ (num.log2 + 1) * 2 ^ k :=
        Nat.mul_lt_mul_of_pos_right hnum (Nat.pow_pos (by decide))
      _ = 2 ^ precision * 2 ^ den.log2 := by
        rw [← pow_add, ← pow_add, show num.log2 + 1 + k = precision + den.log2 by omega]
      _ ≤ 2 ^ precision * den := Nat.mul_le_mul_left _ hden

/-- At its exponent a ratio has no more bits than the format keeps. -/
theorem unscale_exponentFor_lt (f : Format) (hd : den ≠ 0) :
    (unscale num den (f.exponentFor num den)).1 <
      2 ^ f.precision * (unscale num den (f.exponentFor num den)).2 := by
  unfold Format.exponentFor
  dsimp only
  refine unscale_lt_mono (le_max_right _ _) ?_
  split
  · exact unscale_lt_two_pow f.precision hd
  · next h => exact Nat.not_le.mp h

end

/-- **Rounding gives numbers of no more bits than a format keeps.** -/
theorem holds_of_round {negative : Bool} {num den : ℕ} (hd : den ≠ 0)
    (h : f.round negative num den = .finite x) : f.Holds x := by
  have hpow : 0 < 2 ^ f.precision := Nat.pow_pos (by decide)
  have hle : divideToEven (unscale num den (f.exponentFor num den)).1
      (unscale num den (f.exponentFor num den)).2 ≤ 2 ^ f.precision :=
    divideToEven_le (unscale_exponentFor_lt f hd)
  unfold Format.Holds
  unfold Format.round at h
  split at h
  · cases h
    exact hpow
  · dsimp only at h
    generalize divideToEven (unscale num den (f.exponentFor num den)).1
      (unscale num den (f.exponentFor num den)).2 = significand at h hle
    by_cases he : significand = Nat.pow 2 f.precision
    · rw [if_pos he] at h
      split at h
      · cases h
      · cases h
        change significand / 2 < _
        change significand = 2 ^ f.precision at he
        omega
    · rw [if_neg he] at h
      split at h
      · cases h
      · cases h
        exact Nat.lt_of_le_of_ne hle he

end Courier.Decimal
