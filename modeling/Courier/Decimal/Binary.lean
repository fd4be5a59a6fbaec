/-!
# Binary floating-point numbers

A finite number is a sign, a natural significand and a power of two, so every operation is exact
arithmetic followed by one rounding. A format bounds the significand and the exponent; rounding
goes to the nearest number of the format, and a number half way between two goes to the one whose
significand is even.
-/

namespace Courier.Decimal

/-- A finite number: the significand times two to the exponent, negated if it is negative. -/
structure Fraction where
  negative : Bool
  significand : Nat
  exponent : Int
  deriving Repr, DecidableEq

/-- A number of a binary format. -/
inductive Binary where
  | finite (value : Fraction)
  | infinite (negative : Bool)
  | nan
  deriving Repr, DecidableEq

/-- A binary format: the bits of a significand and the least and greatest exponent. -/
structure Format where
  precision : Nat
  lowest : Int
  highest : Int
  deriving Repr

/-- The format of 64 bits. -/
def Format.double : Format := ⟨53, -1074, 971⟩

/-- The format of 32 bits. -/
def Format.single : Format := ⟨24, -149, 104⟩

/-- The quotient rounded to the nearest natural number, a half to the even neighbour. -/
def divideToEven (num den : Nat) : Nat :=
  let quotient := num / den
  let twice := 2 * (num % den)
  if den < twice ∨ (twice = den ∧ quotient % 2 = 1) then quotient + 1 else quotient

/-- Numerator and denominator of the ratio divided by two to the exponent. -/
def unscale (num den : Nat) (exponent : Int) : Nat × Nat :=
  if 0 ≤ exponent then (num, den * Nat.pow 2 exponent.toNat)
  else (num * Nat.pow 2 (-exponent).toNat, den)

/-- The exponent at which a positive ratio has a significand of full precision, or the lowest. -/
def Format.exponentFor (f : Format) (num den : Nat) : Int :=
  let guess : Int := (num.log2 : Int) - den.log2 - f.precision
  let (n, d) := unscale num den guess
  max f.lowest (if Nat.pow 2 f.precision * d ≤ n then guess + 1 else guess)

/-- The number of the format nearest to a ratio. -/
def Format.round (f : Format) (negative : Bool) (num den : Nat) : Binary :=
  if num = 0 then .finite ⟨negative, 0, f.lowest⟩
  else
    let exponent := f.exponentFor num den
    let (n, d) := unscale num den exponent
    let significand := divideToEven n d
    let (significand, exponent) :=
      if significand = Nat.pow 2 f.precision then (significand / 2, exponent + 1)
      else (significand, exponent)
    if f.highest < exponent then .infinite negative
    else .finite ⟨negative, significand, exponent⟩

/-- The magnitude of a finite number as a ratio. -/
def Fraction.ratio (x : Fraction) : Nat × Nat :=
  if 0 ≤ x.exponent then (x.significand * Nat.pow 2 x.exponent.toNat, 1)
  else (x.significand, Nat.pow 2 (-x.exponent).toNat)

/-- The product, rounded. -/
def Format.mul (f : Format) (x y : Fraction) : Binary :=
  let (a, b) := x.ratio
  let (c, d) := y.ratio
  f.round (x.negative != y.negative) (a * c) (b * d)

/-- The quotient by a number other than zero, rounded. -/
def Format.div (f : Format) (x y : Fraction) : Binary :=
  let (a, b) := x.ratio
  let (c, d) := y.ratio
  f.round (x.negative != y.negative) (a * d) (b * c)

/-- Whether two numbers are equal as numbers: both zeros are. -/
def Fraction.same (x y : Fraction) : Bool :=
  let (a, b) := x.ratio
  let (c, d) := y.ratio
  a * d = c * b && (x.negative = y.negative || a = 0)

/-- The magnitude rounded to a natural number, a half away from zero. -/
def Fraction.roundAway (x : Fraction) : Nat :=
  let (num, den) := x.ratio
  (2 * num + den) / (2 * den)

end Courier.Decimal
