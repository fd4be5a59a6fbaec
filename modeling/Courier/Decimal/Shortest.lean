import Courier.Decimal.Binary

/-!
# The shortest numeral of a number

Of all decimal numerals that round to a number, the one with the fewest digits, and of those the
nearest. The numerals that round to it fill an interval whose ends belong to it exactly when the
significand is even. Powers of ten are tried from above: the first of which a multiple lies in the
interval is the coarsest, and only the two neighbours of the number on that grid matter.
-/

namespace Courier.Decimal

/-- The interval of reals that round to a number, all over one denominator. -/
structure Interval where
  low : Nat
  value : Nat
  high : Nat
  den : Nat
  closed : Bool
  deriving Repr

/-- The interval that rounds to a positive number of the format. It is narrower below a power of
two, where the numbers beneath lie twice as dense. -/
def Format.interval (f : Format) (x : Fraction) : Interval :=
  let m := x.significand
  let atPower := m = Nat.pow 2 (f.precision - 1) ∧ f.lowest < x.exponent
  let low := if atPower then 4 * m - 1 else 4 * m - 2
  let closed := m % 2 = 0
  if 2 ≤ x.exponent then
    let scale := Nat.pow 2 (x.exponent - 2).toNat
    ⟨low * scale, 4 * m * scale, (4 * m + 2) * scale, 1, closed⟩
  else ⟨low, 4 * m, 4 * m + 2, Nat.pow 2 (2 - x.exponent).toNat, closed⟩

/-- The interval in units of ten to the exponent. -/
def Interval.inUnits (i : Interval) (exponent : Int) : Interval :=
  if 0 ≤ exponent then { i with den := i.den * Nat.pow 10 exponent.toNat }
  else
    let scale := Nat.pow 10 (-exponent).toNat
    { i with low := i.low * scale, value := i.value * scale, high := i.high * scale }

/-- Whether a natural number lies in the interval. -/
def Interval.holds (i : Interval) (n : Nat) : Bool :=
  if i.closed then i.low ≤ n * i.den && n * i.den ≤ i.high
  else i.low < n * i.den && n * i.den < i.high

/-- Which of two equally near numerals is taken. -/
inductive Tie where
  | toEven
  | upward
  deriving Repr, DecidableEq

/-- The natural number in the interval that is nearest to the value. -/
def Interval.nearest? (tie : Tie) (i : Interval) : Option Nat :=
  let below := i.value / i.den
  match i.holds below, i.holds (below + 1) with
  | false, false => none
  | true, false => some below
  | false, true => some (below + 1)
  | true, true =>
    let up := (below + 1) * i.den - i.value
    let down := i.value - below * i.den
    if down < up then some below
    else if up < down then some (below + 1)
    else match tie with
      | .toEven => some (if below % 2 = 0 then below else below + 1)
      | .upward => some (below + 1)

/-- The multiple of the greatest power of ten, at most `exponent`, that lies in the interval. -/
def Interval.search (tie : Tie) (i : Interval) : Nat → Int → Nat × Int
  | 0, exponent => (0, exponent)
  | steps + 1, exponent =>
    match (i.inUnits exponent).nearest? tie with
    | some digits => (digits, exponent)
    | none => search tie i steps (exponent - 1)

/-- The digits of the shortest numeral of a positive number, and the power of ten they count by.
Seventeen digits always suffice, and the first power tried is at most two too large. -/
def Format.shortest (f : Format) (tie : Tie) (x : Fraction) : Nat × Int :=
  let i := f.interval x
  let start : Int := ((Nat.toDigits 10 i.value).length : Int) - (Nat.toDigits 10 i.den).length + 1
  i.search tie 24 start

end Courier.Decimal
