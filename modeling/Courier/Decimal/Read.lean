import Courier.Decimal.Binary
import Courier.Text.Numeral

/-!
# Reading decimal numerals

A numeral is a sign, digits with at most one point, and an exponent. It is read as an exact ratio
and rounded once. An exponent so large or small that the result is out of reach is not expanded.
-/

namespace Courier.Decimal

open Courier.Text

/-- A decimal numeral: its digits as one natural number, how many there are, and the power of ten
by which they count. -/
structure Numeral where
  digits : Nat
  count : Nat
  exponent : Int
  deriving Repr

/-- The number of a format nearest to a numeral. -/
def Format.ofNumeral (f : Format) (negative : Bool) (n : Numeral) : Binary :=
  if n.digits = 0 then .finite ⟨negative, 0, f.lowest⟩
  else if (400 : Int) < n.exponent then .infinite negative
  else if n.exponent + n.count < -400 then .finite ⟨negative, 0, f.lowest⟩
  else if 0 ≤ n.exponent then f.round negative (n.digits * Nat.pow 10 n.exponent.toNat) 1
  else f.round negative n.digits (Nat.pow 10 (-n.exponent).toNat)

/-- A sign at the front, if there is one, and what follows it. -/
def takeSign : List Char → Bool × List Char
  | '-' :: rest => (true, rest)
  | '+' :: rest => (false, rest)
  | rest => (false, rest)

/-- The exponent that a text of sign and digits writes. -/
def exponent? (text : List Char) : Option Int :=
  let (negative, digits) := takeSign text
  if digits.isEmpty || !digits.all isDigit then none
  else some (if negative then -(decimalValue digits : Int) else decimalValue digits)

/-- Reads a numeral without a sign. -/
def Numeral.read? (text : List Char) : Option Numeral :=
  let whole := text.takeWhile isDigit
  let afterWhole := text.dropWhile isDigit
  let (fraction, tail) := match afterWhole with
    | '.' :: rest => (rest.takeWhile isDigit, rest.dropWhile isDigit)
    | rest => ([], rest)
  let digits := whole ++ fraction
  if digits.isEmpty then none
  else
    let exponent := match tail with
      | [] => some 0
      | 'e' :: rest | 'E' :: rest => exponent? rest
      | _ => none
    exponent.map fun e => ⟨decimalValue digits, digits.length, e - fraction.length⟩

/-- The number that a text names: a numeral, `inf`, `infinity` or `nan` in any case. -/
def Format.read? (f : Format) (text : List Char) : Option Binary :=
  let (negative, rest) := takeSign text
  match String.ofList (rest.map Char.toLower) with
  | "inf" | "infinity" => some (.infinite negative)
  | "nan" => some .nan
  | _ => (Numeral.read? rest).map (f.ofNumeral negative)

end Courier.Decimal
