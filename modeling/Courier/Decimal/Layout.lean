import Courier.Decimal.Shortest

/-!
# Writing numbers

Two ways to write the shortest numeral of a number: positional throughout, or positional near one
and with an exponent elsewhere.
-/

namespace Courier.Decimal

/-- The decimal numeral of a natural number. -/
def naturalText (n : Nat) : List Char :=
  Nat.toDigits 10 n

/-- The decimal numeral of an integer. -/
def integerText (i : Int) : List Char :=
  if i < 0 then '-' :: naturalText i.natAbs else naturalText i.natAbs

/-- As many zeros. -/
def zeros (n : Nat) : List Char :=
  List.replicate n '0'

/-- The minus sign of a negative number. -/
def signText (negative : Bool) : List Char :=
  if negative then ['-'] else []

/-- Digits and a power of ten, with a point where units end: none for a whole number. -/
def positional (digits : List Char) (exponent : Int) : List Char :=
  let point := (digits.length : Int) + exponent
  if 0 ≤ exponent then digits ++ zeros exponent.toNat
  else if 0 < point then digits.take point.toNat ++ '.' :: digits.drop point.toNat
  else ['0', '.'] ++ zeros (-point).toNat ++ digits

/-- The positional text of a number: no point in a whole number, a tie upward. -/
def plainText : Binary → List Char
  | .nan => ['N', 'a', 'N']
  | .infinite negative => signText negative ++ ['i', 'n', 'f']
  | .finite x =>
    signText x.negative ++
      if x.significand = 0 then ['0']
      else
        let (digits, exponent) := Format.double.shortest .upward x
        positional (naturalText digits) exponent

/-- Where positional writing ends: the most places before the point, and the least power of ten
that the first digit may have. -/
structure Window where
  places : Int
  least : Int
  deriving Repr

/-- The text of digits with a power of ten: positional inside the window and then with at least
one place after the point, else with an exponent. -/
def windowed (w : Window) (digits : List Char) (exponent : Int) : List Char :=
  let point := (digits.length : Int) + exponent
  if 0 ≤ exponent ∧ point ≤ w.places then positional digits exponent ++ ['.', '0']
  else if w.least < point ∧ point ≤ w.places then positional digits exponent
  else
    match digits with
    | [] => []
    | first :: rest =>
      first :: (if rest.isEmpty then [] else '.' :: rest) ++ 'e' :: integerText (point - 1)

/-- The window of numbers of 64 bits. -/
def doubleWindow : Window := ⟨16, -5⟩

/-- The window of numbers of 32 bits. -/
def singleWindow : Window := ⟨13, -6⟩

/-- The text of a finite number of a format: a tie to the even digit. -/
def Format.text (f : Format) (w : Window) (x : Fraction) : List Char :=
  signText x.negative ++
    if x.significand = 0 then ['0', '.', '0']
    else
      let (digits, exponent) := f.shortest .toEven x
      windowed w (naturalText digits) exponent

end Courier.Decimal
