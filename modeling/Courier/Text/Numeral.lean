/-!
# Numerals

The value of a numeral in a base of two to sixteen.
-/

namespace Courier.Text

/-- A decimal digit. -/
def isDigit (c : Char) : Bool :=
  '0' ≤ c && c ≤ '9'

/-- The value of a hexadecimal digit in either case. -/
def hexDigit? (c : Char) : Option Nat :=
  if '0' ≤ c ∧ c ≤ '9' then some (c.toNat - '0'.toNat)
  else if 'a' ≤ c ∧ c ≤ 'f' then some (c.toNat - 'a'.toNat + 10)
  else if 'A' ≤ c ∧ c ≤ 'F' then some (c.toNat - 'A'.toNat + 10)
  else none

/-- The value of a hexadecimal numeral; characters that are no digits count as zero. -/
def hexValue (digits : List Char) : Nat :=
  digits.foldl (fun n c => 16 * n + (hexDigit? c).getD 0) 0

/-- The value of a decimal numeral made of the digits `0` to `9`. -/
def decimalValue (digits : List Char) : Nat :=
  digits.foldl (fun n c => 10 * n + (c.toNat - '0'.toNat)) 0

/-- The greatest number of 64 bits. -/
def maxWord : Nat := Nat.pow 2 64 - 1

/-- The number that a numeral is: digits behind at most a plus, and not above a limit. -/
def boundedNumeral? (limit : Nat) (text : List Char) : Option Nat :=
  let digits := match text with
    | '+' :: rest => rest
    | rest => rest
  if digits.isEmpty || !digits.all isDigit || limit < decimalValue digits then none
  else some (decimalValue digits)

/-- The value of a numeral in a base up to sixteen; characters that are no digits count as zero. -/
def numeralValue (base : Nat) (digits : List Char) : Nat :=
  digits.foldl (fun n c => base * n + (hexDigit? c).getD 0) 0

/-- Whether all characters are digits of a base up to sixteen. -/
def areDigits (base : Nat) (digits : List Char) : Bool :=
  digits.all fun c => match hexDigit? c with
    | some d => d < base
    | none => false

end Courier.Text
