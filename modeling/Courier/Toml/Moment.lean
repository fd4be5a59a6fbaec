import Courier.Decimal.Layout
import Courier.Text.Numeral

/-!
# Dates and times

A date, a time of day, or both with a distance from universal time if it is known. The normal form
has `T` between date and time, `Z` for no distance, and no idle zeros in the fraction of a second
except one that stands alone.
-/

namespace Courier.Toml.Moment

open Courier.Text Courier.Decimal

/-- The two digits of a number below a hundred. -/
def twoDigits (n : Nat) : List Char :=
  [Nat.digitChar (n / 10), Nat.digitChar (n % 10)]

/-- The number that two characters are the digits of. -/
def pair? (a b : Char) : Option Nat :=
  if isDigit a && isDigit b then some (decimalValue [a, b]) else none

/-- Whether a year has a leap day. -/
def isLeap (year : Nat) : Bool :=
  year % 4 = 0 && (year % 100 ≠ 0 || year % 400 = 0)

/-- The number of days of a month. -/
def daysOf (year month : Nat) : Nat :=
  if month = 2 then (if isLeap year then 29 else 28)
  else if month = 4 ∨ month = 6 ∨ month = 9 ∨ month = 11 then 30
  else 31

/-- The normal form of a date at the front of a text, and the text behind it. -/
def readDate? : List Char → Option (List Char × List Char)
  | a :: b :: c :: d :: '-' :: e :: f :: '-' :: g :: h :: rest => do
    let year := 100 * (← pair? a b) + (← pair? c d)
    let month ← pair? e f
    let day ← pair? g h
    if 1 ≤ month ∧ month ≤ 12 ∧ 1 ≤ day ∧ day ≤ daysOf year month then
      some ([a, b, c, d, '-', e, f, '-', g, h], rest)
    else none
  | _ => none

/-- The normal form of the digits of a fraction: nine at most, and no zeros at the end. -/
def fraction (digits : List Char) : List Char :=
  let kept := ((digits.take 9).reverse.dropWhile (· = '0')).reverse
  if kept.isEmpty then ['0'] else kept

/-- The normal form of seconds at the front of a text, if there are any. -/
def readSeconds? : List Char → Option (List Char × List Char)
  | ':' :: a :: b :: rest => do
    let seconds ← pair? a b
    if 60 < seconds then none
    else
      match rest with
      | '.' :: tail =>
        let digits := tail.takeWhile isDigit
        if digits.isEmpty then none
        else some ([':', a, b, '.'] ++ fraction digits, tail.dropWhile isDigit)
      | _ => some ([':', a, b], rest)
  | ':' :: _ => none
  | rest => some ([], rest)

/-- The normal form of a time of day at the front of a text, and the text behind it. -/
def readTime? : List Char → Option (List Char × List Char)
  | a :: b :: ':' :: c :: d :: rest => do
    let hour ← pair? a b
    let minute ← pair? c d
    if 23 < hour ∨ 59 < minute then none
    else
      let (seconds, left) ← readSeconds? rest
      some ([a, b, ':', c, d] ++ seconds, left)
  | _ => none

/-- The normal form of a distance from universal time, which may be missing. -/
def offset? : List Char → Option (List Char)
  | [] => some []
  | ['Z'] | ['z'] => some ['Z']
  | [sign, a, b, ':', c, d] => do
    let hours ← pair? a b
    let minutes ← pair? c d
    if (sign ≠ '+' ∧ sign ≠ '-') ∨ 23 < hours ∨ 59 < minutes then none
    else
      let sign := if hours = 0 ∧ minutes = 0 then '+' else sign
      some ([sign] ++ twoDigits hours ++ [':'] ++ twoDigits minutes)
  | _ => none

/-- Whether a character may stand between a date and a time. -/
def isSeparator (c : Char) : Bool :=
  c = 'T' || c = 't' || c = ' '

/-- The normal form of a date, a time or both. -/
def normalize? (text : List Char) : Option (List Char) :=
  match readDate? text with
  | some (date, []) => some date
  | some (date, mark :: rest) =>
    if isSeparator mark then do
      let (time, tail) ← readTime? rest
      let offset ← offset? tail
      some (date ++ ['T'] ++ time ++ offset)
    else none
  | none =>
    match readTime? text with
    | some (time, []) => some time
    | _ => none

end Courier.Toml.Moment
