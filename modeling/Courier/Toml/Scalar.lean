import Courier.Text.Numeral
import Courier.Toml.Basic
import Courier.Toml.Moment

/-!
# Words without quotes

What a word stands for: a truth value, a number, a date or a time. Digits may be grouped by
underscores, each of them between two digits.
-/

namespace Courier.Toml

open Courier.Text

/-- Whether every underscore has a character of a kind on both sides; `before` is the character
that comes first. -/
def underscoresFit (p : Char → Bool) : Option Char → List Char → Bool
  | _, [] => true
  | before, c :: rest =>
    (c ≠ '_' || (before.any p && rest.head?.any p)) && underscoresFit p (some c) rest

/-- The characters without underscores. -/
def ungroup (text : List Char) : List Char :=
  text.filter (· ≠ '_')

/-- A digit of any base. -/
def isAnyDigit (c : Char) : Bool :=
  (hexDigit? c).isSome

/-- A digit or an underscore. -/
def isGrouped (c : Char) : Bool :=
  isDigit c || c = '_'

/-- A zero before other digits. -/
def leadsWithZero (body : List Char) : Bool :=
  match body with
  | '0' :: _ :: _ => true
  | _ => false

/-- The digits of a part of a number, and what follows them; none if there is no digit. -/
def takeGrouped (text : List Char) : Option (List Char × List Char) :=
  let digits := text.takeWhile isGrouped
  if digits.any isDigit then some (digits, text.dropWhile isGrouped) else none

/-- Whether a text is an exponent, or nothing. -/
def isExponent : List Char → Bool
  | [] => true
  | mark :: rest =>
    let digits := match rest with
      | '+' :: tail | '-' :: tail => tail
      | tail => tail
    (mark = 'e' || mark = 'E') &&
      match takeGrouped digits with
      | some (_, []) => true
      | _ => false

/-- Whether a text without its sign is a fraction: whole digits without a zero before others, then
places, an exponent or both. -/
def isFraction (body : List Char) : Bool :=
  match takeGrouped body with
  | none => false
  | some (whole, rest) =>
    !leadsWithZero (ungroup whole) &&
      match rest with
      | '.' :: tail =>
        match takeGrouped tail with
        | none => false
        | some (_, rest) => isExponent rest
      | rest => isExponent rest

/-- The integer that the digits of a base are. -/
def basedInteger? (base : Nat) (digits : List Char) : Option Value :=
  if (ungroup digits).all (fun c => (hexDigit? c).any (· < base)) &&
    underscoresFit isAnyDigit none digits then some (.integer base (ungroup digits))
  else none

/-- The number or moment that a word is: `body` is the word without its sign. -/
def number? (sign body : List Char) : Option Value :=
  let rest := body.dropWhile isDigit
  let whole : Option Value :=
    if leadsWithZero body || !underscoresFit isAnyDigit none (sign ++ body) then none
    else some (.integer 10 (sign ++ ungroup body))
  match rest with
  | [] => if body.isEmpty then none else whole
  | c :: _ =>
    if c = '-' ∨ c = ':' then
      if sign.isEmpty then (Moment.normalize? body).map fun t => .moment (String.ofList t)
      else none
    else if rest.any fun d => d = '.' || d = 'e' || d = 'E' then
      if isFraction body && underscoresFit isDigit none (sign ++ body) then
        some (.float (sign ++ ungroup body))
      else none
    else if c = '_' then whole
    else none

/-- What a word stands for. -/
def scalar? (word : List Char) : Option Value :=
  match word with
  | ['t', 'r', 'u', 'e'] => some (.bool true)
  | ['f', 'a', 'l', 's', 'e'] => some (.bool false)
  | '0' :: 'x' :: digits => basedInteger? 16 digits
  | '0' :: 'o' :: digits => basedInteger? 8 digits
  | '0' :: 'b' :: digits => basedInteger? 2 digits
  | _ =>
    let (sign, body) := match word with
      | '+' :: rest => (['+'], rest)
      | '-' :: rest => (['-'], rest)
      | rest => ([], rest)
    if body = ['i', 'n', 'f'] ∨ body = ['n', 'a', 'n'] then some (.float word)
    else number? sign body

end Courier.Toml
