import Courier.Text.Split
import Courier.Text.Numeral

/-!
# IPv6 addresses in URLs

Eight pieces of up to four hexadecimal digits between colons. One double colon stands for as many
zero pieces as are missing, and the last two pieces may be written as an IPv4 address.
-/

namespace Courier.Url.Ipv6

open Courier.Text

/-- The digits at the front of a text, `limit` at most, and what follows them. -/
def takeHex : Nat → List Char → List Char × List Char
  | 0, text => ([], text)
  | _ + 1, [] => ([], [])
  | limit + 1, c :: rest =>
    if (hexDigit? c).isSome then
      let (digits, left) := takeHex limit rest
      (c :: digits, left)
    else ([], c :: rest)

/-- No more is left than there was. -/
theorem takeHex_length_le (limit : Nat) (text : List Char) :
    (takeHex limit text).2.length ≤ text.length := by
  fun_induction takeHex limit text with
  | case1 => simp
  | case2 => simp
  | case3 limit c rest _ digits left heq ih => simp_all; omega
  | case4 => simp

/-- A byte in decimal without leading zeros. -/
def byte? (digits : List Char) : Option Nat :=
  let plain := digits.all fun c => '0' ≤ c && c ≤ '9'
  match digits with
  | [] => none
  | '0' :: _ :: _ => none
  | _ => if plain && digits.length ≤ 3 && decimalValue digits ≤ 255 then some (decimalValue digits)
    else none

/-- The two pieces that an embedded IPv4 address stands for. -/
def embedded? (text : List Char) : Option (List Nat) :=
  match (fields '.' text).mapM byte? with
  | some [a, b, c, d] => some [256 * a + b, 256 * c + d]
  | _ => none

/-- The pieces so far, and how many of them stand before the double colon. -/
structure Pieces where
  values : List Nat
  gap : Option Nat
  deriving Repr

/-- The pieces of a text, after those that were read before. -/
def readPieces (p : Pieces) (text : List Char) : Option Pieces :=
  match text with
  | [] => some p
  | ':' :: rest =>
    if 8 ≤ p.values.length ∨ p.gap.isSome then none
    else readPieces ⟨p.values ++ [0], some (p.values.length + 1)⟩ rest
  | c :: rest =>
    if 8 ≤ p.values.length then none
    else
      match _h : takeHex 4 (c :: rest) with
      | ([], _) => none
      | (digits, []) => some ⟨p.values ++ [hexValue digits], p.gap⟩
      | (digits, ':' :: d :: left) =>
        readPieces ⟨p.values ++ [hexValue digits], p.gap⟩ (d :: left)
      | (_, '.' :: _) =>
        if 6 < p.values.length then none
        else (embedded? (c :: rest)).map fun two => ⟨p.values ++ two, p.gap⟩
      | (_, _ :: _) => none
termination_by text.length
decreasing_by
  · simp
  · have := takeHex_length_le 4 (c :: rest)
    simp [_h] at this
    simp
    omega

/-- The eight pieces, with zeros in the place of the double colon. -/
def fill? (p : Pieces) : Option (List Nat) :=
  match p.gap with
  | none => if p.values.length = 8 then some p.values else none
  | some gap =>
    some (p.values.take gap ++ List.replicate (8 - p.values.length) 0 ++ p.values.drop gap)

/-- The pieces of an address written without its brackets. -/
def parse? (text : List Char) : Option (List Nat) :=
  match text with
  | [] | [_] => none
  | ':' :: ':' :: rest => (readPieces ⟨[0], some 1⟩ rest).bind fill?
  | ':' :: _ => none
  | text => (readPieces ⟨[], none⟩ text).bind fill?

end Courier.Url.Ipv6
