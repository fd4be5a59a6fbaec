import Courier.Text.Split
import Courier.Text.Numeral

/-!
# IPv4 addresses in URLs

An address has one to four parts; every part but the last fills one byte and the last fills all
bytes that are left. A part is decimal, octal behind `0`, or hexadecimal behind `0x`. A host whose
last part looks like a number has to be an address.
-/

namespace Courier.Url.Ipv4

open Courier.Text

/-- The value of one part. The marks of octal and hexadecimal alone mean zero. -/
def part? (text : List Char) : Option Nat :=
  match text with
  | [] => none
  | '0' :: 'x' :: digits | '0' :: 'X' :: digits =>
    if areDigits 16 digits then some (numeralValue 16 digits) else none
  | '0' :: d :: digits =>
    if areDigits 8 (d :: digits) then some (numeralValue 8 (d :: digits)) else none
  | digits => if areDigits 10 digits then some (numeralValue 10 digits) else none

/-- The parts of a host; a full stop at the end counts for nothing. -/
def parts (host : List Char) : List (List Char) :=
  let all := fields '.' host
  if all.getLast? = some [] then all.dropLast else all

/-- Whether the last part of a host looks like a number. -/
def endsInNumber (host : List Char) : Bool :=
  match (parts host).getLast? with
  | none => false
  | some last => (!last.isEmpty && areDigits 10 last) || (part? last).isSome

/-- The address that the values of the parts make up. -/
def assemble? (values : List Nat) : Option Nat :=
  match values.getLast? with
  | none => none
  | some last =>
    let leading := values.dropLast
    if 4 < values.length then none
    else if leading.any (255 < ·) then none
    else if Nat.pow 256 (4 - leading.length) ≤ last then none
    else some ((leading.foldl (fun n b => 256 * n + b) 0) * Nat.pow 256 (4 - leading.length) + last)

/-- The address that a host is the numeral of. -/
def parse? (host : List Char) : Option Nat :=
  match (parts host).mapM part? with
  | none => none
  | some values => assemble? values

end Courier.Url.Ipv4
