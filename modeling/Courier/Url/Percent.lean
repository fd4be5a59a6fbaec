import Courier.Text.Numeral

/-!
# Percent-encoded bytes

`%` and two hexadecimal digits stand for a byte. A `%` that is followed by anything else stands
for itself.
-/

namespace Courier.Url.Percent

open Courier.Text

/-- The byte that two characters, taken as bytes, are the hexadecimal digits of. -/
def byte? (a b : UInt8) : Option UInt8 :=
  match hexDigit? (Char.ofNat a.toNat), hexDigit? (Char.ofNat b.toNat) with
  | some high, some low => some (16 * high + low).toUInt8
  | _, _ => none

/-- The bytes that a text in bytes stands for. -/
def decode : List UInt8 → List UInt8
  | a :: b :: c :: rest =>
    if a = 0x25 then
      match byte? b c with
      | some byte => byte :: decode rest
      | none => a :: decode (b :: c :: rest)
    else a :: decode (b :: c :: rest)
  | rest => rest

end Courier.Url.Percent
