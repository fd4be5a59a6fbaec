import Courier.Decimal.Layout

/-!
# Durations

A span of time in whole nanoseconds. It is shown in the largest of four units that it reaches, as a
decimal fraction without idle zeros.
-/

namespace Courier

open Courier.Decimal

/-- A span of time. -/
structure Duration where
  nanoseconds : Nat
  deriving Repr, DecidableEq

namespace Duration

/-- So many seconds. -/
def ofSeconds (n : Nat) : Duration := ⟨n * 1000000000⟩

/-- So many thousandths of a second. -/
def ofMillis (n : Nat) : Duration := ⟨n * 1000000⟩

/-- The whole seconds. -/
def seconds (d : Duration) : Nat := d.nanoseconds / 1000000000

/-- The whole thousandths of a second. -/
def millis (d : Duration) : Nat := d.nanoseconds / 1000000

/-- A unit of time: how many nanoseconds it has, as a power of ten, and its sign. -/
structure Scale where
  power : Nat
  sign : String
  deriving Repr

/-- The units, largest first. -/
def scales : List Scale := [⟨9, "s"⟩, ⟨6, "ms"⟩, ⟨3, "µs"⟩]

/-- The unit that a duration is shown in. -/
def scale (d : Duration) : Scale :=
  (scales.find? fun s => Nat.pow 10 s.power ≤ d.nanoseconds).getD ⟨0, "ns"⟩

/-- The digits of a fraction with so many places, without the zeros at its end. -/
def fraction (places part : Nat) : List Char :=
  let digits := naturalText part
  ((zeros (places - digits.length) ++ digits).reverse.dropWhile (· = '0')).reverse

/-- The text of a duration. -/
def text (d : Duration) : List Char :=
  let unit := Nat.pow 10 d.scale.power
  let part := fraction d.scale.power (d.nanoseconds % unit)
  naturalText (d.nanoseconds / unit) ++ (if part.isEmpty then [] else '.' :: part) ++
    d.scale.sign.toList

end Duration

end Courier
