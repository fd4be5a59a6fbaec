/-!
# Labels in ASCII

The encoding of a label of arbitrary characters in letters, digits and hyphens: the plain
characters first, then, for the others in ascending order, how far an insertion point has to walk
to the place of the next one, written in a base-36 numeral whose digit thresholds adapt.

`decode?` reads from left to right and keeps its whole state in `Progress`, so it is one fold over
the digits.
-/

namespace Courier.Idna.Punycode

/-- The threshold of the digit at a position of weight `k`, given the bias. -/
def threshold (k bias : Nat) : Nat :=
  if k ≤ bias + 1 then 1 else if bias + 26 ≤ k then 26 else k - bias

theorem threshold_pos (k bias : Nat) : 1 ≤ threshold k bias := by
  unfold threshold
  split
  · omega
  · split <;> omega

/-- How often a delta is divided on the way to the next bias, and what is left of it. -/
def shrink (delta : Nat) : Nat × Nat :=
  if 455 < delta then
    let (times, left) := shrink (delta / 35)
    (times + 1, left)
  else (0, delta)
termination_by delta
decreasing_by omega

/-- The bias after a delta, for a label that now has `count` characters. -/
def adapt (delta count : Nat) (first : Bool) : Nat :=
  let delta := if first then delta / 700 else delta / 2
  let (times, left) := shrink (delta + delta / count)
  36 * times + 36 * left / (left + 38)

/-- The value of a digit: the letters in either case, then the decimal digits. -/
def digitValue? (c : Char) : Option Nat :=
  if 'a' ≤ c ∧ c ≤ 'z' then some (c.toNat - 'a'.toNat)
  else if 'A' ≤ c ∧ c ≤ 'Z' then some (c.toNat - 'A'.toNat)
  else if '0' ≤ c ∧ c ≤ '9' then some (c.toNat - '0'.toNat + 26)
  else none

/-- The digit of a value below 36. -/
def digit (n : Nat) : Char :=
  if n < 26 then Char.ofNat ('a'.toNat + n) else Char.ofNat ('0'.toNat + (n - 26))

/-- The label so far, the code point and place of the next insertion, and the numeral being read:
its weight, its position, and the place it started from. -/
structure Progress where
  output : List Char
  code : Nat
  place : Nat
  bias : Nat
  weight : Nat
  position : Nat
  origin : Nat
  deriving Repr

/-- The insertion that a finished numeral asks for. -/
def Progress.insert? (p : Progress) : Option Progress :=
  let count := p.output.length + 1
  let code := p.code + p.place / count
  let place := p.place % count
  if code.isValidChar then
    some {
      output := p.output.take place ++ Char.ofNat code :: p.output.drop place
      code := code
      place := place + 1
      bias := adapt (p.place - p.origin) count (p.origin = 0)
      weight := 1
      position := 36
      origin := place + 1 }
  else none

/-- What one digit does. -/
def Progress.read? (p : Progress) (c : Char) : Option Progress :=
  match digitValue? c with
  | none => none
  | some d =>
    let place := p.place + d * p.weight
    if 0xFFFFFFFF < place then none
    else
      let t := threshold p.position p.bias
      if d < t then { p with place := place }.insert?
      else
        let weight := p.weight * (36 - t)
        if 0xFFFFFFFF < weight then none
        else some { p with place := place, weight := weight, position := p.position + 36 }

/-- The plain characters of an encoded label and its digits: the last hyphen divides them. -/
def divide (label : List Char) : List Char × List Char :=
  let digits := (label.reverse.takeWhile (· ≠ '-')).reverse
  if digits.length = label.length then ([], label)
  else (label.take (label.length - digits.length - 1), digits)

/-- The label that an encoded label stands for. -/
def decode? (label : List Char) : Option (List Char) :=
  let (plain, digits) := divide label
  if plain.all (fun c => c.toNat < 0x80) then
    let start : Progress := ⟨plain, 0x80, 0, 72, 1, 36, 0⟩
    match digits.foldlM Progress.read? start with
    | some p => if p.position = 36 ∧ p.weight = 1 then some p.output else none
    | none => none
  else none

/-- The base-36 numeral of a delta. -/
def numeral (n k bias : Nat) : List Char :=
  if n < threshold k bias then [digit n]
  else
    let t := threshold k bias
    digit (t + (n - t) % (36 - t)) :: numeral ((n - t) / (36 - t)) (k + 36) bias
termination_by n
decreasing_by
  have h1 := threshold_pos k bias
  have h3 := Nat.div_le_self (n - threshold k bias) (36 - threshold k bias)
  omega

/-- How far the encoding has come: digits last first, the delta that runs, the bias, and how many
characters are written. -/
structure Written where
  digits : List Char
  delta : Nat
  bias : Nat
  count : Nat
  first : Bool

/-- Writes every occurrence of one code point. -/
def Written.occurrences (w : Written) (code : Nat) (label : List Char) : Written :=
  label.foldl (fun w c =>
    if c.toNat < code then { w with delta := w.delta + 1 }
    else if c.toNat = code then
      { digits := (numeral w.delta 36 w.bias).reverse ++ w.digits
        delta := 0
        bias := adapt w.delta (w.count + 1) w.first
        count := w.count + 1
        first := false }
    else w) w

/-- The encoded form of a label, without the mark that announces it. -/
def encode (label : List Char) : List Char :=
  let plain := label.filter (fun c => c.toNat < 0x80)
  let others := ((label.map Char.toNat).filter (0x80 ≤ ·)).mergeSort.eraseDups
  let start : Written :=
    ⟨if plain.isEmpty then [] else '-' :: plain.reverse, 0, 72, plain.length, true⟩
  let (w, _) := others.foldl (fun (w, code) next =>
    let w := { w with delta := w.delta + (next - code) * (w.count + 1) }
    let w := w.occurrences next label
    ({ w with delta := w.delta + 1 }, next + 1)) (start, 0x80)
  w.digits.reverse

end Courier.Idna.Punycode
