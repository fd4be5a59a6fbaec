import Courier.Idna.CombiningClass
import Courier.Idna.Decomposition

/-!
# Normal form

The composed normal form of a text: every character is taken apart, marks after a base are put in
the order of their classes, and what can be composed is composed again. Korean syllables follow
arithmetic rules instead of the table.
-/

namespace Courier.Idna

open Courier.Text

namespace Hangul

/-- The first precomposed syllable. -/
def syllableBase : Nat := 0xAC00

/-- The first leading consonant, the first vowel, and the code point before the first trailing
consonant. -/
def leadBase : Nat := 0x1100

@[inherit_doc leadBase]
def vowelBase : Nat := 0x1161

@[inherit_doc leadBase]
def trailBase : Nat := 0x11A7

/-- The numbers of leading consonants, of vowels, and of trailing consonants with none. -/
def leadCount : Nat := 19

@[inherit_doc leadCount]
def vowelCount : Nat := 21

@[inherit_doc leadCount]
def trailCount : Nat := 28

/-- The letters of a precomposed syllable. -/
def decompose? (n : Nat) : Option (List Nat) :=
  if syllableBase ≤ n ∧ n < syllableBase + leadCount * vowelCount * trailCount then
    let s := n - syllableBase
    let letters := [leadBase + s / (vowelCount * trailCount),
      vowelBase + s % (vowelCount * trailCount) / trailCount]
    if s % trailCount = 0 then some letters else some (letters ++ [trailBase + s % trailCount])
  else none

/-- The syllable that two letters, or an open syllable and a trailing consonant, make up. -/
def compose? (a b : Nat) : Option Nat :=
  if leadBase ≤ a ∧ a < leadBase + leadCount ∧ vowelBase ≤ b ∧ b < vowelBase + vowelCount then
    some (syllableBase + ((a - leadBase) * vowelCount + (b - vowelBase)) * trailCount)
  else if syllableBase ≤ a ∧ a < syllableBase + leadCount * vowelCount * trailCount
      ∧ (a - syllableBase) % trailCount = 0 ∧ trailBase < b ∧ b < trailBase + trailCount then
    some (a + (b - trailBase))
  else none

end Hangul

/-- The parts of a character, taken apart `depth` times over. -/
def decomposeTimes : Nat → Char → List Char
  | 0, c => [c]
  | depth + 1, c =>
    match Hangul.decompose? c.toNat with
    | some letters => letters.map Char.ofNat
    | none =>
      match decompositions.find? c with
      | some row => (row.value.parts.map Char.ofNat).flatMap (decomposeTimes depth)
      | none => [c]

/-- The parts of a character; the table nests at most four deep. -/
def decomposeChar (c : Char) : List Char :=
  decomposeTimes 4 c

/-- Puts a character behind marks that are in order, last first, before those of higher class. -/
def insertMark (c : Char) : List Char → List Char
  | [] => [c]
  | d :: rest =>
    if combiningClass c ≠ 0 ∧ combiningClass c < combiningClass d then d :: insertMark c rest
    else c :: d :: rest

/-- The text with the marks after each base in ascending order of class, ties as they stood. -/
def orderMarks (text : List Char) : List Char :=
  (text.foldl (fun reversed c => insertMark c reversed) []).reverse

/-- The character that two characters compose to. -/
def composePair? (a b : Char) : Option Char :=
  match Hangul.compose? a.toNat b.toNat with
  | some n => some (Char.ofNat n)
  | none =>
    (decompositions.rows.find? fun row =>
      !row.value.oneWay && row.value.parts == [a.toNat, b.toNat]).map fun row =>
        Char.ofNat row.first

/-- Composition from left to right: the base that still takes marks, the marks behind it that did
not compose, last first, and the rest of the text. -/
def composeFrom : Option Char → List Char → List Char → List Char
  | base, marks, [] => base.toList ++ marks.reverse
  | none, marks, c :: rest =>
    if combiningClass c = 0 then marks.reverse ++ composeFrom (some c) [] rest
    else composeFrom none (c :: marks) rest
  | some base, marks, c :: rest =>
    let blocked := match marks with
      | [] => false
      | last :: _ => combiningClass c ≤ combiningClass last
    match if blocked then none else composePair? base c with
    | some composed => composeFrom (some composed) marks rest
    | none =>
      if combiningClass c = 0 then base :: marks.reverse ++ composeFrom (some c) [] rest
      else composeFrom (some base) (c :: marks) rest

/-- The composed normal form of a text. -/
def normalize (text : List Char) : List Char :=
  if text.all (fun c => c.toNat < 0x80) then text
  else composeFrom none [] (orderMarks (text.flatMap decomposeChar))

end Courier.Idna
