import Courier.Idna.Mapping
import Courier.Idna.Marks
import Courier.Idna.Normalization
import Courier.Idna.Direction
import Courier.Idna.Joining
import Courier.Idna.Punycode

/-!
# Domain names

From a domain name as it is written to the form that is looked up: map each character, bring the
text into normal form, and check and encode each label. A label that is announced as encoded has
to be the encoding of a label that the same rules admit and would not change.

`toAscii?` refuses a name that breaks a rule, without saying which.
-/

namespace Courier.Idna

open Courier.Text

/-- The characters that may not stand in a domain name although they are ASCII. -/
def isForbidden (c : Char) : Bool :=
  c.toNat ≤ 0x20 || c.toNat = 0x7F ||
    ['%', '#', '/', ':', '<', '>', '?', '@', '[', '\\', ']', '^', '|'].contains c

/-- Whether the character is one of ASCII. -/
def isAscii (c : Char) : Bool :=
  c.toNat < 0x80

/-- The mark that announces an encoded label. -/
def encodedMark : List Char := ['x', 'n', '-', '-']

/-- The label behind a label of a normalized name: itself, or what it is the encoding of. -/
def behind? (label : List Char) : Option (List Char) :=
  if encodedMark.isPrefixOf label then
    match Punycode.decode? (label.drop encodedMark.length) with
    | some inner =>
      if inner.all isAscii then none
      else if inner.all (fun c => isAscii c || isKept c) && normalize inner == inner then some inner
      else none
    | none => none
  else some label

/-- Whether a zero-width non-joiner may stand between the text before it, last first, and the
text after it: next to letters that join across it. -/
def joinsAcross (before after : List Char) : Bool :=
  let isTransparent := fun c => joining c == .transparent
  match before.dropWhile isTransparent, after.dropWhile isTransparent with
  | l :: _, r :: _ =>
    (joining l == .leftward || joining l == .dual) &&
      (joining r == .rightward || joining r == .dual)
  | _, _ => false

/-- Whether each invisible joiner of a label stands where it has an effect; the text before is
given last first. -/
def joinersFit (before : List Char) : List Char → Bool
  | [] => true
  | c :: rest =>
    let afterVirama := match before with
      | [] => false
      | b :: _ => combiningClass b == 9
    let fits :=
      if c = '\u200D' then afterVirama
      else if c = '\u200C' then afterVirama || joinsAcross before rest
      else true
    fits && joinersFit (c :: before) rest

/-- Whether a label may stand in a domain name. -/
def isValidLabel (label : List Char) : Bool :=
  match label with
  | [] => true
  | c :: _ =>
    !marks.contains c && label.all (fun c => !isForbidden c && c ≠ '.')
      && joinersFit [] label

/-- Whether some character of the label runs from right to left. -/
def runsRightToLeft (label : List Char) : Bool :=
  label.any fun c =>
    direction c == .right || direction c == .arabic || direction c == .arabicNumber

/-- Whether the directions of a label's characters cannot mix with those of its neighbours. -/
def directionsFit (label : List Char) : Bool :=
  match label.map direction with
  | [] => true
  | first :: rest =>
    let all := first :: rest
    let last := (all.reverse.dropWhile (· == .nonspacing)).head?
    let neutral := fun d => d == .europeanNumber || d == .europeanSeparator
      || d == .europeanTerminator || d == .commonSeparator || d == .otherNeutral
      || d == .boundary || d == .nonspacing
    if first == .left then
      all.all (fun d => d == .left || neutral d)
        && (last == some .left || last == some .europeanNumber)
    else if first == .right || first == .arabic then
      all.all (fun d => d == .right || d == .arabic || d == .arabicNumber || neutral d)
        && (last == some .right || last == some .arabic || last == some .europeanNumber
          || last == some .arabicNumber)
        && !(all.contains .europeanNumber && all.contains .arabicNumber)
    else false

/-- The form of a label that is looked up. -/
def encodeLabel (label : List Char) : List Char :=
  if label.all isAscii then label else encodedMark ++ Punycode.encode label

/-- Each character of the name mapped; `none` if one of them is not admitted. -/
def mapAll? : List Char → Option (List Char)
  | [] => some []
  | c :: rest =>
    match mapChar? c, mapAll? rest with
    | some mapped, some others => some (mapped ++ others)
    | _, _ => none

/-- The form of a domain name that is looked up. -/
def toAscii? (name : List Char) : Option (List Char) :=
  match mapAll? name with
  | none => none
  | some mapped =>
    match (fields '.' (normalize mapped)).mapM behind? with
    | none => none
    | some plain =>
      if plain.all isValidLabel && (!plain.any runsRightToLeft || plain.all directionsFit) then
        some (joinFields '.' (plain.map encodeLabel))
      else none

end Courier.Idna
