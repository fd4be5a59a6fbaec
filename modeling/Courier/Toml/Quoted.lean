import Courier.Text.Found
import Courier.Text.Numeral

/-!
# Quoted strings

A string stands between quotes or apostrophes, one of them on one line or three over many lines.
Between quotes a backslash begins an escape; at the end of a line it takes away that line end and
all blanks after it. A line end right after three opening marks does not count.
-/

namespace Courier.Toml

open Courier.Text

/-- A character that may stand in a string as it is: no control but the tab. -/
def isPlain (c : Char) : Bool :=
  c = '\t' || (' ' ≤ c && c ≠ '\x7F')

/-- The character of a number, unless there is none. -/
def scalarValue? (n : Nat) : Option Char :=
  if n < 0xD800 ∨ (0xDFFF < n ∧ n ≤ 0x10FFFF) then some (Char.ofNat n) else none

/-- The text behind some digits is shorter, if there are that many. -/
theorem length_drop_lt {count : Nat} {text : List Char}
    (h : (text.take count).length = count ∧ 0 < count) :
    (text.drop count).length < text.length := by
  have := h.1
  simp at this
  simp
  omega

/-- The character that so many hexadecimal digits number. -/
def readNumbered (count : Nat) (text : List Char) : Option (Found Char text) :=
  let digits := text.take count
  if h : digits.length = count ∧ 0 < count then
    if areDigits 16 digits then
      (scalarValue? (hexValue digits)).map fun c => ⟨c, text.drop count, length_drop_lt h⟩
    else none
  else none

/-- The character that a letter behind a backslash stands for. -/
def letterEscape? : Char → Option Char
  | 'b' => some '\x08'
  | 't' => some '\t'
  | 'n' => some '\n'
  | 'f' => some '\x0C'
  | 'r' => some '\r'
  | 'e' => some '\x1B'
  | '"' => some '"'
  | '\\' => some '\\'
  | _ => none

/-- How many digits a letter behind a backslash asks for. -/
def escapeDigits? : Char → Option Nat
  | 'x' => some 2
  | 'u' => some 4
  | 'U' => some 8
  | _ => none

/-- The character that an escape stands for, from behind the backslash on. -/
def readEscape (text : List Char) : Option (Found Char text) :=
  match text with
  | [] => none
  | c :: rest =>
    match letterEscape? c, escapeDigits? c with
    | some d, _ => some (.head d c rest)
    | none, some count => (readNumbered count rest).map (·.behind c)
    | none, none => none

/-- A string on one line, from behind its opening quote on. -/
def readBasic (text : List Char) : Option (Found (List Char) text) :=
  match text with
  | [] => none
  | c :: rest =>
    if c = '"' then some (.head [] c rest)
    else if c = '\\' then
      match readEscape rest with
      | none => none
      | some escaped =>
        (readBasic escaped.rest).map fun found =>
          (escaped.andThen (found.map (escaped.value :: ·))).behind c
    else if isPlain c then
      (readBasic rest).map fun found => (found.map (c :: ·)).behind c
    else none
termination_by text.length
decreasing_by
  · exact escaped.rest_lt_cons c
  · exact length_lt_cons c rest

/-- A string on one line without escapes, from behind its opening apostrophe on. -/
def readLiteral (text : List Char) : Option (Found (List Char) text) :=
  match text with
  | [] => none
  | c :: rest =>
    if c = '\'' then some (.head [] c rest)
    else if isPlain c then
      (readLiteral rest).map fun found => (found.map (c :: ·)).behind c
    else none

/-- The text behind three characters, and up to two more of a kind, is shorter. -/
theorem length_closing_lt (a b c mark : Char) (rest : List Char) :
    (rest.drop ((rest.take 2).takeWhile (· = mark)).length).length <
      (a :: b :: c :: rest).length := by
  simp
  omega

/-- Three marks in a row close a string over many lines; up to two more before them belong to it. -/
def closing (mark : Char) (text : List Char) : Option (Found (List Char) text) :=
  match text with
  | a :: b :: c :: rest =>
    if a = mark ∧ b = mark ∧ c = mark then
      let more := (rest.take 2).takeWhile (· = mark)
      some ⟨more, rest.drop more.length, length_closing_lt a b c mark rest⟩
    else none
  | _ => none

/-- The text behind line ends and blanks. -/
def skipLines (text : List Char) : Option (List Char) :=
  match text with
  | ' ' :: rest | '\t' :: rest | '\n' :: rest | '\r' :: '\n' :: rest => skipLines rest
  | '\r' :: _ => none
  | rest => some rest

/-- Skipping makes no text longer. -/
theorem skipLines_length_le {text rest : List Char} (h : skipLines text = some rest) :
    rest.length ≤ text.length := by
  fun_induction skipLines text with
  | case5 => simp at h
  | case6 => simp_all
  | _ => simp_all; omega

/-- Whether only blanks stand before the end of the line. -/
def endsLine (text : List Char) : Bool :=
  match text.dropWhile (fun c => c = ' ' || c = '\t') with
  | '\n' :: _ | '\r' :: '\n' :: _ => true
  | _ => false

/-- A string over many lines, from behind its opening quotes on. -/
def readLines (text : List Char) : Option (Found (List Char) text) :=
  match closing '"' text with
  | some found => some found
  | none =>
    match text with
    | [] => none
    | c :: rest =>
      if c = '\\' then
        if endsLine rest then
          match h : skipLines rest with
          | none => none
          | some left =>
            (readLines left).map fun found =>
              (found.within (skipLines_length_le h)).behind c
        else
          match readEscape rest with
          | none => none
          | some escaped =>
            (readLines escaped.rest).map fun found =>
              (escaped.andThen (found.map (escaped.value :: ·))).behind c
      else if isPlain c ∨ c = '\n' ∨ (c = '\r' ∧ rest.head? = some '\n') then
        (readLines rest).map fun found => (found.map (c :: ·)).behind c
      else none
termination_by text.length
decreasing_by
  · exact Nat.lt_succ_of_le (skipLines_length_le h)
  · exact escaped.rest_lt_cons c
  · exact length_lt_cons c rest

/-- A string over many lines without escapes, from behind its opening apostrophes on. -/
def readLiteralLines (text : List Char) : Option (Found (List Char) text) :=
  match closing '\'' text with
  | some found => some found
  | none =>
    match text with
    | [] => none
    | c :: rest =>
      if isPlain c ∨ c = '\n' ∨ (c = '\r' ∧ rest.head? = some '\n') then
        (readLiteralLines rest).map fun found => (found.map (c :: ·)).behind c
      else none

/-- The text without a line end at its front. -/
def dropLineEnd (text : List Char) : List Char :=
  match text with
  | '\n' :: rest | '\r' :: '\n' :: rest => rest
  | rest => rest

/-- Dropping makes no text longer. -/
theorem dropLineEnd_length_le (text : List Char) : (dropLineEnd text).length ≤ text.length := by
  unfold dropLineEnd
  split <;> simp
  omega

/-- A string on one line, if the text begins with one. -/
def readQuoted (text : List Char) : Option (Found (List Char) text) :=
  match text with
  | '"' :: rest => (readBasic rest).map (·.behind _)
  | '\'' :: rest => (readLiteral rest).map (·.behind _)
  | _ => none

/-- A string, if the text begins with one. -/
def readString (text : List Char) : Option (Found (List Char) text) :=
  match text with
  | '"' :: '"' :: '"' :: rest =>
    (readLines (dropLineEnd rest)).map fun found =>
      (((found.within (dropLineEnd_length_le rest)).behind _).behind _).behind _
  | '\'' :: '\'' :: '\'' :: rest =>
    (readLiteralLines (dropLineEnd rest)).map fun found =>
      (((found.within (dropLineEnd_length_le rest)).behind _).behind _).behind _
  | text => readQuoted text

end Courier.Toml
