import Courier.Toml.Draft
import Courier.Toml.Quoted
import Courier.Toml.Scalar

/-!
# Reading TOML

A document is a list of lines: headers, repeated headers, and keys with values. Within brackets
and braces line ends and comments count for nothing, and a comma may follow the last item.
-/

namespace Courier.Toml

open Courier.Text

/-- A blank within a line. -/
def isBlank (c : Char) : Bool :=
  c = ' ' || c = '\t'

/-- The text behind blanks. -/
def skipBlanks (text : List Char) : List Char :=
  text.dropWhile isBlank

/-- Skipping makes no text longer. -/
theorem skipBlanks_length_le (text : List Char) : (skipBlanks text).length ≤ text.length :=
  length_dropWhile_le _ _

/-- What stands behind a mark and blanks is shorter. -/
theorem skipBlanks_length_lt {text rest : List Char} {mark : Char}
    (h : skipBlanks text = mark :: rest) : (skipBlanks rest).length < text.length := by
  have h1 := skipBlanks_length_le text
  have h2 := skipBlanks_length_le rest
  rw [h, List.length_cons] at h1
  omega

/-- The text behind blanks, line ends and comments; `inComment` says where it begins. -/
def skipSpace (inComment : Bool) (text : List Char) : Option (List Char) :=
  match inComment, text with
  | _, [] => some []
  | _, '\n' :: rest | _, '\r' :: '\n' :: rest => skipSpace false rest
  | true, c :: rest => if isPlain c then skipSpace true rest else none
  | false, c :: rest =>
    if isBlank c then skipSpace false rest
    else if c = '#' then skipSpace true rest
    else some (c :: rest)

/-- Skipping makes no text longer. -/
theorem skipSpace_length_le {inComment : Bool} {text rest : List Char}
    (h : skipSpace inComment text = some rest) : rest.length ≤ text.length := by
  fun_induction skipSpace inComment text <;> simp_all <;> omega

/-- What stands behind an item and the mark after it is shorter. -/
theorem length_lt_of_skipSpace {α : Type} {text start rest : List Char} {mark : Char}
    (hs : skipSpace false text = some start) (item : Found α start)
    (he : skipSpace false item.rest = some (mark :: rest)) : rest.length < text.length :=
  Nat.lt_trans (skipSpace_length_le he) (item.rest_lt_of_le (skipSpace_length_le hs))

/-- The text behind the rest of a line that holds nothing but blanks and a comment. -/
def finishLine (inComment : Bool) (text : List Char) : Option (List Char) :=
  match inComment, text with
  | _, [] => some []
  | _, '\n' :: rest | _, '\r' :: '\n' :: rest => some rest
  | true, c :: rest => if isPlain c then finishLine true rest else none
  | false, c :: rest =>
    if isBlank c then finishLine false rest
    else if c = '#' then finishLine true rest
    else none

/-- Finishing a line makes no text longer. -/
theorem finishLine_length_le {inComment : Bool} {text rest : List Char}
    (h : finishLine inComment text = some rest) : rest.length ≤ text.length := by
  fun_induction finishLine inComment text <;> simp_all <;> omega

/-- Some blanks or comments make a text no longer, but a line that is finished is gone. -/
theorem finishLine_length_lt {c : Char} {text rest : List Char}
    (h : finishLine false (c :: text) = some rest) : rest.length < (c :: text).length := by
  unfold finishLine at h
  split at h
  · grind
  · grind
  · grind
  · grind
  · next heq =>
    obtain ⟨rfl, rfl⟩ := by simpa using heq
    split at h
    · have := finishLine_length_le h
      simp
      omega
    · split at h
      · have := finishLine_length_le h
        simp
        omega
      · simp at h

/-! ## Keys -/

/-- A character of a key without quotes. -/
def isKeyChar (c : Char) : Bool :=
  isDigit c || ('a' ≤ c && c ≤ 'z') || ('A' ≤ c && c ≤ 'Z') || c = '_' || c = '-'

/-- A key without points: in quotes, but not in three, or a run of key characters. -/
def readKey (text : List Char) : Option (Found String text) :=
  if ['"', '"', '"'].isPrefixOf text || ['\'', '\'', '\''].isPrefixOf text then none
  else if text.head? = some '"' ∨ text.head? = some '\'' then
    (readQuoted text).map (·.map String.ofList)
  else (takeRun isKeyChar text).map (·.map String.ofList)

/-- A key with points: its parts. -/
def readPath (text : List Char) : Option (Found (List String) text) :=
  match readKey text with
  | none => none
  | some first =>
    match h : skipBlanks first.rest with
    | '.' :: rest =>
      have hrest := Nat.lt_trans (skipBlanks_length_lt h) first.shorter
      (readPath (skipBlanks rest)).map fun found =>
        (found.map (first.value :: ·)).within (Nat.le_of_lt hrest)
    | _ => some (first.map fun key => [key])
termination_by text.length

/-! ## Values -/

/-- A character of a word without quotes. -/
def isWordChar (c : Char) : Bool :=
  !(c = ' ' || c = '\t' || c = '\n' || c = '\r' || c = ',' || c = '=' || c = '[' || c = ']' ||
    c = '\x7b' || c = '\x7d' || c = '#' || c = '"' || c = '\'')

/-- Whether a word could be a date that a time follows. -/
def isDate (word : List Char) : Bool :=
  match Moment.readDate? word with
  | some (_, []) => true
  | _ => false

/-- A word without quotes; a date goes on over one blank if a digit follows it. -/
def readWord (text : List Char) : Option (Found (List Char) text) :=
  match takeRun isWordChar text with
  | none => none
  | some word =>
    if isDate word.value then
      match h : word.rest with
      | ' ' :: rest =>
        if (rest.head?.map isDigit).getD false then
          (takeRun isWordChar rest).map fun time =>
            word.andThen (((time.map fun t => word.value ++ ' ' :: t).behind ' ').within
              (Nat.le_of_eq (congrArg List.length h.symm)))
        else some word
      | _ => some word
    else some word

/-- A reader of values. -/
abbrev ValueReader := (text : List Char) → Option (Found Value text)

/-- The items of an array, from behind its opening bracket or a comma on. -/
def readItems (item : ValueReader) (text : List Char) : Option (Found (List Value) text) :=
  match hs : skipSpace false text with
  | none => none
  | some (']' :: rest) => some ((Found.head [] _ rest).within (skipSpace_length_le hs))
  | some start =>
    match item start with
    | none => none
    | some first =>
      match he : skipSpace false first.rest with
      | some (']' :: rest) =>
        some ((first.andThen ((Found.head [first.value] _ rest).within
          (skipSpace_length_le he))).within (skipSpace_length_le hs))
      | some (',' :: rest) =>
        have hrest := length_lt_of_skipSpace hs first he
        (readItems item rest).map fun found =>
          (found.map (first.value :: ·)).within (Nat.le_of_lt hrest)
      | _ => none
termination_by text.length
decreasing_by exact hrest

/-- A key, the sign of equality and a value. -/
def readAssignment (item : ValueReader) (text : List Char) :
    Option (Found (List String × Value) text) :=
  match readPath text with
  | none => none
  | some path =>
    match h : skipBlanks path.rest with
    | '=' :: rest =>
      (item (skipBlanks rest)).map fun found =>
        path.andThen ((found.map (path.value, ·)).within (Nat.le_of_lt (skipBlanks_length_lt h)))
    | _ => none

/-- The fields of a table in braces, from behind its opening brace or a comma on. -/
def readFields (item : ValueReader) (done : Fields Draft) (text : List Char) :
    Option (Found (Fields Draft) text) :=
  match hs : skipSpace false text with
  | none => none
  | some ('}' :: rest) => some ((Found.head done _ rest).within (skipSpace_length_le hs))
  | some start =>
    match readAssignment item start with
    | none => none
    | some first =>
      match Draft.assign first.value.2 first.value.1 done with
      | none => none
      | some fields =>
        match he : skipSpace false first.rest with
        | some ('}' :: rest) =>
          some ((first.andThen ((Found.head fields _ rest).within
            (skipSpace_length_le he))).within (skipSpace_length_le hs))
        | some (',' :: rest) =>
          have hrest := length_lt_of_skipSpace hs first he
          (readFields item fields rest).map (·.within (Nat.le_of_lt hrest))
        | _ => none
termination_by text.length
decreasing_by exact hrest

/-- A word, as the value it stands for. -/
def readScalar (text : List Char) : Option (Found Value text) :=
  match readWord text with
  | none => none
  | some word => (scalar? word.value).map fun value => word.map fun _ => value

/-- A value in which brackets and braces stand in one another up to a depth. -/
def readValue (depth : Nat) : ValueReader := fun text =>
  match text with
  | [] => none
  | c :: rest =>
    if c = '"' ∨ c = '\'' then
      (readString (c :: rest)).map (·.map fun s => .string (String.ofList s))
    else if c = '[' then
      match depth with
      | 0 => none
      | depth + 1 =>
        (readItems (readValue depth) rest).map fun found => (found.map .array).behind c
    else if c = '{' then
      match depth with
      | 0 => none
      | depth + 1 =>
        (readFields (readValue depth) [] rest).map fun found =>
          (found.map fun fields => .table (Draft.finishFields fields)).behind c
    else readScalar (c :: rest)

/-- How deep brackets and braces may stand in one another. -/
def maxDepth : Nat := 80

/-! ## Documents -/

/-- What a line says. -/
inductive Line where
  | blank
  | header (path : List String)
  | repeated (path : List String)
  | assignment (path : List String) (value : Value)

/-- What stands behind a header is shorter. -/
theorem length_header_lt {text : List Char} {α : Type} (path : Found α (skipBlanks text))
    (n : Nat) : ((skipBlanks path.rest).drop n).length < text.length :=
  Nat.lt_of_le_of_lt
    (Nat.le_trans ((List.drop_sublist _ _).length_le) (skipBlanks_length_le path.rest))
    (path.rest_lt_of_le (skipBlanks_length_le text))

/-- A header from behind its opening bracket on, closed by brackets. -/
def readHeader (close : List Char) (text : List Char) : Option (Found (List String) text) :=
  match readPath (skipBlanks text) with
  | none => none
  | some path =>
    let behind := skipBlanks path.rest
    if close.isPrefixOf behind then
      some ⟨path.value, behind.drop close.length, length_header_lt path close.length⟩
    else none

/-- What the rest of a line is finished with. -/
def endLine {α : Type} {text : List Char} (found : Found α text) : Option (Found α text) :=
  match h : finishLine false found.rest with
  | none => none
  | some rest =>
    some ⟨found.value, rest, Nat.lt_of_le_of_lt (finishLine_length_le h) found.shorter⟩

/-- A line that is not blank, from its first character on. -/
def readLine (text : List Char) : Option (Found Line text) :=
  match text with
  | '[' :: '[' :: rest =>
    match readHeader [']', ']'] rest with
    | none => none
    | some path => endLine (((path.map .repeated).behind _).behind _)
  | '[' :: rest =>
    match readHeader [']'] rest with
    | none => none
    | some path => endLine ((path.map .header).behind _)
  | text =>
    match readAssignment (readValue maxDepth) text with
    | none => none
    | some found => endLine (found.map fun (path, value) => .assignment path value)

/-- The lines of a document that say something. -/
def readDocument (text : List Char) : Option (List Line) :=
  match text with
  | [] => some []
  | c :: more =>
    match h : finishLine false (c :: more) with
    | some rest =>
      have : rest.length < (c :: more).length := finishLine_length_lt h
      readDocument rest
    | none =>
      match readLine (skipBlanks (c :: more)) with
      | none => none
      | some line =>
        have : line.rest.length < (c :: more).length :=
          Nat.lt_of_lt_of_le line.shorter (length_dropWhile_le _ _)
        (readDocument line.rest).map (line.value :: ·)
termination_by text.length
decreasing_by all_goals assumption

/-- The document that lines make, below the header that holds for them. -/
def assemble (header : List String) (root : Fields Draft) : List Line → Option (Fields Draft)
  | [] => some root
  | .blank :: rest => assemble header root rest
  | .header path :: rest =>
    match path.getLast? with
    | none => none
    | some key =>
      (Draft.update (Draft.openTable key) path.dropLast root).bind fun root =>
        assemble path root rest
  | .repeated path :: rest =>
    match path.getLast? with
    | none => none
    | some key =>
      (Draft.update (Draft.addTable key) path.dropLast root).bind fun root =>
        assemble path root rest
  | .assignment path value :: rest =>
    (Draft.update (Draft.assign value path) header root).bind fun root =>
      assemble header root rest

/-- The fields of a document. -/
def parse? (text : List Char) : Option (Fields Value) :=
  (readDocument text).bind fun lines => (assemble [] [] lines).map Draft.finishFields

end Courier.Toml
