import Courier.Json.Reader
import Courier.Proofs.Json.Document

/-!
# The grammar of JSON

The whole format, as the standard has it: blanks between tokens, every escape of a string, numbers
with a fraction and an exponent. A relation says which document stands at the front of a text, and
what is left of the text behind it.

Results:

* `Spells`, `Denotes`: what a text says, of which `Document` the tokens, the decoded strings and all
  fields are.
* `denotes_unique`: **a text denotes one document only.**
-/

namespace Courier.Json

open Courier.Text

/-! ## Numbers -/

/-- Digits, and at least one. -/
def IsRun (digits : List Char) : Prop :=
  digits ≠ [] ∧ ∀ c ∈ digits, isDigit c = true

/-- A whole numeral has no zero before other digits. -/
inductive IsWholeNumeral : List Char → Prop
  | zero : IsWholeNumeral ['0']
  | digits {first : Char} {rest : List Char} (hf : isDigit first = true) (hz : first ≠ '0')
      (hr : ∀ c ∈ rest, isDigit c = true) : IsWholeNumeral (first :: rest)

inductive IsFraction : List Char → Prop
  | none : IsFraction []
  | some {digits : List Char} (h : IsRun digits) : IsFraction ('.' :: digits)

inductive IsExponent : List Char → Prop
  | none : IsExponent []
  | some {letter : Char} {sign digits : List Char} (hl : letter = 'e' ∨ letter = 'E')
      (hs : sign = [] ∨ sign = ['+'] ∨ sign = ['-']) (h : IsRun digits) :
    IsExponent (letter :: (sign ++ digits))

/-- The token of a number. -/
inductive IsNumber : List Char → Prop
  | mk {sign whole fraction exponent : List Char} (hs : sign = [] ∨ sign = ['-'])
      (hw : IsWholeNumeral whole) (hf : IsFraction fraction) (he : IsExponent exponent) :
    IsNumber (sign ++ (whole ++ (fraction ++ exponent)))

/-- The token of null, of a truth value, or of a number. -/
inductive IsToken : List Char → Prop
  | null : IsToken Word.null.letters
  | bool (b : Bool) : IsToken (Word.bool b).letters
  | number {letters : List Char} (h : IsNumber letters) : IsToken letters

/-! ## Strings -/

/-- The character that a letter behind a backslash stands for, if it is one of eight. -/
def marked? : Char → Option Char
  | '"' => some '"'
  | '\\' => some '\\'
  | '/' => some '/'
  | 'b' => some '\x08'
  | 'f' => some '\x0C'
  | 'n' => some '\n'
  | 'r' => some '\r'
  | 't' => some '\t'
  | _ => none

/-- The number of the first of two surrogates. -/
def IsHigh (n : Nat) : Prop :=
  0xD800 ≤ n ∧ n ≤ 0xDBFF
deriving Decidable

/-- The number of the second of two surrogates. -/
def IsLow (n : Nat) : Prop :=
  0xDC00 ≤ n ∧ n ≤ 0xDFFF
deriving Decidable

/-- A character behind a backslash. -/
inductive SpellsEscape : List Char → Char → List Char → Prop
  | mark {letter c : Char} (h : marked? letter = some c) (rest : List Char) :
    SpellsEscape (letter :: rest) c rest
  /-- Four digits are the number of a character, -/
  | number {a b c d : Char} (hd : areDigits 16 [a, b, c, d] = true)
      (hh : ¬IsHigh (hexValue [a, b, c, d])) (hl : ¬IsLow (hexValue [a, b, c, d]))
      (rest : List Char) :
    SpellsEscape ('u' :: a :: b :: c :: d :: rest) (Char.ofNat (hexValue [a, b, c, d])) rest
  /-- and two surrogates stand for one above these. -/
  | pair {a b c d e f g h : Char} (hd : areDigits 16 [a, b, c, d] = true)
      (hh : IsHigh (hexValue [a, b, c, d])) (hd' : areDigits 16 [e, f, g, h] = true)
      (hl : IsLow (hexValue [e, f, g, h])) (rest : List Char) :
    SpellsEscape ('u' :: a :: b :: c :: d :: '\\' :: 'u' :: e :: f :: g :: h :: rest)
      (pairSurrogates (hexValue [a, b, c, d]) (hexValue [e, f, g, h])) rest

/-- The characters of a string, from behind its opening quote on. -/
inductive SpellsString : List Char → List Char → List Char → Prop
  | close (rest : List Char) : SpellsString ('"' :: rest) [] rest
  | plain {c : Char} {text string rest : List Char} (hq : c ≠ '"') (hs : c ≠ '\\')
      (hc : ¬c.toNat < 0x20) (h : SpellsString text string rest) :
    SpellsString (c :: text) (c :: string) rest
  | escape {c : Char} {text more string rest : List Char} (he : SpellsEscape text c more)
      (h : SpellsString more string rest) : SpellsString ('\\' :: text) (c :: string) rest

/-! ## Documents -/

/-- The name of a field with the colon behind it. -/
inductive SpellsName : List Char → String → List Char → Prop
  | mk {text inner name more rest : List Char} (h : skipBlanks text = '"' :: inner)
      (hn : SpellsString inner name more) (hc : skipBlanks more = ':' :: rest) :
    SpellsName text (String.ofList name) rest

mutual

/-- The document at the front of a text, behind blanks. -/
inductive Spells : List Char → Document → List Char → Prop
  | word {text rest : List Char} {token : Word} (ht : IsToken token.letters)
      (h : skipBlanks text = token.letters ++ rest) : Spells text (.word token) rest
  | string {text inner string rest : List Char} (h : skipBlanks text = '"' :: inner)
      (hs : SpellsString inner string rest) : Spells text (.string (String.ofList string)) rest
  | noItems {text inner rest : List Char} (h : skipBlanks text = '[' :: inner)
      (hc : skipBlanks inner = ']' :: rest) : Spells text (.array []) rest
  | items {text inner more rest : List Char} {item : Document} {items : List Document}
      (h : skipBlanks text = '[' :: inner) (hi : Spells inner item more)
      (hr : SpellsItems more items rest) : Spells text (.array (item :: items)) rest
  | noFields {text inner rest : List Char} (h : skipBlanks text = '{' :: inner)
      (hc : skipBlanks inner = '}' :: rest) : Spells text (.object []) rest
  | fields {text inner behind more rest : List Char} {name : String} {value : Document}
      {fields : List (String × Document)} (h : skipBlanks text = '{' :: inner)
      (hn : SpellsName inner name behind) (hv : Spells behind value more)
      (hr : SpellsFields more fields rest) : Spells text (.object ((name, value) :: fields)) rest

/-- The items behind the first one with the commas before them, and the closing bracket. -/
inductive SpellsItems : List Char → List Document → List Char → Prop
  | close {text rest : List Char} (h : skipBlanks text = ']' :: rest) : SpellsItems text [] rest
  | next {text inner more rest : List Char} {item : Document} {items : List Document}
      (h : skipBlanks text = ',' :: inner) (hi : Spells inner item more)
      (hr : SpellsItems more items rest) : SpellsItems text (item :: items) rest

/-- The fields behind the first one with the commas before them, and the closing brace. -/
inductive SpellsFields : List Char → List (String × Document) → List Char → Prop
  | close {text rest : List Char} (h : skipBlanks text = '}' :: rest) : SpellsFields text [] rest
  | next {text inner behind more rest : List Char} {name : String} {value : Document}
      {fields : List (String × Document)} (h : skipBlanks text = ',' :: inner)
      (hn : SpellsName inner name behind) (hv : Spells behind value more)
      (hr : SpellsFields more fields rest) : SpellsFields text ((name, value) :: fields) rest

end

/-- **What a text denotes**: the document at its front, if there are but blanks behind it. -/
def Denotes (text : List Char) (d : Document) : Prop :=
  ∃ rest, Spells text d rest ∧ skipBlanks rest = []

/-! ## One document only -/

variable {text rest left : List Char} {c : Char}

theorem SpellsEscape.unique {other : Char} (h : SpellsEscape text c rest)
    (h' : SpellsEscape text other left) : c = other ∧ rest = left := by
  -- No letter of the eight is that of a number.
  have hu : ∀ {c : Char}, marked? 'u' ≠ some c := nofun
  cases h with
  | mark hm =>
    cases h' with
    | mark hm' => exact ⟨Option.some.inj (hm.symm.trans hm'), rfl⟩
    | number | pair => exact absurd hm hu
  | number hd hh =>
    cases h' with
    | mark hm => exact absurd hm hu
    | number => exact ⟨rfl, rfl⟩
    | pair _ hh' => exact absurd hh' hh
  | pair hd hh =>
    cases h' with
    | mark hm => exact absurd hm hu
    | number _ hh' => exact absurd hh hh'
    | pair => exact ⟨rfl, rfl⟩

theorem SpellsString.unique {string other : List Char} (h : SpellsString text string rest)
    (h' : SpellsString text other left) : string = other ∧ rest = left := by
  induction h generalizing other with
  | close =>
    cases h' with
    | close => exact ⟨rfl, rfl⟩
    | plain hq => exact absurd rfl hq
  | plain hq hs _ _ ih =>
    cases h' with
    | close => exact absurd rfl hq
    | plain _ _ _ h =>
      obtain ⟨rfl, rfl⟩ := ih h
      exact ⟨rfl, rfl⟩
    | escape => exact absurd rfl hs
  | escape he _ ih =>
    cases h' with
    | plain _ hs => exact absurd rfl hs
    | escape he' h =>
      obtain ⟨rfl, rfl⟩ := he.unique he'
      obtain ⟨rfl, rfl⟩ := ih h
      exact ⟨rfl, rfl⟩

theorem SpellsName.unique {name other : String} (h : SpellsName text name rest)
    (h' : SpellsName text other left) : name = other ∧ rest = left := by
  obtain ⟨h, hn, hc⟩ := h
  obtain ⟨h', hn', hc'⟩ := h'
  obtain rfl := List.tail_eq_of_cons_eq (h.symm.trans h')
  obtain ⟨rfl, rfl⟩ := hn.unique hn'
  exact ⟨rfl, List.tail_eq_of_cons_eq (hc.symm.trans hc')⟩

/-! ### Where a token ends -/

/-- No token of letters goes on in the text. -/
def Ends (rest : List Char) : Prop :=
  ∀ c ∈ rest.head?, isBlank c = true ∨ isPunctuation c = true

theorem skipBlanks_of_not_isBlank (h : isBlank c = false) (rest : List Char) :
    skipBlanks (c :: rest) = c :: rest :=
  List.dropWhile_cons_of_neg (by simp [h])

theorem ends_of_punctuation (h : skipBlanks text = c :: rest) (hc : isPunctuation c = true) :
    Ends text := by
  cases text with
  | nil => exact absurd h nofun
  | cons d more =>
    intro e he
    cases he
    cases hd : isBlank d with
    | true => exact .inl rfl
    | false =>
      rw [skipBlanks_of_not_isBlank hd] at h
      exact .inr (List.head_eq_of_cons_eq h ▸ hc)

theorem ends_of_end (h : skipBlanks text = []) : Ends text := by
  cases text with
  | nil => exact nofun
  | cons d more =>
    intro e he
    cases he
    refine .inl (Bool.of_not_eq_false fun hd => ?_)
    rw [skipBlanks_of_not_isBlank hd] at h
    cases h

theorem IsWholeNumeral.forall_isDigit {whole : List Char} (h : IsWholeNumeral whole) :
    ∀ c ∈ whole, isDigit c = true := by
  cases h with
  | zero => exact List.forall_mem_singleton.mpr (by decide)
  | digits hf _ hr => exact List.forall_mem_cons.mpr ⟨hf, hr⟩

theorem IsWholeNumeral.ne_nil {whole : List Char} (h : IsWholeNumeral whole) : whole ≠ [] := by
  cases h with
  | zero | digits => exact List.cons_ne_nil _ _

section

variable {P : Char → Prop} {letters : List Char}

/-- What is true of the characters of numbers is true of those of each number. -/
theorem IsNumber.forall (h : IsNumber letters) (hd : ∀ c, isDigit c = true → P c)
    (hs : P '-' ∧ P '+' ∧ P '.' ∧ P 'e' ∧ P 'E') : ∀ c ∈ letters, P c := by
  obtain ⟨hminus, hplus, hpoint, he, hE⟩ := hs
  obtain ⟨hsign, hw, hf, hx⟩ := h
  simp only [List.forall_mem_append]
  refine ⟨?_, ?_, ?_, ?_⟩
  · rcases hsign with rfl | rfl <;> simp [hminus]
  · exact fun c hc => hd c (hw.forall_isDigit c hc)
  · cases hf with
    | none => exact nofun
    | some hr => exact List.forall_mem_cons.mpr ⟨hpoint, fun c hc => hd c (hr.2 c hc)⟩
  · cases hx with
    | none => exact nofun
    | some hl hs hr =>
      refine List.forall_mem_cons.mpr ⟨?_, List.forall_mem_append.mpr
        ⟨?_, fun c hc => hd c (hr.2 c hc)⟩⟩
      · rcases hl with rfl | rfl <;> assumption
      · rcases hs with rfl | rfl | rfl <;> simp [hplus, hminus]

end

theorem isBlank_of_isDigit (h : isDigit c = true) : isBlank c = false := by
  refine Bool.eq_false_iff.mpr fun hb => ?_
  simp only [isBlank, Bool.or_eq_true, decide_eq_true_eq] at hb
  rcases hb with ((rfl | rfl) | rfl) | rfl <;> exact absurd h (by decide)

theorem IsToken.isBlank {letters : List Char} (h : IsToken letters) :
    ∀ c ∈ letters, isBlank c = false := by
  cases h with
  | null => simp [Word.null, Json.isBlank]
  | bool b => cases b <;> simp [Word.bool, Json.isBlank]
  | number h => exact h.forall (fun c => isBlank_of_isDigit) (by decide)

/-- A token goes on up to a blank or punctuation. -/
theorem token_append_inj {a b : Word} (ha : IsToken a.letters) (hb : IsToken b.letters)
    (hr : Ends rest) (hl : Ends left) (h : a.letters ++ rest = b.letters ++ left) :
    a = b ∧ rest = left := by
  have hinner {word : Word} (ht : IsToken word.letters) :
      ∀ c ∈ word.letters, (!(isBlank c || isPunctuation c)) = true :=
    fun c hc => by simp [ht.isBlank c hc, word.plain c hc]
  have hstop {rest : List Char} (hr : Ends rest) :
      ∀ c ∈ rest.head?, (!(isBlank c || isPunctuation c)) = false := fun c hc => by
    rcases hr c hc with h | h <;> simp [h]
  obtain ⟨he, hr⟩ := append_inj_of_stop (hinner ha) (hinner hb) (hstop hr) (hstop hl) h
  exact ⟨Word.ext he, hr⟩

/-! ### Documents -/

/-- The first character says of which kind a document is. -/
theorem Spells.opening {d : Document} (h : Spells text d rest) :
    (skipBlanks text).head?.filter isPunctuation = d.opening? := by
  cases h with
  | word _ h => rw [h, ← Document.filter_head?_text (.word _) rest, Document.text]
  | string h | noItems h | items h | noFields h | fields h =>
    rw [h]
    rfl

/-- No document begins with a bracket or a brace that closes. -/
theorem Spells.not_closing {d : Document} (h : Spells text d rest) (hc : c = ']' ∨ c = '}') :
    skipBlanks text ≠ c :: left := fun ht => by
  have ho := h.opening
  rw [ht] at ho
  rcases hc with rfl | rfl <;> cases d <;> cases ho

theorem SpellsItems.ends {items : List Document} (h : SpellsItems text items rest) :
    Ends text := by
  cases h with
  | close h => exact ends_of_punctuation h rfl
  | next h => exact ends_of_punctuation h rfl

theorem SpellsFields.ends {fields : List (String × Document)} (h : SpellsFields text fields rest) :
    Ends text := by
  cases h with
  | close h => exact ends_of_punctuation h rfl
  | next h => exact ends_of_punctuation h rfl

theorem SpellsName.not_closing {name : String} (h : SpellsName text name rest) :
    skipBlanks text ≠ '}' :: left := fun ht => by
  obtain ⟨h, _, _⟩ := h
  cases h.symm.trans ht

mutual

/-- A text has one document at its front, and says where it ends. -/
theorem Spells.unique {text rest left : List Char} {d e : Document} (h : Spells text d rest)
    (h' : Spells text e left) (hr : Ends rest) (hl : Ends left) : d = e ∧ rest = left := by
  have ho : d.opening? = e.opening? := h.opening.symm.trans h'.opening
  cases h with
  | word ht h =>
    cases h' with
    | word ht' h' =>
      obtain ⟨rfl, rfl⟩ := token_append_inj ht ht' hr hl (h.symm.trans h')
      exact ⟨rfl, rfl⟩
    | _ => cases ho
  | string h hs =>
    cases h' with
    | string h' hs' =>
      obtain rfl := List.tail_eq_of_cons_eq (h.symm.trans h')
      obtain ⟨rfl, rfl⟩ := hs.unique hs'
      exact ⟨rfl, rfl⟩
    | _ => cases ho
  | noItems h hc =>
    cases h' with
    | noItems h' hc' =>
      obtain rfl := List.tail_eq_of_cons_eq (h.symm.trans h')
      exact ⟨rfl, List.tail_eq_of_cons_eq (hc.symm.trans hc')⟩
    | items h' hi' =>
      obtain rfl := List.tail_eq_of_cons_eq (h.symm.trans h')
      exact absurd hc (hi'.not_closing (.inl rfl))
    | _ => cases ho
  | items h hi hs =>
    cases h' with
    | noItems h' hc' =>
      obtain rfl := List.tail_eq_of_cons_eq (h.symm.trans h')
      exact absurd hc' (hi.not_closing (.inl rfl))
    | items h' hi' hs' =>
      obtain rfl := List.tail_eq_of_cons_eq (h.symm.trans h')
      obtain ⟨rfl, rfl⟩ := hi.unique hi' hs.ends hs'.ends
      obtain ⟨rfl, rfl⟩ := hs.unique hs'
      exact ⟨rfl, rfl⟩
    | _ => cases ho
  | noFields h hc =>
    cases h' with
    | noFields h' hc' =>
      obtain rfl := List.tail_eq_of_cons_eq (h.symm.trans h')
      exact ⟨rfl, List.tail_eq_of_cons_eq (hc.symm.trans hc')⟩
    | fields h' hn' =>
      obtain rfl := List.tail_eq_of_cons_eq (h.symm.trans h')
      exact absurd hc hn'.not_closing
    | _ => cases ho
  | fields h hn hv hs =>
    cases h' with
    | noFields h' hc' =>
      obtain rfl := List.tail_eq_of_cons_eq (h.symm.trans h')
      exact absurd hc' hn.not_closing
    | fields h' hn' hv' hs' =>
      obtain rfl := List.tail_eq_of_cons_eq (h.symm.trans h')
      obtain ⟨rfl, rfl⟩ := hn.unique hn'
      obtain ⟨rfl, rfl⟩ := hv.unique hv' hs.ends hs'.ends
      obtain ⟨rfl, rfl⟩ := hs.unique hs'
      exact ⟨rfl, rfl⟩
    | _ => cases ho

theorem SpellsItems.unique {text rest left : List Char} {items others : List Document}
    (h : SpellsItems text items rest) (h' : SpellsItems text others left) :
    items = others ∧ rest = left := by
  cases h with
  | close h =>
    cases h' with
    | close h' => exact ⟨rfl, List.tail_eq_of_cons_eq (h.symm.trans h')⟩
    | next h' => cases h.symm.trans h'
  | next h hi hs =>
    cases h' with
    | close h' => cases h.symm.trans h'
    | next h' hi' hs' =>
      obtain rfl := List.tail_eq_of_cons_eq (h.symm.trans h')
      obtain ⟨rfl, rfl⟩ := hi.unique hi' hs.ends hs'.ends
      obtain ⟨rfl, rfl⟩ := hs.unique hs'
      exact ⟨rfl, rfl⟩

theorem SpellsFields.unique {text rest left : List Char}
    {fields others : List (String × Document)}
    (h : SpellsFields text fields rest) (h' : SpellsFields text others left) :
    fields = others ∧ rest = left := by
  cases h with
  | close h =>
    cases h' with
    | close h' => exact ⟨rfl, List.tail_eq_of_cons_eq (h.symm.trans h')⟩
    | next h' => cases h.symm.trans h'
  | next h hn hv hs =>
    cases h' with
    | close h' => cases h.symm.trans h'
    | next h' hn' hv' hs' =>
      obtain rfl := List.tail_eq_of_cons_eq (h.symm.trans h')
      obtain ⟨rfl, rfl⟩ := hn.unique hn'
      obtain ⟨rfl, rfl⟩ := hv.unique hv' hs.ends hs'.ends
      obtain ⟨rfl, rfl⟩ := hs.unique hs'
      exact ⟨rfl, rfl⟩

end

/-- **A text denotes one document only.** -/
theorem denotes_unique {d e : Document} (h : Denotes text d) (h' : Denotes text e) : d = e := by
  obtain ⟨rest, h, hr⟩ := h
  obtain ⟨left, h', hl⟩ := h'
  exact (h.unique h' (ends_of_end hr) (ends_of_end hl)).1

end Courier.Json
