import Courier.Proofs.Decimal.Characters
import Courier.Proofs.Json.Strings
import Courier.Proofs.Text.Splitting

/-!
# What a JSON text says

A document is a compact JSON text taken apart: its tokens as they stand there, and the fields of its
objects in their order and as often as they are written.

Results:

* `text_append_inj`: **a text says itself which document it is of, and where it ends.**
* `text_ofJson`: the text of a value is that of a document.
-/

namespace Courier.Json

open Courier.Decimal Courier.Text

/-! ## Words -/

/-- A character that ends a word. -/
def isPunctuation (c : Char) : Bool :=
  c = '"' || c = ',' || c = ':' || c = '[' || c = ']' || c = '{' || c = '}'

theorem isPunctuation_of_isNumeral {c : Char} (h : isNumeral c = true) :
    isPunctuation c = false := by
  refine Bool.eq_false_iff.mpr fun hp => ?_
  simp only [isPunctuation, Bool.or_eq_true, decide_eq_true_eq] at hp
  rcases hp with (((((rfl | rfl) | rfl) | rfl) | rfl) | rfl) | rfl <;> exact absurd h (by decide)

/-- The token of a number, of a truth value, or of null. -/
@[ext] structure Word where
  letters : List Char
  ne_nil : letters ≠ []
  plain : ∀ c ∈ letters, isPunctuation c = false

namespace Word

/-- The token of null. -/
def null : Word :=
  ⟨['n', 'u', 'l', 'l'], List.cons_ne_nil _ _, by simp [isPunctuation]⟩

/-- The token of a truth value. -/
def bool : Bool → Word
  | true => ⟨['t', 'r', 'u', 'e'], List.cons_ne_nil _ _, by simp [isPunctuation]⟩
  | false => ⟨['f', 'a', 'l', 's', 'e'], List.cons_ne_nil _ _, by simp [isPunctuation]⟩

/-- The token of an integer. -/
def integer (i : Int) : Word :=
  ⟨integerText i, integerText_ne_nil i,
    fun c h => isPunctuation_of_isNumeral (areNumerals_integerText i c h)⟩

/-- The token of a finite number of a format. -/
def finite (f : Format) (w : Window) (x : Fraction) : Word :=
  ⟨f.text w x, text_ne_nil f w x,
    fun c h => isPunctuation_of_isNumeral (areNumerals_text f w x c h)⟩

end Word

/-! ## Documents -/

/-- A JSON text taken apart. -/
inductive Document where
  | word (token : Word)
  | string (text : String)
  | array (items : List Document)
  | object (fields : List (String × Document))

namespace Document

mutual

/-- The compact text of a document. -/
def text : Document → List Char
  | .word token => token.letters
  | .string s => stringText s.toList
  | .array items => '[' :: commaText (itemTexts items) ++ [']']
  | .object fields => '{' :: commaText (fieldTexts fields) ++ ['}']

/-- The texts of the items of an array. -/
def itemTexts : List Document → List (List Char)
  | [] => []
  | item :: rest => text item :: itemTexts rest

/-- The texts of the fields of an object. -/
def fieldTexts : List (String × Document) → List (List Char)
  | [] => []
  | (name, value) :: rest => (stringText name.toList ++ ':' :: text value) :: fieldTexts rest

end

/-- The text of a field. -/
def fieldText (field : String × Document) : List Char :=
  stringText field.1.toList ++ ':' :: field.2.text

theorem itemTexts_eq_map (items : List Document) : itemTexts items = items.map text := by
  induction items with
  | nil => rfl
  | cons item rest ih => rw [itemTexts, ih, List.map_cons]

theorem fieldTexts_eq_map (fields : List (String × Document)) :
    fieldTexts fields = fields.map fieldText := by
  induction fields with
  | nil => rfl
  | cons field rest ih => rw [fieldTexts, ih, List.map_cons, fieldText]

/-! ## Taking a text apart -/

/-- The punctuation that a text of a document begins with, if it does. -/
def opening? : Document → Option Char
  | .word _ => none
  | .string _ => some '"'
  | .array _ => some '['
  | .object _ => some '{'

theorem filter_head?_text (d : Document) (rest : List Char) :
    (d.text ++ rest).head?.filter isPunctuation = d.opening? := by
  cases d with
  | word token =>
    obtain ⟨letters, hne, hplain⟩ := token
    cases letters with
    | nil => exact absurd rfl hne
    | cons c letters =>
      have hc : isPunctuation c = false := hplain c List.mem_cons_self
      simp [text, opening?, hc]
  | string s => rfl
  | array items => rfl
  | object fields => rfl

/-- No word goes on in the text. -/
def Stops (rest : List Char) : Prop :=
  ∀ c ∈ rest.head?, isPunctuation c = true

theorem stops_cons {c : Char} (h : isPunctuation c = true) (rest : List Char) :
    Stops (c :: rest) := fun d hd => by
  cases hd
  exact h

theorem commaText_cons (first : List Char) (rest : List (List Char)) :
    commaText (first :: rest) = first ++ rest.flatMap (',' :: ·) := by
  induction rest generalizing first with
  | nil => simp [commaText]
  | cons second rest ih =>
    change first ++ ',' :: commaText (second :: rest) = _
    rw [ih]
    rfl

section

variable {α : Type} {write : α → List Char} {close : Char} {as bs : List α} {r s : List Char}

theorem stops_flatMap (hc : isPunctuation close = true) (texts : List (List Char)) :
    Stops (texts.flatMap (',' :: ·) ++ close :: r) := by
  cases texts with
  | nil => exact stops_cons hc r
  | cons text rest => exact stops_cons rfl _

/-- Elements that say themselves where they end can be told apart by the commas before them. -/
theorem flatMap_append_inj (hc : isPunctuation close = true) (hcomma : close ≠ ',')
    (hw : ∀ a ∈ as, ∀ b r s, Stops r → Stops s → write a ++ r = write b ++ s → a = b ∧ r = s)
    (h : (as.map write).flatMap (',' :: ·) ++ close :: r =
      (bs.map write).flatMap (',' :: ·) ++ close :: s) : as = bs ∧ r = s := by
  induction as generalizing bs with
  | nil =>
    cases bs with
    | nil => exact ⟨rfl, List.tail_eq_of_cons_eq h⟩
    | cons b bs => exact absurd (List.head_eq_of_cons_eq h) hcomma
  | cons a as ih =>
    cases bs with
    | nil => exact absurd (List.head_eq_of_cons_eq h).symm hcomma
    | cons b bs =>
      simp only [List.map_cons, List.flatMap_cons, List.append_assoc, List.cons_append] at h
      obtain ⟨rfl, ht⟩ := hw a List.mem_cons_self b _ _ (stops_flatMap hc _) (stops_flatMap hc _)
        (List.tail_eq_of_cons_eq h)
      obtain ⟨rfl, hr⟩ := ih (fun a ha => hw a (List.mem_cons_of_mem _ ha)) ht
      exact ⟨rfl, hr⟩

/-- What stands between brackets can be told apart, if no element begins with the closing one. -/
theorem commaText_append_inj (hc : isPunctuation close = true) (hcomma : close ≠ ',')
    (hopen : ∀ a rest, (write a ++ rest).head? ≠ some close)
    (hw : ∀ a ∈ as, ∀ b r s, Stops r → Stops s → write a ++ r = write b ++ s → a = b ∧ r = s)
    (h : commaText (as.map write) ++ close :: r = commaText (bs.map write) ++ close :: s) :
    as = bs ∧ r = s := by
  cases as with
  | nil =>
    cases bs with
    | nil => exact ⟨rfl, List.tail_eq_of_cons_eq h⟩
    | cons b bs =>
      rw [List.map_cons, commaText_cons, List.append_assoc] at h
      exact absurd (congrArg List.head? h).symm (hopen b _)
  | cons a as =>
    cases bs with
    | nil =>
      rw [List.map_cons, commaText_cons, List.append_assoc] at h
      exact absurd (congrArg List.head? h) (hopen a _)
    | cons b bs =>
      simp only [List.map_cons, commaText_cons, List.append_assoc] at h
      obtain ⟨rfl, ht⟩ := hw a List.mem_cons_self b _ _ (stops_flatMap hc _) (stops_flatMap hc _) h
      obtain ⟨rfl, hr⟩ :=
        flatMap_append_inj hc hcomma (fun a ha => hw a (List.mem_cons_of_mem _ ha)) ht
      exact ⟨rfl, hr⟩

end

theorem head?_text_ne (d : Document) (rest : List Char) : (d.text ++ rest).head? ≠ some ']' :=
  fun h => by
    have ho : some ']' = d.opening? := by
      rw [← filter_head?_text d rest, h]
      rfl
    cases d <;> cases ho

theorem fieldText_append (field : String × Document) (rest : List Char) :
    fieldText field ++ rest = stringText field.1.toList ++ ':' :: (field.2.text ++ rest) := by
  simp [fieldText]

theorem head?_fieldText_ne (field : String × Document) (rest : List Char) :
    (fieldText field ++ rest).head? ≠ some '}' :=
  nofun

theorem letters_append_inj {a b : Word} {r s : List Char} (hr : Stops r) (hs : Stops s)
    (h : a.letters ++ r = b.letters ++ s) : a = b ∧ r = s := by
  have hstop {rest : List Char} (hr : Stops rest) : ∀ c ∈ rest.head?, (!isPunctuation c) = false :=
    fun c hc => by simp [hr c hc]
  have hplain (word : Word) : ∀ c ∈ word.letters, (!isPunctuation c) = true :=
    fun c hc => by simp [word.plain c hc]
  obtain ⟨he, hr⟩ :=
    append_inj_of_stop (p := (!isPunctuation ·)) (hplain a) (hplain b) (hstop hr) (hstop hs) h
  exact ⟨Word.ext he, hr⟩

theorem sizeOf_lt_of_mem {field : String × Document} {fields : List (String × Document)}
    (h : field ∈ fields) : sizeOf field.2 < sizeOf (Document.object fields) := by
  have hlt := List.sizeOf_lt_of_mem h
  obtain ⟨name, value⟩ := field
  simp only [Prod.mk.sizeOf_spec, object.sizeOf_spec] at hlt ⊢
  omega

/-- **A text says itself which document it is of, and where it ends.** -/
theorem text_append_inj {d e : Document} {r s : List Char} (hr : Stops r) (hs : Stops s)
    (h : d.text ++ r = e.text ++ s) : d = e ∧ r = s := by
  -- The first character says of which kind both documents are.
  have ho : d.opening? = e.opening? := by
    rw [← filter_head?_text d r, h, filter_head?_text]
  match d, e, ho with
  | .word a, .word b, _ =>
    obtain ⟨rfl, hr⟩ := letters_append_inj hr hs h
    exact ⟨rfl, hr⟩
  | .string a, .string b, _ =>
    -- A string ends with its own quote, whatever follows.
    obtain ⟨he, hr⟩ := stringText_append_inj h
    exact ⟨congrArg Document.string (String.toList_injective he), hr⟩
  | .array as, .array bs, _ =>
    have hw : ∀ a ∈ as, ∀ (b : Document) (r s : List Char), Stops r → Stops s →
        a.text ++ r = b.text ++ s → a = b ∧ r = s :=
      fun a ha b r s hr hs h => text_append_inj hr hs h
    simp only [text, itemTexts_eq_map, List.cons_append, List.append_assoc, List.nil_append] at h
    obtain ⟨rfl, hr⟩ :=
      commaText_append_inj rfl (by decide) head?_text_ne hw (List.tail_eq_of_cons_eq h)
    exact ⟨rfl, hr⟩
  | .object as, .object bs, _ =>
    have hw : ∀ a ∈ as, ∀ (b : String × Document) (r s : List Char), Stops r → Stops s →
        fieldText a ++ r = fieldText b ++ s → a = b ∧ r = s := by
      rintro ⟨m, a⟩ ha ⟨n, b⟩ r s hr hs h
      rw [fieldText_append, fieldText_append] at h
      obtain ⟨hname, ht⟩ := stringText_append_inj h
      obtain ⟨rfl, hr⟩ := text_append_inj hr hs (List.tail_eq_of_cons_eq ht)
      exact ⟨congrArg (·, a) (String.toList_injective hname), hr⟩
    simp only [text, fieldTexts_eq_map, List.cons_append, List.append_assoc, List.nil_append] at h
    obtain ⟨rfl, hr⟩ :=
      commaText_append_inj rfl (by decide) head?_fieldText_ne hw (List.tail_eq_of_cons_eq h)
    exact ⟨rfl, hr⟩
termination_by sizeOf d
decreasing_by
  · have hlt := List.sizeOf_lt_of_mem ha
    simp only [array.sizeOf_spec]
    omega
  · exact sizeOf_lt_of_mem ha

/-- A text is that of one document only. -/
theorem text_injective : Function.Injective text := fun d e h => by
  have hstop : Stops [] := fun c hc => nomatch hc
  exact (text_append_inj hstop hstop (congrArg (· ++ []) h)).1

/-! ## The documents of values -/

mutual

/-- The document that a value is written as. -/
def ofJson : Json → Document
  | .null => .word .null
  | .bool b => .word (.bool b)
  | .integer i => .word (.integer i)
  | .real x => .word (.finite .double doubleWindow x)
  | .string s => .string s
  | .array items => .array (ofItems items)
  | .object fields => .object (ofFields fields)

/-- The documents that items are written as. -/
def ofItems : List Json → List Document
  | [] => []
  | item :: rest => ofJson item :: ofItems rest

/-- The fields that fields are written as. -/
def ofFields : List (String × Json) → List (String × Document)
  | [] => []
  | (name, value) :: rest => (name, ofJson value) :: ofFields rest

end

theorem ofItems_eq_map (items : List Json) : ofItems items = items.map ofJson := by
  induction items with
  | nil => rfl
  | cons item rest ih => rw [ofItems, ih, List.map_cons]

theorem ofFields_eq_map (fields : List (String × Json)) :
    ofFields fields = fields.map fun field => (field.1, ofJson field.2) := by
  induction fields with
  | nil => rfl
  | cons field rest ih => rw [ofFields, ih, List.map_cons]

mutual

/-- The text of a value is that of its document. -/
theorem text_ofJson (value : Json) : (ofJson value).text = value.text := by
  cases value with
  | null => rfl
  | bool b => cases b <;> rfl
  | integer i => rfl
  | real x => rfl
  | string s => rfl
  | array items => simp only [ofJson, text, Json.text, itemTexts_ofItems items]
  | object fields => simp only [ofJson, text, Json.text, fieldTexts_ofFields fields]

theorem itemTexts_ofItems (items : List Json) :
    itemTexts (ofItems items) = Json.itemTexts items := by
  cases items with
  | nil => rfl
  | cons item rest =>
    simp only [ofItems, itemTexts, Json.itemTexts, text_ofJson item, itemTexts_ofItems rest]

theorem fieldTexts_ofFields (fields : List (String × Json)) :
    fieldTexts (ofFields fields) = Json.fieldTexts fields := by
  cases fields with
  | nil => rfl
  | cons field rest =>
    obtain ⟨name, value⟩ := field
    simp only [ofFields, fieldTexts, Json.fieldTexts, text_ofJson value, fieldTexts_ofFields rest]

end

end Document

end Courier.Json
