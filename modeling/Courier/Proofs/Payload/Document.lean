import Courier.Payload.Text
import Courier.Proofs.Json.Document
import Courier.Proofs.Results

/-!
# The document of a payload

What is written directly says what the payload holds, in the order in which it holds it: a variant
is an object with one field, and the key of a map is a name.

Results:

* `text_document`: **what is written directly is the text of the document of the payload.**
-/

namespace Courier.Payload

open Courier.Decimal Courier.Json

/-- The word of a number: null unless it is finite. -/
def realWord (f : Format) (w : Window) : Binary → Word
  | .finite x => .finite f w x
  | _ => .null

/-- The text of a key, if it has one. -/
def keyName (key : Payload) : String :=
  match keyText true key with
  | .ok name => String.ofList name
  | .error _ => ""

mutual

/-- The document that a payload is written as; what cannot be written stands as null in it. -/
def document : Payload → Document
  | .nothing => .word .null
  | .bool b => .word (.bool b)
  | .integer i => .word (.integer i)
  | .single x => .word (realWord .single singleWindow x)
  | .double x => .word (realWord .double doubleWindow x)
  | .char c => .string (String.ofList [c])
  | .string s => .string s
  | .bytes bs => .array (bs.map fun b => .word (.integer b.toNat))
  | .present value => document value
  | .wrapped value => document value
  | .unitVariant name => .string name
  | .newtypeVariant name value => .object [(name, document value)]
  | .seq items => .array (itemDocuments items)
  | .tupleVariant name items => .object [(name, .array (itemDocuments items))]
  | .map entries => .object (entryDocuments entries)
  | .struct fields => .object (fieldDocuments fields)
  | .structVariant name fields => .object [(name, .object (fieldDocuments fields))]
  | .failing _ => .word .null

/-- The documents of items. -/
def itemDocuments : List Payload → List Document
  | [] => []
  | item :: rest => document item :: itemDocuments rest

/-- The fields that the entries of a map are written as. -/
def entryDocuments : List (Payload × Payload) → List (String × Document)
  | [] => []
  | (key, value) :: rest => (keyName key, document value) :: entryDocuments rest

/-- The documents of fields. -/
def fieldDocuments : List (String × Payload) → List (String × Document)
  | [] => []
  | (name, value) :: rest => (name, document value) :: fieldDocuments rest

end

/-! ## Its text -/

theorem letters_realWord (f : Format) (w : Window) (x : Binary) :
    (realWord f w x).letters = realText f w x := by
  cases x <;> rfl

theorem keyName_eq {key : Payload} {name : List Char} (h : keyText true key = .ok name) :
    keyName key = String.ofList name := by
  rw [keyName, h]

theorem arrayText_bytes (bs : List UInt8) :
    (Document.array (bs.map fun b => .word (.integer b.toNat))).text =
      arrayText (bs.map fun b => naturalText b.toNat) := by
  rw [Document.text, Document.itemTexts_eq_map, List.map_map]
  rfl

theorem text_variant (name : String) (value : Document) :
    (Document.object [(name, value)]).text = variantText name value.text :=
  rfl

mutual

/-- What is written directly is the text of the document of the payload. -/
theorem text_document {p : Payload} {t : List Char} (h : text p = .ok t) : p.document.text = t := by
  cases p with
  | nothing => cases h; rfl
  | bool b => cases b <;> cases h <;> rfl
  | integer i => cases h; rfl
  | single x => cases h; exact letters_realWord _ _ x
  | double x => cases h; exact letters_realWord _ _ x
  | char c =>
    cases h
    rw [document, Document.text, String.toList_ofList]
  | string s => cases h; rfl
  | bytes bs => cases h; exact arrayText_bytes bs
  | present value => exact text_document (p := value) h
  | wrapped value => exact text_document (p := value) h
  | unitVariant name => cases h; rfl
  | newtypeVariant name value =>
    obtain ⟨t, ht, rfl⟩ := map_eq_ok_iff.mp h
    rw [document, text_variant, text_document ht]
  | seq items =>
    obtain ⟨ts, ht, rfl⟩ := map_eq_ok_iff.mp h
    rw [document, Document.text, itemTexts_itemDocuments ht]
    rfl
  | tupleVariant name items =>
    obtain ⟨ts, ht, rfl⟩ := map_eq_ok_iff.mp h
    rw [document, text_variant, Document.text, itemTexts_itemDocuments ht]
    rfl
  | map entries =>
    obtain ⟨ts, ht, rfl⟩ := map_eq_ok_iff.mp h
    rw [document, Document.text, fieldTexts_entryDocuments ht]
    rfl
  | struct fields =>
    obtain ⟨ts, ht, rfl⟩ := map_eq_ok_iff.mp h
    rw [document, Document.text, fieldTexts_fieldDocuments ht]
    rfl
  | structVariant name fields =>
    obtain ⟨ts, ht, rfl⟩ := map_eq_ok_iff.mp h
    rw [document, text_variant, Document.text, fieldTexts_fieldDocuments ht]
    rfl
  | failing message => cases h

theorem itemTexts_itemDocuments {items : List Payload} {ts : List (List Char)}
    (h : itemTexts items = .ok ts) : Document.itemTexts (itemDocuments items) = ts := by
  cases items with
  | nil => cases h; rfl
  | cons item rest =>
    obtain ⟨t, ht, hrest⟩ := bind_eq_ok_iff.mp h
    obtain ⟨ts, hts, hr⟩ := bind_eq_ok_iff.mp hrest
    cases hr
    rw [itemDocuments, Document.itemTexts, text_document ht, itemTexts_itemDocuments hts]

theorem fieldTexts_entryDocuments {entries : List (Payload × Payload)} {ts : List (List Char)}
    (h : entryTexts entries = .ok ts) : Document.fieldTexts (entryDocuments entries) = ts := by
  cases entries with
  | nil => cases h; rfl
  | cons entry rest =>
    obtain ⟨key, value⟩ := entry
    obtain ⟨name, hname, hvalue⟩ := bind_eq_ok_iff.mp h
    obtain ⟨t, ht, hrest⟩ := bind_eq_ok_iff.mp hvalue
    obtain ⟨ts, hts, hr⟩ := bind_eq_ok_iff.mp hrest
    cases hr
    rw [entryDocuments, Document.fieldTexts, text_document ht, fieldTexts_entryDocuments hts,
      keyName_eq hname, String.toList_ofList]
    rfl

theorem fieldTexts_fieldDocuments {fields : List (String × Payload)} {ts : List (List Char)}
    (h : fieldTexts fields = .ok ts) : Document.fieldTexts (fieldDocuments fields) = ts := by
  cases fields with
  | nil => cases h; rfl
  | cons field rest =>
    obtain ⟨name, value⟩ := field
    obtain ⟨t, ht, hrest⟩ := bind_eq_ok_iff.mp h
    obtain ⟨ts, hts, hr⟩ := bind_eq_ok_iff.mp hrest
    cases hr
    rw [fieldDocuments, Document.fieldTexts, text_document ht, fieldTexts_fieldDocuments hts]
    rfl

end

end Courier.Payload
