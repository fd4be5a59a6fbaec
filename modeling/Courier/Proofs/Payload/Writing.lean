import Courier.Payload.Text
import Courier.Proofs.Results
import Mathlib.Data.List.Basic

/-!
# What cannot be written

A payload cannot be written as text iff there is something anywhere in it that cannot: a value that
refuses, or the key of a map that has no text. How much could be written before does not matter.

Results:

* `exists_keyText_error_iff`: which keys have no text.
* `exists_text_error_iff`: which payloads have none.
-/

namespace Courier.Payload

open Courier.Decimal Courier.Json

/-- A number that is finite. -/
def IsFinite : Binary → Prop
  | .finite _ => True
  | _ => False

/-- The key of a map that has no text: one that refuses, a number that is not finite, nothing at
all, or a payload with parts; an option that is there and a wrapper are what is in them. -/
inductive Textless : Payload → Prop
  | failing (message : String) : Textless (.failing message)
  | nothing : Textless .nothing
  | bytes (bytes : List UInt8) : Textless (.bytes bytes)
  | single {x : Binary} (h : ¬ IsFinite x) : Textless (.single x)
  | double {x : Binary} (h : ¬ IsFinite x) : Textless (.double x)
  | present {value : Payload} (h : Textless value) : Textless (.present value)
  | wrapped {value : Payload} (h : Textless value) : Textless (.wrapped value)
  | newtypeVariant (name : String) (value : Payload) : Textless (.newtypeVariant name value)
  | seq (items : List Payload) : Textless (.seq items)
  | tupleVariant (name : String) (items : List Payload) : Textless (.tupleVariant name items)
  | map (entries : List (Payload × Payload)) : Textless (.map entries)
  | struct (fields : List (String × Payload)) : Textless (.struct fields)
  | structVariant (name : String) (fields : List (String × Payload)) :
    Textless (.structVariant name fields)

/-- A payload with something in it that cannot be written. -/
inductive Unwritable : Payload → Prop
  | failing (message : String) : Unwritable (.failing message)
  | present {value : Payload} (h : Unwritable value) : Unwritable (.present value)
  | wrapped {value : Payload} (h : Unwritable value) : Unwritable (.wrapped value)
  | newtypeVariant {name : String} {value : Payload} (h : Unwritable value) :
    Unwritable (.newtypeVariant name value)
  | item {items : List Payload} {item : Payload} (hm : item ∈ items) (h : Unwritable item) :
    Unwritable (.seq items)
  | tupleItem {name : String} {items : List Payload} {item : Payload} (hm : item ∈ items)
      (h : Unwritable item) : Unwritable (.tupleVariant name items)
  | key {entries : List (Payload × Payload)} {entry : Payload × Payload} (hm : entry ∈ entries)
      (h : Textless entry.1) : Unwritable (.map entries)
  | value {entries : List (Payload × Payload)} {entry : Payload × Payload} (hm : entry ∈ entries)
      (h : Unwritable entry.2) : Unwritable (.map entries)
  | field {fields : List (String × Payload)} {field : String × Payload} (hm : field ∈ fields)
      (h : Unwritable field.2) : Unwritable (.struct fields)
  | variantField {name : String} {fields : List (String × Payload)} {field : String × Payload}
      (hm : field ∈ fields) (h : Unwritable field.2) : Unwritable (.structVariant name fields)

/-! ## Keys -/

theorem exists_realKey_error_iff {f : Format} {w : Window} {x : Binary} :
    (∃ cause, realKey f w x = .error cause) ↔ ¬ IsFinite x := by
  cases x <;> simp [realKey, IsFinite]

/-- **The keys that have no text.** -/
theorem exists_keyText_error_iff (key : Payload) :
    (∃ cause, keyText true key = .error cause) ↔ Textless key := by
  have lacks {key : Payload} {cause : Report} (hk : keyText true key = .error cause)
      (h : Textless key) : (∃ cause, keyText true key = .error cause) ↔ Textless key :=
    ⟨fun _ => h, fun _ => ⟨cause, hk⟩⟩
  have has {key : Payload} {text : List Char} (hk : keyText true key = .ok text)
      (h : ¬ Textless key) : (∃ cause, keyText true key = .error cause) ↔ Textless key := by
    simp [hk, h]
  cases key with
  | nothing => exact lacks rfl .nothing
  | bool value => cases value <;> exact has rfl nofun
  | integer value => exact has rfl nofun
  | single x => exact exists_realKey_error_iff.trans ⟨.single, fun | .single h => h⟩
  | double x => exact exists_realKey_error_iff.trans ⟨.double, fun | .double h => h⟩
  | char c => exact has rfl nofun
  | string text => exact has rfl nofun
  | bytes bytes => exact lacks rfl (.bytes bytes)
  | present value => exact (exists_keyText_error_iff value).trans ⟨.present, fun | .present h => h⟩
  | wrapped value => exact (exists_keyText_error_iff value).trans ⟨.wrapped, fun | .wrapped h => h⟩
  | unitVariant name => exact has rfl nofun
  | newtypeVariant name value => exact lacks rfl (.newtypeVariant name value)
  | seq items => exact lacks rfl (.seq items)
  | tupleVariant name items => exact lacks rfl (.tupleVariant name items)
  | map entries => exact lacks rfl (.map entries)
  | struct fields => exact lacks rfl (.struct fields)
  | structVariant name fields => exact lacks rfl (.structVariant name fields)
  | failing message => exact lacks rfl (.failing message)

/-! ## Payloads -/

mutual

/-- **A payload has no text iff something in it cannot be written**, however deep. -/
theorem exists_text_error_iff (p : Payload) : (∃ cause, p.text = .error cause) ↔ Unwritable p := by
  cases p with
  | nothing => exact ⟨nofun, nofun⟩
  | bool value => cases value <;> exact ⟨nofun, nofun⟩
  | integer value => exact ⟨nofun, nofun⟩
  | single x => exact ⟨nofun, nofun⟩
  | double x => exact ⟨nofun, nofun⟩
  | char c => exact ⟨nofun, nofun⟩
  | string text => exact ⟨nofun, nofun⟩
  | bytes bytes => exact ⟨nofun, nofun⟩
  | present value => exact (exists_text_error_iff value).trans ⟨.present, fun | .present h => h⟩
  | wrapped value => exact (exists_text_error_iff value).trans ⟨.wrapped, fun | .wrapped h => h⟩
  | unitVariant name => exact ⟨nofun, nofun⟩
  | newtypeVariant name value =>
    simp only [text, map_eq_error_iff, exists_text_error_iff value]
    exact ⟨.newtypeVariant, fun | .newtypeVariant h => h⟩
  | seq items =>
    simp only [text, map_eq_error_iff, exists_itemTexts_error_iff items]
    exact ⟨fun ⟨_, hm, h⟩ => .item hm h, fun | .item hm h => ⟨_, hm, h⟩⟩
  | tupleVariant name items =>
    simp only [text, map_eq_error_iff, exists_itemTexts_error_iff items]
    exact ⟨fun ⟨_, hm, h⟩ => .tupleItem hm h, fun | .tupleItem hm h => ⟨_, hm, h⟩⟩
  | map entries =>
    simp only [text, map_eq_error_iff, exists_entryTexts_error_iff entries]
    constructor
    · rintro ⟨entry, hm, h | h⟩
      · exact .key hm h
      · exact .value hm h
    · intro h
      cases h with
      | key hm h => exact ⟨_, hm, .inl h⟩
      | value hm h => exact ⟨_, hm, .inr h⟩
  | struct fields =>
    simp only [text, map_eq_error_iff, exists_fieldTexts_error_iff fields]
    exact ⟨fun ⟨_, hm, h⟩ => .field hm h, fun | .field hm h => ⟨_, hm, h⟩⟩
  | structVariant name fields =>
    simp only [text, map_eq_error_iff, exists_fieldTexts_error_iff fields]
    exact ⟨fun ⟨_, hm, h⟩ => .variantField hm h, fun | .variantField hm h => ⟨_, hm, h⟩⟩
  | failing message => exact ⟨fun _ => .failing message, fun _ => ⟨_, rfl⟩⟩

theorem exists_itemTexts_error_iff (items : List Payload) :
    (∃ cause, itemTexts items = .error cause) ↔ ∃ item ∈ items, Unwritable item := by
  cases items with
  | nil => simp [itemTexts]
  | cons item rest =>
    rw [List.exists_mem_cons_iff, itemTexts]
    exact exists_bind_eq_error_iff (exists_text_error_iff item) fun first =>
      exists_bind_pure_eq_error_iff.trans (exists_itemTexts_error_iff rest)

theorem exists_entryTexts_error_iff (entries : List (Payload × Payload)) :
    (∃ cause, entryTexts entries = .error cause) ↔
      ∃ entry ∈ entries, Textless entry.1 ∨ Unwritable entry.2 := by
  cases entries with
  | nil => simp [entryTexts]
  | cons entry rest =>
    obtain ⟨key, value⟩ := entry
    rw [List.exists_mem_cons_iff, or_assoc, entryTexts]
    refine exists_bind_eq_error_iff (exists_keyText_error_iff key) fun name => ?_
    exact exists_bind_eq_error_iff (exists_text_error_iff value) fun first =>
      exists_bind_pure_eq_error_iff.trans (exists_entryTexts_error_iff rest)

theorem exists_fieldTexts_error_iff (fields : List (String × Payload)) :
    (∃ cause, fieldTexts fields = .error cause) ↔ ∃ field ∈ fields, Unwritable field.2 := by
  cases fields with
  | nil => simp [fieldTexts]
  | cons field rest =>
    obtain ⟨name, value⟩ := field
    rw [List.exists_mem_cons_iff, fieldTexts]
    exact exists_bind_eq_error_iff (exists_text_error_iff value) fun first =>
      exists_bind_pure_eq_error_iff.trans (exists_fieldTexts_error_iff rest)

end

end Courier.Payload
