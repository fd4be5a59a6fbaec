import Courier.Dispatch.Basic
import Courier.Payload.ToJson
import Courier.Proofs.Json.Positions
import Courier.Proofs.Payload.Document

/-!
# Written directly and written as a value

A result that is sent is written as it stands, and one that is queued through its value. If there is
no number of 32 bits in it and no integer of more than 64, the two texts say the same. The two ways
differ in one thing that they can write: where the key of a map is an option, sending looks into the
option, and queueing refuses it.

Results:

* `same_of_toJson`: the value of a payload is the document that is written directly.
* `exists_toJson_error_iff`: which payloads have no value.
* `sameDocument_of_prepare`: **what is queued says the same as what is sent**, and when it is there.
-/

namespace Courier.Payload

open Courier.Json Courier.Json.Document

/-! ## What both ways can write -/

mutual

/-- No number of 32 bits is in a payload, and no integer that does not fit 64 bits; what stands in
the keys of maps does not matter. -/
def IsCommon : Payload → Prop
  | .integer i => least ≤ i ∧ i ≤ greatest
  | .single _ => False
  | .present value => IsCommon value
  | .wrapped value => IsCommon value
  | .newtypeVariant _ value => IsCommon value
  | .seq items => AreCommon items
  | .tupleVariant _ items => AreCommon items
  | .map entries => EntriesAreCommon entries
  | .struct fields => FieldsAreCommon fields
  | .structVariant _ fields => FieldsAreCommon fields
  | _ => True

/-- Whether all items are common. -/
def AreCommon : List Payload → Prop
  | [] => True
  | item :: rest => IsCommon item ∧ AreCommon rest

/-- Whether the values of all entries are common. -/
def EntriesAreCommon : List (Payload × Payload) → Prop
  | [] => True
  | (_, value) :: rest => IsCommon value ∧ EntriesAreCommon rest

/-- Whether the values of all fields are common. -/
def FieldsAreCommon : List (String × Payload) → Prop
  | [] => True
  | (_, value) :: rest => IsCommon value ∧ FieldsAreCommon rest

end

/-- An option that is there, or one under names that are not written. -/
inductive IsOption : Payload → Prop
  | present (value : Payload) : IsOption (.present value)
  | wrapped {value : Payload} (h : IsOption value) : IsOption (.wrapped value)

/-- A payload with a map in it one of whose keys is an option. -/
inductive HasOptionKey : Payload → Prop
  | present {value : Payload} (h : HasOptionKey value) : HasOptionKey (.present value)
  | wrapped {value : Payload} (h : HasOptionKey value) : HasOptionKey (.wrapped value)
  | newtypeVariant {name : String} {value : Payload} (h : HasOptionKey value) :
    HasOptionKey (.newtypeVariant name value)
  | item {items : List Payload} {item : Payload} (hm : item ∈ items) (h : HasOptionKey item) :
    HasOptionKey (.seq items)
  | tupleItem {name : String} {items : List Payload} {item : Payload} (hm : item ∈ items)
      (h : HasOptionKey item) : HasOptionKey (.tupleVariant name items)
  | key {entries : List (Payload × Payload)} {entry : Payload × Payload} (hm : entry ∈ entries)
      (h : IsOption entry.1) : HasOptionKey (.map entries)
  | value {entries : List (Payload × Payload)} {entry : Payload × Payload} (hm : entry ∈ entries)
      (h : HasOptionKey entry.2) : HasOptionKey (.map entries)
  | field {fields : List (String × Payload)} {field : String × Payload} (hm : field ∈ fields)
      (h : HasOptionKey field.2) : HasOptionKey (.struct fields)
  | variantField {name : String} {fields : List (String × Payload)} {field : String × Payload}
      (hm : field ∈ fields) (h : HasOptionKey field.2) : HasOptionKey (.structVariant name fields)

/-! ## Keys -/

theorem keyText_of_isOption {key : Payload} (h : IsOption key) :
    keyText false key = .error keyNotString := by
  induction h with
  | present value => rfl
  | wrapped _ ih => exact ih

/-- Only options are looked into on one way and not on the other. -/
theorem keyText_of_not_isOption (key : Payload) (h : ¬IsOption key) :
    keyText false key = keyText true key := by
  cases key with
  | bool b => cases b <;> rfl
  | present value => exact absurd (.present value) h
  | wrapped value => exact keyText_of_not_isOption value fun hv => h (.wrapped hv)
  | _ => rfl

theorem keyText_of_keyText_false {key : Payload} {name : List Char}
    (h : keyText false key = .ok name) : keyText true key = .ok name := by
  have hn : ¬IsOption key := fun ho => by simp [keyText_of_isOption ho] at h
  rw [← keyText_of_not_isOption key hn, h]

theorem exists_keyText_false_error_iff (key : Payload) :
    (∃ cause, keyText false key = .error cause) ↔
      (∃ cause, keyText true key = .error cause) ∨ IsOption key := by
  by_cases h : IsOption key
  · simp [keyText_of_isOption h, h]
  · simp [keyText_of_not_isOption key h, h]

/-! ## As values -/

theorem ofItems_bytes (bs : List UInt8) :
    ofItems (bs.map fun b => .integer b.toNat) = bs.map fun b => .word (.integer b.toNat) := by
  induction bs with
  | nil => rfl
  | cons b rest ih => rw [List.map_cons, ofItems, ih, List.map_cons, Document.ofJson]

theorem same_variant (name : String) {d e : Document} (h : d.Same e) :
    Same (.object [(name, d)]) (.object [(name, e)]) :=
  same_object_of_forall₂ (.cons ⟨rfl, h⟩ .nil)

theorem same_fields {as : List (String × Document)} {fields : List (String × Json)}
    (h : List.Forall₂ SameField as (Document.ofFields fields)) :
    Same (.object as) (Document.ofJson (Json.ofFields fields)) :=
  (same_object_of_forall₂ h).trans (same_ofFields fields)

mutual

/-- The value of a payload is the same document as what is written directly. -/
theorem same_of_toJson {p : Payload} {v : Json} (hc : IsCommon p) (h : toJson p = .ok v) :
    p.document.Same (Document.ofJson v) := by
  cases p with
  | nothing => cases h; rfl
  | bool b => cases h; rfl
  | integer i =>
    cases (if_pos hc).symm.trans h
    rfl
  -- The value of a number of 32 bits has another numeral.
  | single x => exact absurd hc id
  | double x => cases x <;> cases h <;> rfl
  | char c => cases h; rfl
  | string s => cases h; rfl
  | bytes bs =>
    cases h
    rw [document, Document.ofJson, ofItems_bytes]
  | present value => exact same_of_toJson (p := value) hc h
  | wrapped value => exact same_of_toJson (p := value) hc h
  | unitVariant name => cases h; rfl
  | newtypeVariant name value =>
    obtain ⟨v, hv, rfl⟩ := map_eq_ok_iff.mp h
    exact same_variant name (same_of_toJson (p := value) hc hv)
  | seq items =>
    obtain ⟨vs, hvs, rfl⟩ := map_eq_ok_iff.mp h
    exact same_array (same_of_itemsToJson hc hvs)
  | tupleVariant name items =>
    obtain ⟨vs, hvs, rfl⟩ := map_eq_ok_iff.mp h
    exact same_variant name (same_array (same_of_itemsToJson hc hvs))
  | map entries =>
    obtain ⟨fs, hfs, rfl⟩ := map_eq_ok_iff.mp h
    exact same_fields (same_of_entriesToJson hc hfs)
  | struct fields =>
    obtain ⟨fs, hfs, rfl⟩ := map_eq_ok_iff.mp h
    exact same_fields (same_of_fieldsToJson hc hfs)
  | structVariant name fields =>
    obtain ⟨fs, hfs, rfl⟩ := map_eq_ok_iff.mp h
    exact same_variant name (same_fields (same_of_fieldsToJson hc hfs))
  | failing message => cases h

theorem same_of_itemsToJson {items : List Payload} {vs : List Json} (hc : AreCommon items)
    (h : itemsToJson items = .ok vs) : List.Forall₂ Same (itemDocuments items) (ofItems vs) := by
  cases items with
  | nil => cases h; exact .nil
  | cons item rest =>
    obtain ⟨v, hv, hrest⟩ := bind_eq_ok_iff.mp h
    obtain ⟨vs, hvs, hr⟩ := bind_eq_ok_iff.mp hrest
    cases hr
    exact .cons (same_of_toJson hc.1 hv) (same_of_itemsToJson hc.2 hvs)

theorem same_of_entriesToJson {entries : List (Payload × Payload)} {fs : List (String × Json)}
    (hc : EntriesAreCommon entries) (h : entriesToJson entries = .ok fs) :
    List.Forall₂ SameField (entryDocuments entries) (Document.ofFields fs) := by
  cases entries with
  | nil => cases h; exact .nil
  | cons entry rest =>
    obtain ⟨key, value⟩ := entry
    obtain ⟨name, hname, hvalue⟩ := bind_eq_ok_iff.mp h
    obtain ⟨v, hv, hrest⟩ := bind_eq_ok_iff.mp hvalue
    obtain ⟨fs, hfs, hr⟩ := bind_eq_ok_iff.mp hrest
    cases hr
    -- A key that queueing takes has the text that sending gives it.
    exact .cons ⟨keyName_eq (keyText_of_keyText_false hname), same_of_toJson hc.1 hv⟩
      (same_of_entriesToJson hc.2 hfs)

theorem same_of_fieldsToJson {fields : List (String × Payload)} {fs : List (String × Json)}
    (hc : FieldsAreCommon fields) (h : fieldsToJson fields = .ok fs) :
    List.Forall₂ SameField (fieldDocuments fields) (Document.ofFields fs) := by
  cases fields with
  | nil => cases h; exact .nil
  | cons field rest =>
    obtain ⟨name, value⟩ := field
    obtain ⟨v, hv, hrest⟩ := bind_eq_ok_iff.mp h
    obtain ⟨fs, hfs, hr⟩ := bind_eq_ok_iff.mp hrest
    cases hr
    exact .cons ⟨rfl, same_of_toJson hc.1 hv⟩ (same_of_fieldsToJson hc.2 hfs)

end

/-! ## Which payloads have no value -/

mutual

/-- A payload has no value iff it has no text, or a key of a map in it is an option. -/
theorem exists_toJson_error_iff (p : Payload) (hc : IsCommon p) :
    (∃ cause, toJson p = .error cause) ↔
      (∃ cause, p.text = .error cause) ∨ HasOptionKey p := by
  have both {p : Payload} {v : Json} {t : List Char} (hv : toJson p = .ok v) (ht : p.text = .ok t)
      (ho : ¬HasOptionKey p) : (∃ cause, toJson p = .error cause) ↔
        (∃ cause, p.text = .error cause) ∨ HasOptionKey p := by
    simp [hv, ht, ho]
  cases p with
  | nothing => exact both rfl rfl nofun
  | bool b => cases b <;> exact both rfl rfl nofun
  | integer i => exact both (if_pos hc) rfl nofun
  | single x => exact absurd hc id
  | double x => exact both rfl rfl nofun
  | char c => exact both rfl rfl nofun
  | string s => exact both rfl rfl nofun
  | bytes bs => exact both rfl rfl nofun
  | present value =>
    simp only [toJson, text, exists_toJson_error_iff value hc]
    exact or_congr_right ⟨.present, fun | .present h => h⟩
  | wrapped value =>
    simp only [toJson, text, exists_toJson_error_iff value hc]
    exact or_congr_right ⟨.wrapped, fun | .wrapped h => h⟩
  | unitVariant name => exact both rfl rfl nofun
  | newtypeVariant name value =>
    simp only [toJson, text, map_eq_error_iff, exists_toJson_error_iff value hc]
    exact or_congr_right ⟨.newtypeVariant, fun | .newtypeVariant h => h⟩
  | seq items =>
    simp only [toJson, text, map_eq_error_iff, exists_itemsToJson_error_iff items hc]
    exact or_congr_right ⟨fun ⟨_, hm, h⟩ => .item hm h, fun | .item hm h => ⟨_, hm, h⟩⟩
  | tupleVariant name items =>
    simp only [toJson, text, map_eq_error_iff, exists_itemsToJson_error_iff items hc]
    exact or_congr_right ⟨fun ⟨_, hm, h⟩ => .tupleItem hm h, fun | .tupleItem hm h => ⟨_, hm, h⟩⟩
  | map entries =>
    simp only [toJson, text, map_eq_error_iff, exists_entriesToJson_error_iff entries hc]
    refine or_congr_right ⟨?_, ?_⟩
    · rintro ⟨entry, hm, h | h⟩
      · exact .key hm h
      · exact .value hm h
    · intro h
      cases h with
      | key hm h => exact ⟨_, hm, .inl h⟩
      | value hm h => exact ⟨_, hm, .inr h⟩
  | struct fields =>
    simp only [toJson, text, map_eq_error_iff, exists_fieldsToJson_error_iff fields hc]
    exact or_congr_right ⟨fun ⟨_, hm, h⟩ => .field hm h, fun | .field hm h => ⟨_, hm, h⟩⟩
  | structVariant name fields =>
    simp only [toJson, text, map_eq_error_iff, exists_fieldsToJson_error_iff fields hc]
    exact or_congr_right
      ⟨fun ⟨_, hm, h⟩ => .variantField hm h, fun | .variantField hm h => ⟨_, hm, h⟩⟩
  | failing message => simp [toJson, text]

theorem exists_itemsToJson_error_iff (items : List Payload) (hc : AreCommon items) :
    (∃ cause, itemsToJson items = .error cause) ↔
      (∃ cause, itemTexts items = .error cause) ∨ ∃ item ∈ items, HasOptionKey item := by
  cases items with
  | nil => simp [itemsToJson, itemTexts]
  | cons item rest =>
    have hv : (∃ cause, itemsToJson (item :: rest) = .error cause) ↔ _ :=
      exists_bind_eq_error_iff (exists_toJson_error_iff item hc.1) fun first =>
        exists_bind_pure_eq_error_iff.trans (exists_itemsToJson_error_iff rest hc.2)
    have ht : (∃ cause, itemTexts (item :: rest) = .error cause) ↔ _ :=
      exists_bind_eq_error_iff Iff.rfl fun first => exists_bind_pure_eq_error_iff
    rw [hv, ht, List.exists_mem_cons_iff, or_or_or_comm]

theorem exists_entriesToJson_error_iff (entries : List (Payload × Payload))
    (hc : EntriesAreCommon entries) :
    (∃ cause, entriesToJson entries = .error cause) ↔
      (∃ cause, entryTexts entries = .error cause) ∨
        ∃ entry ∈ entries, IsOption entry.1 ∨ HasOptionKey entry.2 := by
  cases entries with
  | nil => simp [entriesToJson, entryTexts]
  | cons entry rest =>
    obtain ⟨key, value⟩ := entry
    have hv : (∃ cause, entriesToJson ((key, value) :: rest) = .error cause) ↔ _ :=
      exists_bind_eq_error_iff (exists_keyText_false_error_iff key) fun name =>
        exists_bind_eq_error_iff (exists_toJson_error_iff value hc.1) fun first =>
          exists_bind_pure_eq_error_iff.trans (exists_entriesToJson_error_iff rest hc.2)
    have ht : (∃ cause, entryTexts ((key, value) :: rest) = .error cause) ↔ _ :=
      exists_bind_eq_error_iff Iff.rfl fun name =>
        exists_bind_eq_error_iff Iff.rfl fun first => exists_bind_pure_eq_error_iff
    rw [hv, ht, List.exists_mem_cons_iff]
    -- What is wrong with the text, and what with the keys alone, each put together.
    exact (or_congr_right or_or_or_comm).trans
      (or_or_or_comm.trans (or_congr_right or_assoc.symm))

theorem exists_fieldsToJson_error_iff (fields : List (String × Payload))
    (hc : FieldsAreCommon fields) :
    (∃ cause, fieldsToJson fields = .error cause) ↔
      (∃ cause, fieldTexts fields = .error cause) ∨ ∃ field ∈ fields, HasOptionKey field.2 := by
  cases fields with
  | nil => simp [fieldsToJson, fieldTexts]
  | cons field rest =>
    obtain ⟨name, value⟩ := field
    have hv : (∃ cause, fieldsToJson ((name, value) :: rest) = .error cause) ↔ _ :=
      exists_bind_eq_error_iff (exists_toJson_error_iff value hc.1) fun first =>
        exists_bind_pure_eq_error_iff.trans (exists_fieldsToJson_error_iff rest hc.2)
    have ht : (∃ cause, fieldTexts ((name, value) :: rest) = .error cause) ↔ _ :=
      exists_bind_eq_error_iff Iff.rfl fun first => exists_bind_pure_eq_error_iff
    rw [hv, ht, List.exists_mem_cons_iff, or_or_or_comm]

end

/-! ## Both ways together -/

/-- **What is queued says the same as what is sent**, and is there iff the payload could be sent
and no key of a map in it is an option. -/
theorem sameDocument_of_prepare {p : Payload} (hc : IsCommon p) :
    ((Dispatcher.prepare none p).2.isSome ↔ (∃ t, p.text = .ok t) ∧ ¬HasOptionKey p) ∧
      ∀ body t, (Dispatcher.prepare none p).2 = some body → p.text = .ok t →
        SameDocument body t := by
  have he := exists_toJson_error_iff p hc
  cases hv : p.toJson with
  | error cause =>
    have hn : (∃ cause, p.text = .error cause) ∨ HasOptionKey p := he.mp ⟨cause, hv⟩
    simp only [Dispatcher.prepare, hv]
    refine ⟨⟨nofun, fun ⟨⟨t, ht⟩, ho⟩ => ?_⟩, nofun⟩
    rcases hn with ⟨cause, hcause⟩ | hn
    · cases ht.symm.trans hcause
    · exact absurd hn ho
  | ok v =>
    have hn : ¬((∃ cause, p.text = .error cause) ∨ HasOptionKey p) := fun h => by
      obtain ⟨cause, hcause⟩ := he.mpr h
      cases hv.symm.trans hcause
    obtain ⟨ht, ho⟩ := not_or.mp hn
    simp only [Dispatcher.prepare, hv]
    constructor
    · cases htext : p.text with
      | error cause => exact absurd ⟨cause, htext⟩ ht
      | ok t => simp [ho]
    · rintro body t hb htext
      cases hb
      rw [← Document.text_ofJson, ← text_document htext]
      exact sameDocument_of_same (same_of_toJson hc hv).symm

/-- Of two keys with one text the last one counts, though one is an integer. -/
theorem sameDocument_of_repeated_key :
    let p : Payload := .map [(.integer 1, .nothing), (.string "1", .seq [.bool true])]
    IsCommon p ∧ (Dispatcher.prepare none p).2 = some "\x7b\"1\":[true]\x7d".toList ∧
      p.text = .ok "\x7b\"1\":null,\"1\":[true]\x7d".toList ∧
      SameDocument "\x7b\"1\":[true]\x7d".toList "\x7b\"1\":null,\"1\":[true]\x7d".toList := by
  intro p
  have hc : IsCommon p := ⟨trivial, ⟨trivial, trivial⟩, trivial⟩
  have hbody : (Dispatcher.prepare none p).2 = some "\x7b\"1\":[true]\x7d".toList := by decide
  have htext : p.text = .ok "\x7b\"1\":null,\"1\":[true]\x7d".toList := by rfl
  exact ⟨hc, hbody, htext, (sameDocument_of_prepare hc).2 _ _ hbody htext⟩

/-- A map whose key is an option is sent as if the key were what is in the option, and dropped when
it is queued. -/
theorem dropped_of_option_key :
    let p : Payload := .map [(.present (.string "s"), .integer 1)]
    IsCommon p ∧ p.text = .ok "\x7b\"s\":1\x7d".toList ∧
      Dispatcher.prepare none p = ([.unserializable keyNotString], none) := by
  have hone : least ≤ 1 ∧ 1 ≤ greatest := by decide
  exact ⟨⟨hone, trivial⟩, rfl, rfl⟩

end Courier.Payload
