import Courier.Proofs.Dispatch.Hooks
import Courier.Proofs.Fields
import Courier.Proofs.Json.Document
import Courier.Proofs.Text.Encoding
import Mathlib.Data.List.Perm.Basic

/-!
# The order of entries does not matter

Programs hold the entries of maps and the fields of structs in some order. The value of a payload
has forgotten it, so that a hook sees the same in two payloads that differ in no more than that, and
what is queued of them is the same text.

Results:

* `toJson_of_reordered` — payloads that differ in the order of entries have one value.
* `isSorted_ofJson` — the text of a proper value has the names of every object in the order of their
  bytes.
* `canonical_of_reordered` — **what is queued is canonical.**
-/

namespace Courier

open Courier.Json Courier.Text

/-! ## Payloads that differ in the order of entries -/

namespace Payload

mutual

/-- Two payloads differ in no more than the order of the entries of maps and of the fields of
structs, at any depth. -/
inductive Reordered : Payload → Payload → Prop
  | refl (p : Payload) : Reordered p p
  | present {p q : Payload} (h : Reordered p q) : Reordered (.present p) (.present q)
  | wrapped {p q : Payload} (h : Reordered p q) : Reordered (.wrapped p) (.wrapped q)
  | newtypeVariant (name : String) {p q : Payload} (h : Reordered p q) :
    Reordered (.newtypeVariant name p) (.newtypeVariant name q)
  | seq {as bs : List Payload} (h : ItemsReordered as bs) : Reordered (.seq as) (.seq bs)
  | tupleVariant (name : String) {as bs : List Payload} (h : ItemsReordered as bs) :
    Reordered (.tupleVariant name as) (.tupleVariant name bs)
  | map {as bs cs : List (Payload × Payload)} (h : EntriesReordered as bs) (hp : bs.Perm cs) :
    Reordered (.map as) (.map cs)
  | struct {as bs cs : List (String × Payload)} (h : FieldsReordered as bs) (hp : bs.Perm cs) :
    Reordered (.struct as) (.struct cs)
  | structVariant (name : String) {as bs cs : List (String × Payload)} (h : FieldsReordered as bs)
      (hp : bs.Perm cs) : Reordered (.structVariant name as) (.structVariant name cs)

/-- Items that differ in no more, one by one. -/
inductive ItemsReordered : List Payload → List Payload → Prop
  | nil : ItemsReordered [] []
  | cons {a b : Payload} {as bs : List Payload} (h : Reordered a b) (hr : ItemsReordered as bs) :
    ItemsReordered (a :: as) (b :: bs)

/-- Entries that differ in no more, one by one. -/
inductive EntriesReordered : List (Payload × Payload) → List (Payload × Payload) → Prop
  | nil : EntriesReordered [] []
  | cons {k l a b : Payload} {as bs : List (Payload × Payload)} (hk : Reordered k l)
      (h : Reordered a b) (hr : EntriesReordered as bs) :
    EntriesReordered ((k, a) :: as) ((l, b) :: bs)

/-- Fields that differ in no more, one by one. -/
inductive FieldsReordered : List (String × Payload) → List (String × Payload) → Prop
  | nil : FieldsReordered [] []
  | cons (name : String) {a b : Payload} {as bs : List (String × Payload)} (h : Reordered a b)
      (hr : FieldsReordered as bs) : FieldsReordered ((name, a) :: as) ((name, b) :: bs)

end

/-- No two keys of entries have one text. -/
def KeysDiffer (entries : List (Payload × Payload)) : Prop :=
  entries.Pairwise fun a b => ∀ name, keyText false a.1 = .ok name → keyText false b.1 ≠ .ok name

mutual

/-- No two keys of a map have one text, and no two fields of a struct one name, at any depth. -/
def IsDistinct : Payload → Prop
  | .present value => IsDistinct value
  | .wrapped value => IsDistinct value
  | .newtypeVariant _ value => IsDistinct value
  | .seq items => AreDistinct items
  | .tupleVariant _ items => AreDistinct items
  | .map entries => KeysDiffer entries ∧ EntriesAreDistinct entries
  | .struct fields => (fields.map (·.1)).Nodup ∧ FieldsAreDistinct fields
  | .structVariant _ fields => (fields.map (·.1)).Nodup ∧ FieldsAreDistinct fields
  | _ => True

/-- Whether this is so in all items. -/
def AreDistinct : List Payload → Prop
  | [] => True
  | item :: rest => IsDistinct item ∧ AreDistinct rest

/-- Whether this is so in the values of all entries. -/
def EntriesAreDistinct : List (Payload × Payload) → Prop
  | [] => True
  | (_, value) :: rest => IsDistinct value ∧ EntriesAreDistinct rest

/-- Whether this is so in the values of all fields. -/
def FieldsAreDistinct : List (String × Payload) → Prop
  | [] => True
  | (_, value) :: rest => IsDistinct value ∧ FieldsAreDistinct rest

end

/-! ## Their value -/

variable {entries others : List (Payload × Payload)} {fields more : List (String × Payload)}
  {fs : List (String × Json)}

/-- An entry of a map is a field of its value. -/
def EntryIs (entry : Payload × Payload) (field : String × Json) : Prop :=
  (∃ name, keyText false entry.1 = .ok name ∧ String.ofList name = field.1) ∧
    toJson entry.2 = .ok field.2

/-- A field of a struct is a field of its value. -/
def FieldIs (field : String × Payload) (value : String × Json) : Prop :=
  field.1 = value.1 ∧ toJson field.2 = .ok value.2

theorem entriesToJson_eq_ok_iff :
    entriesToJson entries = .ok fs ↔ List.Forall₂ EntryIs entries fs := by
  induction entries generalizing fs with
  | nil => simp [entriesToJson, eq_comm]
  | cons entry rest ih =>
    obtain ⟨key, value⟩ := entry
    simp only [entriesToJson, bind_eq_ok_iff]
    constructor
    · rintro ⟨name, hname, first, hfirst, tail, htail, h⟩
      cases h
      exact .cons ⟨⟨name, hname, rfl⟩, hfirst⟩ (ih.mp htail)
    · intro h
      cases h with
      | @cons _ field _ tail h htail =>
        obtain ⟨⟨name, hname, he⟩, hfirst⟩ := h
        exact ⟨name, hname, field.2, hfirst, tail, ih.mpr htail, by rw [he]; rfl⟩

theorem fieldsToJson_eq_ok_iff :
    fieldsToJson fields = .ok fs ↔ List.Forall₂ FieldIs fields fs := by
  induction fields generalizing fs with
  | nil => simp [fieldsToJson, eq_comm]
  | cons field rest ih =>
    obtain ⟨name, value⟩ := field
    simp only [fieldsToJson, bind_eq_ok_iff]
    constructor
    · rintro ⟨first, hfirst, tail, htail, h⟩
      cases h
      exact .cons ⟨rfl, hfirst⟩ (ih.mp htail)
    · intro h
      cases h with
      | @cons _ other _ tail h htail =>
        obtain ⟨he, hfirst⟩ := h
        exact ⟨other.2, hfirst, tail, ih.mpr htail, by rw [show name = other.1 from he]; rfl⟩

/-- The order of entries is that of the fields. -/
theorem entriesToJson_perm (hp : entries.Perm others) (h : entriesToJson entries = .ok fs) :
    ∃ gs, entriesToJson others = .ok gs ∧ fs.Perm gs := by
  obtain ⟨gs, hg, hperm⟩ := List.perm_comp_forall₂ hp.symm (entriesToJson_eq_ok_iff.mp h)
  exact ⟨gs, entriesToJson_eq_ok_iff.mpr hg, hperm.symm⟩

theorem fieldsToJson_perm (hp : fields.Perm more) (h : fieldsToJson fields = .ok fs) :
    ∃ gs, fieldsToJson more = .ok gs ∧ fs.Perm gs := by
  obtain ⟨gs, hg, hperm⟩ := List.perm_comp_forall₂ hp.symm (fieldsToJson_eq_ok_iff.mp h)
  exact ⟨gs, fieldsToJson_eq_ok_iff.mpr hg, hperm.symm⟩

theorem texts_of_entriesToJson (h : entriesToJson entries = .ok fs) :
    entries.map (keyText false ·.1) = fs.map fun field => .ok field.1.toList := by
  have hf := entriesToJson_eq_ok_iff.mp h
  clear h
  induction hf with
  | nil => rfl
  | cons hhead _ ih =>
    obtain ⟨⟨name, hname, he⟩, _⟩ := hhead
    rw [List.map_cons, List.map_cons, ih, hname, ← he, String.toList_ofList]

/-- Keys with texts of their own become names of their own. -/
theorem nodup_of_keysDiffer (hd : KeysDiffer entries) (h : entriesToJson entries = .ok fs) :
    (fs.map (·.1)).Nodup := by
  have ht : (entries.map (keyText false ·.1)).Pairwise fun a b =>
      ∀ name, a = .ok name → b ≠ .ok name := List.pairwise_map.mpr hd
  rw [texts_of_entriesToJson h, List.pairwise_map] at ht
  refine List.pairwise_map.mpr (ht.imp fun hne he => ?_)
  exact hne _ rfl (congrArg (Except.ok ·.toList) he.symm)

theorem names_of_fieldsToJson (h : fieldsToJson fields = .ok fs) :
    fs.map (·.1) = fields.map (·.1) := by
  have hf := fieldsToJson_eq_ok_iff.mp h
  clear h
  induction hf with
  | nil => rfl
  | cons hhead _ ih => rw [List.map_cons, List.map_cons, ih, hhead.1]

/-- What is put in another order is no text of a key, and nothing else is changed in one. -/
theorem keyText_of_reordered {k l : Payload} (h : Reordered k l) {name : List Char}
    (hk : keyText false k = .ok name) : keyText false l = .ok name := by
  cases h with
  | refl => exact hk
  | wrapped h => exact keyText_of_reordered h hk
  | _ => cases hk

mutual

/-- **Payloads that differ in the order of entries have one value.** -/
theorem toJson_of_reordered {p q : Payload} (h : Reordered p q) (hd : IsDistinct p) {v : Json}
    (hv : toJson p = .ok v) : toJson q = .ok v := by
  cases h with
  | refl => exact hv
  | present h => exact toJson_of_reordered h hd hv
  | wrapped h => exact toJson_of_reordered h hd hv
  | newtypeVariant name h =>
    obtain ⟨w, hw, rfl⟩ := map_eq_ok_iff.mp hv
    exact map_eq_ok_iff.mpr ⟨w, toJson_of_reordered h hd hw, rfl⟩
  | seq h =>
    obtain ⟨vs, hvs, rfl⟩ := map_eq_ok_iff.mp hv
    exact map_eq_ok_iff.mpr ⟨vs, itemsToJson_of_reordered h hd hvs, rfl⟩
  | tupleVariant name h =>
    obtain ⟨vs, hvs, rfl⟩ := map_eq_ok_iff.mp hv
    exact map_eq_ok_iff.mpr ⟨vs, itemsToJson_of_reordered h hd hvs, rfl⟩
  | map h hp =>
    obtain ⟨fs, hfs, rfl⟩ := map_eq_ok_iff.mp hv
    obtain ⟨gs, hgs, hperm⟩ := entriesToJson_perm hp (entriesToJson_of_reordered h hd.2 hfs)
    have hn := nodup_of_keysDiffer hd.1 hfs
    exact map_eq_ok_iff.mpr ⟨gs, hgs, congrArg Json.object (Fields.ofList_eq_of_perm hperm hn).symm⟩
  | struct h hp =>
    obtain ⟨fs, hfs, rfl⟩ := map_eq_ok_iff.mp hv
    obtain ⟨gs, hgs, hperm⟩ := fieldsToJson_perm hp (fieldsToJson_of_reordered h hd.2 hfs)
    have hn := names_of_fieldsToJson hfs ▸ hd.1
    exact map_eq_ok_iff.mpr ⟨gs, hgs, congrArg Json.object (Fields.ofList_eq_of_perm hperm hn).symm⟩
  | structVariant name h hp =>
    obtain ⟨fs, hfs, rfl⟩ := map_eq_ok_iff.mp hv
    obtain ⟨gs, hgs, hperm⟩ := fieldsToJson_perm hp (fieldsToJson_of_reordered h hd.2 hfs)
    have hn := names_of_fieldsToJson hfs ▸ hd.1
    refine map_eq_ok_iff.mpr ⟨gs, hgs, ?_⟩
    rw [Json.ofFields, Json.ofFields, Fields.ofList_eq_of_perm hperm hn]
termination_by sizeOf p

theorem itemsToJson_of_reordered {as bs : List Payload} (h : ItemsReordered as bs)
    (hd : AreDistinct as) {vs : List Json} (hv : itemsToJson as = .ok vs) :
    itemsToJson bs = .ok vs := by
  cases h with
  | nil => exact hv
  | cons h hr =>
    obtain ⟨v, hfirst, hrest⟩ := bind_eq_ok_iff.mp hv
    obtain ⟨vs, hvs, he⟩ := bind_eq_ok_iff.mp hrest
    exact bind_eq_ok_iff.mpr ⟨v, toJson_of_reordered h hd.1 hfirst,
      bind_eq_ok_iff.mpr ⟨vs, itemsToJson_of_reordered hr hd.2 hvs, he⟩⟩
termination_by sizeOf as

theorem entriesToJson_of_reordered {as bs : List (Payload × Payload)} (h : EntriesReordered as bs)
    (hd : EntriesAreDistinct as) {fs : List (String × Json)} (hv : entriesToJson as = .ok fs) :
    entriesToJson bs = .ok fs := by
  cases h with
  | nil => exact hv
  | cons hk h hr =>
    obtain ⟨name, hname, hvalue⟩ := bind_eq_ok_iff.mp hv
    obtain ⟨v, hfirst, hrest⟩ := bind_eq_ok_iff.mp hvalue
    obtain ⟨fs, hfs, he⟩ := bind_eq_ok_iff.mp hrest
    exact bind_eq_ok_iff.mpr ⟨name, keyText_of_reordered hk hname,
      bind_eq_ok_iff.mpr ⟨v, toJson_of_reordered h hd.1 hfirst,
        bind_eq_ok_iff.mpr ⟨fs, entriesToJson_of_reordered hr hd.2 hfs, he⟩⟩⟩
termination_by sizeOf as

theorem fieldsToJson_of_reordered {as bs : List (String × Payload)} (h : FieldsReordered as bs)
    (hd : FieldsAreDistinct as) {fs : List (String × Json)} (hv : fieldsToJson as = .ok fs) :
    fieldsToJson bs = .ok fs := by
  cases h with
  | nil => exact hv
  | cons name h hr =>
    obtain ⟨v, hfirst, hrest⟩ := bind_eq_ok_iff.mp hv
    obtain ⟨fs, hfs, he⟩ := bind_eq_ok_iff.mp hrest
    exact bind_eq_ok_iff.mpr ⟨v, toJson_of_reordered h hd.1 hfirst,
      bind_eq_ok_iff.mpr ⟨fs, fieldsToJson_of_reordered hr hd.2 hfs, he⟩⟩
termination_by sizeOf as

end

/-! ## Their value is proper -/

theorem isProper_of_mem_bytes {bs : List UInt8} {item : Json}
    (h : item ∈ bs.map fun b => .integer b.toNat) : item.IsProper := by
  obtain ⟨b, _, rfl⟩ := List.mem_map.mp h
  have hb : (b.toNat : Int) ≤ 256 := Int.ofNat_le.mpr b.toNat_lt.le
  have hg : 256 ≤ greatest := by decide
  exact ⟨Int.le_trans (by decide) (Int.natCast_nonneg _), hb.trans hg⟩

mutual

/-- The value of a payload is proper. -/
theorem isProper_of_toJson {p : Payload} {v : Json} (h : toJson p = .ok v) : v.IsProper := by
  cases p with
  | nothing | bool | char | string | unitVariant => cases h; trivial
  | integer i =>
    simp only [toJson, integerJson] at h
    split at h
    · next hi => cases h; exact hi
    · cases h
  | single x =>
    cases x with
    | finite x =>
      cases h
      cases widen x <;> trivial
    | _ => cases h; trivial
  | double x => cases x <;> cases h <;> trivial
  | bytes bs =>
    cases h
    exact areProper_iff.mpr fun _ => isProper_of_mem_bytes
  | present value => exact isProper_of_toJson (p := value) h
  | wrapped value => exact isProper_of_toJson (p := value) h
  | newtypeVariant name value =>
    obtain ⟨v, hv, rfl⟩ := map_eq_ok_iff.mp h
    exact isProper_single name (isProper_of_toJson hv)
  | seq items =>
    obtain ⟨vs, hvs, rfl⟩ := map_eq_ok_iff.mp h
    exact areProper_of_itemsToJson hvs
  | tupleVariant name items =>
    obtain ⟨vs, hvs, rfl⟩ := map_eq_ok_iff.mp h
    have hproper : (Json.array vs).IsProper := areProper_of_itemsToJson hvs
    exact isProper_single name hproper
  | map entries =>
    obtain ⟨fs, hfs, rfl⟩ := map_eq_ok_iff.mp h
    exact isProper_ofFields (fieldsAreProper_iff.mp (fieldsAreProper_of_entriesToJson hfs))
  | struct fields =>
    obtain ⟨fs, hfs, rfl⟩ := map_eq_ok_iff.mp h
    exact isProper_ofFields (fieldsAreProper_iff.mp (fieldsAreProper_of_fieldsToJson hfs))
  | structVariant name fields =>
    obtain ⟨fs, hfs, rfl⟩ := map_eq_ok_iff.mp h
    exact isProper_single name
      (isProper_ofFields (fieldsAreProper_iff.mp (fieldsAreProper_of_fieldsToJson hfs)))
  | failing message => cases h

theorem areProper_of_itemsToJson {items : List Payload} {vs : List Json}
    (h : itemsToJson items = .ok vs) : AreProper vs := by
  cases items with
  | nil => cases h; trivial
  | cons item rest =>
    obtain ⟨v, hv, hrest⟩ := bind_eq_ok_iff.mp h
    obtain ⟨vs, hvs, he⟩ := bind_eq_ok_iff.mp hrest
    cases he
    exact ⟨isProper_of_toJson hv, areProper_of_itemsToJson hvs⟩

theorem fieldsAreProper_of_entriesToJson {entries : List (Payload × Payload)}
    {fs : List (String × Json)} (h : entriesToJson entries = .ok fs) : FieldsAreProper fs := by
  cases entries with
  | nil => cases h; trivial
  | cons entry rest =>
    obtain ⟨key, value⟩ := entry
    obtain ⟨name, hname, hvalue⟩ := bind_eq_ok_iff.mp h
    obtain ⟨v, hv, hrest⟩ := bind_eq_ok_iff.mp hvalue
    obtain ⟨fs, hfs, he⟩ := bind_eq_ok_iff.mp hrest
    cases he
    exact ⟨isProper_of_toJson hv, fieldsAreProper_of_entriesToJson hfs⟩

theorem fieldsAreProper_of_fieldsToJson {fields : List (String × Payload)}
    {fs : List (String × Json)} (h : fieldsToJson fields = .ok fs) : FieldsAreProper fs := by
  cases fields with
  | nil => cases h; trivial
  | cons field rest =>
    obtain ⟨name, value⟩ := field
    obtain ⟨v, hv, hrest⟩ := bind_eq_ok_iff.mp h
    obtain ⟨fs, hfs, he⟩ := bind_eq_ok_iff.mp hrest
    cases he
    exact ⟨isProper_of_toJson hv, fieldsAreProper_of_fieldsToJson hfs⟩

end

end Payload

/-! ## The text of a proper value -/

namespace Json.Document

mutual

/-- The names of every object in a document rise strictly in the order of their bytes. -/
def IsSorted : Document → Prop
  | .array items => AreSorted items
  | .object fields =>
    (fields.Pairwise fun a b => Utf8.encode a.1.toList < Utf8.encode b.1.toList) ∧
      FieldsAreSorted fields
  | _ => True

/-- Whether this is so in all items. -/
def AreSorted : List Document → Prop
  | [] => True
  | item :: rest => IsSorted item ∧ AreSorted rest

/-- Whether this is so in the values of all fields. -/
def FieldsAreSorted : List (String × Document) → Prop
  | [] => True
  | (_, value) :: rest => IsSorted value ∧ FieldsAreSorted rest

end

mutual

/-- A proper value is written with the names of every object in the order of their bytes. -/
theorem isSorted_ofJson (v : Json) (h : v.IsProper) : (ofJson v).IsSorted := by
  cases v with
  | array items => exact areSorted_ofItems items h
  | object fields =>
    refine ⟨?_, fieldsAreSorted_ofFields fields h.2⟩
    rw [ofFields_eq_map, List.pairwise_map]
    exact h.1.imp Utf8.encode_lt
  | _ => trivial

theorem areSorted_ofItems (items : List Json) (h : AreProper items) :
    AreSorted (ofItems items) := by
  cases items with
  | nil => trivial
  | cons item rest => exact ⟨isSorted_ofJson item h.1, areSorted_ofItems rest h.2⟩

theorem fieldsAreSorted_ofFields (fields : List (String × Json)) (h : FieldsAreProper fields) :
    FieldsAreSorted (ofFields fields) := by
  cases fields with
  | nil => trivial
  | cons field rest =>
    obtain ⟨name, value⟩ := field
    exact ⟨isSorted_ofJson value h.1, fieldsAreSorted_ofFields rest h.2⟩

end

end Json.Document

/-! ## What is queued -/

open Courier.Dispatch

variable {p q : Payload} {v : Json} {hook : Option Hook} {body : List Char}

/-- A body is the text of a proper value. -/
theorem exists_proper_of_prepare (hv : p.toJson = .ok v) (hk : ∀ h ∈ hook, h.KeepsProper)
    (hb : (Dispatcher.prepare hook p).2 = some body) : ∃ w : Json, w.IsProper ∧ w.text = body := by
  have hp := Payload.isProper_of_toJson hv
  cases hook with
  | none =>
    rw [prepare_none hv] at hb
    exact ⟨v, hp, Option.some.inj hb⟩
  | some h =>
    cases hr : h.run v with
    | keep after =>
      rw [prepare_of_keep hv hr] at hb
      exact ⟨after, hk h rfl v after hp hr, Option.some.inj hb⟩
    | drop =>
      rw [prepare_of_drop hv hr] at hb
      cases hb
    | panic =>
      rw [prepare_of_panic hv hr] at hb
      exact ⟨v, hp, Option.some.inj hb⟩

/-- Two payloads with one value come to the same when they are submitted, and what is queued of them
is canonical. -/
structure Canonical (p q : Payload) (v : Json) : Prop where
  /-- The value is that of both, -/
  values : p.toJson = .ok v ∧ q.toJson = .ok v
  /-- and all that a hook is asked about: whatever it makes of others, the same comes of both. -/
  asked : ∀ hook other : Hook, hook.run v = other.run v →
    Dispatcher.prepare (some hook) p = Dispatcher.prepare (some other) q
  /-- Submissions of both return the same and leave the same dispatcher, -/
  submitted : ∀ d : Dispatcher, d.submit p = d.submit q
  /-- also when threads submit at once. -/
  called : ∀ (u : Usage) (thread : Nat), u.submit thread p = u.submit thread q
  /-- What returns true has queued the body that was made of either. -/
  queued : ∀ d : Dispatcher, (d.submit p).1 = true → ∃ events body,
    Dispatcher.prepare d.options.hook p = (events, some body) ∧
      Dispatcher.prepare d.options.hook q = (events, some body) ∧
        d.submit p = (true, (d.tell events).accept (.body body))
  /-- A body is the text of a document with the names of every object in the order of their
  bytes, if the hook makes values of values. -/
  sorted : ∀ (hook : Option Hook) (body : List Char), (∀ h ∈ hook, h.KeepsProper) →
    (Dispatcher.prepare hook p).2 = some body →
      ∃ d : Document, d.text = body ∧ d.IsSorted ∧ ∀ e : Document, e.text = body → e = d

/-- **What is queued is canonical**: of payloads that differ in the order of entries it is the same
text, whatever the hook makes of their value. -/
theorem canonical_of_reordered (hr : p.Reordered q) (hd : p.IsDistinct) (hv : p.toJson = .ok v) :
    Canonical p q v := by
  have hq := Payload.toJson_of_reordered hr hd hv
  have hprepare : ∀ hook, Dispatcher.prepare hook p = Dispatcher.prepare hook q := fun hook => by
    simp only [Dispatcher.prepare, hv, hq]
  refine ⟨⟨hv, hq⟩, ?_, ?_, ?_, ?_, ?_⟩
  · intro hook other ho
    simp only [Dispatcher.prepare, hv, hq, ho]
  · intro d
    simp only [Dispatcher.submit, hprepare]
  · intro u thread
    simp only [Usage.submit, hprepare]
  · intro d ht
    cases hb : Dispatcher.prepare d.options.hook p with
    | mk events body =>
      cases body with
      | none =>
        simp only [Dispatcher.submit, hb] at ht
        cases ht
      | some body =>
        refine ⟨events, body, rfl, hprepare _ ▸ hb, ?_⟩
        rw [submit_of_body hb] at ht ⊢
        rcases Dispatcher.enqueue_cases (d.tell events) body with ⟨_, he⟩ | ⟨_, _, _, he⟩
        · exact he
        · rw [he] at ht
          cases ht
  · intro hook body hk hb
    obtain ⟨w, hw, rfl⟩ := exists_proper_of_prepare hv hk hb
    refine ⟨Document.ofJson w, Document.text_ofJson w, Document.isSorted_ofJson w hw, ?_⟩
    exact fun e he => Document.text_injective (he.trans (Document.text_ofJson w).symm)

/-- The fields of a struct and the entries of a map in it are put in another order, and a hook
wraps their value and sets a field. -/
theorem canonical_of_two_levels :
    let p : Payload := .struct [("b", .map [(.char 'é', .nothing), (.integer 1, .bool true)]),
      ("a", .seq [])]
    let q : Payload := .struct [("a", .seq []),
      ("b", .map [(.integer 1, .bool true), (.char 'é', .nothing)])]
    let v : Json := .object [("a", .array []), ("b", .object [("1", .bool true), ("é", .null)])]
    let edits : List Edit := [.wrap "data", .set "at" (.integer 5)]
    p.Reordered q ∧ p.IsDistinct ∧ p.toJson = .ok v ∧ (Hook.ofEdits edits).KeepsProper ∧
      Canonical p q v ∧ (Dispatcher.prepare (some edits) q).2 = some
      "\x7b\"at\":5,\"data\":\x7b\"a\":[],\"b\":\x7b\"1\":true,\"é\":null\x7d\x7d\x7d".toList := by
  intro p q v edits
  have hr : p.Reordered q :=
    .struct (.cons "b" (.map (.cons (.refl _) (.refl _) (.cons (.refl _) (.refl _) .nil))
      (.swap _ _ _)) (.cons "a" (.refl _) .nil)) (.swap _ _ _)
  have hd : p.IsDistinct := by
    refine ⟨by decide, ⟨?_, trivial, trivial, trivial⟩, trivial, trivial⟩
    refine .cons (List.forall_mem_singleton.mpr fun name hn he => ?_) (List.pairwise_singleton _ _)
    have hne : Payload.keyText false (.char 'é') ≠ Payload.keyText false (.integer 1) := by decide
    exact hne (hn.trans he.symm)
  have hv : p.toJson = .ok v := rfl
  have hk : (Hook.ofEdits edits).KeepsProper := by
    have hfive : (Json.integer 5).IsProper := ⟨by decide, by decide⟩
    exact keepsProper_ofEdits (by simp [Edit.IsProper, edits, hfive])
  exact ⟨hr, hd, hv, hk, canonical_of_reordered hr hd hv, by decide⟩

end Courier
