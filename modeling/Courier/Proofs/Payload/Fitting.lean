import Courier.Payload.ToJson
import Courier.Proofs.Json.Compact
import Courier.Proofs.Json.Reals
import Courier.Proofs.Payload.Document

/-!
# Numbers that fit their formats

The numbers that a program holds have no more bits than their formats keep. Then every word in the
document of a payload is a token, however deep it stands, and so it is with its value, in which the
numbers fit as well.

Results:

* `hasTokens_ofJson`: **the words of a value's document are tokens.**
* `hasTokens_document`: **the words of a payload's document are tokens.**
* `fits_of_toJson`: the numbers in the value of a payload fit.
-/

namespace Courier

open Courier.Decimal Courier.Json

/-! ## Values -/

namespace Json

/-- The numbers in a value have no more bits than 64-bit numbers keep. -/
inductive Fits : Json → Prop
  | null : Fits .null
  | bool (b : Bool) : Fits (.bool b)
  | integer (i : Int) : Fits (.integer i)
  | real {x : Fraction} (h : Format.double.Holds x) : Fits (.real x)
  | string (text : String) : Fits (.string text)
  | array {items : List Json} (h : ∀ item ∈ items, Fits item) : Fits (.array items)
  | object {fields : List (String × Json)} (h : ∀ field ∈ fields, Fits field.2) :
    Fits (.object fields)

theorem isToken_double {x : Fraction} (h : Format.double.Holds x) :
    IsToken (Word.finite .double doubleWindow x).letters :=
  .number (isNumber_text (f := .double) (by decide) h doubleWindow)

/-- **The words of a value's document are tokens.** -/
theorem hasTokens_ofJson {value : Json} (h : value.Fits) : (Document.ofJson value).HasTokens := by
  induction h with
  | null => exact .word .null
  | bool b => exact .word (.bool b)
  | integer i => exact .word (isToken_integer i)
  | real h => exact .word (isToken_double h)
  | string text => exact .string text
  | array _ ih =>
    rw [Document.ofJson, Document.ofItems_eq_map]
    exact .array (List.forall_mem_map.mpr ih)
  | object _ ih =>
    rw [Document.ofJson, Document.ofFields_eq_map]
    exact .object (List.forall_mem_map.mpr ih)

/-- The text of a value is a compact text of its document. -/
theorem isCompact_of_fits {value : Json} (h : value.Fits) :
    IsCompact value.text (Document.ofJson value) :=
  Document.text_ofJson value ▸ Document.isCompact_text (hasTokens_ofJson h)

theorem fits_ofFields {fields : List (String × Json)} (h : ∀ field ∈ fields, Fits field.2) :
    (ofFields fields).Fits :=
  .object fun field hf => h field (Fields.mem_of_mem_ofList hf)

end Json

/-! ## Payloads -/

namespace Payload

/-- The numbers in a payload have no more bits than their formats keep, as those that a program
holds; what stands in the keys of maps does not matter. -/
inductive Fits : Payload → Prop
  | nothing : Fits .nothing
  | bool (b : Bool) : Fits (.bool b)
  | integer (i : Int) : Fits (.integer i)
  | single {x : Binary} (h : ∀ y, x = .finite y → Format.single.Holds y) : Fits (.single x)
  | double {x : Binary} (h : ∀ y, x = .finite y → Format.double.Holds y) : Fits (.double x)
  | char (c : Char) : Fits (.char c)
  | string (text : String) : Fits (.string text)
  | bytes (bytes : List UInt8) : Fits (.bytes bytes)
  | present {value : Payload} (h : Fits value) : Fits (.present value)
  | wrapped {value : Payload} (h : Fits value) : Fits (.wrapped value)
  | unitVariant (name : String) : Fits (.unitVariant name)
  | newtypeVariant (name : String) {value : Payload} (h : Fits value) :
    Fits (.newtypeVariant name value)
  | seq {items : List Payload} (h : ∀ item ∈ items, Fits item) : Fits (.seq items)
  | tupleVariant (name : String) {items : List Payload} (h : ∀ item ∈ items, Fits item) :
    Fits (.tupleVariant name items)
  | map {entries : List (Payload × Payload)} (h : ∀ entry ∈ entries, Fits entry.2) :
    Fits (.map entries)
  | struct {fields : List (String × Payload)} (h : ∀ field ∈ fields, Fits field.2) :
    Fits (.struct fields)
  | structVariant (name : String) {fields : List (String × Payload)}
      (h : ∀ field ∈ fields, Fits field.2) : Fits (.structVariant name fields)
  | failing (message : String) : Fits (.failing message)

variable {p : Payload} {items : List Payload} {entries : List (Payload × Payload)}
  {fields : List (String × Payload)}

/-! ### Documents -/

theorem itemDocuments_eq_map (items : List Payload) : itemDocuments items = items.map document := by
  induction items with
  | nil => rfl
  | cons item items ih => rw [itemDocuments, ih, List.map_cons]

theorem entryDocuments_eq_map (entries : List (Payload × Payload)) :
    entryDocuments entries = entries.map fun entry => (keyName entry.1, entry.2.document) := by
  induction entries with
  | nil => rfl
  | cons entry entries ih => rw [entryDocuments, ih, List.map_cons]

theorem fieldDocuments_eq_map (fields : List (String × Payload)) :
    fieldDocuments fields = fields.map fun field => (field.1, field.2.document) := by
  induction fields with
  | nil => rfl
  | cons field fields ih => rw [fieldDocuments, ih, List.map_cons]

/-- The word of a number is null, or a number token. -/
theorem isToken_realWord {f : Format} (hp : f.precision ≤ 53) (w : Window) {x : Binary}
    (h : ∀ y, x = .finite y → f.Holds y) : IsToken (realWord f w x).letters := by
  cases x with
  | finite y => exact .number (isNumber_text hp (h y rfl) w)
  | infinite negative => exact .null
  | nan => exact .null

theorem hasTokens_variant (name : String) {d : Document} (h : d.HasTokens) :
    (Document.object [(name, d)]).HasTokens :=
  .object (List.forall_mem_singleton.mpr h)

/-- **The words of a payload's document are tokens**, its keys aside, which are strings. -/
theorem hasTokens_document (h : p.Fits) : p.document.HasTokens := by
  induction h with
  | nothing => exact .word .null
  | bool b => exact .word (.bool b)
  | integer i => exact .word (isToken_integer i)
  | single h => exact .word (isToken_realWord (by decide) _ h)
  | double h => exact .word (isToken_realWord (by decide) _ h)
  | char c => exact .string _
  | string text => exact .string text
  | bytes bytes =>
    exact .array (List.forall_mem_map.mpr fun b _ => .word (isToken_integer b.toNat))
  | present _ ih => exact ih
  | wrapped _ ih => exact ih
  | unitVariant name => exact .string name
  | newtypeVariant name _ ih => exact hasTokens_variant name ih
  | seq _ ih =>
    rw [document, itemDocuments_eq_map]
    exact .array (List.forall_mem_map.mpr ih)
  | tupleVariant name _ ih =>
    rw [document, itemDocuments_eq_map]
    exact hasTokens_variant name (.array (List.forall_mem_map.mpr ih))
  | map _ ih =>
    rw [document, entryDocuments_eq_map]
    exact .object (List.forall_mem_map.mpr ih)
  | struct _ ih =>
    rw [document, fieldDocuments_eq_map]
    exact .object (List.forall_mem_map.mpr ih)
  | structVariant name _ ih =>
    rw [document, fieldDocuments_eq_map]
    exact hasTokens_variant name (.object (List.forall_mem_map.mpr ih))
  | failing message => exact .word .null

/-! ### Values -/

theorem fits_variantJson (name : String) {value : Json} (h : value.Fits) :
    (variantJson name value).Fits :=
  .object (List.forall_mem_singleton.mpr h)

theorem fits_realJson {x : Binary} (h : ∀ y, x = .finite y → Format.double.Holds y) :
    (realJson x).Fits := by
  cases x with
  | finite y => exact .real (h y rfl)
  | infinite negative => exact .null
  | nan => exact .null

/-- The denominator of a number is a power of two. -/
theorem ratio_den_ne_zero (x : Fraction) : x.ratio.2 ≠ 0 := by
  unfold Fraction.ratio
  split
  · exact Nat.one_ne_zero
  · exact Nat.ne_of_gt (Nat.pow_pos (by decide))

theorem fits_itemsToJson (h : ∀ item ∈ items, ∀ v, toJson item = .ok v → v.Fits)
    {values : List Json} (hv : itemsToJson items = .ok values) : ∀ v ∈ values, v.Fits := by
  induction items generalizing values with
  | nil =>
    cases hv
    exact nofun
  | cons item items ih =>
    obtain ⟨hitem, hitems⟩ := List.forall_mem_cons.mp h
    obtain ⟨v, hfirst, hrest⟩ := bind_eq_ok_iff.mp hv
    obtain ⟨rest, hr, he⟩ := bind_eq_ok_iff.mp hrest
    cases he
    exact List.forall_mem_cons.mpr ⟨hitem v hfirst, ih hitems hr⟩

theorem fits_entriesToJson (h : ∀ entry ∈ entries, ∀ v, toJson entry.2 = .ok v → v.Fits)
    {values : List (String × Json)} (hv : entriesToJson entries = .ok values) :
    ∀ field ∈ values, field.2.Fits := by
  induction entries generalizing values with
  | nil =>
    cases hv
    exact nofun
  | cons entry entries ih =>
    obtain ⟨hentry, hentries⟩ := List.forall_mem_cons.mp h
    obtain ⟨name, -, hvalue⟩ := bind_eq_ok_iff.mp hv
    obtain ⟨v, hfirst, hrest⟩ := bind_eq_ok_iff.mp hvalue
    obtain ⟨rest, hr, he⟩ := bind_eq_ok_iff.mp hrest
    cases he
    exact List.forall_mem_cons.mpr ⟨hentry v hfirst, ih hentries hr⟩

theorem fits_fieldsToJson (h : ∀ field ∈ fields, ∀ v, toJson field.2 = .ok v → v.Fits)
    {values : List (String × Json)} (hv : fieldsToJson fields = .ok values) :
    ∀ field ∈ values, field.2.Fits := by
  induction fields generalizing values with
  | nil =>
    cases hv
    exact nofun
  | cons field fields ih =>
    obtain ⟨hfield, hfields⟩ := List.forall_mem_cons.mp h
    obtain ⟨v, hfirst, hrest⟩ := bind_eq_ok_iff.mp hv
    obtain ⟨rest, hr, he⟩ := bind_eq_ok_iff.mp hrest
    cases he
    exact List.forall_mem_cons.mpr ⟨hfield v hfirst, ih hfields hr⟩

/-- **The numbers in the value of a payload fit as well**, those of 32 bits too, which are rounded
to 64. -/
theorem fits_of_toJson (h : p.Fits) {value : Json} (hv : p.toJson = .ok value) : value.Fits := by
  induction h generalizing value with
  | nothing => cases hv; exact .null
  | bool b => cases hv; exact .bool b
  | integer i =>
    have hi : integerJson i = .ok value := hv
    unfold integerJson at hi
    split at hi
    · cases hi
      exact .integer i
    · cases hi
  | @single x h =>
    cases x with
    | finite y =>
      cases hv
      exact fits_realJson fun z hz => holds_of_round (ratio_den_ne_zero y) hz
    | infinite negative => cases hv; exact .null
    | nan => cases hv; exact .null
  | double h => cases hv; exact fits_realJson h
  | char c => cases hv; exact .string _
  | string text => cases hv; exact .string text
  | bytes bytes => cases hv; exact .array (List.forall_mem_map.mpr fun b _ => .integer _)
  | present _ ih => exact ih hv
  | wrapped _ ih => exact ih hv
  | unitVariant name => cases hv; exact .string name
  | newtypeVariant name _ ih =>
    obtain ⟨v, hinner, rfl⟩ := map_eq_ok_iff.mp hv
    exact fits_variantJson name (ih hinner)
  | seq _ ih =>
    obtain ⟨vs, hvs, rfl⟩ := map_eq_ok_iff.mp hv
    exact .array (fits_itemsToJson (fun item hi _ => ih item hi) hvs)
  | tupleVariant name _ ih =>
    obtain ⟨vs, hvs, rfl⟩ := map_eq_ok_iff.mp hv
    exact fits_variantJson name (.array (fits_itemsToJson (fun item hi _ => ih item hi) hvs))
  | map _ ih =>
    obtain ⟨fs, hfs, rfl⟩ := map_eq_ok_iff.mp hv
    exact fits_ofFields (fits_entriesToJson (fun entry he _ => ih entry he) hfs)
  | struct _ ih =>
    obtain ⟨fs, hfs, rfl⟩ := map_eq_ok_iff.mp hv
    exact fits_ofFields (fits_fieldsToJson (fun field hf _ => ih field hf) hfs)
  | structVariant name _ ih =>
    obtain ⟨fs, hfs, rfl⟩ := map_eq_ok_iff.mp hv
    exact fits_variantJson name
      (fits_ofFields (fits_fieldsToJson (fun field hf _ => ih field hf) hfs))
  | failing message => cases hv

end Payload

end Courier
