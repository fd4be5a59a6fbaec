import Courier.Proofs.Fields
import Courier.Proofs.Json.Accepting

/-!
# A value is read back from its text

The text of a value without fractions is read as that value, whatever document the value itself was
read from. So a value is known by its text; and since the fields of its objects are in order, it is
known by what its text says.

Results:

* `parse_text` — **the text of a value is read as that value.**
* `eq_of_same` — **values that are written as the same document are one value.**
-/

namespace Courier.Json

open Courier.Decimal Courier.Text

variable {text rest : List Char} {k : Nat} {item : Reader Json} {value : Json}

/-! ## Values -/

theorem stops_itemTexts (items : List Json) (rest : List Char) :
    Document.Stops ((itemTexts items).flatMap (',' :: ·) ++ ']' :: rest) :=
  Document.stops_flatMap rfl _

theorem stops_fieldTexts (fields : List (String × Json)) (rest : List Char) :
    Document.Stops ((fieldTexts fields).flatMap (',' :: ·) ++ '}' :: rest) :=
  Document.stops_flatMap rfl _

/-- An integer is written without blanks. -/
theorem skipBlanks_integerText (i : Int) (rest : List Char) :
    skipBlanks (integerText i ++ rest) = integerText i ++ rest := by
  obtain ⟨first, more, hcons⟩ := List.exists_cons_of_ne_nil (integerText_ne_nil i)
  rw [hcons]
  refine skipBlanks_of_not_isBlank ?_ _
  rcases isDigit_of_mem_integerText (hcons ▸ List.mem_cons_self) with hd | rfl
  · exact isBlank_of_isDigit hd
  · rfl

theorem finds_fieldText (name : String) (h : Finds item text value rest) :
    Finds (readField item) (name.toList.flatMap escape ++ '"' :: ':' :: text) (name, value)
      rest := by
  have hfield := finds_field (finds_escaped name.toList (':' :: text)) rfl h
  rwa [String.ofList_toList] at hfield

mutual

/-- **A value is read back from its text**, whatever punctuation stands behind it. -/
theorem finds_text {k : Nat} (v : Json) (hp : v.IsProper) (hw : v.IsWhole) (hd : v.depth ≤ k)
    {rest : List Char} (hr : Document.Stops rest) :
    Finds (readValue k) (v.text ++ rest) v rest := by
  cases v with
  | null => exact finds_null k rfl
  | bool b => cases b <;> exact finds_bool k _ rfl
  | integer i =>
    exact finds_integer k hp.1 hp.2 (skipBlanks_integerText i rest)
      (endsNumeral_of_ends fun c hc => .inr (hr c hc))
  | real x => exact absurd hw id
  | string s =>
    have ht : (Json.string s).text ++ rest = '"' :: (s.toList.flatMap escape ++ '"' :: rest) := by
      simp [Json.text, stringText]
    have hq : skipBlanks ((Json.string s).text ++ rest) =
        '"' :: (s.toList.flatMap escape ++ '"' :: rest) := by
      rw [ht]
      rfl
    have hs := finds_string k hq (finds_escaped s.toList rest)
    rwa [String.ofList_toList] at hs
  | array items =>
    obtain ⟨k, rfl⟩ := Nat.exists_eq_add_of_le' (Nat.lt_of_lt_of_le (Nat.succ_pos _) hd)
    have hd : itemsDepth items ≤ k := Nat.le_of_succ_le_succ hd
    cases items with
    | nil => exact finds_array_nil k rfl rfl
    | cons first more =>
      have hfirst := finds_text first hp.1 hw.1 (Nat.le_trans (Nat.le_max_left _ _) hd)
        (stops_itemTexts more rest)
      have hmore := finds_itemTexts more hp.2 hw.2 (Nat.le_trans (Nat.le_max_right _ _) hd) rest
      have ht : (Json.array (first :: more)).text ++ rest =
          '[' :: (first.text ++ ((itemTexts more).flatMap (',' :: ·) ++ ']' :: rest)) := by
        simp [Json.text, itemTexts, Document.commaText_cons]
      exact ht ▸ finds_array_cons rfl hfirst hmore
  | object fields =>
    obtain ⟨k, rfl⟩ := Nat.exists_eq_add_of_le' (Nat.lt_of_lt_of_le (Nat.succ_pos _) hd)
    have hd : fieldsDepth fields ≤ k := Nat.le_of_succ_le_succ hd
    cases fields with
    | nil => exact finds_object_nil k rfl rfl
    | cons field more =>
      obtain ⟨name, first⟩ := field
      have hfirst := finds_text first hp.2.1 hw.1 (Nat.le_trans (Nat.le_max_left _ _) hd)
        (stops_fieldTexts more rest)
      have hmore := finds_fieldTexts more hp.2.2 hw.2 (Nat.le_trans (Nat.le_max_right _ _) hd) rest
      have ht : (Json.object ((name, first) :: more)).text ++ rest =
          '{' :: '"' :: (name.toList.flatMap escape ++ '"' :: ':' ::
            (first.text ++ ((fieldTexts more).flatMap (',' :: ·) ++ '}' :: rest))) := by
        simp [Json.text, fieldTexts, Document.commaText_cons, stringText]
      -- Fields in order stay as they are when they are set.
      have ho : ofFields ((name, first) :: more) = .object ((name, first) :: more) :=
        congrArg Json.object (Fields.ofList_of_isAscending hp.1)
      exact ht ▸ ho ▸ finds_object_cons rfl rfl (finds_fieldText name hfirst) hmore

theorem finds_itemTexts {k : Nat} (items : List Json) (hp : AreProper items) (hw : AreWhole items)
    (hd : itemsDepth items ≤ k) (rest : List Char) :
    Finds (readItems (readValue k)) ((itemTexts items).flatMap (',' :: ·) ++ ']' :: rest) items
      rest := by
  cases items with
  | nil => exact finds_items_nil rfl
  | cons first more =>
    have hfirst := finds_text first hp.1 hw.1 (Nat.le_trans (Nat.le_max_left _ _) hd)
      (stops_itemTexts more rest)
    have hmore := finds_itemTexts more hp.2 hw.2 (Nat.le_trans (Nat.le_max_right _ _) hd) rest
    rw [itemTexts, List.flatMap_cons, List.append_assoc]
    exact finds_items_cons rfl hfirst hmore

theorem finds_fieldTexts {k : Nat} (fields : List (String × Json)) (hp : FieldsAreProper fields)
    (hw : FieldsAreWhole fields) (hd : fieldsDepth fields ≤ k) (rest : List Char) :
    Finds (readFields (readValue k)) ((fieldTexts fields).flatMap (',' :: ·) ++ '}' :: rest)
      fields rest := by
  cases fields with
  | nil => exact finds_fields_nil rfl
  | cons field more =>
    obtain ⟨name, first⟩ := field
    have hfirst := finds_text first hp.1 hw.1 (Nat.le_trans (Nat.le_max_left _ _) hd)
      (stops_fieldTexts more rest)
    have hmore := finds_fieldTexts more hp.2 hw.2 (Nat.le_trans (Nat.le_max_right _ _) hd) rest
    have ht : (fieldTexts ((name, first) :: more)).flatMap (',' :: ·) ++ '}' :: rest =
        ',' :: '"' :: (name.toList.flatMap escape ++ '"' :: ':' ::
          (first.text ++ ((fieldTexts more).flatMap (',' :: ·) ++ '}' :: rest))) := by
      simp [fieldTexts, stringText]
    exact ht ▸ finds_fields_cons rfl rfl (finds_fieldText name hfirst) hmore

end

theorem stops_nil : Document.Stops [] :=
  nofun

/-- **The text of a value is read as that value**, unless it is too deep. -/
theorem parse_text (hp : value.IsProper) (hw : value.IsWhole) (hd : value.depth ≤ maxDepth) :
    parse value.text = .ok value := by
  have hfinds := finds_text value hp hw hd stops_nil
  rw [List.append_nil] at hfinds
  exact parse_of_finds hfinds rfl

/-! ## One value for one document -/

theorem sizeOf_lt_of_mem {field : String × Json} {fields : List (String × Json)}
    (h : field ∈ fields) : sizeOf field.2 < sizeOf (Json.object fields) := by
  have hlt := List.sizeOf_lt_of_mem h
  obtain ⟨name, value⟩ := field
  simp only [Prod.mk.sizeOf_spec, object.sizeOf_spec] at hlt ⊢
  omega

theorem last?_eq_get? {α : Type} {fields : Fields α} (h : Fields.IsAscending fields)
    (name : String) : Document.last? name fields = Fields.get? name fields := by
  rw [← Document.get?_ofList, Fields.ofList_of_isAscending h]

/-- Values with one text are one. -/
theorem eq_of_text {v w : Json} (hv : v.IsProper) (hw : w.IsProper) (hvw : v.IsWhole)
    (hww : w.IsWhole) (h : v.text = w.text) : v = w := by
  have hfv := finds_text v hv hvw (Nat.le_max_left v.depth w.depth) stops_nil
  have hfw := finds_text w hw hww (Nat.le_max_right v.depth w.depth) stops_nil
  rw [← h] at hfw
  exact (hfv.unique hfw).1

theorem eq_of_ofJson {v w : Json} (hv : v.IsProper) (hw : w.IsProper) (hvw : v.IsWhole)
    (hww : w.IsWhole) (h : Document.ofJson w = Document.ofJson v) : v = w := by
  refine eq_of_text hv hw hvw hww ?_
  rw [← Document.text_ofJson, ← h, Document.text_ofJson]

theorem eq_of_forall₂ {vs ws : List Json}
    (h : List.Forall₂ Document.Same (Document.ofItems vs) (Document.ofItems ws))
    (heq : ∀ v ∈ vs, ∀ w ∈ ws, Document.Same (.ofJson v) (.ofJson w) → v = w) : vs = ws := by
  induction vs generalizing ws with
  | nil =>
    cases ws with
    | nil => rfl
    | cons w ws => cases h
  | cons v vs ih =>
    cases ws with
    | nil => cases h
    | cons w ws =>
      cases h with
      | cons hfirst hrest =>
        rw [heq v List.mem_cons_self w List.mem_cons_self hfirst, ih hrest fun a ha b hb =>
          heq a (List.mem_cons_of_mem v ha) b (List.mem_cons_of_mem w hb)]

theorem eq_of_rel {vs ws : Fields Json} (hv : Fields.IsAscending vs) (hw : Fields.IsAscending ws)
    (h : ∀ name, Option.Rel Document.Same (Document.last? name (Document.ofFields vs))
      (Document.last? name (Document.ofFields ws)))
    (heq : ∀ v ∈ vs, ∀ w ∈ ws, Document.Same (.ofJson v.2) (.ofJson w.2) → v.2 = w.2) :
    vs = ws := by
  refine Fields.eq_of_get? hv hw fun name => ?_
  have hname := h name
  rw [Document.last?_ofFields, Document.last?_ofFields, last?_eq_get? hv, last?_eq_get? hw] at hname
  cases hgv : Fields.get? name vs with
  | none =>
    cases hgw : Fields.get? name ws with
    | none => rfl
    | some w =>
      rw [hgv, hgw] at hname
      cases hname
  | some v =>
    cases hgw : Fields.get? name ws with
    | none =>
      rw [hgv, hgw] at hname
      cases hname
    | some w =>
      rw [hgv, hgw] at hname
      cases hname with
      | some hs =>
        exact congrArg some (heq _ (Fields.mem_of_get? hgv) _ (Fields.mem_of_get? hgw) hs)

/-- **Values that are written as the same document are one value**: the fields of each object stand
in order. -/
theorem eq_of_same {v w : Json} (hv : v.IsProper) (hw : w.IsProper) (hvw : v.IsWhole)
    (hww : w.IsWhole) (h : Document.Same (.ofJson v) (.ofJson w)) : v = w := by
  match v with
  | .null | .bool _ | .integer _ | .real _ =>
    exact eq_of_ofJson hv hw hvw hww (Document.eq_word_of_same h)
  | .string s => exact eq_of_ofJson hv hw hvw hww (Document.eq_string_of_same h)
  | .array vs =>
    obtain ⟨bs, hb, hsame⟩ := Document.exists_array_of_same h
    cases w with
    | array ws =>
      cases hb
      refine congrArg Json.array (eq_of_forall₂ hsame fun v hm w hm' hs => ?_)
      exact eq_of_same (areProper_iff.mp hv v hm) (areProper_iff.mp hw w hm')
        (areWhole_iff.mp hvw v hm) (areWhole_iff.mp hww w hm') hs
    | _ => cases hb
  | .object vs =>
    obtain ⟨bs, hb, hsame⟩ := Document.exists_object_of_same h
    cases w with
    | object ws =>
      cases hb
      refine congrArg Json.object (eq_of_rel hv.1 hw.1 hsame fun v hm w hm' hs => ?_)
      exact eq_of_same (fieldsAreProper_iff.mp hv.2 v hm) (fieldsAreProper_iff.mp hw.2 w hm')
        (fieldsAreWhole_iff.mp hvw v hm) (fieldsAreWhole_iff.mp hww w hm') hs
    | _ => cases hb
termination_by sizeOf v
decreasing_by
  · have hlt := List.sizeOf_lt_of_mem hm
    simp only [array.sizeOf_spec]
    omega
  · exact sizeOf_lt_of_mem hm

end Courier.Json
