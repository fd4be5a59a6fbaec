import Courier.Proofs.Json.Reading
import Courier.Proofs.Text.Encoding

/-!
# Compact texts

The text of a document whose words are tokens is a text of the grammar, and denotes that document.
Between its tokens there is no blank, and no control anywhere: one in a string stands there as an
escape.

Results:

* `spells_text`: the text of a document spells it, whatever stands behind it.
* `isClean_text`: it begins and ends outside of strings, with no blank there and without controls.
* `isCompact_text`: **so the text of a document is a compact text that denotes it.**
-/

namespace Courier.Json

open Courier.Text

variable {text letters rest string : List Char} {texts : List (List Char)} {c : Char}

/-! ## Outside of strings -/

/-- Where in a text a character stands. -/
inductive Place where
  | between
  | inside
  /-- Inside of a string, behind a backslash. -/
  | escaped

/-- What of a text stands outside of its strings. -/
def outside : Place → List Char → List Char
  | _, [] => []
  | .between, c :: rest => if c = '"' then outside .inside rest else c :: outside .between rest
  | .inside, c :: rest =>
    if c = '"' then outside .between rest
    else if c = '\\' then outside .escaped rest
    else outside .inside rest
  | .escaped, _ :: rest => outside .inside rest

/-- A compact text: one of the grammar, with no blank outside of strings and no byte of a control
anywhere. -/
structure IsCompact (text : List Char) (d : Document) : Prop where
  denotes : Denotes text d
  tight : ∀ c ∈ outside .between text, isBlank c = false
  visible : ∀ b ∈ Utf8.encode text, 0x20 ≤ b.toNat

/-! ## Strings -/

/-- A character stands for itself, or behind a backslash as a letter and perhaps digits. -/
theorem escape_cases (c : Char) :
    (escape c = [c] ∧ c ≠ '"' ∧ c ≠ '\\' ∧ 0x20 ≤ c.toNat) ∨
      ∃ mark more, escape c = '\\' :: mark :: more ∧ 0x20 ≤ mark.toNat ∧
        ∀ d ∈ more, d ≠ '"' ∧ d ≠ '\\' ∧ 0x20 ≤ d.toNat := by
  have mark (m : Char) (hm : 0x20 ≤ m.toNat) : ∃ mark more, ['\\', m] = '\\' :: mark :: more ∧
      0x20 ≤ mark.toNat ∧ ∀ d ∈ more, d ≠ '"' ∧ d ≠ '\\' ∧ 0x20 ≤ d.toNat :=
    ⟨m, [], rfl, hm, nofun⟩
  have hdigit : ∀ n < 0x10, Nat.digitChar n ≠ '"' ∧ Nat.digitChar n ≠ '\\' ∧
      0x20 ≤ (Nat.digitChar n).toNat := by decide
  unfold escape
  split
  · exact .inr (mark '"' (by decide))
  split
  · exact .inr (mark '\\' (by decide))
  split
  · next hc =>
    refine .inr ?_
    split
    · exact mark 'b' (by decide)
    split
    · exact mark 'f' (by decide)
    split
    · exact mark 'n' (by decide)
    split
    · exact mark 'r' (by decide)
    split
    · exact mark 't' (by decide)
    · refine ⟨'u', ['0', '0'] ++ lowDigits c.toNat, rfl, by decide, ?_⟩
      rw [List.forall_mem_append, lowDigits]
      refine ⟨List.forall_mem_cons.mpr ⟨hdigit 0 (by decide),
        List.forall_mem_singleton.mpr (hdigit 0 (by decide))⟩, ?_⟩
      exact List.forall_mem_cons.mpr ⟨hdigit _ (by omega),
        List.forall_mem_singleton.mpr (hdigit _ (Nat.mod_lt _ (by decide)))⟩
  · next hq hs hc => exact .inl ⟨rfl, hq, hs, Nat.not_lt.mp hc⟩

theorem outside_inside_of_plain (h : ∀ c ∈ text, c ≠ '"' ∧ c ≠ '\\') (rest : List Char) :
    outside .inside (text ++ rest) = outside .inside rest := by
  induction text with
  | nil => rfl
  | cons c text ih =>
    obtain ⟨hc, htext⟩ := List.forall_mem_cons.mp h
    rw [List.cons_append, outside, if_neg hc.1, if_neg hc.2, ih htext]

theorem outside_escape (c : Char) (rest : List Char) :
    outside .inside (escape c ++ rest) = outside .inside rest := by
  rcases escape_cases c with ⟨he, hq, hs, -⟩ | ⟨mark, more, he, -, hmore⟩
  · rw [he]
    exact outside_inside_of_plain (List.forall_mem_singleton.mpr ⟨hq, hs⟩) rest
  · rw [he, List.cons_append, List.cons_append, outside, if_neg (by decide), if_pos rfl, outside]
    exact outside_inside_of_plain (fun d hd => ⟨(hmore d hd).1, (hmore d hd).2.1⟩) rest

/-- Nothing of a string token stands outside. -/
theorem outside_stringText (string rest : List Char) :
    outside .between (stringText string ++ rest) = outside .between rest := by
  have hinside : outside .inside (string.flatMap escape ++ ('"' :: rest)) =
      outside .between rest := by
    induction string with
    | nil => rfl
    | cons c string ih => rw [List.flatMap_cons, List.append_assoc, outside_escape, ih]
  rw [stringText, List.append_assoc, List.cons_append, outside, if_pos rfl]
  exact hinside

theorem le_of_mem_escape {d : Char} (h : d ∈ escape c) : 0x20 ≤ d.toNat := by
  rcases escape_cases c with ⟨he, -, -, hc⟩ | ⟨mark, more, he, hmark, hmore⟩
  · obtain rfl := List.mem_singleton.mp (he ▸ h)
    exact hc
  · rcases List.mem_cons.mp (he ▸ h) with rfl | h
    · decide
    rcases List.mem_cons.mp h with rfl | h
    · exact hmark
    · exact (hmore d h).2.2

theorem le_of_mem_stringText (h : c ∈ stringText string) : 0x20 ≤ c.toNat := by
  rw [stringText, List.mem_append, List.mem_cons, List.mem_flatMap, List.mem_singleton] at h
  rcases h with (rfl | ⟨d, -, hd⟩) | rfl
  · decide
  · exact le_of_mem_escape hd
  · decide

/-! ## Clean texts -/

/-- A text that begins and ends outside of strings, with no blank there and without controls. -/
structure IsClean (text : List Char) : Prop where
  tight : ∃ marks, (∀ c ∈ marks, isBlank c = false) ∧
    ∀ rest, outside .between (text ++ rest) = marks ++ outside .between rest
  visible : ∀ c ∈ text, 0x20 ≤ c.toNat

theorem isClean_nil : IsClean [] :=
  ⟨⟨[], nofun, fun _ => rfl⟩, nofun⟩

theorem IsClean.append {more : List Char} (h : IsClean text) (hm : IsClean more) :
    IsClean (text ++ more) := by
  obtain ⟨⟨marks, hmarks, htext⟩, hvisible⟩ := h
  obtain ⟨⟨others, hothers, hmore⟩, hvisible'⟩ := hm
  refine ⟨⟨marks ++ others, List.forall_mem_append.mpr ⟨hmarks, hothers⟩, fun rest => ?_⟩,
    List.forall_mem_append.mpr ⟨hvisible, hvisible'⟩⟩
  rw [List.append_assoc, htext, hmore, List.append_assoc]

/-- One character more in front, neither blank nor quote. -/
theorem IsClean.cons (h : IsClean text) (hq : c ≠ '"') (hb : isBlank c = false)
    (hc : 0x20 ≤ c.toNat) : IsClean (c :: text) := by
  have hone : IsClean [c] := ⟨⟨[c], List.forall_mem_singleton.mpr hb, fun rest => if_neg hq⟩,
    List.forall_mem_singleton.mpr hc⟩
  exact hone.append h

theorem isClean_stringText (string : List Char) : IsClean (stringText string) :=
  ⟨⟨[], nofun, outside_stringText string⟩, fun _ => le_of_mem_stringText⟩

theorem isClean_flatMap (h : ∀ text ∈ texts, IsClean text) :
    IsClean (texts.flatMap (',' :: ·)) := by
  induction texts with
  | nil => exact isClean_nil
  | cons text texts ih =>
    obtain ⟨htext, htexts⟩ := List.forall_mem_cons.mp h
    rw [List.flatMap_cons]
    exact (htext.cons (by decide) rfl (by decide)).append (ih htexts)

/-- Commas between clean texts are clean. -/
theorem isClean_commaText (h : ∀ text ∈ texts, IsClean text) : IsClean (commaText texts) := by
  cases texts with
  | nil => exact isClean_nil
  | cons text texts =>
    obtain ⟨htext, htexts⟩ := List.forall_mem_cons.mp h
    rw [Document.commaText_cons]
    exact htext.append (isClean_flatMap htexts)

theorem isClean_of_forall (hq : ∀ c ∈ letters, c ≠ '"') (hb : ∀ c ∈ letters, isBlank c = false)
    (hc : ∀ c ∈ letters, 0x20 ≤ c.toNat) : IsClean letters := by
  induction letters with
  | nil => exact isClean_nil
  | cons c letters ih =>
    rw [List.forall_mem_cons] at hq hb hc
    exact (ih hq.2 hb.2 hc.2).cons hq.1 hb.1 hc.1

theorem IsToken.visible (h : IsToken letters) : ∀ c ∈ letters, 0x20 ≤ c.toNat := by
  have hdigit (c : Char) (hd : isDigit c = true) : 0x20 ≤ c.toNat := by
    have hlow : '0'.toNat ≤ c.toNat := by
      simp only [isDigit, Bool.and_eq_true, decide_eq_true_eq] at hd
      exact hd.1
    exact Nat.le_trans (by decide) hlow
  cases h with
  | null => simp [Word.null]
  | bool b => cases b <;> simp [Word.bool]
  | number h => exact h.forall hdigit (by decide)

theorem isClean_of_isToken {token : Word} (h : IsToken token.letters) :
    IsClean token.letters := by
  refine isClean_of_forall (fun c hc he => ?_) h.isBlank h.visible
  have hplain := token.plain c hc
  rw [he] at hplain
  cases hplain

/-! ## Documents -/

namespace Document

/-- Every word of a document is a token. -/
inductive HasTokens : Document → Prop
  | word {token : Word} (h : IsToken token.letters) : HasTokens (.word token)
  | string (text : String) : HasTokens (.string text)
  | array {items : List Document} (h : ∀ item ∈ items, HasTokens item) : HasTokens (.array items)
  | object {fields : List (String × Document)} (h : ∀ field ∈ fields, HasTokens field.2) :
    HasTokens (.object fields)

theorem isClean_text {d : Document} (h : d.HasTokens) : IsClean d.text := by
  induction h with
  | word h => exact isClean_of_isToken h
  | string text => exact isClean_stringText _
  | array _ ih =>
    rw [text, itemTexts_eq_map]
    refine ((isClean_commaText ?_).append ?_).cons (by decide) rfl (by decide)
    · exact List.forall_mem_map.mpr ih
    · exact isClean_nil.cons (by decide) rfl (by decide)
  | object _ ih =>
    rw [text, fieldTexts_eq_map]
    refine ((isClean_commaText ?_).append ?_).cons (by decide) rfl (by decide)
    · exact List.forall_mem_map.mpr fun field hf =>
        (isClean_stringText _).append ((ih field hf).cons (by decide) rfl (by decide))
    · exact isClean_nil.cons (by decide) rfl (by decide)

/-! ### What they spell -/

theorem spellsString_escaped (string rest : List Char) :
    SpellsString (string.flatMap escape ++ '"' :: rest) string rest := by
  obtain ⟨found, hf, hv, hr⟩ := finds_escaped string rest
  have h := spells_of_readString hf
  rwa [hv, hr] at h

/-- A string token begins with its quote. -/
theorem skipBlanks_stringText (string rest : List Char) :
    skipBlanks (stringText string ++ rest) = '"' :: (string.flatMap escape ++ '"' :: rest) := by
  rw [stringText, List.append_assoc, List.cons_append]
  exact skipBlanks_of_not_isBlank rfl _

theorem spellsName_fieldText (field : String × Document) (rest : List Char) :
    SpellsName (fieldText field ++ rest) field.1 (field.2.text ++ rest) := by
  rw [fieldText_append]
  have h := SpellsName.mk (skipBlanks_stringText field.1.toList _)
    (spellsString_escaped field.1.toList _)
    (skipBlanks_of_not_isBlank (rfl : isBlank ':' = false) (field.2.text ++ rest))
  rwa [String.ofList_toList] at h

theorem spellsItems_text {items : List Document}
    (h : ∀ item ∈ items, ∀ rest, Spells (item.text ++ rest) item rest) (rest : List Char) :
    SpellsItems ((items.map Document.text).flatMap (',' :: ·) ++ ']' :: rest) items rest := by
  induction items with
  | nil => exact .close (skipBlanks_of_not_isBlank rfl _)
  | cons item items ih =>
    obtain ⟨hitem, hitems⟩ := List.forall_mem_cons.mp h
    rw [List.map_cons, List.flatMap_cons, List.append_assoc, List.cons_append]
    exact .next (skipBlanks_of_not_isBlank rfl _) (hitem _) (ih hitems)

theorem spellsFields_text {fields : List (String × Document)}
    (h : ∀ field ∈ fields, ∀ rest, Spells (field.2.text ++ rest) field.2 rest)
    (rest : List Char) :
    SpellsFields ((fields.map fieldText).flatMap (',' :: ·) ++ '}' :: rest) fields rest := by
  induction fields with
  | nil => exact .close (skipBlanks_of_not_isBlank rfl _)
  | cons field fields ih =>
    obtain ⟨hfield, hfields⟩ := List.forall_mem_cons.mp h
    rw [List.map_cons, List.flatMap_cons, List.append_assoc, List.cons_append]
    exact .next (skipBlanks_of_not_isBlank rfl _) (spellsName_fieldText field _) (hfield _)
      (ih hfields)

/-- **The text of a document spells it**, whatever stands behind it. -/
theorem spells_text {d : Document} (h : d.HasTokens) (rest : List Char) :
    Spells (d.text ++ rest) d rest := by
  induction h generalizing rest with
  | @word token h =>
    refine .word h ?_
    obtain ⟨first, more, hcons⟩ := List.exists_cons_of_ne_nil token.ne_nil
    rw [text, hcons]
    exact skipBlanks_of_not_isBlank (h.isBlank _ (hcons ▸ List.mem_cons_self)) _
  | string string =>
    have h := Spells.string (skipBlanks_stringText string.toList rest)
      (spellsString_escaped string.toList rest)
    rwa [String.ofList_toList] at h
  | @array items _ ih =>
    rw [text, itemTexts_eq_map, List.append_assoc, List.cons_append]
    cases items with
    | nil => exact .noItems (skipBlanks_of_not_isBlank rfl _) (skipBlanks_of_not_isBlank rfl _)
    | cons item items =>
      obtain ⟨hitem, hitems⟩ := List.forall_mem_cons.mp ih
      rw [List.map_cons, commaText_cons, List.append_assoc]
      exact .items (skipBlanks_of_not_isBlank rfl _) (hitem _) (spellsItems_text hitems rest)
  | @object fields _ ih =>
    rw [text, fieldTexts_eq_map, List.append_assoc, List.cons_append]
    cases fields with
    | nil => exact .noFields (skipBlanks_of_not_isBlank rfl _) (skipBlanks_of_not_isBlank rfl _)
    | cons field fields =>
      obtain ⟨hfield, hfields⟩ := List.forall_mem_cons.mp ih
      rw [List.map_cons, commaText_cons, List.append_assoc]
      exact .fields (skipBlanks_of_not_isBlank rfl _) (spellsName_fieldText field _) (hfield _)
        (spellsFields_text hfields rest)

/-- **The text of a document is a compact text that denotes it.** -/
theorem isCompact_text {d : Document} (h : d.HasTokens) : IsCompact d.text d := by
  obtain ⟨⟨marks, hmarks, htext⟩, hvisible⟩ := isClean_text h
  have hspells := spells_text h []
  have houtside := htext []
  rw [List.append_nil] at hspells houtside
  refine ⟨⟨[], hspells, rfl⟩, ?_, fun b hb => ?_⟩
  · rw [houtside, outside, List.append_nil]
    exact hmarks
  · by_cases hlow : b.toNat < 0x80
    · obtain ⟨c, hc, he⟩ := Utf8.mem_encode_of_lt hb hlow
      exact he ▸ hvisible c hc
    · omega

end Document

end Courier.Json
