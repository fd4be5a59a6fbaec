import Courier.Json.Printer
import Courier.Json.Reader
import Mathlib.Data.List.Basic

/-!
# String tokens

Results:

* `finds_escaped`: what is read behind the opening quote of a string token is the text that the
  token was written for, whatever stands behind the token.
* `stringText_append_inj`: so a string token says where it ends, and no two texts have the same.
-/

namespace Courier.Json

open Courier.Text

variable {α : Type} {reader : Reader α} {value other : α} {input rest : List Char} {c : Char}

/-- What a reader finds at the front of an input, and what it leaves. -/
def Finds (reader : Reader α) (input : List Char) (value : α) (rest : List Char) : Prop :=
  ∃ found, reader input = .ok found ∧ found.value = value ∧ found.rest = rest

theorem Finds.unique {left : List Char} (h : Finds reader input value rest)
    (h' : Finds reader input other left) : value = other ∧ rest = left := by
  obtain ⟨found, hf, rfl, rfl⟩ := h
  obtain ⟨_, hf', rfl, rfl⟩ := h'
  cases hf.symm.trans hf'
  exact ⟨rfl, rfl⟩

/-! ## Escapes -/

/-- The digits of a control are read as the control. -/
theorem hexValue_lowDigits : ∀ n < 0x20,
    areDigits 16 (['0', '0'] ++ lowDigits n) = true ∧
      hexValue (['0', '0'] ++ lowDigits n) = n := by
  decide

theorem finds_hex {n : Nat} (h : n < 0x20) (rest : List Char) :
    Finds readHex (['0', '0'] ++ lowDigits n ++ rest) n rest := by
  obtain ⟨hd, hv⟩ := hexValue_lowDigits n h
  exact ⟨_, if_pos hd, hv, rfl⟩

theorem finds_numbered (h : c.toNat < 0x20) (rest : List Char) :
    Finds readNumbered (['0', '0'] ++ lowDigits c.toNat ++ rest) c rest := by
  obtain ⟨found, hf, hv, hr⟩ := finds_hex h rest
  refine ⟨found.map Char.ofNat, ?_, ?_, hr⟩
  · unfold readNumbered
    rw [hf]
    have hlow : ¬(0xDC00 ≤ found.value ∧ found.value ≤ 0xDFFF) := by omega
    have hhigh : ¬(0xD800 ≤ found.value ∧ found.value ≤ 0xDBFF) := by omega
    simp only [if_neg hlow, if_neg hhigh]
  · simp only [Found.map, hv, Char.ofNat_toNat]

/-- A character that does not stand for itself stands behind a backslash. -/
theorem finds_escape (h : escape c ≠ [c]) (rest : List Char) :
    ∃ mark, escape c = '\\' :: mark ∧ Finds readEscape (mark ++ rest) c rest := by
  unfold escape at h ⊢
  repeat' split
  · next he => exact ⟨['"'], rfl, _, rfl, he.symm, rfl⟩
  · next he => exact ⟨['\\'], rfl, _, rfl, he.symm, rfl⟩
  · next he => exact ⟨['b'], rfl, _, rfl, he.symm, rfl⟩
  · next he => exact ⟨['f'], rfl, _, rfl, he.symm, rfl⟩
  · next he => exact ⟨['n'], rfl, _, rfl, he.symm, rfl⟩
  · next he => exact ⟨['r'], rfl, _, rfl, he.symm, rfl⟩
  · next he => exact ⟨['t'], rfl, _, rfl, he.symm, rfl⟩
  · next hc _ _ _ _ _ =>
    obtain ⟨found, hf, hv, hr⟩ := finds_numbered hc rest
    refine ⟨'u' :: '0' :: '0' :: lowDigits c.toNat, rfl, found.behind 'u', ?_, hv, hr⟩
    simp only [List.cons_append, readEscape]
    simp only [List.cons_append, List.nil_append] at hf
    rw [hf]
  · simp_all

/-- A character that stands for itself neither ends a string nor opens an escape. -/
theorem plain_of_escape_eq (h : escape c = [c]) : c ≠ '"' ∧ c ≠ '\\' ∧ ¬c.toNat < 0x20 := by
  unfold escape at h
  split at h
  · cases h
  split at h
  · cases h
  split at h
  · repeat' split at h
    all_goals cases h
  · exact ⟨‹_›, ‹_›, ‹_›⟩

/-! ## Strings -/

theorem finds_plain {text : List Char} (hc : escape c = [c])
    (h : Finds readString input text rest) : Finds readString (c :: input) (c :: text) rest := by
  obtain ⟨hquote, hslash, hcontrol⟩ := plain_of_escape_eq hc
  obtain ⟨found, hf, hv, hr⟩ := h
  refine ⟨(found.map (c :: ·)).behind c, ?_, congrArg (c :: ·) hv, hr⟩
  rw [readString, if_neg hquote, if_neg hslash, if_neg hcontrol, hf]

theorem finds_behind_escape {text mark : List Char} (hc : Finds readEscape mark c input)
    (h : Finds readString input text rest) :
    Finds readString ('\\' :: mark) (c :: text) rest := by
  obtain ⟨escaped, hs, hv, rfl⟩ := hc
  obtain ⟨found, hf, ht, hr⟩ := h
  refine ⟨(escaped.andThen (found.map (escaped.value :: ·))).behind '\\', ?_, ?_, hr⟩
  · rw [readString, if_neg (by decide), if_pos rfl, hs]
    simp only [hf]
  · exact congrArg₂ List.cons hv ht

theorem finds_cons {text : List Char} (h : Finds readString input text rest) (c : Char) :
    Finds readString (escape c ++ input) (c :: text) rest := by
  by_cases hc : escape c = [c]
  · rw [hc]
    exact finds_plain hc h
  · obtain ⟨mark, hm, he⟩ := finds_escape hc input
    rw [hm]
    exact finds_behind_escape he h

/-- **A string token is read as the text that it was written for**, and to its end. -/
theorem finds_escaped (text rest : List Char) :
    Finds readString (text.flatMap escape ++ '"' :: rest) text rest := by
  induction text with
  | nil =>
    have hq : readString ('"' :: rest) = .ok (.head [] '"' rest) := by rw [readString, if_pos rfl]
    exact ⟨_, hq, rfl, rfl⟩
  | cons c text ih =>
    rw [List.flatMap_cons, List.append_assoc]
    exact finds_cons ih c

/-- A string token says where it ends. -/
theorem stringText_append_inj {a b r s : List Char}
    (h : stringText a ++ r = stringText b ++ s) : a = b ∧ r = s := by
  have ht (text rest : List Char) :
      stringText text ++ rest = '"' :: (text.flatMap escape ++ '"' :: rest) := by
    simp [stringText]
  rw [ht, ht] at h
  have hb := finds_escaped b s
  rw [← List.tail_eq_of_cons_eq h] at hb
  exact (finds_escaped a r).unique hb

end Courier.Json
