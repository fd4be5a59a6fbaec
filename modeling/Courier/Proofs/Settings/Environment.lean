import Courier.Proofs.Fields
import Courier.Proofs.Settings.Merging

/-!
# What the environment sets

A variable is a setting if its name begins with the prefix, in any case, and what it sets is its
value as a text. Of variables with one key the last counts. One that is a setting and not text
keeps all of them from being read (`environmentLayer`).

Results:

* `environmentLayer_of_readable`, `environmentLayer_of_unreadable`: what is made of an environment.
* `mem_variableLayer_iff`: the layer of an environment whose names differ not only in case.
* `isPlain_variableLayer`: the keys that plain words set are plain words.
-/

namespace Courier.Settings

open Courier.Text

variable {key name : String} {value : Tree} {environment : Environment}

/-! ## Variables that can be read -/

/-- A variable that can be read: it is no setting, or its value is text. -/
def IsReadable (v : String × List UInt8) : Prop :=
  (keyOf? v.1).isSome → (Utf8.decode? v.2).isSome

instance (v : String × List UInt8) : Decidable (IsReadable v) :=
  inferInstanceAs (Decidable (_ → _))

/-- The text of a variable as a value. -/
def textValue (text : List Char) : Tree :=
  .scalar (some "the environment") (.text (String.ofList text))

/-- What a variable sets, if it is a setting and its value is text. -/
def settingOf? (v : String × List UInt8) : Option (String × Tree) :=
  (keyOf? v.1).bind fun key => (Utf8.decode? v.2).map fun text => (key, textValue text)

theorem settingOf?_eq_some_iff {v : String × List UInt8} :
    settingOf? v = some (key, value) ↔
      keyOf? v.1 = some key ∧ ∃ text, Utf8.decode? v.2 = some text ∧ value = textValue text := by
  simp only [settingOf?, Option.bind_eq_some_iff, Option.map_eq_some_iff, Prod.mk.injEq]
  constructor
  · rintro ⟨_, hk, text, ht, rfl, rfl⟩
    exact ⟨hk, text, ht, rfl⟩
  · rintro ⟨hk, text, ht, rfl⟩
    exact ⟨key, hk, text, ht, rfl, rfl⟩

/-- **The layer of an environment that can be read** is what its variables set, in their order. -/
theorem environmentLayer_of_readable (h : ∀ v ∈ environment, IsReadable v) :
    environmentLayer environment = .ok (environment.filterMap settingOf?) := by
  induction environment with
  | nil => rfl
  | cons first rest ih =>
    obtain ⟨name, bytes⟩ := first
    obtain ⟨hfirst, hrest⟩ := List.forall_mem_cons.mp h
    unfold environmentLayer
    cases hk : keyOf? name with
    | none =>
      have hnone : settingOf? (name, bytes) = none := by
        simp only [settingOf?, hk, Option.bind_none]
      rw [List.filterMap_cons_none hnone]
      exact ih hrest
    | some key =>
      obtain ⟨text, ht⟩ := Option.isSome_iff_exists.mp
        (hfirst (by simp only [hk, Option.isSome_some]))
      have hsome : settingOf? (name, bytes) = some (key, textValue text) :=
        settingOf?_eq_some_iff.mpr ⟨hk, text, ht, rfl⟩
      rw [List.filterMap_cons_some hsome]
      simp only [ht, ih hrest, Except.map, textValue]

/-- An environment that cannot be read tells the first variable that hinders it. -/
theorem environmentLayer_of_unreadable (h : ∃ v ∈ environment, ¬ IsReadable v) :
    ∃ v ∈ environment, ∃ key, keyOf? v.1 = some key ∧ Utf8.decode? v.2 = none ∧
      environmentLayer environment = .error (.notText key v.2) := by
  induction environment with
  | nil =>
    obtain ⟨_, hm, _⟩ := h
    exact absurd hm List.not_mem_nil
  | cons first rest ih =>
    obtain ⟨name, bytes⟩ := first
    have later (hf : IsReadable (name, bytes)) : ∃ v ∈ rest, ¬ IsReadable v := by
      obtain ⟨v, hv, hn⟩ := h
      rcases List.mem_cons.mp hv with rfl | hv
      · exact absurd hf hn
      · exact ⟨v, hv, hn⟩
    unfold environmentLayer
    cases hk : keyOf? name with
    | none =>
      obtain ⟨v, hv, hrest⟩ := ih (later fun hs => by simp [hk] at hs)
      exact ⟨v, List.mem_cons_of_mem _ hv, hrest⟩
    | some key =>
      cases ht : Utf8.decode? bytes with
      | none => exact ⟨(name, bytes), List.mem_cons_self, key, hk, ht, rfl⟩
      | some text =>
        obtain ⟨v, hv, key', hk', ht', he⟩ := ih (later fun _ => by simp [ht])
        exact ⟨v, List.mem_cons_of_mem _ hv, key', hk', ht', by simp only [he, Except.map]⟩

/-! ## The keys of variables -/

/-- The name of a variable in lower case: the prefix, an underscore and the key. -/
theorem toList_lowercase_of_keyOf? (h : keyOf? name = some key) :
    (lowercase name).toList = (lowercase variablePrefix).toList ++ ['_'] ++ key.toList := by
  unfold keyOf? at h
  dsimp only at h
  split at h
  · next hp =>
    obtain ⟨rest, hr⟩ := List.isPrefixOf_iff_prefix.mp hp
    cases h
    rw [← hr, List.drop_left, String.toList_ofList]
  · exact absurd h nofun

/-- Variables with one key are one in lower case. -/
theorem lowercase_eq_of_keyOf? {first second : String} (hf : keyOf? first = some key)
    (hs : keyOf? second = some key) : lowercase first = lowercase second :=
  String.toList_injective
    ((toList_lowercase_of_keyOf? hf).trans (toList_lowercase_of_keyOf? hs).symm)

/-- A character of a plain word is one of ASCII. -/
theorem lt_of_isNameChar {c : Char} (h : KeyPath.isNameChar c = true) : c.toNat < 0x80 := by
  simp only [KeyPath.isNameChar, isDigit, Bool.or_eq_true, Bool.and_eq_true,
    decide_eq_true_eq] at h
  rcases h with (((⟨_, h⟩ | ⟨_, h⟩) | ⟨_, h⟩) | rfl) | rfl
  · exact Nat.lt_of_le_of_lt h (by decide)
  · exact Nat.lt_of_le_of_lt h (by decide)
  · exact Nat.lt_of_le_of_lt h (by decide)
  · decide
  · decide

theorem isNameChar_toLower {c : Char} (h : KeyPath.isNameChar c = true) :
    KeyPath.isNameChar c.toLower = true := by
  have hall : ∀ n : Fin 0x80, KeyPath.isNameChar (Char.ofNat n) = true →
      KeyPath.isNameChar (Char.ofNat n).toLower = true := by decide
  have hc := hall ⟨c.toNat, lt_of_isNameChar h⟩
  rw [Char.ofNat_toNat] at hc
  exact hc h

/-- The key of a variable whose name is a plain word is one. -/
theorem isPlain_of_keyOf? (h : IsPlain name) (hk : keyOf? name = some key) : IsPlain key := by
  have hascii : ∀ c ∈ name.toList, c.toNat < 0x80 := fun c hc => lt_of_isNameChar (h c hc)
  intro c hc
  have hm : c ∈ (lowercase name).toList := by
    rw [toList_lowercase_of_keyOf? hk]
    exact List.mem_append_right _ hc
  rw [toList_lowercase_of_ascii hascii] at hm
  obtain ⟨d, hd, rfl⟩ := List.mem_map.mp hm
  exact isNameChar_toLower (h d hd)

/-! ## The layer -/

/-- What the variables set, of those with one key the last. -/
def variableLayer (environment : Environment) : Layer :=
  Fields.ofList (environment.filterMap settingOf?)

theorem nodup_variableLayer (environment : Environment) :
    ((variableLayer environment).map (·.1)).Nodup :=
  (Fields.isAscending_ofList _).nodup

theorem exists_of_mem_variableLayer (h : (key, value) ∈ variableLayer environment) :
    ∃ v ∈ environment, keyOf? v.1 = some key ∧
      ∃ text, Utf8.decode? v.2 = some text ∧ value = textValue text := by
  obtain ⟨v, hv, hs⟩ := List.mem_filterMap.mp (Fields.mem_of_mem_ofList h)
  exact ⟨v, hv, settingOf?_eq_some_iff.mp hs⟩

theorem not_mem_variableLayer (h : ∀ v ∈ environment, keyOf? v.1 ≠ some key) (value : Tree) :
    (key, value) ∉ variableLayer environment := by
  intro hm
  obtain ⟨v, hv, hk, _⟩ := exists_of_mem_variableLayer hm
  exact h v hv hk

/-- What a variable sets is there if no other variable has its key. -/
theorem mem_variableLayer {v : String × List UInt8} (hv : v ∈ environment)
    (hs : settingOf? v = some (key, value))
    (h : ∀ w ∈ environment, ∀ other, settingOf? w = some (key, other) → other = value) :
    (key, value) ∈ variableLayer environment := by
  refine Fields.mem_ofList (List.mem_filterMap.mpr ⟨v, hv, hs⟩) fun other ho => ?_
  obtain ⟨w, hw, hs⟩ := List.mem_filterMap.mp ho
  exact h w hw other hs

/-- Variables that differ not only in case set different keys. -/
theorem eq_of_keyOf? (hn : (environment.map fun v => lowercase v.1).Nodup)
    {v w : String × List UInt8} (hv : v ∈ environment) (hw : w ∈ environment)
    (hk : keyOf? v.1 = some key) (hk' : keyOf? w.1 = some key) : v = w :=
  List.inj_on_of_nodup_map hn hv hw (lowercase_eq_of_keyOf? hk hk')

/-- **The layer of an environment whose names differ not only in case** has what each of its
variables sets. -/
theorem mem_variableLayer_iff (hn : (environment.map fun v => lowercase v.1).Nodup) :
    (key, value) ∈ variableLayer environment ↔ ∃ v ∈ environment, keyOf? v.1 = some key ∧
      ∃ text, Utf8.decode? v.2 = some text ∧ value = textValue text := by
  refine ⟨exists_of_mem_variableLayer, ?_⟩
  rintro ⟨v, hv, hk, htext⟩
  have hs : settingOf? v = some (key, value) := settingOf?_eq_some_iff.mpr ⟨hk, htext⟩
  refine mem_variableLayer hv hs fun w hw other ho => ?_
  obtain rfl : v = w := eq_of_keyOf? hn hv hw hk (settingOf?_eq_some_iff.mp ho).1
  simpa using ho.symm.trans hs

/-- **The keys that an environment of plain words sets are plain words.** -/
theorem isPlain_variableLayer (h : ∀ v ∈ environment, IsPlain v.1) :
    ∀ field ∈ variableLayer environment, IsPlain field.1 := by
  intro field hf
  obtain ⟨v, hv, hk, _⟩ := exists_of_mem_variableLayer hf
  exact isPlain_of_keyOf? (h v hv) hk

/-- There is room for what every variable sets. -/
def VariablesHaveRoom (environment : Environment) : Prop :=
  ∀ v ∈ environment, ∀ key, keyOf? v.1 = some key → HasRoom key

theorem hasRoom_variableLayer_iff (h : ∀ v ∈ environment, IsReadable v) :
    (∀ field ∈ variableLayer environment, HasRoom field.1) ↔ VariablesHaveRoom environment := by
  constructor
  · intro hroom v hv key hk
    obtain ⟨text, ht⟩ := Option.isSome_iff_exists.mp (h v hv (by rw [hk, Option.isSome_some]))
    have hs : settingOf? v = some (key, textValue text) :=
      settingOf?_eq_some_iff.mpr ⟨hk, text, ht, rfl⟩
    have hm : (key, textValue text) ∈ environment.filterMap settingOf? :=
      List.mem_filterMap.mpr ⟨v, hv, hs⟩
    obtain ⟨value, hvalue⟩ :=
      Fields.exists_mem_ofList (List.mem_map_of_mem (f := (·.1)) hm)
    exact hroom _ hvalue
  · intro hroom field hf
    obtain ⟨v, hv, hk, _⟩ := exists_of_mem_variableLayer hf
    exact hroom v hv field.1 hk

end Courier.Settings
