import Courier.Proofs.Text.Splitting
import Courier.Settings.Basic
import Mathlib.Data.List.TakeWhile

/-!
# Layers over one another

A key of a layer is a path into the tree that the layers are put into. A key that is a plain word
leads to the top of the tree, and what stands there in the end is what the last layer with that key
put there. Values that are put over others keep the text and the number that they are taken for,
for only the parts of a table depend on what was there.

Results:

* `steps_of_isPlain`: a plain word is a path of one step.
* `isSome_addLayer_iff`: **a layer can be put over a tree iff there is room for what its keys lead
  to**.
* `get?_addLayer_of_perm`: the order of a layer does not matter to a name that one field leads to.
* `stands_of_led`, `stands_of_mem`: what a layer puts under a name stands there.
-/

namespace Courier.Settings

open Courier.Text

variable {key name : String} {tree after value old : Tree} {layer : Layer}

/-! ## Plain words -/

/-- A plain word: letters of ASCII, digits, dashes and underscores, without points and brackets. -/
def IsPlain (word : String) : Prop :=
  ∀ c ∈ word.toList, KeyPath.isNameChar c = true

instance (word : String) : Decidable (IsPlain word) :=
  decidable_of_iff (word.toList.all KeyPath.isNameChar = true) List.all_eq_true

/-- **A plain word is a path of one step.** -/
theorem steps_of_isPlain (h : IsPlain key) : KeyPath.steps key = [.key key] := by
  unfold KeyPath.steps KeyPath.parse? takeRun
  cases hk : key.toList with
  | nil => rfl
  | cons c rest =>
    have hall : ∀ d ∈ c :: rest, KeyPath.isNameChar d = true := hk ▸ h
    obtain ⟨hc, hrest⟩ := List.forall_mem_cons.mp hall
    have htake : rest.takeWhile KeyPath.isNameChar = rest := List.takeWhile_eq_self_iff.mpr hrest
    have hdrop : rest.dropWhile KeyPath.isNameChar = [] := List.dropWhile_eq_nil_iff.mpr hrest
    have hkey : String.ofList (c :: rest) = key := by rw [← hk, String.ofList_toList]
    simp only [hc, if_true, htake, hdrop, KeyPath.steps?, Option.map_some, Option.getD_some, hkey]

theorem steps?_subscript {digits : List Char} {i : Int} (hd : digits.all (· ≠ ']') = true)
    (hi : KeyPath.index? digits = some i) :
    KeyPath.steps? ('[' :: (digits ++ [']'])) = some [.index i] := by
  have hsplit : (digits ++ [']']).takeWhile (· ≠ ']') = digits ∧
      (digits ++ [']']).dropWhile (· ≠ ']') = [']'] :=
    takeWhile_append_of_stop (List.all_eq_true.mp hd) (by simp)
  rw [KeyPath.steps?]
  split
  · next left h =>
    rw [hsplit.2] at h
    cases h
    simp only [hsplit.1, hi, KeyPath.steps?, Option.map_some]
  · next h => cases hsplit.2.symm.trans h

/-- A plain word with a subscript is a path into an array. -/
theorem steps_of_subscript (word digits : List Char) {i : Int} (hn : word ≠ [])
    (hp : word.all KeyPath.isNameChar = true) (hd : digits.all (· ≠ ']') = true)
    (hi : KeyPath.index? digits = some i) :
    KeyPath.steps (String.ofList (word ++ '[' :: (digits ++ [']']))) =
      [.key (String.ofList word), .index i] := by
  obtain ⟨c, rest, rfl⟩ := List.exists_cons_of_ne_nil hn
  obtain ⟨hc, hrest⟩ := List.forall_mem_cons.mp (List.all_eq_true.mp hp)
  have hsplit : (rest ++ '[' :: (digits ++ [']'])).takeWhile KeyPath.isNameChar = rest ∧
      (rest ++ '[' :: (digits ++ [']'])).dropWhile KeyPath.isNameChar =
        '[' :: (digits ++ [']']) :=
    takeWhile_append_of_stop hrest (by simp [KeyPath.isNameChar, isDigit])
  unfold KeyPath.steps KeyPath.parse? takeRun
  rw [String.toList_ofList, List.cons_append]
  simp only [hc, if_true, hsplit.1, hsplit.2, steps?_subscript hd hi, Option.map_some,
    Option.getD_some]

/-! ## What a value is taken for -/

/-- A value is taken for the same text wherever it is put. -/
@[simp] theorem Tree.text_put (value old : Tree) : (value.put old).text = value.text := by
  cases value <;> rfl

@[simp] theorem Tree.text?_put (value old : Tree) : (value.put old).text? = value.text? := by
  cases value <;> rfl

@[simp] theorem Tree.word_put (value old : Tree) : (value.put old).word = value.word := by
  cases value <;> rfl

/-- A value stands under a key of a tree, put over whatever was there before. -/
def Stands (tree : Tree) (key : String) (value : Tree) : Prop :=
  ∃ old, (tree.fields.get? key).getD .unset = value.put old

/-- Of fields with different names, one under a name is the only one. -/
theorem eq_of_nodup {fields : Layer} {other : Tree} (hn : (fields.map (·.1)).Nodup)
    (h : (key, value) ∈ fields) (ho : (key, other) ∈ fields) : value = other :=
  Option.some.inj ((Fields.get?_of_mem hn h).symm.trans (Fields.get?_of_mem hn ho))

/-! ## Room -/

/-- An array has room for what a step leads to. -/
def Step.HasRoom : Step → Prop
  | .key _ => True
  | .index i => Tree.needed i ≤ Tree.room

instance : DecidablePred Step.HasRoom
  | .key _ => inferInstanceAs (Decidable True)
  | .index _ => inferInstanceAs (Decidable (_ ≤ _))

/-- There is room for what a key leads to. -/
def HasRoom (key : String) : Prop :=
  ∀ step ∈ KeyPath.steps key, step.HasRoom

instance : DecidablePred HasRoom := fun _ => inferInstanceAs (Decidable (∀ _ ∈ _, _))

/-- A subscript that is too great leaves no room. -/
theorem not_hasRoom_of_steps {i : Int} (hs : KeyPath.steps name = [.key key, .index i])
    (hi : Tree.room < Tree.needed i) : ¬HasRoom name := fun h =>
  absurd (h (.index i) (hs ▸ .tail _ (.head _))) (Nat.not_le.mpr hi)

theorem not_hasRoom_of_greatest_subscript : ¬HasRoom "x[9223372036854775807]" :=
  not_hasRoom_of_steps (steps_of_subscript ['x'] "9223372036854775807".toList nofun rfl rfl rfl)
    (by decide +kernel)

theorem hasRoom_of_isPlain (h : IsPlain key) : HasRoom key := by
  unfold HasRoom
  rw [steps_of_isPlain h]
  exact List.forall_mem_singleton.mpr trivial

theorem Tree.isSome_splitAt?_iff (i : Int) (items : List Tree) :
    (splitAt? i items).isSome ↔ Step.HasRoom (.index i) := by
  unfold splitAt? Step.HasRoom
  split
  · next h => exact ⟨nofun, fun hr => absurd hr (Nat.not_le.mpr h)⟩
  · next h => exact ⟨fun _ => Nat.not_lt.mp h, fun _ => rfl⟩

/-- **A change comes about iff there is room along the steps**, whatever the tree. -/
theorem Tree.isSome_update_iff {change : Tree → Tree} {steps : List Step} :
    (tree.update change steps).isSome ↔ ∀ step ∈ steps, step.HasRoom := by
  induction steps generalizing tree with
  | nil => exact ⟨fun _ => nofun, fun _ => rfl⟩
  | cons step steps ih =>
    rw [List.forall_mem_cons]
    cases step with
    | key name => simp only [Tree.update, Option.isSome_map, ih, Step.HasRoom, true_and]
    | index i =>
      rw [← Tree.isSome_splitAt?_iff i tree.items.2, Tree.update]
      cases Tree.splitAt? i tree.items.2 with
      | none => simp
      | some parts =>
        obtain ⟨before, item, behind⟩ := parts
        simp only [Option.isSome_map, ih, Option.isSome_some, true_and]

theorem addLayer_cons (tree value : Tree) (name : String) (rest : Layer) :
    addLayer tree ((name, value) :: rest) =
      (tree.update value.put (KeyPath.steps name)).bind (addLayer · rest) := rfl

/-- So it is with a layer and its keys, and their order does not matter. -/
theorem isSome_addLayer_iff :
    (addLayer tree layer).isSome ↔ ∀ field ∈ layer, HasRoom field.1 := by
  induction layer generalizing tree with
  | nil => exact ⟨fun _ => nofun, fun _ => rfl⟩
  | cons field rest ih =>
    obtain ⟨name, value⟩ := field
    have hfirst : (tree.update value.put (KeyPath.steps name)).isSome ↔ HasRoom name :=
      Tree.isSome_update_iff
    rw [List.forall_mem_cons, addLayer_cons, ← hfirst]
    cases tree.update value.put (KeyPath.steps name) with
    | none => simp
    | some next => simp only [Option.bind_some, ih, Option.isSome_some, true_and]

/-! ## Where keys lead -/

/-- A key leads into what stands under a name at the top of the tree. -/
def Leads (key name : String) : Prop :=
  (KeyPath.steps key).head? = some (.key name)

instance (key name : String) : Decidable (Leads key name) :=
  inferInstanceAs (Decidable (_ = _))

/-- Every key leads into what stands under some name. -/
theorem exists_leads (key : String) : ∃ name, Leads key name := by
  unfold Leads KeyPath.steps
  cases h : KeyPath.parse? key.toList with
  | none => exact ⟨key, rfl⟩
  | some steps =>
    unfold KeyPath.parse? at h
    split at h
    · cases h
    · obtain ⟨behind, -, rfl⟩ := Option.map_eq_some_iff.mp h
      exact ⟨_, rfl⟩

/-- A plain word leads to its own name. -/
theorem leads_iff_of_isPlain (h : IsPlain name) : Leads name key ↔ name = key := by
  unfold Leads
  rw [steps_of_isPlain h, List.head?_cons, Option.some.injEq, Step.key.injEq]

/-- A change inside of one name leaves the others. -/
theorem get?_update_of_not_leads {change : Tree → Tree} (h : ¬Leads name key)
    (hu : tree.update change (KeyPath.steps name) = some after) :
    after.fields.get? key = tree.fields.get? key := by
  obtain ⟨top, ht⟩ := exists_leads name
  have hne : key ≠ top := fun he => h (he ▸ ht)
  obtain ⟨behind, hs⟩ := List.head?_eq_some_iff.mp ht
  rw [hs, Tree.update] at hu
  obtain ⟨inner, -, rfl⟩ := Option.map_eq_some_iff.mp hu
  exact Fields.get?_set_ne hne _ _

/-- What a change inside of a name comes to there depends on what stands there, and on nothing
else. -/
theorem get?_update_of_leads {change : Tree → Tree} {other after' : Tree} (h : Leads name key)
    (hg : tree.fields.get? key = other.fields.get? key)
    (hu : tree.update change (KeyPath.steps name) = some after)
    (hu' : other.update change (KeyPath.steps name) = some after') :
    after.fields.get? key = after'.fields.get? key := by
  obtain ⟨behind, hs⟩ := List.head?_eq_some_iff.mp h
  rw [hs, Tree.update] at hu hu'
  obtain ⟨inner, hi, rfl⟩ := Option.map_eq_some_iff.mp hu
  obtain ⟨inner', hi', rfl⟩ := Option.map_eq_some_iff.mp hu'
  rw [hg, hi'] at hi
  cases hi
  exact (Fields.get?_set _ _ _).trans (Fields.get?_set _ _ _).symm

/-- What a layer comes to under a name depends on those of its fields that lead there. -/
theorem get?_addLayer_filter (other : Tree) (hg : tree.fields.get? key = other.fields.get? key)
    (ha : addLayer tree layer = some after) :
    ∃ after', addLayer other (layer.filter (Leads ·.1 key)) = some after' ∧
      after.fields.get? key = after'.fields.get? key := by
  induction layer generalizing tree other with
  | nil =>
    cases ha
    exact ⟨other, rfl, hg⟩
  | cons field rest ih =>
    obtain ⟨name, value⟩ := field
    rw [addLayer_cons] at ha
    obtain ⟨next, hu, ha⟩ := Option.bind_eq_some_iff.mp ha
    by_cases hl : Leads name key
    · have hroom : (other.update value.put (KeyPath.steps name)).isSome :=
        Tree.isSome_update_iff.mpr (Tree.isSome_update_iff.mp (Option.isSome_of_eq_some hu))
      obtain ⟨next', hu'⟩ := Option.isSome_iff_exists.mp hroom
      rw [List.filter_cons, if_pos (decide_eq_true hl), addLayer_cons, hu', Option.bind_some]
      exact ih next' (get?_update_of_leads hl hg hu hu') ha
    · rw [List.filter_cons, if_neg fun h => hl (of_decide_eq_true h)]
      exact ih other ((get?_update_of_not_leads hl hu).trans hg) ha

/-- A layer leaves the names that its keys do not lead to. -/
theorem get?_addLayer_of_not_leads (h : ∀ field ∈ layer, ¬Leads field.1 key)
    (ha : addLayer tree layer = some after) : after.fields.get? key = tree.fields.get? key := by
  obtain ⟨after', hf, hg⟩ := get?_addLayer_filter tree rfl ha
  have hnil : layer.filter (Leads ·.1 key) = [] :=
    List.filter_eq_nil_iff.mpr fun field hf hl => h field hf (of_decide_eq_true hl)
  rw [hnil] at hf
  cases hf
  exact hg

theorem eq_of_perm_of_length_le_one {α : Type} {as bs : List α} (h : as.Perm bs)
    (hone : as.length ≤ 1) : as = bs := by
  cases as with
  | nil => exact h.nil_eq
  | cons a rest =>
    obtain rfl : rest = [] := by simpa using hone
    exact List.singleton_perm.mp h

/-- **The order of a layer does not matter to a name** that at most one of its fields leads to. -/
theorem get?_addLayer_of_perm {layer' : Layer} {other after' : Tree} (hp : layer.Perm layer')
    (hone : (layer.filter (Leads ·.1 key)).length ≤ 1)
    (hg : tree.fields.get? key = other.fields.get? key)
    (ha : addLayer tree layer = some after) (ha' : addLayer other layer' = some after') :
    after.fields.get? key = after'.fields.get? key := by
  obtain ⟨x, hx, hgx⟩ := get?_addLayer_filter other hg ha
  obtain ⟨y, hy, hgy⟩ := get?_addLayer_filter other rfl ha'
  have hsame : layer.filter (Leads ·.1 key) = layer'.filter (Leads ·.1 key) :=
    eq_of_perm_of_length_le_one (hp.filter _) hone
  rw [hsame, hy] at hx
  cases hx
  exact hgx.trans hgy.symm

/-- **A value that a layer leads to by one field only stands there in the end**, whatever was there
before. -/
theorem stands_of_led (hp : IsPlain key) (hm : (key, value) ∈ layer)
    (h : ∀ field ∈ layer, Leads field.1 key → field = (key, value))
    (ha : addLayer tree layer = some after) : Stands after key value := by
  induction layer generalizing tree with
  | nil => exact absurd hm List.not_mem_nil
  | cons field rest ih =>
    obtain ⟨hfirst, hrest⟩ := List.forall_mem_cons.mp h
    obtain ⟨name, other⟩ := field
    rw [addLayer_cons] at ha
    obtain ⟨next, hu, hn⟩ := Option.bind_eq_some_iff.mp ha
    by_cases hr : (key, value) ∈ rest
    · exact ih hr hrest hn
    · cases (List.mem_cons.mp hm).resolve_right hr
      have hnot : ∀ field ∈ rest, ¬Leads field.1 key :=
        fun field hf hl => hr (hrest field hf hl ▸ hf)
      refine ⟨(tree.fields.get? key).getD .unset, ?_⟩
      rw [steps_of_isPlain hp] at hu
      cases hu
      rw [get?_addLayer_of_not_leads hnot hn, Tree.fields, Fields.get?_set, Option.getD_some]

/-- What stood under a name that a layer does not lead to stands there still. -/
theorem Stands.of_not_leads (hs : Stands tree key value) (h : ∀ field ∈ layer, ¬Leads field.1 key)
    (ha : addLayer tree layer = some after) : Stands after key value := by
  obtain ⟨old, ho⟩ := hs
  exact ⟨old, by rw [get?_addLayer_of_not_leads h ha, ho]⟩

/-! ## Layers of plain words -/

/-- A value that a layer has stands where the layer put it. -/
theorem stands_of_mem (hp : ∀ field ∈ layer, IsPlain field.1) (hn : (layer.map (·.1)).Nodup)
    (hm : (key, value) ∈ layer) (ha : addLayer tree layer = some after) :
    Stands after key value := by
  refine stands_of_led (hp _ hm) hm (fun field hf hl => ?_) ha
  obtain ⟨name, other⟩ := field
  obtain rfl : name = key := (leads_iff_of_isPlain (hp _ hf)).mp hl
  rw [eq_of_nodup hn hf hm]

/-- What stood under a key that a layer does not have stands there still. -/
theorem Stands.of_not_mem (hs : Stands tree key value) (hp : ∀ field ∈ layer, IsPlain field.1)
    (h : ∀ value, (key, value) ∉ layer) (ha : addLayer tree layer = some after) :
    Stands after key value := by
  refine hs.of_not_leads (fun field hf hl => ?_) ha
  obtain ⟨name, other⟩ := field
  obtain rfl : name = key := (leads_iff_of_isPlain (hp _ hf)).mp hl
  exact h other hf

end Courier.Settings
