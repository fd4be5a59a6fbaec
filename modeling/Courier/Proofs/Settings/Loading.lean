import Courier.Proofs.Settings.Demands
import Courier.Proofs.Settings.Environment
import Courier.Proofs.Toml.Keys

/-!
# Loading settings

The settings come of three layers (`load_settings`): the defaults, the file and the variables, each
put over those before. Each run goes through the keys of a layer in an order of its own. What that
can make a difference to is which of several misfits is told, and what becomes of a setting that two
keys of one layer lead to. A key that leads to an array without room for it stops the caller.

Results:

* `load_eq_ok_iff`: **what it takes to have settings**.
* `load_eq_panicked_iff`: **what it takes to be stopped** (`IsCrowded`), in whatever order.
* `isSettled_of_leadsOnce`: **settings do not depend on the order** if no two keys of the file, and
  no two keys of variables, lead to one of them.
-/

namespace Courier.Settings

open Courier.Text

variable {order order' : Order} {files : Files} {file : Option String} {layer : Layer}
  {environment : Environment} {tree tree' : Tree} {s : Settings} {k : Key} {e : Error}

/-! ## The layer of a file -/

/-- The file of a call gives a layer: that of the file that is named, or none. -/
inductive ReadsFile (files : Files) : Option String → Layer → Prop
  | none : ReadsFile files none []
  | some {name : String} {layer : Layer} (h : fileLayer files name = .ok layer) :
    ReadsFile files (some name) layer

theorem ReadsFile.unique {other : Layer} (h : ReadsFile files file layer)
    (ho : ReadsFile files file other) : layer = other := by
  cases h with
  | none =>
    cases ho
    rfl
  | some h =>
    cases ho with
    | some ho => exact Except.ok.inj (h.symm.trans ho)

theorem map_fst_fieldsOfToml {origin : String} {fields : List (String × Toml.Value)}
    (h : fieldsOfToml origin fields = .ok layer) : layer.map (·.1) = fields.map (·.1) := by
  induction fields generalizing layer with
  | nil =>
    cases h
    rfl
  | cons field rest ih =>
    obtain ⟨name, value⟩ := field
    simp only [fieldsOfToml, bind, Except.bind] at h
    split at h
    · exact absurd h nofun
    · split at h
      · exact absurd h nofun
      · next trees ht =>
        cases h
        simp only [List.map_cons, ih ht]

/-- The layer of a file that is there under its very name and is a document. -/
theorem fileLayer_of_parse? {name : String} {bytes : List UInt8} {fields : Fields Toml.Value}
    (hf : files name = some bytes) (hp : Toml.parse? (fileText bytes) = some fields) :
    fileLayer files name = (fieldsOfToml name fields).mapError (.badNumeral · name) := by
  have hl : locate? files name = some (name, bytes) := by simp only [locate?, hf]
  simp only [fileLayer, hl, hp]
  cases fieldsOfToml name fields <;> rfl

/-- A file has each of its keys once. -/
theorem ReadsFile.nodup (h : ReadsFile files file layer) : (layer.map (·.1)).Nodup := by
  cases h with
  | none => exact List.nodup_nil
  | some h =>
    unfold fileLayer at h
    split at h
    · exact absurd h nofun
    · split at h
      · exact absurd h nofun
      · next fields hp =>
        split at h
        · next hf =>
          cases h
          rw [map_fst_fieldsOfToml hf]
          exact Toml.nodup_of_parse? hp
        · exact absurd h nofun

/-! ## The tree of all layers -/

/-- The defaults have each of their keys once, and all of them are plain words. -/
theorem nodup_defaults : (defaults.map (·.1)).Nodup := by decide

theorem isPlain_defaults : ∀ field ∈ defaults, IsPlain field.1 := by decide

/-- The tree of the defaults. -/
def lowest : Tree := .table (Fields.ofList defaults)

theorem addLayer_defaults : addLayer (.table []) defaults = some lowest := by
  simp only [defaults, addLayer_cons, steps_of_isPlain (show IsPlain "base_url" by decide),
    steps_of_isPlain (show IsPlain "path" by decide),
    steps_of_isPlain (show IsPlain "connect_timeout_ms" by decide),
    steps_of_isPlain (show IsPlain "timeout_ms" by decide)]
  rfl

theorem overlay_eq_ok_iff :
    overlay tree layer = .returned (.ok tree') ↔ addLayer tree layer = some tree' := by
  unfold overlay
  cases addLayer tree layer <;> simp

/-- A caller is stopped iff there is no room for what some key of a layer leads to. -/
theorem overlay_eq_panicked_iff {message : String} : overlay tree layer = .panicked message ↔
    message = roomMessage ∧ ∃ field ∈ layer, ¬HasRoom field.1 := by
  have hsome : (addLayer tree layer).isSome ↔ ¬∃ field ∈ layer, ¬HasRoom field.1 := by
    rw [isSome_addLayer_iff]
    exact ⟨fun h ⟨field, hf, hn⟩ => hn (h field hf),
      fun h field hf => Decidable.byContradiction fun hn => h ⟨field, hf, hn⟩⟩
  unfold overlay
  cases ha : addLayer tree layer with
  | some after =>
    rw [ha] at hsome
    exact ⟨nofun, fun ⟨_, h⟩ => absurd h (hsome.mp rfl)⟩
  | none =>
    rw [ha] at hsome
    have hcrowded : ∃ field ∈ layer, ¬HasRoom field.1 :=
      Decidable.byContradiction fun hn => absurd (hsome.mpr hn) nofun
    exact ⟨fun h => ⟨(Ending.panicked.inj h).symm, hcrowded⟩, fun ⟨h, _⟩ => h ▸ rfl⟩

/-- The tree of the defaults, a file's layer and an environment that can be read. -/
def merge? (order : Order) (layer : Layer) (environment : Environment) : Option Tree :=
  (addLayer lowest (order.file layer)).bind
    (addLayer · (order.environment (variableLayer environment)))

/-- There is room for what the keys of a layer lead to, in whatever order. -/
theorem exists_addLayer_of_perm {layer' : Layer} (hp : layer'.Perm layer)
    (h : ∀ field ∈ layer, HasRoom field.1) (tree : Tree) :
    ∃ tree', addLayer tree layer' = some tree' :=
  Option.isSome_iff_exists.mp (isSome_addLayer_iff.mpr fun field hf => h field (hp.mem_iff.mp hf))

theorem hasRoom_of_perm {layer' : Layer} (hp : layer'.Perm layer)
    (h : addLayer tree layer' = some tree') : ∀ field ∈ layer, HasRoom field.1 := fun field hf =>
  isSome_addLayer_iff.mp (Option.isSome_of_eq_some h) field (hp.mem_iff.mpr hf)

theorem exists_merge?_iff : (∃ tree, merge? order layer environment = some tree) ↔
    (∀ field ∈ layer, HasRoom field.1) ∧
      ∀ field ∈ variableLayer environment, HasRoom field.1 := by
  constructor
  · rintro ⟨tree, h⟩
    obtain ⟨lower, hl, ht⟩ := Option.bind_eq_some_iff.mp h
    exact ⟨hasRoom_of_perm (order.perm_file layer) hl,
      hasRoom_of_perm (order.perm_environment _) ht⟩
  · rintro ⟨hf, hv⟩
    obtain ⟨lower, hl⟩ := exists_addLayer_of_perm (order.perm_file layer) hf lowest
    obtain ⟨tree, ht⟩ := exists_addLayer_of_perm (order.perm_environment _) hv lower
    exact ⟨tree, Option.bind_eq_some_iff.mpr ⟨lower, hl, ht⟩⟩

/-! ## What comes of loading -/

theorem environmentLayer_eq_ok_iff {upper : Layer} : environmentLayer environment = .ok upper ↔
    (∀ v ∈ environment, IsReadable v) ∧ upper = environment.filterMap settingOf? := by
  by_cases h : ∀ v ∈ environment, IsReadable v
  · rw [environmentLayer_of_readable h]
    exact ⟨fun he => ⟨h, (Except.ok.inj he).symm⟩, fun ⟨_, he⟩ => he ▸ rfl⟩
  · have hbad : ∃ v ∈ environment, ¬IsReadable v := by simpa using h
    obtain ⟨v, _, key, _, _, he⟩ := environmentLayer_of_unreadable hbad
    rw [he]
    exact ⟨nofun, fun ⟨hall, _⟩ => absurd hall h⟩

theorem gatherFile_of_reads (hr : ReadsFile files file layer) :
    gatherFile order files file = overlay lowest (order.file layer) := by
  unfold gatherFile
  rw [overlay_eq_ok_iff.mpr addLayer_defaults, Ending.andThen_ok]
  cases hr with
  | none =>
    have hnil : order.file [] = [] := (order.perm_file []).eq_nil
    rw [hnil]
    rfl
  | some hf => simp only [hf, Ending.andThen_ok]

/-- Without a file that can be read there is nothing to go on with. -/
theorem exists_reads_of_gatherFile (order : Order)
    (h : ∀ e, gatherFile order files file ≠ .returned (.error e)) :
    ∃ layer, ReadsFile files file layer := by
  unfold gatherFile at h
  rw [overlay_eq_ok_iff.mpr addLayer_defaults, Ending.andThen_ok] at h
  cases file with
  | none => exact ⟨[], .none⟩
  | some name =>
    cases hf : fileLayer files name with
    | ok layer => exact ⟨layer, .some hf⟩
    | error e => exact absurd (by simp only [hf, Ending.andThen_error]) (h e)

/-- **What it takes to have settings**: the file and the variables can be read, there is room for
what their keys lead to, and the tree of all layers has a part under each key. -/
theorem load_eq_ok_iff : load order files file environment = .returned (.ok s) ↔
    ∃ layer tree, ReadsFile files file layer ∧ (∀ v ∈ environment, IsReadable v) ∧
      merge? order layer environment = some tree ∧ ∀ k : Key, k.Takes (under tree k) s := by
  simp only [load, gather, Ending.andThen_eq_ok_iff, Ending.returned.injEq,
    ofTree_eq_ok_iff order.perm_keys, environmentLayer_eq_ok_iff, overlay_eq_ok_iff]
  constructor
  · rintro ⟨tree, ⟨lower, hl, _, ⟨h, rfl⟩, ht⟩, hs⟩
    obtain ⟨layer, hr⟩ := exists_reads_of_gatherFile order fun e he => by
      cases hl.symm.trans he
    rw [gatherFile_of_reads hr, overlay_eq_ok_iff] at hl
    exact ⟨layer, tree, hr, h, Option.bind_eq_some_iff.mpr ⟨lower, hl, ht⟩, hs⟩
  · rintro ⟨layer, tree, hr, h, hm, hs⟩
    obtain ⟨lower, hl, ht⟩ := Option.bind_eq_some_iff.mp hm
    rw [gatherFile_of_reads hr]
    exact ⟨tree, ⟨lower, overlay_eq_ok_iff.mpr hl, _, ⟨h, rfl⟩, ht⟩, hs⟩

/-- If all can be read and there is room, loading comes to what the tree of all layers has. -/
theorem load_of_merge? (hr : ReadsFile files file layer) (h : ∀ v ∈ environment, IsReadable v)
    (hm : merge? order layer environment = some tree) :
    load order files file environment = .returned (ofTree order.keys tree) := by
  obtain ⟨lower, hl, ht⟩ := Option.bind_eq_some_iff.mp hm
  have hover : overlay lower (order.environment (Fields.ofList (environment.filterMap
      settingOf?))) = .returned (.ok tree) := overlay_eq_ok_iff.mpr ht
  simp only [load, gather, gatherFile_of_reads hr, overlay_eq_ok_iff.mpr hl,
    environmentLayer_of_readable h, hover, Ending.andThen_ok]

/-- If there is room for a file, but a variable cannot be read, that is told. -/
theorem load_of_unreadable (order : Order) (hr : ReadsFile files file layer)
    (hroom : ∀ field ∈ layer, HasRoom field.1) (h : ∃ v ∈ environment, ¬IsReadable v) :
    ∃ v ∈ environment, ∃ key, keyOf? v.1 = some key ∧ Utf8.decode? v.2 = none ∧
      load order files file environment = .returned (.error (.notText key v.2)) := by
  obtain ⟨v, hv, key, hk, ht, he⟩ := environmentLayer_of_unreadable h
  obtain ⟨lower, hl⟩ := exists_addLayer_of_perm (order.perm_file layer) hroom lowest
  refine ⟨v, hv, key, hk, ht, ?_⟩
  simp only [load, gather, gatherFile_of_reads hr, overlay_eq_ok_iff.mpr hl, he,
    Ending.andThen_ok, Ending.andThen_error]

/-- Loading comes upon a key that leads to an array without room for it: one of the file, or, if all
variables can be read, one of theirs. -/
def IsCrowded (files : Files) (file : Option String) (environment : Environment) : Prop :=
  ∃ layer, ReadsFile files file layer ∧
    ((∃ field ∈ layer, ¬HasRoom field.1) ∨
      (∀ v ∈ environment, IsReadable v) ∧ ¬VariablesHaveRoom environment)

/-- **Loading is stopped iff it comes upon a key without room**, in whatever order. -/
theorem load_eq_panicked_iff {message : String} :
    load order files file environment = .panicked message ↔
      message = roomMessage ∧ IsCrowded files file environment := by
  have hperm {fields fields' : Layer} (hp : fields.Perm fields') :
      (∃ field ∈ fields, ¬HasRoom field.1) ↔ ∃ field ∈ fields', ¬HasRoom field.1 :=
    exists_congr fun field => by rw [hp.mem_iff]
  have hvariables (h : ∀ v ∈ environment, IsReadable v) :
      (∃ field ∈ variableLayer environment, ¬HasRoom field.1) ↔ ¬VariablesHaveRoom environment := by
    rw [← hasRoom_variableLayer_iff h]
    simp only [not_forall, exists_prop]
  simp only [load, gather, Ending.andThen_eq_panicked_iff, reduceCtorEq, and_false, exists_false,
    or_false, false_or, Ending.returned.injEq, environmentLayer_eq_ok_iff, overlay_eq_panicked_iff,
    hperm (order.perm_environment _)]
  constructor
  · rintro (hf | ⟨lower, hl, _, ⟨h, rfl⟩, hm, hv⟩)
    · obtain ⟨layer, hr⟩ := exists_reads_of_gatherFile order fun e he => by
        cases hf.symm.trans he
      rw [gatherFile_of_reads hr, overlay_eq_panicked_iff, hperm (order.perm_file layer)] at hf
      exact ⟨hf.1, layer, hr, .inl hf.2⟩
    · obtain ⟨layer, hr⟩ := exists_reads_of_gatherFile order fun e he => by
        cases hl.symm.trans he
      exact ⟨hm, layer, hr, .inr ⟨h, (hvariables h).mp hv⟩⟩
  · rintro ⟨rfl, layer, hr, hc⟩
    rw [gatherFile_of_reads hr]
    by_cases hfile : ∃ field ∈ layer, ¬HasRoom field.1
    · exact .inl (overlay_eq_panicked_iff.mpr ⟨rfl, (hperm (order.perm_file layer)).mpr hfile⟩)
    · obtain ⟨h, hv⟩ := hc.resolve_left hfile
      have hroom : ∀ field ∈ layer, HasRoom field.1 := by simpa using hfile
      obtain ⟨lower, hl⟩ := exists_addLayer_of_perm (order.perm_file layer) hroom lowest
      exact .inr ⟨lower, overlay_eq_ok_iff.mpr hl, _, ⟨h, rfl⟩, rfl, (hvariables h).mpr hv⟩

/-! ## The order of keys -/

/-- All keys in the order opposite to that in which they stand. -/
def Order.reversed : Order :=
  ⟨List.reverse, List.reverse, Key.all.reverse, List.reverse_perm, List.reverse_perm,
    List.reverse_perm _⟩

/-- Settings that are had in one order are had in every order. -/
def IsSettled (files : Files) (file : Option String) (environment : Environment) : Prop :=
  ∀ order order' s, load order files file environment = .returned (.ok s) →
    load order' files file environment = .returned (.ok s)

/-- No two of these keys lead to one setting. -/
def LeadsOnce (isKey : String → Prop) : Prop :=
  ∀ (k : Key) (key other : String), isKey key → isKey other → Leads key k.text →
    Leads other k.text → key = other

theorem leadsOnce_of_isPlain {isKey : String → Prop} (h : ∀ key, isKey key → IsPlain key) :
    LeadsOnce isKey := fun _ key other hk ho hl hl' =>
  ((leads_iff_of_isPlain (h key hk)).mp hl).trans ((leads_iff_of_isPlain (h other ho)).mp hl').symm

/-- If no two keys of a layer lead to a setting, at most one of its fields does. -/
theorem length_filter_le_one (hn : (layer.map (·.1)).Nodup) (h : LeadsOnce (· ∈ layer.map (·.1)))
    (k : Key) : (layer.filter (Leads ·.1 k.text)).length ≤ 1 := by
  have hsub : (layer.filter (Leads ·.1 k.text)).Sublist layer := List.filter_sublist
  have hnodup := (hsub.map (·.1)).nodup hn
  have hleads : ∀ field ∈ layer.filter (Leads ·.1 k.text),
      field.1 ∈ layer.map (·.1) ∧ Leads field.1 k.text := fun field hf =>
    ⟨List.mem_map_of_mem (hsub.subset hf), of_decide_eq_true (List.mem_filter.mp hf).2⟩
  cases hl : layer.filter (Leads ·.1 k.text) with
  | nil => exact Nat.zero_le _
  | cons first rest =>
    cases rest with
    | nil => exact Nat.le_refl _
    | cons second rest =>
      rw [hl] at hnodup hleads
      obtain ⟨hm, hfirst⟩ := hleads first List.mem_cons_self
      obtain ⟨hm', hsecond⟩ := hleads second (List.mem_cons_of_mem _ List.mem_cons_self)
      have he : first.1 = second.1 := h k first.1 second.1 hm hm' hfirst hsecond
      rw [List.map_cons, List.map_cons, List.nodup_cons, he] at hnodup
      exact absurd List.mem_cons_self hnodup.1

/-- What stands under the keys of settings is then the same in every order. -/
theorem under_eq_of_leadsOnce (hr : ReadsFile files file layer)
    (hf : LeadsOnce (· ∈ layer.map (·.1)))
    (hv : LeadsOnce (· ∈ (variableLayer environment).map (·.1)))
    (hm : merge? order layer environment = some tree)
    (hm' : merge? order' layer environment = some tree') (k : Key) :
    under tree k = under tree' k := by
  obtain ⟨lower, hl, ht⟩ := Option.bind_eq_some_iff.mp hm
  obtain ⟨lower', hl', ht'⟩ := Option.bind_eq_some_iff.mp hm'
  have hfilter {fields fields' : Layer} (hp : fields'.Perm fields)
      (h : (fields.filter (Leads ·.1 k.text)).length ≤ 1) :
      (fields'.filter (Leads ·.1 k.text)).length ≤ 1 := by rwa [(hp.filter _).length_eq]
  have hlower : lower.fields.get? k.text = lower'.fields.get? k.text :=
    get?_addLayer_of_perm ((order.perm_file layer).trans (order'.perm_file layer).symm)
      (hfilter (order.perm_file layer) (length_filter_le_one hr.nodup hf k)) rfl hl hl'
  have hget : tree.fields.get? k.text = tree'.fields.get? k.text :=
    get?_addLayer_of_perm ((order.perm_environment _).trans (order'.perm_environment _).symm)
      (hfilter (order.perm_environment _)
        (length_filter_le_one (nodup_variableLayer _) hv k)) hlower ht ht'
  unfold under
  rw [hget]

/-- **Settings do not depend on the order** if no two keys of the file, and no two keys of
variables, lead to one of them. -/
theorem isSettled_of_leadsOnce
    (hf : ∀ layer, ReadsFile files file layer → LeadsOnce (· ∈ layer.map (·.1)))
    (hv : LeadsOnce fun key => ∃ v ∈ environment, keyOf? v.1 = some key) :
    IsSettled files file environment := by
  intro order order' s h
  obtain ⟨layer, tree, hr, hread, hm, hs⟩ := load_eq_ok_iff.mp h
  obtain ⟨tree', hm'⟩ : ∃ tree', merge? order' layer environment = some tree' :=
    exists_merge?_iff.mpr (exists_merge?_iff.mp ⟨tree, hm⟩)
  have hv' : LeadsOnce (· ∈ (variableLayer environment).map (·.1)) := by
    have hkey {key : String} (hk : key ∈ (variableLayer environment).map (·.1)) :
        ∃ v ∈ environment, keyOf? v.1 = some key := by
      obtain ⟨field, hf, rfl⟩ := List.mem_map.mp hk
      obtain ⟨v, hv, hk, -⟩ := exists_of_mem_variableLayer hf
      exact ⟨v, hv, hk⟩
    exact fun k key other hk ho => hv k key other (hkey hk) (hkey ho)
  refine load_eq_ok_iff.mpr ⟨layer, tree', hr, hread, hm', fun k => ?_⟩
  rw [← under_eq_of_leadsOnce hr (hf layer hr) hv' hm hm']
  exact hs k

end Courier.Settings
