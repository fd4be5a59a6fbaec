import Courier.CommandLine.Command
import Courier.Proofs.Settings.Loading
import Mathlib

/-!
# Which layer decides a setting

The variables of the environment stand over the file, the file over the defaults, key by key, and
the options of the command over all of them (`endpoint_config`). What a key comes to is what the
highest layer that has it says, an empty text included; whether that value can be taken for what the
setting asks for is looked at only then, so that nothing below it and nothing under another key
matters. If several values cannot, one of them is told, and which one depends on the order of the
run.

One thing can still hinder all settings at once: a variable with the prefix whose value is not
text, under whatever key.

Results:

* `Decides.unique`, `exists_decides`: one value decides each key.
* `Decides.stands`: it stands under its key in the tree of all layers.
* `load_layered`: the whole of it, with the options of the command.
-/

namespace Courier.Settings

open Courier.Text Courier.CommandLine

variable {order : Order} {files : Files} {file : Option String} {layer : Layer}
  {environment : Environment} {key : String} {value tree : Tree}

/-- The value that decides a key is that of the highest layer that has the key. -/
inductive Decides (environment : Environment) (file : Layer) (key : String) : Tree → Prop
  | ofVariable {v : String × List UInt8} {text : List Char} (hv : v ∈ environment)
      (hk : keyOf? v.1 = some key) (ht : Utf8.decode? v.2 = some text) :
    Decides environment file key (textValue text)
  | ofFile {value : Tree} (hv : ∀ v ∈ environment, keyOf? v.1 ≠ some key)
      (hf : (key, value) ∈ file) : Decides environment file key value
  | ofDefault {value : Tree} (hv : ∀ v ∈ environment, keyOf? v.1 ≠ some key)
      (hf : ∀ value, (key, value) ∉ file) (hd : (key, value) ∈ defaults) :
    Decides environment file key value
  | unset (hv : ∀ v ∈ environment, keyOf? v.1 ≠ some key) (hf : ∀ value, (key, value) ∉ file)
      (hd : ∀ value, (key, value) ∉ defaults) : Decides environment file key .unset

/-! ## One value for each key -/

/-- Two values do not decide one key. -/
theorem Decides.unique {other : Tree} (h : Decides environment layer key value)
    (ho : Decides environment layer key other) (hf : (layer.map (·.1)).Nodup)
    (hn : (environment.map fun v => lowercase v.1).Nodup) : value = other := by
  cases h with
  | ofVariable hv hk ht =>
    cases ho with
    | ofVariable hv' hk' ht' =>
      obtain rfl := eq_of_keyOf? hn hv hv' hk hk'
      rw [Option.some.inj (ht.symm.trans ht')]
    | ofFile hv' => exact absurd hk (hv' _ hv)
    | ofDefault hv' => exact absurd hk (hv' _ hv)
    | unset hv' => exact absurd hk (hv' _ hv)
  | ofFile hv hm =>
    cases ho with
    | ofVariable hv' hk' => exact absurd hk' (hv _ hv')
    | ofFile _ hm' => exact eq_of_nodup hf hm hm'
    | ofDefault _ hf' => exact absurd hm (hf' _)
    | unset _ hf' => exact absurd hm (hf' _)
  | ofDefault hv hf hd =>
    cases ho with
    | ofVariable hv' hk' => exact absurd hk' (hv _ hv')
    | ofFile _ hm' => exact absurd hm' (hf _)
    | ofDefault _ _ hd' => exact eq_of_nodup nodup_defaults hd hd'
    | unset _ _ hd' => exact absurd hd (hd' _)
  | unset hv hf hd =>
    cases ho with
    | ofVariable hv' hk' => exact absurd hk' (hv _ hv')
    | ofFile _ hm' => exact absurd hm' (hf _)
    | ofDefault _ _ hd' => exact absurd hd' (hd _)
    | unset => rfl

/-- Some value decides each key, if the variables can be read. -/
theorem exists_decides (h : ∀ v ∈ environment, IsReadable v) (layer : Layer) (key : String) :
    ∃ value, Decides environment layer key value := by
  by_cases hv : ∃ v ∈ environment, keyOf? v.1 = some key
  · obtain ⟨v, hm, hk⟩ := hv
    have hs : (keyOf? v.1).isSome := by rw [hk, Option.isSome_some]
    obtain ⟨text, ht⟩ := Option.isSome_iff_exists.mp (h v hm hs)
    exact ⟨_, .ofVariable hm hk ht⟩
  · have hv : ∀ v ∈ environment, keyOf? v.1 ≠ some key := fun v hm hk => hv ⟨v, hm, hk⟩
    by_cases hf : ∃ value, (key, value) ∈ layer
    · obtain ⟨value, hm⟩ := hf
      exact ⟨value, .ofFile hv hm⟩
    · have hf := not_exists.mp hf
      by_cases hd : ∃ value, (key, value) ∈ defaults
      · obtain ⟨value, hm⟩ := hd
        exact ⟨value, .ofDefault hv hf hm⟩
      · exact ⟨_, .unset hv hf (not_exists.mp hd)⟩

/-! ## What stands in the tree -/

/-- **The value that decides a key stands there in the end.** -/
theorem Decides.stands (hd : Decides environment layer key value)
    (hk : ∀ field ∈ layer, IsPlain field.1) (hf : (layer.map (·.1)).Nodup)
    (hv : ∀ v ∈ environment, IsPlain v.1) (hn : (environment.map fun v => lowercase v.1).Nodup)
    (hm : merge? order layer environment = some tree) : Stands tree key value := by
  obtain ⟨lower, hl, ht⟩ := Option.bind_eq_some_iff.mp hm
  have hfile {field : String × Tree} : field ∈ order.file layer ↔ field ∈ layer :=
    (order.perm_file layer).mem_iff
  have hupper {field : String × Tree} : field ∈ order.environment (variableLayer environment) ↔
      field ∈ variableLayer environment := (order.perm_environment _).mem_iff
  have hplain : ∀ field ∈ order.file layer, IsPlain field.1 := fun _ h => hk _ (hfile.mp h)
  have hplain' : ∀ field ∈ order.environment (variableLayer environment), IsPlain field.1 :=
    fun _ h => isPlain_variableLayer hv _ (hupper.mp h)
  -- No variable has the key, so that what stood there stays.
  have hkept (hn : ∀ v ∈ environment, keyOf? v.1 ≠ some key) (hs : Stands lower key value) :
      Stands tree key value :=
    hs.of_not_mem hplain' (fun value hm => not_mem_variableLayer hn value (hupper.mp hm)) ht
  cases hd with
  | ofVariable hm hkey htext =>
    refine stands_of_mem hplain' ?_ (hupper.mpr ?_) ht
    · exact ((order.perm_environment _).map _).nodup_iff.mpr (nodup_variableLayer _)
    · exact (mem_variableLayer_iff hn).mpr ⟨_, hm, hkey, _, htext, rfl⟩
  | ofFile hno hm =>
    refine hkept hno (stands_of_mem hplain ?_ (hfile.mpr hm) hl)
    exact ((order.perm_file layer).map _).nodup_iff.mpr hf
  | ofDefault hno hm hd =>
    have hs : Stands lowest key value :=
      stands_of_mem isPlain_defaults nodup_defaults hd addLayer_defaults
    exact hkept hno (hs.of_not_mem hplain (fun value h => hm value (hfile.mp h)) hl)
  | unset hno hm hd =>
    have hs : Stands (.table []) key .unset := ⟨.unset, rfl⟩
    have hs := hs.of_not_mem isPlain_defaults hd addLayer_defaults
    exact hkept hno (hs.of_not_mem hplain (fun value h => hm value (hfile.mp h)) hl)

/-! ## The options of the command -/

/-- The value that decides a key is taken for something. -/
def Gives {α : Type} (environment : Environment) (file : Layer) (k : Key)
    (coerce : Tree → Except Mismatch α) (given : α) : Prop :=
  ∃ value, Decides environment file k.text value ∧ coerce value = .ok given

/-- What an endpoint has its parts from: an option of the command, or else what the layers give. -/
structure Chosen (a : Arguments) (environment : Environment) (file : Layer) (e : Endpoint) :
    Prop where
  baseUrl : a.baseUrl = some e.baseUrl ∨
    a.baseUrl = none ∧ Gives environment file .baseUrl Tree.text e.baseUrl
  path : a.path = some e.path ∨ a.path = none ∧ Gives environment file .path Tree.text e.path
  authToken : (∃ token, a.token = some token ∧ e.authToken = some token) ∨
    a.token = none ∧ Gives environment file .authToken Tree.text? e.authToken
  timeouts : ∃ connect total, Gives environment file .connectTimeoutMs Tree.word connect ∧
    Gives environment file .timeoutMs Tree.word total ∧
      e.timeouts = ⟨.ofMillis connect, .ofMillis total⟩

/-- Settings are had by layers: each key is decided by the highest layer that has it, and by that
alone. -/
structure Layered (loaded : Except Error Settings) (environment : Environment) (file : Layer) :
    Prop where
  /-- One value decides each key. -/
  decided (key : String) : ∃! value, Decides environment file key value
  /-- There are settings unless a value that decides one of the keys does not fit. -/
  fails_iff : (∃ e, loaded = .error e) ↔
    ∃ k : Key, ∃ value, Decides environment file k.text value ∧ ¬ k.Fits value
  /-- It is then said that the settings do not parse, -/
  parse {e : Error} (h : loaded = .error e) :
    e.message = "failed to parse forwarder settings: " ++ e.cause
  /-- and why not: because of one of the values that decide their keys and do not fit. -/
  misfit {e : Error} (h : loaded = .error e) :
    ∃ k : Key, ∃ value cause, Decides environment file k.text value ∧ k.Misfits value cause ∧
      e = .mismatch k.text cause
  /-- An endpoint has its parts from the options and from the values that decide their keys. -/
  chosen {s : Settings} (h : loaded = .ok s) (a : Arguments) (e : Endpoint) :
    Chosen a environment file e ↔ e = a.endpoint s
  /-- Nothing else makes a difference to the settings. -/
  others {value : Key → Tree} (h : ∀ k : Key, Decides environment file k.text (value k))
    (s : Settings) : loaded = .ok s ↔ ∀ k : Key, k.Takes (value k) s

/-- An option stands before what is had without it. -/
theorem given_iff {α : Type} {option : Option α} {own given : α} :
    option = some given ∨ option = none ∧ given = own ↔ given = option.getD own := by
  cases option <;> simp [eq_comm]

theorem givenToken_iff {α : Type} {option own given : Option α} :
    (∃ token, option = some token ∧ given = some token) ∨ option = none ∧ given = own ↔
      given = option.or own := by
  cases option <;> simp

/-- The parts of an endpoint, given what decides the keys. -/
theorem chosen_iff {value : Key → Tree} {s : Settings}
    (hd : ∀ k : Key, Decides environment layer k.text (value k))
    (hu : ∀ (k : Key) (other : Tree), Decides environment layer k.text other → other = value k)
    (h : ∀ k : Key, k.Takes (value k) s) (a : Arguments) (e : Endpoint) :
    Chosen a environment layer e ↔ e = a.endpoint s := by
  have gives {α : Type} {k : Key} {coerce : Tree → Except Mismatch α} {own : α}
      (hk : coerce (value k) = .ok own) (given : α) :
      Gives environment layer k coerce given ↔ given = own := by
    constructor
    · rintro ⟨other, ho, hg⟩
      rw [hu k other ho, hk] at hg
      exact (Except.ok.inj hg).symm
    · rintro rfl
      exact ⟨value k, hd k, hk⟩
  have hc : (value .connectTimeoutMs).word = .ok s.connectTimeoutMs := h .connectTimeoutMs
  have ht : (value .timeoutMs).word = .ok s.timeoutMs := h .timeoutMs
  have hbase : _ ↔ e.baseUrl = a.baseUrl.getD s.baseUrl :=
    (or_congr_right (and_congr_right' (gives (h .baseUrl) e.baseUrl))).trans given_iff
  have hpath : _ ↔ e.path = a.path.getD s.path :=
    (or_congr_right (and_congr_right' (gives (h .path) e.path))).trans given_iff
  have htoken : _ ↔ e.authToken = a.token.or s.authToken :=
    (or_congr_right (and_congr_right' (gives (h .authToken) e.authToken))).trans givenToken_iff
  constructor
  · rintro ⟨hb, hp, ha, connect, total, hconnect, htotal, htimes⟩
    obtain rfl := (gives hc connect).mp hconnect
    obtain rfl := (gives ht total).mp htotal
    obtain ⟨baseUrl, path, authToken, timeouts⟩ := e
    obtain rfl := hbase.mp hb
    obtain rfl := hpath.mp hp
    obtain rfl := htoken.mp ha
    obtain rfl := htimes
    rfl
  · rintro rfl
    exact ⟨hbase.mpr rfl, hpath.mpr rfl, htoken.mpr rfl, _, _, (gives hc _).mpr rfl,
      (gives ht _).mpr rfl, rfl⟩

/-- What comes of a tree in which the values that decide their keys stand. -/
theorem layered_ofTree {value : String → Tree}
    (hd : ∀ key, Decides environment layer key (value key))
    (hu : ∀ key other, Decides environment layer key other → other = value key)
    (hs : ∀ key, Stands tree key (value key)) :
    Layered (ofTree order.keys tree) environment layer := by
  have hok (s : Settings) : ofTree order.keys tree = .ok s ↔
      ∀ k : Key, k.Takes (value k.text) s := by
    rw [ofTree_eq_ok_iff order.perm_keys]
    exact forall_congr' fun k => takes_under_iff (hs k.text)
  have herror {e : Error} (h : ofTree order.keys tree = .error e) :
      ∃ (k : Key) (cause : Mismatch), k.Misfits (value k.text) cause ∧
        e = .mismatch k.text cause := by
    obtain ⟨k, cause, hm, he⟩ := exists_of_ofTree_eq_error h
    exact ⟨k, cause, (misfits_under_iff (hs k.text)).mp hm, he⟩
  refine ⟨fun key => ⟨value key, hd key, hu key⟩, ⟨?_, ?_⟩, ?_, ?_, ?_, ?_⟩
  · rintro ⟨e, he⟩
    obtain ⟨k, cause, hm, -⟩ := herror he
    exact ⟨k, value k.text, hd k.text, hm.not_fits⟩
  · rintro ⟨k, other, ho, hfit⟩
    rw [hu k.text other ho] at hfit
    cases he : ofTree order.keys tree with
    | error e => exact ⟨e, rfl⟩
    | ok s => exact absurd ((hok s).mp he k).fits hfit
  · intro e he
    obtain ⟨k, cause, -, rfl⟩ := herror he
    rfl
  · intro e he
    obtain ⟨k, cause, hm, he⟩ := herror he
    exact ⟨k, value k.text, cause, hd k.text, hm, he⟩
  · intro s h a e
    exact chosen_iff (fun k => hd k.text) (fun k => hu k.text) ((hok s).mp h) a e
  · intro other ho s
    rw [hok s]
    exact forall_congr' fun k => by rw [hu k.text (other k) (ho k)]

/-- **Settings are had by layers**, key by key and in whatever order, if all variables of the
environment that are settings are text; otherwise they cannot be read, whatever else is set. -/
theorem load_layered (order : Order) (hr : ReadsFile files file layer)
    (hk : ∀ field ∈ layer, IsPlain field.1) (hv : ∀ v ∈ environment, IsPlain v.1)
    (hn : (environment.map fun v => lowercase v.1).Nodup) :
    ((∀ v ∈ environment, IsReadable v) →
      ∃ loaded, load order files file environment = .returned loaded ∧
        Layered loaded environment layer) ∧
      ((∃ v ∈ environment, ¬ IsReadable v) →
        ∃ e, load order files file environment = .returned (.error e) ∧
          e.message = "failed to read forwarder settings: " ++ e.cause) := by
  have hroom : ∀ field ∈ layer, HasRoom field.1 := fun field hf => hasRoom_of_isPlain (hk field hf)
  refine ⟨fun h => ?_, fun h => ?_⟩
  · choose value hd using exists_decides h layer
    obtain ⟨tree, hm⟩ : ∃ tree, merge? order layer environment = some tree :=
      exists_merge?_iff.mpr ⟨hroom,
        fun field hf => hasRoom_of_isPlain (isPlain_variableLayer hv field hf)⟩
    exact ⟨_, load_of_merge? hr h hm, layered_ofTree hd
      (fun key other ho => ho.unique (hd key) hr.nodup hn)
      fun key => (hd key).stands hk hr.nodup hv hn hm⟩
  · obtain ⟨v, _, key, _, _, he⟩ := load_of_unreadable order hr hroom h
    exact ⟨.notText key v.2, he, rfl⟩

/-- An empty text of the environment stands over a number in a file; what another variable is does
not matter. -/
theorem load_layered_of_empty_text :
    let files : Files := fun name => if name = "f" then some [112, 97, 116, 104, 61, 55] else none
    let environment : Environment := [("Result_Forwarder_Path", []), ("HOME", [0xFF])]
    ∃ loaded, load .standing files (some "f") environment = .returned loaded ∧
      Layered loaded environment [("path", .scalar (some "f") (.integer 7))] := by
  intro files environment
  have hp : Toml.parse? (fileText [112, 97, 116, 104, 61, 55]) =
      some [("path", .integer 10 ['7'])] := by cbv
  have hr : ReadsFile files (some "f") [("path", .scalar (some "f") (.integer 7))] :=
    .some ((fileLayer_of_parse? rfl hp).trans rfl)
  exact (load_layered .standing hr (by decide) (by decide) (by decide)).1 (by decide)

/-- A variable that no setting asks for hinders all of them if its value is not text, although the
values that decide the keys fit. -/
theorem not_layered_of_unknown_variable :
    let environment : Environment := [("RESULT_FORWARDER_UNKNOWN", [0xC3])]
    ReadsFile (fun _ => none) none [] ∧ (∀ v ∈ environment, IsPlain v.1) ∧
      (environment.map fun v => lowercase v.1).Nodup ∧
        (∀ k : Key, ∃ value, Decides environment [] k.text value ∧ k.Fits value) ∧
          load .standing (fun _ => none) none environment =
            .returned (.error (.notText "unknown" [0xC3])) ∧
          ¬ Layered (.error (.notText "unknown" [0xC3])) environment [] := by
  intro environment
  have hn : (environment.map fun v => lowercase v.1).Nodup := by decide
  have hv (k : Key) : ∀ v ∈ environment, keyOf? v.1 ≠ some k.text := by
    cases k <;> decide
  have hfit : ∀ k : Key, ∃ value, Decides environment [] k.text value ∧ k.Fits value := by
    intro k
    cases k with
    | baseUrl => exact ⟨_, .ofDefault (hv .baseUrl) nofun (.head _), _, rfl⟩
    | path => exact ⟨_, .ofDefault (hv .path) nofun (.tail _ (.head _)), _, rfl⟩
    | authToken =>
      have hd : ∀ value, ("auth_token", value) ∉ defaults :=
        Fields.not_mem_of_get?_eq_none rfl
      exact ⟨_, .unset (hv .authToken) nofun hd, _, rfl⟩
    | connectTimeoutMs =>
      exact ⟨_, .ofDefault (hv .connectTimeoutMs) nofun (.tail _ (.tail _ (.head _))), _, rfl⟩
    | timeoutMs =>
      exact ⟨_, .ofDefault (hv .timeoutMs) nofun (.tail _ (.tail _ (.tail _ (.head _)))), _, rfl⟩
  have he : load .standing (fun _ => none) none environment =
      .returned (.error (.notText "unknown" [0xC3])) := by
    have hr : ReadsFile (fun _ => none) none [] := .none
    have hbad : ∃ v ∈ environment, ¬IsReadable v := ⟨_, List.mem_cons_self, by decide⟩
    obtain ⟨v, hv, key, hk, -, he⟩ := load_of_unreadable .standing hr nofun hbad
    obtain rfl := List.mem_singleton.mp hv
    have hkey : keyOf? "RESULT_FORWARDER_UNKNOWN" = some "unknown" := by decide
    obtain rfl := Option.some.inj (hkey.symm.trans hk)
    exact he
  refine ⟨.none, by decide, hn, hfit, he, fun hl => ?_⟩
  obtain ⟨k, other, ho, hmisfit⟩ := hl.fails_iff.mp ⟨_, rfl⟩
  obtain ⟨value, hd, hf⟩ := hfit k
  rw [ho.unique hd List.nodup_nil hn] at hmisfit
  exact hmisfit hf

end Courier.Settings
