import Courier.Proofs.Decimal.Characters
import Courier.Proofs.Settings.Loading
import Courier.Proofs.Text.Encoding
import Mathlib

/-!
# Settings in variables

Settings with a token can be put into the environment whole: a variable for each key, the texts as
they are and the timeouts as decimal numerals. Nothing is made of a text on the way, so that one
which reads like a number, a truth value or a list stays the text that it is, and numerals reach all
of 64 bits. Whatever a file has under the same keys, or inside of what stands there, is put over.

Results:

* `word_naturalText`: a numeral of 64 bits is taken for its number.
* `Carries.takes`: what stands under a key in the end is taken for what was written there.
* `load_of_carries`: **settings in variables are loaded as they are**, or the caller is stopped, and
  their endpoint has all of them.
-/

namespace Courier.Settings

open Courier.Decimal Courier.Text

variable {order : Order} {key : String} {tree value : Tree} {layer : Layer}
  {environment : Environment} {files : Files} {file : Option String} {s : Settings}
  {token : String} {n : Nat}

/-! ## Numerals -/

/-- A digit is of ASCII and has no case. -/
theorem toLower_of_isDigit {c : Char} (h : isDigit c = true) : c.toNat < 0x80 ∧ c.toLower = c := by
  have hlt : c.toNat < 0x80 := lt_of_isNameChar (by simp [KeyPath.isNameChar, h])
  have hall : ∀ n : Fin 0x80, isDigit (Char.ofNat n) = true →
      (Char.ofNat n).toLower = Char.ofNat n := by decide
  have hc := hall ⟨c.toNat, hlt⟩
  rw [Char.ofNat_toNat] at hc
  exact ⟨hlt, hc h⟩

/-- A text of digits is in lower case. -/
theorem lowercase_of_digits {digits : List Char} (h : ∀ c ∈ digits, isDigit c = true) :
    lowercase (String.ofList digits) = String.ofList digits := by
  have hlower : digits.map Char.toLower = digits :=
    (List.map_congr_left fun c hc => (toLower_of_isDigit (h c hc)).2).trans (List.map_id digits)
  refine String.toList_injective ?_
  rw [toList_lowercase_of_ascii, String.toList_ofList, hlower]
  rw [String.toList_ofList]
  exact fun c hc => (toLower_of_isDigit (h c hc)).1

theorem boundedNumeral?_naturalText (h : n ≤ maxWord) :
    boundedNumeral? maxWord (naturalText n) = some n := by
  have hdigit : ∀ c ∈ naturalText n, isDigit c = true := fun c => isDigit_of_mem_naturalText
  have hcount : ¬((naturalText n).isEmpty || !(naturalText n).all isDigit ||
      decide (maxWord < decimalValue (naturalText n))) = true := by
    simp [naturalText_ne_nil, List.all_eq_true.mpr hdigit, decimalValue_naturalText, h]
  unfold boundedNumeral?
  split
  · next digits hplus =>
    -- A plus sign is no digit.
    rw [hplus] at hdigit
    exact absurd (hdigit '+' List.mem_cons_self) (by decide)
  · rw [if_neg hcount, decimalValue_naturalText]

/-- **A numeral of 64 bits is taken for its number.** -/
theorem word_naturalText (h : n ≤ maxWord) : (textValue (naturalText n)).word = .ok n := by
  have hdigit : ∀ c ∈ naturalText n, isDigit c = true := fun c => isDigit_of_mem_naturalText
  have hword : wordOfText? (String.ofList (naturalText n)) = some n := by
    -- The words for yes and no are not made of digits.
    have hno {word : String} (hw : ¬∀ c ∈ word.toList, isDigit c = true) :
        String.ofList (naturalText n) ≠ word := fun he =>
      hw (he ▸ (String.toList_ofList (l := naturalText n)).symm ▸ hdigit)
    unfold wordOfText?
    rw [lowercase_of_digits hdigit]
    split
    iterate 6
      · next he => exact absurd he (hno (by simp [isDigit]))
    · rw [String.toList_ofList, boundedNumeral?_naturalText h]
  simp only [textValue, Tree.word, Scalar.word, hword]

/-! ## Settings -/

/-- The variable of a key. -/
def Key.variable : Key → String
  | .baseUrl => "RESULT_FORWARDER_BASE_URL"
  | .path => "RESULT_FORWARDER_PATH"
  | .authToken => "RESULT_FORWARDER_AUTH_TOKEN"
  | .connectTimeoutMs => "RESULT_FORWARDER_CONNECT_TIMEOUT_MS"
  | .timeoutMs => "RESULT_FORWARDER_TIMEOUT_MS"

/-- What settings with a token have under a key: a text as it is, a timeout as a decimal numeral. -/
def Key.written (s : Settings) (token : String) : Key → List Char
  | .baseUrl => s.baseUrl.toList
  | .path => s.path.toList
  | .authToken => token.toList
  | .connectTimeoutMs => naturalText s.connectTimeoutMs
  | .timeoutMs => naturalText s.timeoutMs

/-- A variable does not bear on settings: it is none of theirs, or its value is text and its key
leads elsewhere. -/
def IsApart (v : String × List UInt8) : Prop :=
  ∀ key, keyOf? v.1 = some key → (Utf8.decode? v.2).isSome ∧ ∀ k : Key, ¬Leads key k.text

/-- An environment has settings in the variables of their keys, and what else it has does not bear
on them. -/
structure Carries (environment : Environment) (s : Settings) (token : String) : Prop where
  has (k : Key) : (k.variable, Utf8.encode (k.written s token)) ∈ environment
  others : ∀ v ∈ environment,
    (∃ k : Key, v = (k.variable, Utf8.encode (k.written s token))) ∨ IsApart v

theorem settingOf?_variable (k : Key) (text : List Char) :
    settingOf? (k.variable, Utf8.encode text) = some (k.text, textValue text) := by
  have hk : keyOf? k.variable = some k.text := by cases k <;> decide
  exact settingOf?_eq_some_iff.mpr ⟨hk, text, Utf8.decode?_encode text, rfl⟩

theorem isPlain_text (k : Key) : IsPlain k.text := by
  cases k <;> decide

theorem Key.text_injective : Function.Injective Key.text := by
  intro k l h
  cases k <;> cases l <;> first | rfl | exact absurd h (by decide)

namespace Carries

variable (h : Carries environment s token)

include h

theorem isReadable : ∀ v ∈ environment, IsReadable v := by
  intro v hv hs
  rcases h.others v hv with ⟨k, rfl⟩ | ha
  · obtain ⟨-, text, ht, -⟩ := settingOf?_eq_some_iff.mp (settingOf?_variable k (k.written s token))
    exact Option.isSome_of_eq_some ht
  · obtain ⟨key, hk⟩ := Option.isSome_iff_exists.mp hs
    exact (ha key hk).1

/-- One field leads to each key, whatever the order of the variables. -/
theorem eq_of_leads (k : Key) {v : String × List UInt8} (hv : v ∈ environment)
    (hs : settingOf? v = some (key, value)) (hl : Leads key k.text) :
    key = k.text ∧ value = textValue (k.written s token) := by
  rcases h.others v hv with ⟨l, rfl⟩ | ha
  · obtain ⟨rfl, rfl⟩ := Prod.mk.inj
      (Option.some.inj (hs.symm.trans (settingOf?_variable l (l.written s token))))
    -- The key of a variable is a path of one step, to its own name.
    have he : l.text = k.text := (leads_iff_of_isPlain (isPlain_text l)).mp hl
    obtain rfl := Key.text_injective he
    exact ⟨rfl, rfl⟩
  · exact absurd hl ((ha _ (settingOf?_eq_some_iff.mp hs).1).2 k)

/-- The settings stand under their keys, whatever the layers below have there. -/
theorem stands (hm : merge? order layer environment = some tree) (k : Key) :
    Stands tree k.text (textValue (k.written s token)) := by
  obtain ⟨lower, -, ht⟩ := Option.bind_eq_some_iff.mp hm
  have hself : Leads k.text k.text := (leads_iff_of_isPlain (isPlain_text k)).mpr rfl
  have hmem : (k.text, textValue (k.written s token)) ∈ variableLayer environment :=
    mem_variableLayer (h.has k) (settingOf?_variable k _) fun v hv other ho =>
      (h.eq_of_leads k hv ho hself).2
  refine stands_of_led (isPlain_text k) ((order.perm_environment _).mem_iff.mpr hmem)
    (fun field hf hl => ?_) ht
  obtain ⟨key, value⟩ := field
  obtain ⟨v, hv, hs⟩ :=
    exists_of_mem_variableLayer ((order.perm_environment _).mem_iff.mp hf)
  obtain ⟨rfl, rfl⟩ := h.eq_of_leads k hv (settingOf?_eq_some_iff.mpr hs) hl
  rfl

/-- What stands under its key is taken for the part of the settings that was written there. -/
theorem takes (ht : s.authToken = some token) (hc : s.connectTimeoutMs ≤ maxWord)
    (hw : s.timeoutMs ≤ maxWord) (hm : merge? order layer environment = some tree) (k : Key) :
    k.Takes (under tree k) s := by
  rw [takes_under_iff (h.stands hm k)]
  cases k with
  | baseUrl => exact congrArg Except.ok String.ofList_toList
  | path => exact congrArg Except.ok String.ofList_toList
  | authToken => exact (congrArg (Except.ok ∘ some) String.ofList_toList).trans (congrArg _ ht.symm)
  | connectTimeoutMs => exact word_naturalText hc
  | timeoutMs => exact word_naturalText hw

end Carries

/-- An endpoint has all of its settings. -/
theorem endpoint_injective : Function.Injective endpoint := by
  intro s t h
  obtain ⟨base, path, token, connect, total⟩ := s
  obtain ⟨base', path', token', connect', total'⟩ := t
  simp only [endpoint, Endpoint.mk.injEq, Timeouts.mk.injEq, Duration.ofMillis, Duration.mk.injEq]
    at h
  obtain ⟨rfl, rfl, rfl, hc, ht⟩ := h
  obtain rfl : connect = connect' := by omega
  obtain rfl : total = total' := by omega
  rfl

/-- **Settings in variables are loaded as they are**, over any file that can be read or none, and in
whatever order, unless some key of the file, or of another variable, leads to an array without room
for it: that stops the caller. Their endpoint has the three texts and waits for exactly that many
thousandths of a second, and no two settings have one endpoint. -/
theorem load_of_carries (order : Order) (ht : s.authToken = some token)
    (hc : s.connectTimeoutMs ≤ maxWord) (hw : s.timeoutMs ≤ maxWord)
    (hr : ReadsFile files file layer) (h : Carries environment s token) :
    (load order files file environment = .returned (.ok s) ↔
      (∀ field ∈ layer, HasRoom field.1) ∧ VariablesHaveRoom environment) ∧
    (load order files file environment = .panicked "capacity overflow" ↔
      ¬((∀ field ∈ layer, HasRoom field.1) ∧ VariablesHaveRoom environment)) ∧
    s.endpoint =
      { baseUrl := s.baseUrl
        path := s.path
        authToken := some token
        timeouts := ⟨⟨s.connectTimeoutMs * 1000000⟩, ⟨s.timeoutMs * 1000000⟩⟩ } ∧
    Function.Injective endpoint := by
  have hroom : ((∀ field ∈ layer, HasRoom field.1) ∧ VariablesHaveRoom environment) ↔
      ∃ tree, merge? order layer environment = some tree := by
    rw [exists_merge?_iff, hasRoom_variableLayer_iff h.isReadable]
  refine ⟨?_, ?_, ?_, endpoint_injective⟩
  · rw [load_eq_ok_iff, hroom]
    constructor
    · rintro ⟨_, tree, hr', -, hm, -⟩
      exact ⟨tree, hr.unique hr' ▸ hm⟩
    · rintro ⟨tree, hm⟩
      exact ⟨layer, tree, hr, h.isReadable, hm, h.takes ht hc hw hm⟩
  · have hcrowded : IsCrowded files file environment ↔
        ¬((∀ field ∈ layer, HasRoom field.1) ∧ VariablesHaveRoom environment) := by
      have hone : IsCrowded files file environment ↔ (∃ field ∈ layer, ¬HasRoom field.1) ∨
          (∀ v ∈ environment, IsReadable v) ∧ ¬VariablesHaveRoom environment :=
        ⟨fun ⟨_, hr', h⟩ => hr.unique hr' ▸ h, fun h => ⟨layer, hr, h⟩⟩
      rw [hone, not_and_or, and_iff_right h.isReadable]
      simp only [not_forall, exists_prop]
    rw [load_eq_panicked_iff, ← hcrowded]
    exact and_iff_right rfl
  · rw [← ht]
    rfl

/-- The variables of settings alone carry them. -/
theorem carries_variables (s : Settings) (token : String) (keys : List Key)
    (hk : ∀ k : Key, k ∈ keys) :
    Carries (keys.map fun k => (k.variable, Utf8.encode (k.written s token))) s token where
  has k := List.mem_map_of_mem (hk k)
  others := by
    intro v hv
    obtain ⟨k, -, rfl⟩ := List.mem_map.mp hv
    exact .inl ⟨k, rfl⟩

/-- A variable that does not bear on settings may stand beside those that carry them. -/
theorem Carries.cons (h : Carries environment s token) {v : String × List UInt8}
    (ha : IsApart v) : Carries (v :: environment) s token where
  has k := List.mem_cons_of_mem _ (h.has k)
  others := List.forall_mem_cons.mpr ⟨.inr ha, h.others⟩

theorem variablesHaveRoom_variables (s : Settings) (token : String) (keys : List Key) :
    VariablesHaveRoom (keys.map fun k => (k.variable, Utf8.encode (k.written s token))) := by
  intro v hv key hk
  obtain ⟨k, -, rfl⟩ := List.mem_map.mp hv
  obtain ⟨hk', -⟩ := settingOf?_eq_some_iff.mp (settingOf?_variable k (k.written s token))
  obtain rfl := Option.some.inj (hk'.symm.trans hk)
  exact hasRoom_of_isPlain (isPlain_text k)

/-- Texts that read like other values, one of them empty, and the greatest number of 64 bits, over a
file that has a table where one of the texts goes. -/
theorem load_of_carries_over_table :
    let s : Settings := ⟨"true", "", some "[1]", 18446744073709551615, 0⟩
    let files : Files := fun name =>
      if name = "f" then some [112, 97, 116, 104, 46, 97, 61, 49] else none
    let environment : Environment :=
      ("HOME", [0xFF]) :: ("RESULT_FORWARDER_X.PATH", []) ::
        [.timeoutMs, .authToken, .path, .connectTimeoutMs, .baseUrl].map fun k : Key =>
          (k.variable, Utf8.encode (k.written s "[1]"))
    s.authToken = some "[1]" ∧ s.connectTimeoutMs ≤ maxWord ∧ s.timeoutMs ≤ maxWord ∧
      ReadsFile files (some "f") [("path", .table [("a", .scalar (some "f") (.integer 1))])] ∧
        Carries environment s "[1]" ∧
          load .standing files (some "f") environment = .returned (.ok s) := by
  intro s files environment
  have hc : s.connectTimeoutMs ≤ maxWord := by decide
  have hp : Toml.parse? (fileText [112, 97, 116, 104, 46, 97, 61, 49]) =
      some [("path", .table [("a", .integer 10 ['1'])])] := by cbv
  have hr : ReadsFile files (some "f")
      [("path", .table [("a", .scalar (some "f") (.integer 1))])] :=
    .some ((fileLayer_of_parse? rfl hp).trans rfl)
  have hhome : keyOf? "HOME" = none := by decide
  have hother : keyOf? "RESULT_FORWARDER_X.PATH" = some "x.path" := by decide
  have hsteps : KeyPath.steps "x.path" = [.key "x", .key "path"] := by cbv
  have home : IsApart ("HOME", [0xFF]) := by
    intro key h
    cases hhome.symm.trans h
  have other : IsApart ("RESULT_FORWARDER_X.PATH", []) := by
    intro key h
    obtain rfl := Option.some.inj (hother.symm.trans h)
    refine ⟨rfl, fun k hl => ?_⟩
    rw [Leads, hsteps] at hl
    cases k <;> exact absurd hl (by decide)
  have hcarries : Carries environment s "[1]" :=
    ((carries_variables s "[1]" _ fun k => by cases k <;> decide).cons other).cons home
  have hroom : VariablesHaveRoom environment := by
    refine List.forall_mem_cons.mpr ⟨fun key h => ?_, List.forall_mem_cons.mpr ⟨fun key h => ?_,
      variablesHaveRoom_variables s "[1]" _⟩⟩
    · cases hhome.symm.trans h
    · obtain rfl := Option.some.inj (hother.symm.trans h)
      rw [HasRoom, hsteps]
      decide
  have hfile : ∀ field ∈ [("path", Tree.table [("a", .scalar (some "f") (.integer 1))])],
      HasRoom field.1 := List.forall_mem_singleton.mpr (hasRoom_of_isPlain (by decide))
  exact ⟨rfl, hc, Nat.zero_le _, hr, hcarries,
    (load_of_carries .standing rfl hc (Nat.zero_le _) hr hcarries).1.mpr ⟨hfile, hroom⟩⟩

/-- A file that can be read and has a key with the greatest subscript there is: the settings in the
variables are not loaded, in whatever order. -/
theorem load_panicked_of_subscript :
    let s : Settings := ⟨"http://h", "/p", some "t", 1, 2⟩
    let files : Files := fun name =>
      if name = "f" then some (Utf8.encode "\"x[9223372036854775807]\"=1".toList) else none
    let environment : Environment :=
      Key.all.map fun k : Key => (k.variable, Utf8.encode (k.written s "t"))
    ReadsFile files (some "f")
        [("x[9223372036854775807]", .scalar (some "f") (.integer 1))] ∧
      Carries environment s "t" ∧
        ∀ order, load order files (some "f") environment = .panicked "capacity overflow" := by
  intro s files environment
  have hp : Toml.parse? (fileText (Utf8.encode "\"x[9223372036854775807]\"=1".toList)) =
      some [("x[9223372036854775807]", .integer 10 ['1'])] := by cbv
  have hr : ReadsFile files (some "f")
      [("x[9223372036854775807]", .scalar (some "f") (.integer 1))] :=
    .some ((fileLayer_of_parse? rfl hp).trans rfl)
  have hcarries : Carries environment s "t" :=
    carries_variables s "t" Key.all fun k => by cases k <;> decide
  refine ⟨hr, hcarries, fun order => ?_⟩
  exact load_eq_panicked_iff.mpr ⟨rfl, _, hr, .inl ⟨_, List.mem_singleton.mpr rfl,
    not_hasRoom_of_greatest_subscript⟩⟩

end Courier.Settings
