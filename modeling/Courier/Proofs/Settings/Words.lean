import Courier.Proofs.Delivery.Clock
import Courier.Proofs.Settings.Loading

/-!
# The numbers of settings

No layer holds an integer above 64 bits, and putting layers over one another makes none. What is
taken for a number is brought into 64 bits or refused, so that the timeouts that settings have,
counted in thousandths of a second, stay far within what the clock can count to.

Results:

* `small_merge?`: the integers of a tree of settings are within 64 bits.
* `overflow_endpoint`: **the timeouts of settings never stop a caller**.
-/

namespace Courier.Settings

open Courier.Decimal Courier.Text Courier.Http

variable {tree : Tree} {layer : Layer} {entries : Fields Tree} {n : Nat}

/-- The integers anywhere in a tree are within 64 bits. -/
inductive Tree.Small : Tree → Prop
  | scalar {origin : Option String} {value : Scalar}
      (h : ∀ i : Int, value = .integer i → i ≤ maxWord) : Small (.scalar origin value)
  | array {origin : Option String} {items : List Tree} (h : ∀ item ∈ items, Small item) :
    Small (.array origin items)
  | table {fields : List (String × Tree)} (h : ∀ field ∈ fields, Small field.2) :
    Small (.table fields)

theorem Tree.small_unset : Tree.unset.Small := .scalar nofun

theorem Tree.small_text (origin : Option String) (text : String) :
    (Tree.scalar origin (.text text)).Small := .scalar nofun

/-! ## Putting values -/

theorem Tree.Small.fields (h : tree.Small) : ∀ field ∈ tree.fields, field.2.Small := by
  cases h with
  | scalar => exact nofun
  | array => exact nofun
  | table h => exact h

theorem Tree.Small.items (h : tree.Small) : ∀ item ∈ tree.items.2, item.Small := by
  cases h with
  | scalar => exact nofun
  | array h => exact h
  | table => exact nofun

/-- What stands under a name, or an unset value. -/
theorem small_getD (h : ∀ field ∈ entries, field.2.Small) (name : String) :
    ((entries.get? name).getD .unset).Small := by
  cases hg : entries.get? name with
  | none => exact Tree.small_unset
  | some tree => exact h _ (Fields.mem_of_get? hg)

theorem small_set (h : ∀ field ∈ entries, field.2.Small) (name : String) (ht : tree.Small) :
    ∀ field ∈ entries.set name tree, field.2.Small := by
  intro field hf
  rcases Fields.eq_or_mem_of_mem_set hf with rfl | hf
  · exact ht
  · exact h field hf

mutual

theorem Tree.Small.put {tree old : Tree} (h : tree.Small) (ho : old.Small) :
    (tree.put old).Small := by
  cases h with
  | scalar h => exact .scalar h
  | array h => exact .array h
  | table h => exact .table (small_putFields h ho.fields)

theorem small_putFields {fields : List (String × Tree)} {old : Fields Tree}
    (h : ∀ field ∈ fields, field.2.Small) (ho : ∀ field ∈ old, field.2.Small) :
    ∀ field ∈ Tree.putFields fields old, field.2.Small := by
  cases fields with
  | nil => exact ho
  | cons field rest =>
    obtain ⟨name, tree⟩ := field
    obtain ⟨htree, hrest⟩ := List.forall_mem_cons.mp h
    unfold Tree.putFields
    exact small_putFields hrest (small_set ho name (htree.put (small_getD ho name)))

end

/-- Splitting an array at an index makes no greater integers. -/
theorem small_splitAt? {items before behind : List Tree} {item : Tree} {i : Int}
    (h : ∀ item ∈ items, item.Small) (hs : Tree.splitAt? i items = some (before, item, behind)) :
    (∀ item ∈ before, item.Small) ∧ item.Small ∧ ∀ item ∈ behind, item.Small := by
  have hnew (n : Nat) : ∀ item ∈ List.replicate n Tree.unset, item.Small := fun item hm =>
    (List.mem_replicate.mp hm).2 ▸ Tree.small_unset
  have hall {items : List Tree} (h : ∀ item ∈ items, item.Small) (place : Nat) :
      (∀ item ∈ items.take place, item.Small) ∧ (items.getD place .unset).Small ∧
        ∀ item ∈ items.drop (place + 1), item.Small := by
    refine ⟨fun item hm => h item (List.mem_of_mem_take hm), ?_,
      fun item hm => h item (List.mem_of_mem_drop hm)⟩
    rw [List.getD_eq_getElem?_getD]
    cases hg : items[place]? with
    | none => exact Tree.small_unset
    | some item => exact h item (List.mem_of_getElem? hg)
  unfold Tree.splitAt? at hs
  split at hs
  · exact absurd hs nofun
  · by_cases hi : 0 ≤ i
    · simp only [if_pos hi, Option.some.injEq, Prod.mk.injEq] at hs
      obtain ⟨rfl, rfl, rfl⟩ := hs
      exact hall (List.forall_mem_append.mpr ⟨h, hnew _⟩) _
    · simp only [if_neg hi, Option.some.injEq, Prod.mk.injEq] at hs
      obtain ⟨rfl, rfl, rfl⟩ := hs
      exact hall (List.forall_mem_append.mpr ⟨hnew _, h⟩) _

theorem Tree.Small.update {change : Tree → Tree} {after : Tree}
    (hc : ∀ tree : Tree, tree.Small → (change tree).Small) {steps : List Step} (h : tree.Small)
    (hu : tree.update change steps = some after) : after.Small := by
  induction steps generalizing tree after with
  | nil =>
    cases hu
    exact hc tree h
  | cons step steps ih =>
    cases step with
    | key name =>
      obtain ⟨inner, hi, rfl⟩ := Option.map_eq_some_iff.mp hu
      exact .table (small_set h.fields name (ih (small_getD h.fields name) hi))
    | index i =>
      rw [Tree.update] at hu
      split at hu
      · cases hu
      · next hs =>
        obtain ⟨inner, hi, rfl⟩ := Option.map_eq_some_iff.mp hu
        obtain ⟨hbefore, hitem, hbehind⟩ := small_splitAt? h.items hs
        exact .array (List.forall_mem_append.mpr
          ⟨hbefore, List.forall_mem_cons.mpr ⟨ih hitem hi, hbehind⟩⟩)

/-- Putting a layer over a tree makes no greater integers. -/
theorem small_addLayer {after : Tree} (h : tree.Small) (hl : ∀ field ∈ layer, field.2.Small)
    (ha : addLayer tree layer = some after) : after.Small := by
  induction layer generalizing tree with
  | nil =>
    cases ha
    exact h
  | cons field rest ih =>
    obtain ⟨name, value⟩ := field
    obtain ⟨hfield, hrest⟩ := List.forall_mem_cons.mp hl
    rw [addLayer_cons] at ha
    obtain ⟨next, hu, ha⟩ := Option.bind_eq_some_iff.mp ha
    exact ih (h.update (fun _ ht => hfield.put ht) hu) hrest ha

/-! ## The layers -/

theorem magnitude_le {base limit : Nat} {beyond : NumeralFault} {digits : List Char} {start : Nat}
    (h : magnitude base limit beyond start digits = .ok n) (hs : start ≤ limit) : n ≤ limit := by
  induction digits generalizing start with
  | nil =>
    cases h
    exact hs
  | cons c rest ih =>
    unfold magnitude at h
    split at h
    · exact absurd h nofun
    · next hnext =>
      dsimp only at h
      split at h
      · next hle => exact ih h hle
      · exact absurd h nofun

theorem integerOf_le {base : Nat} {numeral : List Char} {i : Int}
    (h : integerOf base numeral = .ok i) : i ≤ maxWord := by
  unfold integerOf at h
  dsimp only at h
  split at h
  · exact absurd h nofun
  · split at h
    · obtain ⟨_, hn, rfl⟩ := map_eq_ok_iff.mp h
      obtain ⟨n, _, hn⟩ := bind_eq_ok_iff.mp hn
      cases hn
      exact Int.le_trans (Int.neg_nonpos_of_nonneg (Int.natCast_nonneg n)) (Int.natCast_nonneg _)
    · obtain ⟨_, hn, rfl⟩ := map_eq_ok_iff.mp h
      obtain ⟨n, hm, hn⟩ := bind_eq_ok_iff.mp hn
      cases hn
      exact Int.ofNat_le.mpr (Nat.le_trans (magnitude_le hm (Nat.zero_le _)) (by decide))

mutual

theorem small_ofToml {origin : String} {value : Toml.Value} {tree : Tree}
    (h : ofToml origin value = .ok tree) : tree.Small := by
  cases value with
  | string s =>
    cases h
    exact Tree.small_text _ _
  | bool b =>
    cases h
    exact .scalar nofun
  | integer base numeral =>
    obtain ⟨i, hi, rfl⟩ := map_eq_ok_iff.mp h
    exact .scalar fun j hj => Scalar.integer.inj hj ▸ integerOf_le hi
  | float numeral =>
    obtain ⟨x, _, rfl⟩ := map_eq_ok_iff.mp h
    exact .scalar nofun
  | moment s =>
    cases h
    exact Tree.small_text _ _
  | array items =>
    obtain ⟨trees, ht, rfl⟩ := map_eq_ok_iff.mp h
    exact .array (small_itemsOfToml ht)
  | table fields =>
    obtain ⟨trees, ht, rfl⟩ := map_eq_ok_iff.mp h
    exact .table (small_fieldsOfToml ht)

theorem small_itemsOfToml {origin : String} {items : List Toml.Value} {trees : List Tree}
    (h : itemsOfToml origin items = .ok trees) : ∀ tree ∈ trees, tree.Small := by
  cases items with
  | nil =>
    cases h
    exact nofun
  | cons item rest =>
    obtain ⟨first, hf, h⟩ := bind_eq_ok_iff.mp h
    obtain ⟨more, hm, h⟩ := bind_eq_ok_iff.mp h
    cases h
    exact List.forall_mem_cons.mpr ⟨small_ofToml hf, small_itemsOfToml hm⟩

theorem small_fieldsOfToml {origin : String} {fields : List (String × Toml.Value)}
    {trees : List (String × Tree)} (h : fieldsOfToml origin fields = .ok trees) :
    ∀ field ∈ trees, field.2.Small := by
  cases fields with
  | nil =>
    cases h
    exact nofun
  | cons field rest =>
    obtain ⟨first, hf, h⟩ := bind_eq_ok_iff.mp h
    obtain ⟨more, hm, h⟩ := bind_eq_ok_iff.mp h
    cases h
    exact List.forall_mem_cons.mpr ⟨small_ofToml hf, small_fieldsOfToml hm⟩

end

theorem small_defaults : ∀ field ∈ defaults, field.2.Small := by
  intro field hf
  simp only [defaults, List.mem_cons, List.not_mem_nil, or_false] at hf
  rcases hf with rfl | rfl | rfl | rfl
  · exact Tree.small_text _ _
  · exact Tree.small_text _ _
  · exact .scalar fun i hi => Scalar.integer.inj hi ▸ by decide
  · exact .scalar fun i hi => Scalar.integer.inj hi ▸ by decide

theorem small_fileLayer {files : Files} {name : String} (h : fileLayer files name = .ok layer) :
    ∀ field ∈ layer, field.2.Small := by
  unfold fileLayer at h
  split at h
  · exact absurd h nofun
  · split at h
    · exact absurd h nofun
    · split at h
      · next hf =>
        cases h
        exact small_fieldsOfToml hf
      · exact absurd h nofun

theorem ReadsFile.small {files : Files} {file : Option String}
    (h : ReadsFile files file layer) : ∀ field ∈ layer, field.2.Small := by
  cases h with
  | none => exact nofun
  | some h => exact small_fileLayer h

theorem small_variableLayer (environment : Environment) :
    ∀ field ∈ variableLayer environment, field.2.Small := by
  intro field hf
  obtain ⟨_, _, _, text, _, he⟩ := exists_of_mem_variableLayer hf
  rw [he]
  exact Tree.small_text _ _

/-- **The integers of a tree of settings are within 64 bits.** -/
theorem small_merge? {order : Order} {environment : Environment}
    (hl : ∀ field ∈ layer, field.2.Small) (hm : merge? order layer environment = some tree) :
    tree.Small := by
  obtain ⟨lower, hlower, ht⟩ := Option.bind_eq_some_iff.mp hm
  have hempty : (Tree.table []).Small := .table nofun
  have hlowest : lowest.Small := small_addLayer hempty small_defaults addLayer_defaults
  refine small_addLayer (small_addLayer hlowest (fun field hf => ?_) hlower) (fun field hf => ?_) ht
  · exact hl field ((order.perm_file layer).mem_iff.mp hf)
  · exact small_variableLayer environment field ((order.perm_environment _).mem_iff.mp hf)

/-! ## The timeouts -/

theorem boundedNumeral?_le {limit : Nat} {text : List Char}
    (h : boundedNumeral? limit text = some n) : n ≤ limit := by
  have within (digits : List Char) (hd : (if digits.isEmpty || !digits.all isDigit ||
      limit < decimalValue digits then none else some (decimalValue digits)) = some n) :
      n ≤ limit := by
    split at hd
    · exact absurd hd nofun
    · next hn =>
      cases hd
      simp only [Bool.or_eq_true, decide_eq_true_eq, not_or, Nat.not_lt] at hn
      exact hn.2
  exact within _ h

theorem wordOfText?_le {text : String} (h : wordOfText? text = some n) : n ≤ maxWord := by
  unfold wordOfText? at h
  split at h
  iterate 6
    · cases h
      decide
  · exact boundedNumeral?_le h

/-- What is taken for a number is within 64 bits. -/
theorem word_le (h : tree.Small) (hw : tree.word = .ok n) : n ≤ maxWord := by
  cases h with
  | array => exact absurd hw nofun
  | table => exact absurd hw nofun
  | @scalar origin value hi =>
    have hv : value.word = .ok n := by
      unfold Tree.word at hw
      dsimp only at hw
      split at hw
      · next hv =>
        cases hw
        exact hv
      · exact absurd hw nofun
    cases value with
    | nothing => exact absurd hv nofun
    | bool b =>
      cases hv
      cases b <;> decide
    | integer i =>
      unfold Scalar.word at hv
      dsimp only at hv
      split at hv
      · cases hv
        exact Int.toNat_le.mpr (hi i rfl)
      · exact absurd hv nofun
    | float x =>
      cases hv
      unfold wordOfFloat
      split
      · exact Nat.zero_le _
      · split
        · exact Nat.zero_le _
        · exact Nat.le_refl _
      · split
        · exact Nat.zero_le _
        · exact Nat.min_le_right _ _
    | text s =>
      unfold Scalar.word at hv
      dsimp only at hv
      split at hv
      · next hs =>
        cases hv
        exact wordOfText?_le hs
      · exact absurd hv nofun

/-- Thousandths of a second within 64 bits are within any clock. -/
theorem isBeyondClock_ofMillis (clock : Clock) (h : n ≤ maxWord) :
    isBeyondClock clock (.ofMillis n) = false := by
  have hmax : maxWord = 18446744073709551615 := by decide
  have hearly : Nat.pow 2 62 = 4611686018427387904 := by decide
  have hlimit : Nat.pow 2 63 = 9223372036854775808 := by decide
  have hclock := clock.early
  simp only [Duration.seconds, hearly] at hclock
  simp only [isBeyondClock, Duration.ofMillis, Duration.seconds, hlimit, decide_eq_false_iff_not]
  omega

/-- **The timeouts of settings never stop a caller**, whatever a file or the environment asks
for. -/
theorem overflow_endpoint {order : Order} {files : Files} {file : Option String}
    {environment : Environment} {s : Settings}
    (h : load order files file environment = .returned (.ok s)) (clock : Clock) :
    s.endpoint.timeouts.overflow clock = false := by
  obtain ⟨layer, tree, hr, -, hm, hs⟩ := load_eq_ok_iff.mp h
  have hsmall : tree.Small := small_merge? hr.small hm
  have hword {k : Key} {n : Nat} (hw : (under tree k).word = .ok n) : n ≤ maxWord :=
    word_le (small_getD hsmall.fields k.text) hw
  have hc : s.connectTimeoutMs ≤ maxWord := hword (hs .connectTimeoutMs)
  have ht : s.timeoutMs ≤ maxWord := hword (hs .timeoutMs)
  simp only [Timeouts.overflow, endpoint, isBeyondClock_ofMillis clock hc,
    isBeyondClock_ofMillis clock ht, Bool.and_false, Bool.or_self]

end Courier.Settings
