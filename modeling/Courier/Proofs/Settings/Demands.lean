import Courier.Proofs.Results
import Courier.Proofs.Settings.Merging

/-!
# What settings are made of

Settings are made of what stands under five keys of a tree, and in whatever order that is asked for
(`take`, `ofTree`) they come to the same. If something does not fit, one of the misfits is told; the
order decides which.

Results:

* `ofTree_eq_ok_iff`: **settings come of a tree iff each part is what the value under its key is
  taken for**.
* `exists_of_ofTree_eq_error`: otherwise what does not fit under some key is told.
-/

namespace Courier.Settings

variable {tree value : Tree} {k : Key} {keys : List Key} {s t : Settings} {e : Error}

/-! ## The parts of settings -/

/-- A value can be taken for what the setting under a key asks for. -/
def Key.Fits (value : Tree) : Key → Prop
  | .baseUrl | .path => ∃ text, value.text = .ok text
  | .authToken => ∃ text, value.text? = .ok text
  | .connectTimeoutMs | .timeoutMs => ∃ n, value.word = .ok n

/-- It cannot, and this is why. -/
def Key.Misfits (value : Tree) (cause : Mismatch) : Key → Prop
  | .baseUrl | .path => value.text = .error cause
  | .authToken => value.text? = .error cause
  | .connectTimeoutMs | .timeoutMs => value.word = .error cause

/-- The part of settings under a key is what a value is taken for. -/
def Key.Takes (value : Tree) (s : Settings) : Key → Prop
  | .baseUrl => value.text = .ok s.baseUrl
  | .path => value.text = .ok s.path
  | .authToken => value.text? = .ok s.authToken
  | .connectTimeoutMs => value.word = .ok s.connectTimeoutMs
  | .timeoutMs => value.word = .ok s.timeoutMs

/-- Two settings have the same part under a key. -/
def Key.Same (s t : Settings) : Key → Prop
  | .baseUrl => s.baseUrl = t.baseUrl
  | .path => s.path = t.path
  | .authToken => s.authToken = t.authToken
  | .connectTimeoutMs => s.connectTimeoutMs = t.connectTimeoutMs
  | .timeoutMs => s.timeoutMs = t.timeoutMs

theorem eq_of_same (h : ∀ k : Key, k.Same s t) : s = t := by
  obtain ⟨base, path, token, connect, total⟩ := s
  obtain ⟨base', path', token', connect', total'⟩ := t
  obtain rfl : base = base' := h .baseUrl
  obtain rfl : path = path' := h .path
  obtain rfl : token = token' := h .authToken
  obtain rfl : connect = connect' := h .connectTimeoutMs
  obtain rfl : total = total' := h .timeoutMs
  rfl

theorem Key.Same.trans {u : Settings} (h : k.Same s t) (h' : k.Same t u) : k.Same s u := by
  cases k <;> exact Eq.trans h h'

/-- A value is taken for one thing. -/
theorem Key.Takes.same (h : k.Takes value s) (h' : k.Takes value t) : k.Same s t := by
  cases k <;> exact Except.ok.inj (Eq.trans (Eq.symm h) h')

theorem Key.Takes.of_same (h : k.Takes value s) (hs : k.Same s t) : k.Takes value t := by
  cases k <;> exact Eq.trans h (congrArg Except.ok hs)

theorem Key.Takes.fits (h : k.Takes value s) : k.Fits value := by
  cases k <;> exact ⟨_, h⟩

theorem Key.Misfits.not_fits {cause : Mismatch} (h : k.Misfits value cause) : ¬k.Fits value := by
  intro hf
  cases k <;> obtain ⟨_, hf⟩ := hf <;> cases Eq.trans (Eq.symm h) hf

/-- What a value is taken for does not depend on what it is put over. -/
theorem Key.takes_put_iff {old : Tree} : k.Takes (value.put old) s ↔ k.Takes value s := by
  cases k <;> simp only [Key.Takes, Tree.text_put, Tree.text?_put, Tree.word_put]

theorem Key.misfits_put_iff {old : Tree} {cause : Mismatch} :
    k.Misfits (value.put old) cause ↔ k.Misfits value cause := by
  cases k <;> simp only [Key.Misfits, Tree.text_put, Tree.text?_put, Tree.word_put]

/-! ## Asking for them -/

/-- What stands under a key. -/
def under (tree : Tree) (k : Key) : Tree :=
  (tree.fields.get? k.text).getD .unset

theorem demand_eq {α : Type} (tree : Tree) (k : Key) (coerce : Tree → Except Mismatch α) :
    demand tree k.text coerce = (coerce (under tree k)).mapError (.mismatch k.text) := by
  unfold demand under
  cases coerce ((tree.fields.get? k.text).getD .unset) <;> rfl

/-- Taking one part leaves the others. -/
theorem takes_of_take (h : take tree s k = .ok t) :
    k.Takes (under tree k) t ∧ ∀ l : Key, l ≠ k → l.Same s t := by
  cases k <;>
    · simp only [take, demand_eq, map_eq_ok_iff, mapError_eq_ok_iff] at h
      obtain ⟨part, hp, rfl⟩ := h
      refine ⟨hp, fun l hl => ?_⟩
      cases l <;> first | rfl | exact absurd rfl hl

theorem misfits_of_take (h : take tree s k = .error e) :
    ∃ cause, k.Misfits (under tree k) cause ∧ e = .mismatch k.text cause := by
  cases k <;>
    · simp only [take, demand_eq, map_eq_error_iff, mapError_eq_error_iff] at h
      obtain ⟨cause, hc, rfl⟩ := h
      exact ⟨cause, hc, rfl⟩

/-- Taking parts one after the other leaves those that are not asked for. -/
theorem takes_of_foldlM (h : keys.foldlM (take tree) s = .ok t) :
    (∀ k ∈ keys, k.Takes (under tree k) t) ∧ ∀ k ∉ keys, k.Same s t := by
  induction keys generalizing s with
  | nil =>
    cases h
    exact ⟨nofun, fun k _ => by cases k <;> rfl⟩
  | cons first rest ih =>
    obtain ⟨mid, hm, h⟩ := bind_eq_ok_iff.mp h
    obtain ⟨hfirst, hothers⟩ := takes_of_take hm
    obtain ⟨hrest, hkept⟩ := ih h
    refine ⟨List.forall_mem_cons.mpr ⟨?_, hrest⟩, fun k hk => ?_⟩
    · by_cases hr : first ∈ rest
      · exact hrest first hr
      · exact hfirst.of_same (hkept first hr)
    · obtain ⟨hne, hr⟩ := List.ne_and_not_mem_of_not_mem_cons hk
      exact (hothers k hne).trans (hkept k hr)

theorem exists_of_foldlM_eq_error (h : keys.foldlM (take tree) s = .error e) :
    ∃ (k : Key) (cause : Mismatch),
      k.Misfits (under tree k) cause ∧ e = .mismatch k.text cause := by
  induction keys generalizing s with
  | nil => cases h
  | cons first rest ih =>
    rcases bind_eq_error_iff.mp h with h | ⟨mid, -, h⟩
    · exact ⟨first, misfits_of_take h⟩
    · exact ih h

/-- **A tree that settings cannot be made of has a value that does not fit under one of the keys**,
and that is told. -/
theorem exists_of_ofTree_eq_error (h : ofTree keys tree = .error e) :
    ∃ (k : Key) (cause : Mismatch),
      k.Misfits (under tree k) cause ∧ e = .mismatch k.text cause :=
  exists_of_foldlM_eq_error h

/-- **Settings come of a tree iff each part is what the value under its key is taken for**, in
whatever order the parts are asked for. -/
theorem ofTree_eq_ok_iff (hp : keys.Perm Key.all) :
    ofTree keys tree = .ok s ↔ ∀ k : Key, k.Takes (under tree k) s := by
  have hall (k : Key) : k ∈ keys := hp.mem_iff.mpr (by cases k <;> decide)
  constructor
  · exact fun h k => (takes_of_foldlM h).1 k (hall k)
  · intro h
    cases ht : ofTree keys tree with
    | error e =>
      obtain ⟨k, cause, hm, -⟩ := exists_of_ofTree_eq_error ht
      exact absurd (h k).fits hm.not_fits
    | ok t =>
      have hs (k : Key) : k.Same t s := ((takes_of_foldlM ht).1 k (hall k)).same (h k)
      rw [eq_of_same hs]

/-- What is taken of a value that stands under a key. -/
theorem takes_under_iff (h : Stands tree k.text value) :
    k.Takes (under tree k) s ↔ k.Takes value s := by
  obtain ⟨old, ho⟩ := h
  unfold under
  rw [ho, Key.takes_put_iff]

theorem misfits_under_iff {cause : Mismatch} (h : Stands tree k.text value) :
    k.Misfits (under tree k) cause ↔ k.Misfits value cause := by
  obtain ⟨old, ho⟩ := h
  unfold under
  rw [ho, Key.misfits_put_iff]

end Courier.Settings
