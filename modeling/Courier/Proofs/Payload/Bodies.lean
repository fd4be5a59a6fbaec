import Courier.Proofs.Delivery.Outcomes
import Courier.Proofs.Payload.Agreement
import Courier.Proofs.Payload.Fitting

/-!
# Every body is well formed

Whatever a payload is made of, the body that is sent for it is a compact text that denotes its
document, in which every key is a string and a number that is not finite is null; and so is the body
that is queued, of the value of the payload or of what a hook makes of that. A payload with
something in it that cannot be written, however deep, has neither.

Results:

* `valueless_of_unwritable`, `valueless_of_hasOptionKey`: what cannot be written has no value, nor
  has a map one of whose keys is an option.
* `queues_of_prepare`: what is queued is the text of a value that the hook lets through.
* `bodies_compact`: **every body is a compact text, and what cannot be written has none.**
-/

namespace Courier.Payload

open Courier.Json

variable {p : Payload} {items : List Payload} {entries : List (Payload × Payload)}
  {fields : List (String × Payload)}

/-! ## What has no value -/

theorem exists_itemsToJson_error_iff_exists :
    (∃ cause, itemsToJson items = .error cause) ↔
      ∃ item ∈ items, ∃ cause, item.toJson = .error cause := by
  induction items with
  | nil => simp [itemsToJson]
  | cons item items ih =>
    rw [List.exists_mem_cons_iff, ← ih]
    exact exists_bind_eq_error_iff Iff.rfl fun first => exists_bind_pure_eq_error_iff

theorem exists_entriesToJson_error_iff_exists :
    (∃ cause, entriesToJson entries = .error cause) ↔
      ∃ entry ∈ entries, (∃ cause, keyText false entry.1 = .error cause) ∨
        ∃ cause, entry.2.toJson = .error cause := by
  induction entries with
  | nil => simp [entriesToJson]
  | cons entry entries ih =>
    rw [List.exists_mem_cons_iff, ← ih, or_assoc]
    exact exists_bind_eq_error_iff Iff.rfl fun name =>
      exists_bind_eq_error_iff Iff.rfl fun first => exists_bind_pure_eq_error_iff

theorem exists_fieldsToJson_error_iff_exists :
    (∃ cause, fieldsToJson fields = .error cause) ↔
      ∃ field ∈ fields, ∃ cause, field.2.toJson = .error cause := by
  induction fields with
  | nil => simp [fieldsToJson]
  | cons field fields ih =>
    rw [List.exists_mem_cons_iff, ← ih]
    exact exists_bind_eq_error_iff Iff.rfl fun first => exists_bind_pure_eq_error_iff

/-- A payload that has no value. -/
def Valueless (p : Payload) : Prop :=
  ∃ cause, p.toJson = .error cause

namespace Valueless

variable {name : String} {part : Payload} {entry : Payload × Payload}
  {member : String × Payload}

theorem newtypeVariant (h : Valueless part) : Valueless (.newtypeVariant name part) := by
  simpa only [Valueless, toJson, map_eq_error_iff] using h

theorem item (hm : part ∈ items) (h : Valueless part) : Valueless (.seq items) := by
  simpa only [Valueless, toJson, map_eq_error_iff] using
    exists_itemsToJson_error_iff_exists.mpr ⟨part, hm, h⟩

theorem tupleItem (hm : part ∈ items) (h : Valueless part) :
    Valueless (.tupleVariant name items) := by
  simpa only [Valueless, toJson, map_eq_error_iff] using
    exists_itemsToJson_error_iff_exists.mpr ⟨part, hm, h⟩

theorem key (hm : entry ∈ entries) (h : Textless entry.1 ∨ IsOption entry.1) :
    Valueless (.map entries) := by
  have hkey := (exists_keyText_false_error_iff entry.1).mpr
    (h.imp_left (exists_keyText_error_iff entry.1).mpr)
  simpa only [Valueless, toJson, map_eq_error_iff] using
    exists_entriesToJson_error_iff_exists.mpr ⟨entry, hm, .inl hkey⟩

theorem value (hm : entry ∈ entries) (h : Valueless entry.2) : Valueless (.map entries) := by
  simpa only [Valueless, toJson, map_eq_error_iff] using
    exists_entriesToJson_error_iff_exists.mpr ⟨entry, hm, .inr h⟩

theorem field (hm : member ∈ fields) (h : Valueless member.2) : Valueless (.struct fields) := by
  simpa only [Valueless, toJson, map_eq_error_iff] using
    exists_fieldsToJson_error_iff_exists.mpr ⟨member, hm, h⟩

theorem variantField (hm : member ∈ fields) (h : Valueless member.2) :
    Valueless (.structVariant name fields) := by
  simpa only [Valueless, toJson, map_eq_error_iff] using
    exists_fieldsToJson_error_iff_exists.mpr ⟨member, hm, h⟩

end Valueless

/-- **What cannot be written has no value either.** -/
theorem valueless_of_unwritable (h : Unwritable p) : Valueless p := by
  induction h with
  | failing message => exact ⟨_, rfl⟩
  | present _ ih => exact ih
  | wrapped _ ih => exact ih
  | newtypeVariant _ ih => exact .newtypeVariant ih
  | item hm _ ih => exact .item hm ih
  | tupleItem hm _ ih => exact .tupleItem hm ih
  | key hm h => exact .key hm (.inl h)
  | value hm _ ih => exact .value hm ih
  | field hm _ ih => exact .field hm ih
  | variantField hm _ ih => exact .variantField hm ih

/-- Nor has a payload with a map in it one of whose keys is an option. -/
theorem valueless_of_hasOptionKey (h : HasOptionKey p) : Valueless p := by
  induction h with
  | present _ ih => exact ih
  | wrapped _ ih => exact ih
  | newtypeVariant _ ih => exact .newtypeVariant ih
  | item hm _ ih => exact .item hm ih
  | tupleItem hm _ ih => exact .tupleItem hm ih
  | key hm h => exact .key hm (.inr h)
  | value hm _ ih => exact .value hm ih
  | field hm _ ih => exact .field hm ih
  | variantField hm _ ih => exact .variantField hm ih

/-! ## Bodies -/

/-- A hook that of values whose numbers fit keeps such values. -/
def KeepsFit (hook : Dispatch.Hook) : Prop :=
  ∀ value kept, value.Fits → hook.run value = .keep kept → kept.Fits

/-- What is queued for a value: what the hook keeps, or the value itself if there is no hook or it
panics. -/
inductive Queues (hook : Option Dispatch.Hook) (value : Json) : Json → Prop
  | bare (h : hook = none) : Queues hook value value
  | kept {judge : Dispatch.Hook} {kept : Json} (h : hook = some judge)
      (hk : judge.run value = .keep kept) : Queues hook value kept
  | panicked {judge : Dispatch.Hook} (h : hook = some judge) (hp : judge.run value = .panic) :
    Queues hook value value

theorem Queues.fits {hook : Option Dispatch.Hook} {value queued : Json}
    (h : Queues hook value queued) (hk : ∀ judge ∈ hook, KeepsFit judge) (hv : value.Fits) :
    queued.Fits := by
  cases h with
  | bare h => exact hv
  | kept h hkept => exact hk _ h value queued hv hkept
  | panicked h hp => exact hv

/-- What is queued is the text of a value that the hook lets through. -/
theorem queues_of_prepare {hook : Option Dispatch.Hook} {body : List Char}
    (h : (Dispatcher.prepare hook p).2 = some body) :
    ∃ value queued, p.toJson = .ok value ∧ Queues hook value queued ∧ body = queued.text := by
  unfold Dispatcher.prepare at h
  cases hv : p.toJson with
  | error cause =>
    rw [hv] at h
    cases h
  | ok value =>
    rw [hv] at h
    cases hook with
    | none =>
      cases h
      exact ⟨value, value, rfl, .bare rfl, rfl⟩
    | some judge =>
      dsimp only at h
      cases hr : judge.run value with
      | keep kept =>
        rw [hr] at h
        cases h
        exact ⟨value, kept, rfl, .kept rfl hr, rfl⟩
      | drop =>
        rw [hr] at h
        cases h
      | panic =>
        rw [hr] at h
        cases h
        exact ⟨value, value, rfl, .panicked rfl hr, rfl⟩

theorem prepare_of_valueless (h : Valueless p) (hook : Option Dispatch.Hook) :
    ∃ cause, Dispatcher.prepare hook p = ([.unserializable cause], none) := by
  obtain ⟨cause, hc⟩ := h
  exact ⟨cause, by rw [Dispatcher.prepare, hc]⟩

/-- The bodies of a payload, sent and queued. -/
structure Bodies (p : Payload) (hook : Option Dispatch.Hook) : Prop where
  /-- What can be written is sent as a compact text of its document. -/
  sent : ¬Unwritable p → ∃ body, p.text = .ok body ∧ IsCompact body p.document
  /-- What is queued is a compact text of the payload's value, or of what the hook made of it. -/
  queued : ∀ body, (Dispatcher.prepare hook p).2 = some body → ∃ value queued,
    p.toJson = .ok value ∧ Queues hook value queued ∧ IsCompact body (Document.ofJson queued)
  /-- What cannot be written is not sent: the caller is told so, and nothing else happens. -/
  unsent : Unwritable p → ∃ cause, p.text = .error cause ∧ ∀ net e url, e.targetUrl = .ok url →
    trySend net e p = ⟨.returned (.error (.unserializable cause)), net, []⟩
  /-- Nor is it queued, and neither is a map one of whose keys is an option. -/
  unqueued : Unwritable p ∨ HasOptionKey p →
    ∃ cause, Dispatcher.prepare hook p = ([.unserializable cause], none)

/-- **Every body is a compact text of the grammar, and what cannot be written has none.** -/
theorem bodies_compact (hp : p.Fits) (hook : Option Dispatch.Hook)
    (hk : ∀ judge ∈ hook, KeepsFit judge) : Bodies p hook where
  sent h := by
    cases ht : p.text with
    | error cause => exact absurd ((exists_text_error_iff p).mp ⟨cause, ht⟩) h
    | ok body =>
      refine ⟨body, rfl, ?_⟩
      exact text_document ht ▸ Document.isCompact_text (hasTokens_document hp)
  queued body h := by
    obtain ⟨value, queued, hv, hq, rfl⟩ := queues_of_prepare h
    exact ⟨value, queued, hv, hq, isCompact_of_fits (hq.fits hk (fits_of_toJson hp hv))⟩
  unsent h := by
    obtain ⟨cause, ht⟩ := (exists_text_error_iff p).mpr h
    exact ⟨cause, ht, fun net e url hu => trySend_of_unwritable hu ht net⟩
  unqueued h :=
    prepare_of_valueless (h.elim valueless_of_unwritable valueless_of_hasOptionKey) hook

/-- A negative fraction and an integer are keys, not-a-number is null, and a hook puts all of it
into an array; an empty array is no key. -/
theorem bodies_of_nested :
    let inner : Payload := .seq [.double .nan, .string "\n\""]
    let last : Payload := .structVariant "v" [("a", .single (.finite ⟨false, 3, 0⟩))]
    let p : Payload := .map [(.double (.finite ⟨true, 1, -1⟩), inner), (.integer 7, last)]
    let hook : Dispatch.Hook := ⟨fun value => .keep (.array [value])⟩
    let text := "\x7b\"-0.5\":[null,\"\\n\\\"\"],\"7\":\x7b\"v\":\x7b\"a\":3.0\x7d\x7d\x7d"
    let wrapped := "[\x7b\"-0.5\":[null,\"\\n\\\"\"],\"7\":\x7b\"v\":\x7b\"a\":3.0\x7d\x7d\x7d]"
    let unfit : Payload := .seq [.map [(.seq [], .nothing)]]
    p.Fits ∧ KeepsFit hook ∧ IsCompact text.toList p.document ∧
      (∃ queued, IsCompact wrapped.toList (Document.ofJson queued)) ∧ unfit.Fits ∧
        ∃ cause, Dispatcher.prepare none unfit = ([.unserializable cause], none) := by
  intro inner last p hook text wrapped unfit
  have hinner : inner.Fits :=
    .seq (List.forall_mem_cons.mpr
      ⟨.double nofun, List.forall_mem_singleton.mpr (.string _)⟩)
  have hlast : last.Fits := by
    refine .structVariant "v" (List.forall_mem_singleton.mpr (.single fun y hy => ?_))
    cases hy
    exact (by decide : 3 < 2 ^ 24)
  have hp : p.Fits :=
    .map (List.forall_mem_cons.mpr ⟨hinner, List.forall_mem_singleton.mpr hlast⟩)
  have hk : KeepsFit hook := fun value kept hv h => by
    cases h
    exact .array (List.forall_mem_singleton.mpr hv)
  have hu : unfit.Fits :=
    .seq (List.forall_mem_singleton.mpr (.map (List.forall_mem_singleton.mpr .nothing)))
  have hbodies := bodies_compact hp (some hook) (fun judge h => Option.some.inj h ▸ hk)
  have ht : p.text = .ok text.toList := by decide +kernel
  have hw : ¬Unwritable p := fun h => by
    obtain ⟨cause, hc⟩ := (exists_text_error_iff p).mpr h
    cases ht.symm.trans hc
  obtain ⟨body, hb, hbody⟩ := hbodies.sent hw
  obtain rfl := Except.ok.inj (ht.symm.trans hb)
  have hprepare : (Dispatcher.prepare (some hook) p).2 = some wrapped.toList := by decide +kernel
  obtain ⟨-, queued, -, -, hqueued⟩ := hbodies.queued _ hprepare
  have hunfit : Unwritable unfit :=
    .item List.mem_cons_self (.key List.mem_cons_self (.seq []))
  exact ⟨hp, hk, hbody, ⟨queued, hqueued⟩, hu,
    (bodies_compact hu none nofun).unqueued (.inl hunfit)⟩

end Courier.Payload
