import Courier.Proofs.Dispatch.Losses

/-!
# What logs and statistics say of each other

A drop is told before it is counted, and a delivery too; between the two its thread or the worker
has it in its hands. Whatever else callers tell of is a hook that panicked or a flush that was given
up, and neither is counted.

Results:

* `prepare_drops` — a submission tells of a drop before it has come to the queue iff it has no body.
* `Step.tellsDrops` — every step keeps what callers told of in balance with what is dropped.
* `countP_workerLog` — as long as it has not panicked, what the worker told of is what it counted,
  and the delivery that it is about to count.
-/

namespace Courier

/-- Whether an event says that a result was dropped. -/
def Event.isDrop : Event → Bool
  | .unserializable _ | .hookDropped | .queueFull | .workerGone => true
  | _ => false

/-- Whether an event says that a result was delivered. -/
def Event.isForwarded : Event → Bool
  | .forwarded _ _ => true
  | _ => false

/-- Whether an event says that a delivery failed. -/
def Event.isNotForwarded : Event → Bool
  | .notForwarded _ _ => true
  | _ => false

/-- What a caller may tell of: a drop, a hook that panicked, or a flush that was given up. -/
def Event.IsCallers (event : Event) : Prop :=
  event.isDrop = true ∨ event = .hookPanicked ∨ event = .flushTimedOut

@[simp] theorem Event.isForwarded_ofResult (url body : List Char) (result : Except Failure Unit) :
    (ofResult url body result).isForwarded = result.isOk := by
  cases result <;> rfl

@[simp] theorem Event.isNotForwarded_ofResult (url body : List Char)
    (result : Except Failure Unit) : (ofResult url body result).isNotForwarded = !result.isOk := by
  cases result <;> rfl

namespace Dispatch

open Courier.Dispatcher

/-! ## What callers tell of -/

theorem prepare_drops (hook : Option Hook) (payload : Payload) :
    (prepare hook payload).1.countP Event.isDrop =
      if (prepare hook payload).2.isSome then 0 else 1 := by
  cases hv : payload.toJson with
  | error cause => simp only [prepare, hv]; rfl
  | ok value =>
    cases hook with
    | none => simp only [prepare, hv]; rfl
    | some hook => cases hr : hook.run value <;> simp only [prepare, hv, hr] <;> rfl

theorem prepare_callers (hook : Option Hook) (payload : Payload) :
    ∀ event ∈ (prepare hook payload).1, event.IsCallers := by
  cases hv : payload.toJson with
  | error cause => simp [prepare, hv, Event.IsCallers, Event.isDrop]
  | ok value =>
    cases hook with
    | none => simp [prepare, hv]
    | some hook =>
      cases hr : hook.run value <;> simp [prepare, hv, hr, Event.IsCallers, Event.isDrop]

/-- A refusal is told as a drop. -/
theorem drops_of_refusal {refusal : Offer} (h : refusal ≠ .taken) :
    refusal.events.countP Event.isDrop = 1 ∧ ∀ event ∈ refusal.events, event.IsCallers := by
  cases refusal with
  | taken => exact absurd rfl h
  | full => exact ⟨rfl, by simp [Offer.events, Event.IsCallers, Event.isDrop]⟩
  | cut => exact ⟨rfl, by simp [Offer.events, Event.IsCallers, Event.isDrop]⟩

/-- Whether a thread has told of a drop that it has not counted. -/
def Activity.isDropping : Activity → Bool
  | .dropping _ _ => true
  | _ => false

/-- How many drops are told and not counted. -/
def dropping (threads : List Activity) : Nat :=
  threads.countP Activity.isDropping

theorem Activity.isDropping_called (call : Nat) (body : Option (List Char)) :
    (called call body).isDropping = !body.isSome := by
  cases body <;> rfl

theorem Activity.isDropping_of_call? {a : Activity} (h : a.call? = none) :
    a.isDropping = false := by
  cases a with
  | dropping call body => exact absurd h nofun
  | _ => rfl

namespace Usage

variable {u v : Usage} {label : Label} {thread : Nat} {a b : Activity} {e : Endpoint}
  {options : Options}

/-- Callers have told of every drop that is counted or about to be, and of nothing else that
counts. -/
structure TellsDrops (u : Usage) : Prop where
  drops : u.dispatcher.callerLog.countP Event.isDrop =
    u.dispatcher.stats.dropped + dropping u.threads
  callers : ∀ event ∈ u.dispatcher.callerLog, event.IsCallers

/-- Events may be told if the drops among them are counted or about to be. -/
theorem TellsDrops.tell {events : List Event} (hu : u.TellsDrops)
    (hl : v.dispatcher.callerLog = u.dispatcher.callerLog ++ events)
    (he : ∀ event ∈ events, event.IsCallers)
    (hn : v.dispatcher.stats.dropped + dropping v.threads =
      u.dispatcher.stats.dropped + dropping u.threads + events.countP Event.isDrop) :
    v.TellsDrops where
  drops := by rw [hl, List.countP_append, hu.drops, hn]
  callers := by
    rw [hl]
    exact fun event hm => (List.mem_append.mp hm).elim (hu.callers event) (he event)

theorem dropping_set (hb : u.threads[thread]? = some b) (a : Activity) :
    dropping (u.threads.set thread a) + (if b.isDropping then 1 else 0) =
      dropping u.threads + if a.isDropping then 1 else 0 :=
  countP_set Activity.isDropping hb a

/-- A thread may go from what is no drop to what is none. -/
theorem TellsDrops.put (hu : u.TellsDrops) (hb : u.threads[thread]? = some b)
    (hbd : b.isDropping = false) (had : a.isDropping = false)
    (ht : v.threads = u.threads.set thread a)
    (hl : v.dispatcher.callerLog = u.dispatcher.callerLog)
    (hs : v.dispatcher.stats.dropped = u.dispatcher.stats.dropped) : v.TellsDrops := by
  have hn := dropping_set hb a
  rw [hbd, had] at hn
  refine hu.tell (hl.trans (List.append_nil _).symm) nofun ?_
  rw [hs, ht, Nat.add_right_cancel hn]
  rfl

/-- **Every step keeps what callers told of in balance with what is dropped.** -/
theorem Step.tellsDrops (h : Step u label v) (hu : u.TellsDrops) : v.TellsDrops := by
  cases h with
  | submit thread payload hf =>
    have hn := dropping_set (idle_of_isFree hf).2
      (.called u.calls (prepare u.dispatcher.options.hook payload).2)
    rw [Activity.isDropping_called] at hn
    have hl : (u.submit thread payload).dispatcher.callerLog =
        u.dispatcher.callerLog ++ (prepare u.dispatcher.options.hook payload).1 := rfl
    refine hu.tell hl (prepare_callers _ payload) ?_
    rw [prepare_drops, Nat.add_assoc]
    refine congrArg (u.dispatcher.stats.dropped + ·) (Eq.trans hn ?_)
    cases (prepare u.dispatcher.options.hook payload).2 <;> rfl
  | refused thread call body refusal ht _ hr =>
    have hn := dropping_set ht (.dropping call (some body))
    obtain ⟨hd, hc⟩ := drops_of_refusal hr
    refine hu.tell rfl hc ?_
    rw [hd, Nat.add_assoc]
    exact congrArg (u.dispatcher.stats.dropped + ·) hn
  | missed thread call body ht _ _ =>
    have hn := dropping_set ht (.dropping call (some body))
    obtain ⟨hd, hc⟩ := drops_of_refusal (show Offer.full ≠ .taken from nofun)
    refine hu.tell rfl hc ?_
    rw [hd, Nat.add_assoc]
    exact congrArg (u.dispatcher.stats.dropped + ·) hn
  | drop thread call body ht =>
    have hn : dropping (u.threads.set thread .idle) + 1 = dropping u.threads :=
      dropping_set ht .idle
    have hl : (u.drop thread call body).dispatcher.callerLog = u.dispatcher.callerLog ++ [] :=
      (List.append_nil _).symm
    refine hu.tell hl nofun ?_
    show u.dispatcher.stats.dropped + 1 + dropping (u.threads.set thread .idle) = _ + 0
    omega
  | givenUp thread ticket ht | waited thread ticket ht =>
    have hn := Nat.add_right_cancel (dropping_set ht .idle)
    refine hu.tell rfl ?_ ?_
    · intro event he
      split at he
      · exact .inr (.inr (List.mem_singleton.mp he))
      · exact absurd he List.not_mem_nil
    · show u.dispatcher.stats.dropped + dropping (u.threads.set thread .idle) = _
      rw [hn]
      split <;> rfl
  | queued _ _ _ ht | handed _ _ _ ht => exact hu.put (a := .idle) ht rfl rfl rfl rfl rfl
  | markQueued _ ticket ht | markHanded _ ticket ht =>
    exact hu.put (a := .awaiting ticket) ht rfl rfl rfl rfl rfl
  | flush _ hf | close _ hf _ =>
    exact hu.put (a := .sending u.dispatcher.tickets) (idle_of_isFree hf).2 rfl rfl rfl rfl rfl
  | count body result _ => cases result <;> exact ⟨hu.drops, hu.callers⟩
  | _ => exact ⟨hu.drops, hu.callers⟩

theorem tellsDrops_of_reachable (h : Reachable e options u) : u.TellsDrops := by
  refine h.keeps (fun {d} hd threads => ?_) Step.tellsDrops
  obtain ⟨url, _, rfl⟩ := eq_of_start hd
  have hn : dropping (List.replicate threads .idle) = 0 :=
    List.countP_eq_zero.mpr fun a ha => by rw [List.eq_of_mem_replicate ha]; exact nofun
  exact ⟨hn.symm.trans (Nat.zero_add _).symm, nofun⟩

/-- Once no submission is under way, every drop that is told is counted. -/
theorem countP_callerLog (h : Reachable e options u) (hq : ∀ a ∈ u.threads, a.call? = none) :
    u.dispatcher.callerLog.countP Event.isDrop = u.dispatcher.stats.dropped := by
  have hn : dropping u.threads = 0 := List.countP_eq_zero.mpr fun a ha => by
    rw [Activity.isDropping_of_call? (hq a ha)]
    exact nofun
  rw [(tellsDrops_of_reachable h).drops, hn, Nat.add_zero]

/-! ## What the worker tells of -/

/-- **What the worker told of is what it counted, and the delivery that it is about to count.** -/
theorem countP_workerLog (h : Reachable e options u)
    (hp : u.dispatcher.phase.hasPanicked = false) :
    u.dispatcher.workerLog = u.told.map (fun t => .ofResult u.dispatcher.url t.1 t.2) ∧
      u.dispatcher.workerLog.countP Event.isForwarded =
        u.dispatcher.stats.delivered + u.dispatcher.phase.told.countP (·.2.isOk) ∧
      u.dispatcher.workerLog.countP Event.isNotForwarded =
        u.dispatcher.stats.failed + u.dispatcher.phase.told.countP (!·.2.isOk) := by
  have hb := (sound_of_reachable h).balanced
  have hd : u.dispatcher.stats.delivered = u.counted.countP (·.2.isOk) := hb.delivered
  have hf : u.dispatcher.stats.failed = u.counted.countP (!·.2.isOk) := hb.failed
  have ht := tellsAll_of_reachable h
  unfold TellsAll at ht
  rw [hp, if_neg Bool.false_ne_true, List.append_nil] at ht
  refine ⟨ht, ?_, ?_⟩
  · rw [ht, List.countP_map, hd, ← List.countP_append]
    exact List.countP_congr fun t _ => by simp
  · rw [ht, List.countP_map, hf, ← List.countP_append]
    exact List.countP_congr fun t _ => by simp

end Usage

end Dispatch

end Courier
