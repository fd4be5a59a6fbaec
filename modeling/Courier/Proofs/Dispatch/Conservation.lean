import Courier.Proofs.Dispatch.Steps

/-!
# No result is lost in the statistics

Results:

* `Step.stats` — the statistics change in two steps alone: when a thread counts its result as
  dropped, and when the worker counts a delivery.
* `conserved_of_reachable` — **as long as the worker has not panicked, every submission that is
  over is delivered, failed, dropped, waiting in the queue or in the worker's hands**, and the
  statistics say how many are delivered, failed and dropped.
-/

namespace Courier.Dispatch.Usage

variable {u v : Usage} {label : Label}

/-- **What changes the statistics.** A thread that counts its result as dropped and a worker that
counts a delivery do, by one; all else that happens, flushes and their ends among it, does not. -/
theorem Step.stats (h : Step u label v) :
    v.dispatcher.stats = u.dispatcher.stats ∨
      (∃ thread, label = .drop thread ∧ v.dispatcher.stats = u.dispatcher.stats.drop) ∨
      ∃ result, label = .count ∧ v.dispatcher.stats = u.dispatcher.stats.record result := by
  cases h with
  | drop thread _ _ _ => exact .inr (.inl ⟨thread, rfl, rfl⟩)
  | count _ result _ => exact .inr (.inr ⟨result, rfl, rfl⟩)
  | _ => exact .inl rfl

/-- What became of the submissions that are over. -/
structure Conserved (u : Usage) : Prop where
  /-- Those that returned false are dropped. -/
  dropped : u.submissions.countP (!·.fate.returned) = u.dispatcher.stats.dropped
  /-- Those that returned true are delivered or failed, wait, or are in the worker's hands. -/
  queued : u.submissions.countP (·.fate.returned) =
    u.dispatcher.stats.delivered + u.dispatcher.stats.failed +
      (bodies u.dispatcher.queue).length + u.dispatcher.phase.hand.length
  /-- Which of them is what: the first ones were counted, the next one is in the worker's hands,
  the others wait. -/
  classes : u.taken.map (·.fate) =
    (u.counted.map (·.1) ++ u.dispatcher.phase.hand ++ bodies u.dispatcher.queue).map .queued
  /-- Those that were counted and accepted by the collector are delivered. -/
  delivered : u.counted.countP (·.2.isOk) = u.dispatcher.stats.delivered
  /-- Those that were counted and not accepted have failed. -/
  failed : u.counted.countP (!·.2.isOk) = u.dispatcher.stats.failed

theorem length_hand_le (phase : Phase) : phase.hand.length ≤ 1 := by
  cases phase <;> simp

/-- **Conservation.** Whatever was submitted and flushed by any number of threads, as long as the
worker has not panicked every submission that is over is in one of five classes, at most one of
them in the worker's hands; and no step changes the statistics but a thread's that counts its
result as dropped and the worker's that counts a delivery. -/
theorem conserved_of_reachable {e : Endpoint} {options : Options} (h : Reachable e options u)
    (hp : u.dispatcher.phase.hasPanicked = false) :
    u.Conserved ∧ u.dispatcher.phase.hand.length ≤ 1 ∧
      ∀ label v, u.next? label = some v →
        v.dispatcher.stats = u.dispatcher.stats ∨
          (∃ thread, label = .drop thread ∧ v.dispatcher.stats = u.dispatcher.stats.drop) ∨
          ∃ result, label = .count ∧ v.dispatcher.stats = u.dispatcher.stats.record result := by
  have hs := sound_of_reachable h
  have hg : u.dispatcher.phase ≠ .gone := by
    intro hg
    rw [hg] at hp
    exact absurd hp nofun
  have hf : u.accepted = u.begun ++ bodies u.dispatcher.queue := hs.flows.fifo hg
  have hb : u.begun = u.counted.map (·.1) ++ u.dispatcher.phase.hand := hs.flows.hand hp
  have hc : u.taken.map (·.fate) =
      (u.counted.map (·.1) ++ u.dispatcher.phase.hand ++
        bodies u.dispatcher.queue).map .queued := by
    rw [map_fate_taken, hf, hb]
  have hd : u.dispatcher.stats.delivered = u.counted.countP (·.2.isOk) := hs.balanced.delivered
  have he : u.dispatcher.stats.failed = u.counted.countP (!·.2.isOk) := hs.balanced.failed
  have hl : u.counted.length = u.dispatcher.stats.delivered + u.dispatcher.stats.failed := by
    rw [hd, he, List.length_eq_countP_add_countP (·.2.isOk)]
    simp
  refine ⟨⟨hs.balanced.dropped.symm, ?_, hc, hd.symm, he.symm⟩, length_hand_le _,
    fun label v hn => (step_of_next? hn).stats⟩
  have ht := congrArg List.length hc
  rw [List.length_map, List.length_map, List.length_append, List.length_append, List.length_map,
    hl] at ht
  rw [List.countP_eq_length_filter]
  show u.taken.length = _
  omega

/-- One result is delivered, one was refused by a full queue, and one is in the worker's hands. -/
theorem conserved_full_queue :
    ∃ u, Reachable (.of "http://[::]" "/") ⟨none, 1, .ofSeconds 2⟩ u ∧
      u.dispatcher.phase.hasPanicked = false ∧ u.dispatcher.stats = ⟨1, 0, 1⟩ ∧
      u.submissions.length = 3 ∧ u.Conserved := by
  have hu : (Endpoint.of "http://[::]" "/").targetUrl.toOption = some "http://[::]/".toList := by
    decide +kernel
  have h := Reachable.of_run? hu ⟨none, 1, .ofSeconds 2⟩ 2
    [.submit 0 (.bool true), .submit 1 (.bool false), .offer 0, .offer 1, .take, .drop 1,
      .submit 0 (.bool true), .offer 0, .finish (.finished (.ok ())), .count, .take] rfl
  exact ⟨_, h, rfl, rfl, rfl, (conserved_of_reachable h rfl).1⟩

end Courier.Dispatch.Usage
