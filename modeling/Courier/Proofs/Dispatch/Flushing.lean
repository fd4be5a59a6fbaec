import Courier.Proofs.Dispatch.Tickets

/-!
# Flushes tell the truth

Several flushes may be under way, any of them may be given up at any moment, and any delivery may
panic.

Results:

* `Step.of_gone` — once the queue is gone the worker comes to no marker any more.
* `honest_of_call` — **a flush that returns true has waited for all that was queued before it was
  called**: each of these results was attempted and counted when the worker came to the marker,
  which is the flush's own. A flush whose marker the worker came to returns true however late it
  waits, and one whose marker went with the queue never does.
-/

namespace Courier.Dispatch

/-- Whether a flush is called: by itself, or to let go of the dispatcher. -/
def Label.callsFlush : Label → Bool
  | .flush _ | .close _ => true
  | _ => false

namespace Usage

variable {u v w : Usage} {label : Label}

/-! ## What steps do to markers -/

/-- A call of a flush notes what is queued, and all else notes nothing. -/
theorem Step.marks (h : Step u label v) :
    v.marks = if label.callsFlush then u.marks ++ [u.accepted] else u.marks := by
  cases h <;> rfl

theorem Step.marks_prefix (h : Step u label v) : u.marks <+: v.marks := by
  rw [h.marks]
  cases label.callsFlush with
  | true => exact List.prefix_append _ _
  | false => exact List.prefix_rfl

theorem Step.reached_subset (h : Step u label v) :
    u.dispatcher.reached ⊆ v.dispatcher.reached := by
  cases h with
  | notify ticket _ => exact List.subset_append_left _ _
  | _ => exact List.Subset.refl _

/-- Once the queue is gone, it stays so and the worker comes to no marker. -/
theorem Step.of_gone (h : Step u label v) (hg : u.dispatcher.phase = .gone) :
    v.dispatcher.phase = .gone ∧ v.dispatcher.reached = u.dispatcher.reached := by
  cases h with
  | handed _ _ _ _ _ hp | markHanded _ _ _ _ hp | take _ _ hp _ | finish _ _ hp | panic _ _ hp
  | count _ _ hp | notify _ hp | cut hp | leave hp _ _ =>
    rw [hg] at hp
    exact absurd hp nofun
  | _ => exact ⟨hg, rfl⟩

theorem Reaches.marks_prefix (h : Reaches u v) : u.marks <+: v.marks :=
  h.keeps (P := fun v => u.marks <+: v.marks) List.prefix_rfl
    fun hs ha => ha.trans hs.marks_prefix

theorem Reaches.reached_subset (h : Reaches u v) :
    u.dispatcher.reached ⊆ v.dispatcher.reached :=
  h.keeps (P := fun v => u.dispatcher.reached ⊆ v.dispatcher.reached) (List.Subset.refl _)
    fun hs ha => List.Subset.trans ha hs.reached_subset

theorem Reaches.of_gone (h : Reaches u v) (hg : u.dispatcher.phase = .gone) :
    v.dispatcher.reached = u.dispatcher.reached := by
  have hv : v.dispatcher.phase = .gone ∧ v.dispatcher.reached = u.dispatcher.reached := by
    apply h.keeps
    · exact ⟨hg, rfl⟩
    · intro a b label hs ha
      obtain ⟨hp, hr⟩ := hs.of_gone ha.1
      exact ⟨hp, hr.trans ha.2⟩
  exact hv.2

/-! ## What a flush promises -/

/-- What a flush with a ticket, called when some bodies had been queued, has to do with whatever
comes of its call. -/
structure Honest (ticket : Nat) (before : List (List Char)) (w : Usage) : Prop where
  /-- It returned true only because the worker came to its own marker. -/
  told : (ticket, true) ∈ w.ended → ticket ∈ w.dispatcher.reached
  /-- Its marker is queued once, and it returns once. -/
  once : w.markers.count ticket ≤ 1 ∧ (w.ended.map (·.1)).count ticket ≤ 1
  /-- What had been queued is attempted and counted, in its order, if the flush returned true, and
  is so already when the worker tells that it came to the marker. -/
  counted : (ticket, true) ∈ w.ended ∨ ticket ∈ w.dispatcher.reached →
    ∃ done, done <+: w.counted ∧ done.map (·.1) = before ∧
      done.countP (·.2.isOk) ≤ w.dispatcher.stats.delivered ∧
      done.countP (!·.2.isOk) ≤ w.dispatcher.stats.failed
  /-- If the worker told it, it returns true whenever it comes to wait. -/
  woken : ticket ∈ w.dispatcher.reached → ∀ x, Reaches w x → ∀ thread : Nat,
    x.threads[thread]? = some (.awaiting ticket) →
      ∃ y, x.next? (.endFlush thread) = some y ∧ (ticket, true) ∈ y.ended
  /-- If its marker goes with the queue, it never returns true. -/
  discarded : .marker ticket ∈ w.dispatcher.queue → ∀ x, w.next? .cut = some x →
    ∀ y, Reaches x y → (ticket, true) ∉ y.ended

variable {e : Endpoint} {options : Options} {ticket : Nat} {before : List (List Char)}

/-- What the worker has done when it came to a marker. -/
theorem counted_of_reached (h : Reachable e options w) (hb : w.marks[ticket]? = some before)
    (hr : ticket ∈ w.dispatcher.reached) :
    ∃ done, done <+: w.counted ∧ done.map (·.1) = before ∧
      done.countP (·.2.isOk) ≤ w.dispatcher.stats.delivered ∧
      done.countP (!·.2.isOk) ≤ w.dispatcher.stats.failed := by
  have hs := sound_of_reachable h
  have hd : w.dispatcher.stats.delivered = w.counted.countP (·.2.isOk) := hs.balanced.delivered
  have hf : w.dispatcher.stats.failed = w.counted.countP (!·.2.isOk) := hs.balanced.failed
  obtain ⟨noted, hn, hp⟩ := hs.marked.reached ticket hr
  have hnb : noted = before := Option.some.inj (hn.symm.trans hb)
  rw [hnb, List.prefix_iff_eq_take] at hp
  have ht : w.counted.take before.length <+: w.counted := List.take_prefix _ _
  refine ⟨w.counted.take before.length, ht, ?_, ?_, ?_⟩
  · rw [List.map_take]
    exact hp.symm
  · rw [hd]
    exact ht.sublist.countP_le
  · rw [hf]
    exact ht.sublist.countP_le

theorem woken_of_reached {thread : Nat} (hr : ticket ∈ u.dispatcher.reached)
    (ht : u.threads[thread]? = some (.awaiting ticket)) :
    ∃ v, u.next? (.endFlush thread) = some v ∧ (ticket, true) ∈ v.ended := by
  have hh : u.dispatcher.hasReached ticket = true := List.contains_iff_mem.mpr hr
  refine ⟨u.endFlush thread ticket true, ?_, List.mem_append_right _ (List.mem_singleton.mpr rfl)⟩
  simp only [next?, ht, hh]

/-- A marker that is queued when the queue goes is never reached. -/
theorem not_told_of_cut {x y : Usage} (h : Reachable e options w)
    (hq : .marker ticket ∈ w.dispatcher.queue) (hc : w.next? .cut = some x)
    (hy : Reaches x y) : (ticket, true) ∉ y.ended := by
  have hx := Reachable.reaches h (.step .cut .refl hc)
  intro ht
  have hr := (minted_of_reachable (hx.reaches hy)).told ticket ht
  cases step_of_next? hc with
  | cut hp =>
    rw [hy.of_gone rfl] at hr
    have hn := (minted_of_reachable h).markers_nodup
    have hm : ticket ∈ w.dispatcher.queue.filterMap Message.ticket? :=
      List.mem_filterMap.mpr ⟨_, hq, rfl⟩
    rw [markers, List.append_assoc] at hn
    exact (List.nodup_append.mp hn).2.2 ticket hr ticket (List.mem_append_right _ hm) rfl

/-- **Flushes are sound.** Whatever the capacity and however submissions, flushes and the worker
interleave, with a panic at any delivery: the ticket of a flush is nobody's when it is called, and
whatever comes of the call, the flush is honest about what had been queued. -/
theorem honest_of_call (label : Label) (h : Reachable e options u)
    (hl : label.callsFlush = true) (hc : u.next? label = some v) (hw : Reaches v w) :
    (u.dispatcher.tickets ∉ u.markers ∧ (∀ inTime, (u.dispatcher.tickets, inTime) ∉ u.ended) ∧
      ∀ (thread : Nat) (a : Activity), u.threads[thread]? = some a →
        u.dispatcher.tickets ∉ a.ticket?) ∧
      Honest u.dispatcher.tickets u.accepted w := by
  have ht := tidy_of_reachable h
  have hrw : Reachable e options w := (h.reaches (.step label .refl hc)).reaches hw
  have hm := minted_of_reachable hrw
  have hv : v.marks = u.marks ++ [u.accepted] := by
    rw [(step_of_next? hc).marks, if_pos hl]
  have hb : w.marks[u.dispatcher.tickets]? = some u.accepted := by
    obtain ⟨more, hk⟩ := hw.marks_prefix
    rw [← hk, hv, ← ht.issued]
    simp
  have hcounted := counted_of_reached hrw hb
  refine ⟨(minted_of_reachable h).fresh ht, ⟨hm.told _, ⟨?_, ?_⟩, ?_, ?_, ?_⟩⟩
  · exact List.nodup_iff_count.mp hm.markers_nodup _
  · exact List.nodup_iff_count.mp hm.ended_nodup _
  · rintro (hr | hr)
    · exact hcounted (hm.told _ hr)
    · exact hcounted hr
  · intro hr x hx thread ha
    exact woken_of_reached (hx.reached_subset hr) ha
  · intro hq x hx y hy
    exact not_told_of_cut hrw hq hx hy

/-- A flush that was given up leaves its marker behind; the next one waits for its own, and
returns true once the delivery has failed and is counted. -/
theorem honest_of_second_call :
    ∃ u, Reachable (.of "http://[::]" "/") ⟨none, 3, .ofSeconds 2⟩ u ∧
      Label.callsFlush (.flush 1) = true ∧ ∃ v, u.next? (.flush 1) = some v ∧
      ∃ w, Reaches v w ∧ w.ended = [(0, false), (1, true)] ∧ w.dispatcher.stats = ⟨0, 1, 0⟩ ∧
      Honest 1 ["true".toList] w := by
  have hu : (Endpoint.of "http://[::]" "/").targetUrl.toOption = some "http://[::]/".toList := by
    decide +kernel
  have h := Reachable.of_run? hu ⟨none, 3, .ofSeconds 2⟩ 2
    [.submit 0 (.bool true), .offer 0, .flush 1, .mark 1, .endFlush 1] rfl
  let labels : List Label := [.mark 1, .take, .finish (.finished (.error (.refused 404 ""))),
    .count, .take, .notify, .take, .notify, .endFlush 1]
  refine ⟨_, h, rfl, _, rfl, ?_⟩
  refine ⟨_, .of_run? .refl labels rfl, rfl, rfl, ?_⟩
  exact (honest_of_call (.flush 1) h rfl rfl (.of_run? .refl labels rfl)).2

end Usage

end Courier.Dispatch
