import Courier.Proofs.Dispatch.Steps

/-!
# Results are delivered in order

Any number of threads submit and flush while the worker goes on; no step is done in one with
another.

Results:

* `Step.inCallOrder` — submissions of one thread are over in the order of their calls.
* `begun_in_order` — **what the worker has begun to deliver is the front of what was queued**, in
  that order, each body once and as it was queued, and the rest is what waits in the queue as long
  as there is one. Bodies that were refused are not among them.
-/

namespace Courier.Dispatch

/-- One thread called the first of two submissions before the other, if both are its. -/
def Submission.Before (s t : Submission) : Prop :=
  s.thread = t.thread → s.call < t.call

namespace Usage

/-! ## The order of calls -/

/-- A thread's submissions are over in the order of their calls, and the one it is in was called
after them. -/
structure InCallOrder (u : Usage) : Prop where
  called : ∀ s ∈ u.submissions, s.call < u.calls
  underWay : ∀ (thread : Nat) (a : Activity), u.threads[thread]? = some a → ∀ call ∈ a.call?,
    call < u.calls ∧ ∀ s ∈ u.submissions, s.thread = thread → s.call < call
  ordered : u.submissions.Pairwise Submission.Before

variable {u v : Usage} {label : Label} {thread : Nat}

/-- A thread may go to whatever it does for the submission that it is in. -/
theorem InCallOrder.put {a b : Activity} (hu : u.InCallOrder) (hb : u.threads[thread]? = some b)
    (ha : ∀ call ∈ a.call?, call ∈ b.call?) : (u.put thread a).InCallOrder where
  called := hu.called
  underWay := by
    intro other c hc call hcall
    rcases getElem?_set_cases hc with ⟨rfl, rfl⟩ | ⟨_, hc⟩
    · exact hu.underWay other b hb call (ha call hcall)
    · exact hu.underWay other c hc call hcall
  ordered := hu.ordered

/-- A thread's submission may be over once its thread is idle. -/
theorem InCallOrder.over {a : Activity} {call : Nat} (hu : u.InCallOrder)
    (ha : u.threads[thread]? = some a) (hc : call ∈ a.call?) (fate : Fate) :
    InCallOrder { u.put thread .idle with
      submissions := u.submissions ++ [⟨thread, call, fate⟩] } := by
  obtain ⟨hlt, hlast⟩ := hu.underWay thread a ha call hc
  refine ⟨fun s hs => ?_, fun other b hb c hbc => ?_, ?_⟩
  · rcases List.mem_append.mp hs with hs | hs
    · exact hu.called s hs
    · rw [List.mem_singleton.mp hs]
      exact hlt
  · rcases getElem?_set_cases hb with ⟨_, rfl⟩ | ⟨hne, hb⟩
    · exact absurd hbc nofun
    · obtain ⟨hcl, hbefore⟩ := hu.underWay other b hb c hbc
      refine ⟨hcl, fun s hs ht => ?_⟩
      rcases List.mem_append.mp hs with hs | hs
      · exact hbefore s hs ht
      · rw [List.mem_singleton.mp hs] at ht
        exact absurd ht.symm hne
  · refine List.pairwise_append.mpr ⟨hu.ordered, List.pairwise_singleton _ _, fun s hs t ht => ?_⟩
    rw [List.mem_singleton.mp ht]
    exact hlast s hs

theorem InCallOrder.flush (hu : u.InCallOrder) (h : u.isFree thread = true) :
    (u.flush thread).InCallOrder := by
  have hi : u.threads[thread]? = some .idle := by
    simp only [isFree, Bool.and_eq_true, decide_eq_true_eq] at h
    exact h.2
  have hp := hu.put (a := .sending u.dispatcher.tickets) hi nofun
  exact ⟨hp.called, hp.underWay, hp.ordered⟩

theorem InCallOrder.submit (hu : u.InCallOrder) (payload : Payload) :
    (u.submit thread payload).InCallOrder := by
  refine ⟨fun s hs => Nat.lt_succ_of_lt (hu.called s hs), fun other a ha call hc => ?_, hu.ordered⟩
  rcases getElem?_set_cases ha with ⟨_, rfl⟩ | ⟨_, ha⟩
  · rw [Activity.call?_called] at hc
    cases hc
    exact ⟨Nat.lt_succ_self _, fun s hs _ => hu.called s hs⟩
  · obtain ⟨hlt, hbefore⟩ := hu.underWay other a ha call hc
    exact ⟨Nat.lt_succ_of_lt hlt, hbefore⟩

/-- **Every step keeps the submissions in the order of their calls.** -/
theorem Step.inCallOrder (h : Step u label v) (hu : u.InCallOrder) : v.InCallOrder := by
  cases h with
  | submit thread payload _ => exact hu.submit payload
  | queued thread call body ht | handed thread call body ht =>
    have ho := hu.over ht rfl (.queued body)
    exact ⟨ho.called, ho.underWay, ho.ordered⟩
  | refused thread call body _ ht | missed thread call body ht =>
    have hp := hu.put (a := .dropping call (some body)) ht fun _ hc => hc
    exact ⟨hp.called, hp.underWay, hp.ordered⟩
  | drop thread call body ht =>
    have ho := hu.over ht rfl (.refused body)
    exact ⟨ho.called, ho.underWay, ho.ordered⟩
  | flush thread hf => exact hu.flush hf
  | close thread hf _ =>
    have hp := hu.flush hf
    exact ⟨hp.called, hp.underWay, hp.ordered⟩
  | markQueued thread ticket ht | markHanded thread ticket ht =>
    have hp := hu.put (a := .awaiting ticket) ht nofun
    exact ⟨hp.called, hp.underWay, hp.ordered⟩
  | givenUp thread ticket ht | waited thread ticket ht =>
    have hp := hu.put (a := .idle) ht nofun
    exact ⟨hp.called, hp.underWay, hp.ordered⟩
  | _ => exact ⟨hu.called, hu.underWay, hu.ordered⟩

variable {e : Endpoint} {options : Options}

theorem inCallOrder_of_reachable (h : Reachable e options u) : u.InCallOrder := by
  refine h.keeps (fun {d} _ threads => ⟨nofun, fun thread a ha => ?_, .nil⟩) Step.inCallOrder
  rw [List.eq_of_mem_replicate (List.mem_of_getElem? ha)]
  exact nofun

/-! ## The order of deliveries -/

/-- **What was begun is the front of what was queued.** Whatever the hook, the capacity and the
attempts, and however submissions, flushes and the worker interleave:

* the bodies whose delivery was begun are the first of those that were queued, in order;
* they are the bodies of the first submissions that returned true, one each, and those of one
  thread stand in the order of their calls;
* the others that were queued wait in the queue, in order, until a panic has made the queue go;
* so no body is begun more often than it was queued. -/
theorem begun_in_order (h : Reachable e options u) :
    u.begun <+: u.accepted ∧
      (∃ begun, begun <+: u.taken ∧ begun.map (·.fate) = u.begun.map .queued ∧
        begun.Pairwise Submission.Before) ∧
      (u.dispatcher.phase ≠ .gone → u.accepted = u.begun ++ bodies u.dispatcher.queue) ∧
      ∀ body, u.begun.count body ≤ u.accepted.count body := by
  have hf := (sound_of_reachable h).flows
  have hp : u.begun <+: u.accepted := hf.begun_prefix
  have ho : u.taken.Pairwise Submission.Before :=
    (inCallOrder_of_reachable h).ordered.sublist List.filter_sublist
  refine ⟨hp, ⟨u.taken.take u.begun.length, List.take_prefix _ _, ?_, ?_⟩, hf.fifo, fun body => ?_⟩
  · rw [List.map_take, map_fate_taken, ← List.map_take, ← List.prefix_iff_eq_take.mp hp]
  · exact ho.sublist (List.take_sublist _ _)
  · exact hp.sublist.count_le body

/-- Without capacity: a delivery that fails and the flush of another thread lie between two that
are begun in order. -/
theorem begun_in_order_rendezvous :
    ∃ u, Reachable (.of "http://[::]" "/") ⟨none, 0, .ofSeconds 2⟩ u ∧
      u.begun = ["true".toList, "false".toList] ∧ u.begun <+: u.accepted := by
  have hu : (Endpoint.of "http://[::]" "/").targetUrl.toOption = some "http://[::]/".toList := by
    decide +kernel
  have h := Reachable.of_run? hu ⟨none, 0, .ofSeconds 2⟩ 2
    [.submit 0 (.bool true), .offer 0, .flush 1, .finish (.finished (.error (.refused 404 ""))),
      .count, .mark 1, .notify, .submit 0 (.bool false), .offer 0, .endFlush 1] rfl
  exact ⟨_, h, rfl, (begun_in_order h).1⟩

end Usage

end Courier.Dispatch
