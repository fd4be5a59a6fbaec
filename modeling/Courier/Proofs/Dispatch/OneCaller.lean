import Courier.Proofs.Dispatch.Losses

/-!
# A single caller

A dispatcher without a hook, used by one thread that submits payloads and then flushes.

Results:

* `Step.carried` — the bodies of the submissions, those that are over and the one that is under
  way, are those that were called, in the order of the calls.
* `spent_of_length_le` — once as much is counted as was queued, the worker has not panicked, and
  nothing is left to do for it.
* `flushed_of_run?` — **a flush that returned true has waited for all that was submitted**: that is
  what the worker delivered, told and counted.
-/

namespace Courier.Dispatch

open Courier.Dispatcher

/-- The body that a submission had, whatever became of it. -/
def Fate.carried : Fate → Option (List Char)
  | .queued body => some body
  | .refused body => body

/-- The body of the submission that a thread is in, if it is in one. -/
def Activity.carried : Activity → List (Option (List Char))
  | .offering _ body => [some body]
  | .dropping _ body => [body]
  | _ => []

/-- The body that a submission is called with if there is no hook. -/
def Label.carries : Label → List (Option (List Char))
  | .submit _ payload => [(prepare none payload).2]
  | _ => []

theorem Activity.carried_idle : idle.carried = [] := rfl

theorem Activity.carried_called (call : Nat) (body : Option (List Char)) :
    (called call body).carried = [body] := by
  cases body <;> rfl

namespace Usage

variable {u v : Usage} {label : Label} {thread : Nat} {a : Activity}

/-- The bodies of all submissions that were called, in the order of their ends, and then of those
that are under way. -/
def carried (u : Usage) : List (Option (List Char)) :=
  u.submissions.map (·.fate.carried) ++ u.threads.flatMap Activity.carried

/-- There is one thread, and no hook. -/
structure Alone (u : Usage) : Prop where
  threads : u.threads.length = 1
  hook : u.dispatcher.options.hook = none

/-- What the one thread is at. -/
theorem Alone.only (hu : u.Alone) (ht : u.threads[thread]? = some a) :
    thread = 0 ∧ u.threads = [a] := by
  obtain ⟨only, ho⟩ := List.length_eq_one_iff.mp hu.threads
  obtain ⟨hlt, ha⟩ := List.getElem?_eq_some_iff.mp ht
  rw [hu.threads] at hlt
  obtain rfl : thread = 0 := Nat.lt_one_iff.mp hlt
  simp only [ho, List.getElem_cons_zero] at ha
  exact ⟨rfl, ha ▸ ho⟩

theorem Step.alone (h : Step u label v) (hu : u.Alone) : v.Alone := by
  have hset : ∀ (thread : Nat) (a : Activity), (u.threads.set thread a).length = 1 :=
    fun thread a => (List.length_set).trans hu.threads
  cases h with
  | turn hook hh =>
    rw [hu.hook] at hh
    exact absurd hh nofun
  | letGo | take | finish | panic | count | notify | cut | leave => exact ⟨hu.threads, hu.hook⟩
  | _ => exact ⟨hset _ _, hu.hook⟩

/-- **Every step keeps the bodies of the submissions in the order of their calls.** -/
theorem Step.carried (h : Step u label v) (hu : u.Alone) :
    v.carried = u.carried ++ label.carries := by
  unfold Usage.carried
  cases h with
  | submit _ payload hf =>
    obtain ⟨rfl, ho⟩ := hu.only (idle_of_isFree hf).2
    simp [Usage.submit, put, ho, Activity.carried_called, Activity.carried_idle, Label.carries,
      hu.hook]
  | queued _ _ _ ht | handed _ _ _ ht | refused _ _ _ _ ht | missed _ _ _ ht | drop _ _ _ ht
  | markQueued _ _ ht | markHanded _ _ ht | givenUp _ _ ht | waited _ _ ht =>
    obtain ⟨rfl, ho⟩ := hu.only ht
    simp [refuse, Usage.drop, Usage.endFlush, put, ho, Activity.carried, Fate.carried,
      Label.carries]
  | flush _ hf | close _ hf _ =>
    obtain ⟨rfl, ho⟩ := hu.only (idle_of_isFree hf).2
    simp [Usage.flush, put, ho, Activity.carried, Label.carries]
  | _ => exact (List.append_nil _).symm

/-- If all submissions that are over returned true, what they had is what was queued. -/
theorem map_carried_of_returned (h : ∀ s ∈ u.submissions, s.fate.returned = true) :
    u.submissions.map (·.fate.carried) = u.accepted.map some := by
  unfold accepted
  generalize u.submissions = submissions at h
  induction submissions with
  | nil => rfl
  | cons s rest ih =>
    have hr := ih fun other ho => h other (List.mem_cons_of_mem _ ho)
    have hs : s.fate.returned = true := h s List.mem_cons_self
    cases hf : s.fate with
    | queued body =>
      rw [List.map_cons, hr, hf, List.filterMap_cons, hf]
      rfl
    | refused body => simp [hf] at hs

/-! ## Nothing is left to do -/

variable {e : Endpoint} {options : Options}

/-- All that was queued is counted. -/
structure Spent (u : Usage) : Prop where
  hasPanicked : u.dispatcher.phase.hasPanicked = false
  counted : u.accepted = u.counted.map (·.1)
  /-- Nothing else was told. -/
  told : u.told = u.counted
  /-- Nothing is in the worker's hands, and nothing waits. -/
  hand : u.dispatcher.phase.hand = []
  waiting : bodies u.dispatcher.queue = []

/-- Once as much is counted as was queued, that is all. -/
theorem spent_of_length_le (h : Reachable e options u)
    (hl : u.accepted.length ≤ u.counted.length) : u.Spent := by
  have hf := (sound_of_reachable h).flows
  have hle := hf.begun_prefix.length_le
  have hle : u.begun.length ≤ u.accepted.length := hle
  cases hp : u.dispatcher.phase.hasPanicked with
  | true =>
    -- A body that a panic left behind was queued and is not counted.
    obtain ⟨hand, hs⟩ := strands_of_reachable h hp
    have hs : u.begun = u.counted.map (·.1) ++ [hand] := hs
    rw [hs, List.length_append, List.length_map, List.length_singleton] at hle
    omega
  | false =>
    have hb : u.begun = u.counted.map (·.1) ++ u.dispatcher.phase.hand := hf.hand hp
    have hg : u.dispatcher.phase ≠ .gone := by
      intro hg
      rw [hg] at hp
      exact absurd hp nofun
    have ha : u.accepted = u.begun ++ bodies u.dispatcher.queue := hf.fifo hg
    have hlen := congrArg List.length ha
    rw [hb, List.length_append, List.length_append, List.length_map] at hlen
    have hn : u.dispatcher.phase.hand = [] := List.eq_nil_of_length_eq_zero (by omega)
    have hq : bodies u.dispatcher.queue = [] := List.eq_nil_of_length_eq_zero (by omega)
    have ht : u.dispatcher.phase.told = [] := by
      have hm := u.dispatcher.phase.map_told
      rw [hn] at hm
      exact List.map_eq_nil_iff.mp (List.prefix_nil.mp hm)
    refine ⟨hp, ?_, ?_, hn, hq⟩
    · rw [ha, hb, hn, hq, List.append_nil, List.append_nil]
    · rw [Usage.told, ht, List.append_nil]

end Usage

/-! ## Runs -/

theorem callsFlush_of_isCall {label : Label} (h : label.isCall = false) :
    label.callsFlush = false := by
  cases label with
  | flush | close => exact absurd h nofun
  | _ => rfl

theorem flatMap_carries (labels : List Label) :
    (labels.filter (·.isCall)).flatMap Label.carries = labels.flatMap Label.carries := by
  induction labels with
  | nil => rfl
  | cons label rest ih =>
    cases hc : label.isCall with
    | true => rw [List.filter_cons_of_pos hc, List.flatMap_cons, List.flatMap_cons, ih]
    | false =>
      have hn : label.carries = [] := by
        cases label with
        | submit => exact absurd hc nofun
        | _ => rfl
      rw [List.filter_cons_of_neg (hc ▸ nofun), List.flatMap_cons, hn, ih]
      rfl

namespace Wired

variable {e : Endpoint} {w x : Wired} {labels : List Label}

theorem alone_of_run? (h : w.run? e labels = some x) (hw : w.usage.Alone) : x.usage.Alone :=
  run?_keeps h hw fun _ _ hn ha => (Usage.step_of_next? (cases_of_next? hn).1).alone ha

/-- **After any run** the bodies of all submissions are those that were called. -/
theorem carried_of_run? (h : w.run? e labels = some x) (hw : w.usage.Alone) :
    x.usage.carried = w.usage.carried ++ labels.flatMap Label.carries := by
  induction labels generalizing w with
  | nil =>
    cases h
    exact (List.append_nil _).symm
  | cons label rest ih =>
    simp only [run?, Option.bind_eq_some_iff] at h
    obtain ⟨v, hv, h⟩ := h
    have hs := Usage.step_of_next? (cases_of_next? hv).1
    rw [ih h (hs.alone hw), hs.carried hw, List.append_assoc, List.flatMap_cons]

/-- A run without a flush notes nothing. -/
theorem marks_of_run? (h : w.run? e labels = some x)
    (hl : ∀ label ∈ labels, label.callsFlush = false) : x.usage.marks = w.usage.marks := by
  apply run?_keeps (P := fun x => x.usage.marks = w.usage.marks) h rfl
  intro a b label hm hn ha
  rw [(Usage.step_of_next? (cases_of_next? hn).1).marks, hl label hm]
  exact ha

end Wired

/-! ## Submitting and flushing -/

/-- What has become of payloads that one caller has submitted and flushed. -/
structure Usage.Flushed (payloads : List Payload) (u : Usage) : Prop where
  /-- They were delivered in order, -/
  told : u.told.map (fun t => some t.1) = payloads.map fun p => (prepare none p).2
  /-- which is all that the worker tells, -/
  workerLog : u.dispatcher.workerLog =
    u.told.map fun t => .ofResult u.dispatcher.url t.1 t.2
  /-- and all that is counted. -/
  stats : u.dispatcher.stats = ⟨u.told.countP (·.2.isOk), u.told.countP (!·.2.isOk), 0⟩
  spent : u.Spent

variable {e : Endpoint} {net : Http.Network} {d : Dispatcher} {capacity : Nat}
  {flushTimeout : Duration} {payloads : List Payload} {labels : List Label} {w : Wired}

/-- A run of one caller that submits and then flushes, cut at its flush: all submissions are over
by then, no other is called, and the flush notes what was queued. -/
theorem cut_at_flush (hr : (Wired.mk (.new d 1) net).run? e labels = some w)
    (hh : d.options.hook = none)
    (hl : labels.filter (·.isCall) = payloads.map (.submit 0) ++ [.flush 0]) :
    ∃ x : Usage, x.Reaches w.usage ∧ w.usage.marks = [x.accepted] ∧
      x.submissions.map (·.fate.carried) = w.usage.carried ∧
      w.usage.carried = payloads.map fun p => (prepare none p).2 := by
  obtain ⟨before, tail, rfl, hbefore, htail⟩ := List.filter_eq_append_iff.mp hl
  obtain ⟨idle, after, rfl, hidle, _, hafter⟩ := List.filter_eq_cons_iff.mp htail
  rw [← List.append_assoc, Wired.run?_append] at hr
  obtain ⟨x, hx, hr⟩ := Option.bind_eq_some_iff.mp hr
  simp only [Wired.run?, Option.bind_eq_some_iff] at hr
  obtain ⟨y, hn, hy⟩ := hr
  have hcalls : (before ++ idle).filter (·.isCall) = payloads.map (.submit 0) := by
    rw [List.filter_append, hbefore, List.filter_eq_nil_iff.mpr hidle, List.append_nil]
  have hnew : (Usage.new d 1).Alone := ⟨rfl, hh⟩
  have hnext := (Wired.cases_of_next? hn).1
  have hstep := Usage.step_of_next? hnext
  have halone := Wired.alone_of_run? hx hnew
  have hcx : x.usage.carried = payloads.map fun p => (prepare none p).2 := by
    rw [Wired.carried_of_run? hx hnew, ← flatMap_carries, hcalls, List.flatMap_map,
      List.map_eq_flatMap]
    rfl
  have hcw : w.usage.carried = x.usage.carried := by
    rw [Wired.carried_of_run? hy (hstep.alone halone), ← flatMap_carries, hafter,
      hstep.carried halone]
    exact (List.append_nil _).trans (List.append_nil _)
  have hmx : x.usage.marks = [] := by
    refine Wired.marks_of_run? hx fun label hm => ?_
    cases hc : label.isCall with
    | true =>
      have hs : label ∈ payloads.map (.submit 0) := hcalls ▸ List.mem_filter.mpr ⟨hm, hc⟩
      obtain ⟨payload, _, rfl⟩ := List.mem_map.mp hs
      rfl
    | false => exact callsFlush_of_isCall hc
  have hmw : w.usage.marks = y.usage.marks :=
    Wired.marks_of_run? hy fun label hm =>
      callsFlush_of_isCall (Bool.eq_false_iff.mpr (List.filter_eq_nil_iff.mp hafter label hm))
  have hxw : x.usage.Reaches w.usage :=
    (Usage.Reaches.refl.step _ hnext).trans (Wired.reaches_of_run? hy)
  refine ⟨x.usage, hxw, ?_, ?_, hcw.trans hcx⟩
  · rw [hmw, hstep.marks, hmx]
    rfl
  · have hfree : x.usage.isFree 0 = true := (Option.ite_none_right_eq_some.mp hnext).1
    obtain ⟨_, ht⟩ := halone.only (Usage.idle_of_isFree hfree).2
    rw [hcw, Usage.carried, ht]
    exact (List.append_nil _).symm

/-- **A flush that returned true has waited for all that was submitted**, if all submissions
returned true. -/
theorem flushed_of_run? (hd : Dispatcher.start e ⟨none, capacity, flushTimeout⟩ = .ok d)
    (hr : (Wired.mk (.new d 1) net).run? e labels = some w)
    (hl : labels.filter (·.isCall) = payloads.map (.submit 0) ++ [.flush 0])
    (hs : ∀ s ∈ w.usage.submissions, s.fate.returned = true)
    (hf : ∃ ticket, (ticket, true) ∈ w.usage.ended) : w.usage.Flushed payloads := by
  have hh : d.options.hook = none := by
    obtain ⟨url, _, rfl⟩ := eq_of_start hd
    rfl
  obtain ⟨x, hxw, hmarks, hcx, hcw⟩ := cut_at_flush hr hh hl
  have hrw : Usage.Reachable e ⟨none, capacity, flushTimeout⟩ w.usage :=
    ⟨d, 1, hd, Wired.reaches_of_run? hr⟩
  have hsub : x.submissions <+: w.usage.submissions := Usage.Reaches.submissions_prefix hxw
  -- What was queued before the flush was called is all that was submitted.
  have hax : x.accepted.map some = w.usage.carried := by
    rw [← hcx, Usage.map_carried_of_returned fun s hm => hs s (hsub.subset hm)]
  have haw : w.usage.accepted.length ≤ x.accepted.length := by
    have hc := congrArg List.length hax
    rw [Usage.carried, Usage.map_carried_of_returned hs, List.length_append, List.length_map,
      List.length_map] at hc
    omega
  -- The worker has counted that when it comes to the marker.
  have hle : w.usage.accepted.length ≤ w.usage.counted.length := by
    obtain ⟨ticket, hf⟩ := hf
    have hm := Usage.minted_of_reachable hrw
    have hb : w.usage.marks[ticket]? = some x.accepted := by
      have hlt := hm.ended_lt _ hf
      rw [hmarks] at hlt ⊢
      obtain rfl : ticket = 0 := Nat.lt_one_iff.mp hlt
      rfl
    obtain ⟨done, hdone, hmap, _⟩ := Usage.counted_of_reached hrw hb (hm.told ticket hf)
    have hc := congrArg List.length hmap
    have hp := hdone.length_le
    rw [List.length_map] at hc
    omega
  have hspent := Usage.spent_of_length_le hrw hle
  have hbal := (Usage.sound_of_reachable hrw).balanced
  refine ⟨?_, ?_, ?_, hspent⟩
  · have hmw : w.usage.accepted.map some = w.usage.carried := by
      have hp : x.accepted <+: w.usage.accepted := hsub.filterMap _
      rw [← hp.eq_of_length_le haw, hax]
    rw [hspent.told, ← hcw, ← hmw, hspent.counted, List.map_map]
    rfl
  · rw [Usage.tellsAll_of_reachable hrw, hspent.hasPanicked]
    exact List.append_nil _
  · have hdropped : w.usage.dispatcher.stats.dropped = 0 := by
      rw [show w.usage.dispatcher.stats.dropped = _ from hbal.dropped]
      exact List.countP_eq_zero.mpr fun s hm => by simp [hs s hm]
    rw [hspent.told, ← hdropped, ← show _ = w.usage.counted.countP (·.2.isOk) from hbal.delivered,
      ← show _ = w.usage.counted.countP (!·.2.isOk) from hbal.failed]
    rfl

end Courier.Dispatch
