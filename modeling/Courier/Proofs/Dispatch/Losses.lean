import Courier.Proofs.Delivery.Clock
import Courier.Proofs.Dispatch.Death

/-!
# What a panic loses

A panic leaves one delivery that is never counted, and with the queue go the bodies in it. None of
these is in the statistics.

Results:

* `Step.callsKept` — every submission that was called is over or a thread is in it.
* `Move.strands` — a panic strands the one body in the worker's hands.
* `exists_cut_of_gone` — a queue that is gone went at some moment, and that moment tells what was
  in it.
* `calls_of_ended` — **once the worker has ended, the statistics count every submission once but
  those that a panic lost**: none if there was no panic, else the body in the worker's hands and
  those in the queue when that went.
* `calls_not_counted` — a panic loses submissions that returned true.
-/

namespace Courier

/-- How many results the statistics count. -/
def Stats.total (s : Stats) : Nat := s.delivered + s.failed + s.dropped

namespace Dispatch

open Courier.Dispatcher

/-! ## In a ledger -/

/-- A worker that has panicked had one body in its hands, and that is never counted. -/
def Ledger.Strands (l : Ledger) : Prop :=
  l.phase.hasPanicked = true → ∃ hand, l.begun = l.done ++ [hand]

variable {l m : Ledger}

theorem Move.strands (h : Move l m) (hf : l.Flows) (hl : l.Strands) : m.Strands := by
  cases h with
  | take first rest _ _ => cases first <;> exact nofun
  | finish _ _ _ | count _ _ _ | notify _ _ | leave _ _ => exact nofun
  | panic body hp =>
    intro _
    exact ⟨body, by simpa [Ledger.done] using hf.begun_eq hp rfl⟩
  | cut hp => exact fun _ => hl (by rw [hp]; rfl)
  | accept _ _ | refuse | call | mark _ _ _ => exact hl

theorem Moves.strands (h : Moves l m) (hs : l.Sound) (hl : l.Strands) : m.Strands := by
  induction h with
  | refl => exact hl
  | tail hm hn ih => exact hn.strands (Moves.sound hm hs).flows ih

/-- What was counted is delivered or failed. -/
theorem Ledger.Balanced.length_counted (h : l.Balanced) :
    l.counted.length = l.stats.delivered + l.stats.failed := by
  rw [h.delivered, h.failed, List.length_eq_countP_add_countP (·.2.isOk)]
  simp

namespace Usage

variable {u v w x : Usage} {label : Label} {e : Endpoint} {options : Options} {thread : Nat}
  {a b : Activity}

theorem strands_of_reachable (h : Reachable e options u) : u.ledger.Strands := by
  obtain ⟨d, threads, hd, hu⟩ := h
  have hm := (hu.moves (tidy_new hd threads)).2
  rw [ledger_new hd threads] at hm
  exact hm.strands Ledger.sound_new nofun

/-! ## Calls -/

/-- How many threads are in a submission. -/
def submitting (threads : List Activity) : Nat :=
  threads.countP (·.call?.isSome)

/-- Every submission that was called is over or under way. -/
def CallsKept (u : Usage) : Prop :=
  u.calls = u.submissions.length + submitting u.threads

theorem submitting_eq_zero {threads : List Activity} (h : ∀ a ∈ threads, a.call? = none) :
    submitting threads = 0 := by
  refine List.countP_eq_zero.mpr fun a ha => ?_
  rw [h a ha]
  exact nofun

/-- What a thread counts for changes with what it is at. -/
theorem countP_set (p : Activity → Bool) (hb : u.threads[thread]? = some b) (a : Activity) :
    (u.threads.set thread a).countP p + (if p b then 1 else 0) =
      u.threads.countP p + if p a then 1 else 0 := by
  obtain ⟨hlt, rfl⟩ := List.getElem?_eq_some_iff.mp hb
  have hle := List.boole_getElem_le_countP (p := p) hlt
  rw [List.countP_set hlt]
  omega

theorem submitting_set (hb : u.threads[thread]? = some b) (a : Activity) :
    submitting (u.threads.set thread a) + (if b.call?.isSome then 1 else 0) =
      submitting u.threads + if a.call?.isSome then 1 else 0 :=
  countP_set (·.call?.isSome) hb a

/-- A thread that calls a submission. -/
theorem submitting_called (hb : u.threads[thread]? = some .idle) (call : Nat)
    (body : Option (List Char)) :
    submitting (u.threads.set thread (.called call body)) = submitting u.threads + 1 := by
  have hs := submitting_set hb (.called call body)
  rw [Activity.call?_called] at hs
  exact hs

/-- A thread whose submission is over. -/
theorem submitting_over (hb : u.threads[thread]? = some b) (hc : b.call?.isSome = true) :
    submitting (u.threads.set thread .idle) + 1 = submitting u.threads := by
  have hs := submitting_set hb .idle
  rw [if_pos hc] at hs
  exact hs

/-- A thread that stays in its submission, or in none. -/
theorem submitting_same (hb : u.threads[thread]? = some b)
    (ha : a.call?.isSome = b.call?.isSome) :
    submitting (u.threads.set thread a) = submitting u.threads := by
  have hs := submitting_set hb a
  rw [ha] at hs
  exact Nat.add_right_cancel hs

/-- **Every step keeps account of the calls.** -/
theorem Step.callsKept (h : Step u label v) (hu : u.CallsKept) : v.CallsKept := by
  have hover : ∀ {thread : Nat} {b : Activity} (s : Submission), u.threads[thread]? = some b →
      b.call?.isSome = true →
      u.calls = (u.submissions ++ [s]).length + submitting (u.threads.set thread .idle) := by
    intro thread b s hb hc
    have hs := submitting_over hb hc
    unfold CallsKept at hu
    rw [List.length_append, List.length_singleton]
    omega
  cases h with
  | submit thread payload hf =>
    have hs := submitting_called (idle_of_isFree hf).2 u.calls
      (prepare u.dispatcher.options.hook payload).2
    show u.calls + 1 = u.submissions.length + submitting (u.threads.set thread _)
    exact (congrArg (· + 1) hu).trans (congrArg (u.submissions.length + ·) hs.symm)
  | queued _ _ _ ht _ _ | handed _ _ _ ht _ _ | drop _ _ _ ht => exact hover _ ht rfl
  | refused _ _ _ _ ht _ _ | missed _ _ _ ht _ _ | markQueued _ _ ht _ _ | markHanded _ _ ht _ _
  | givenUp _ _ ht | waited _ _ ht =>
    refine hu.trans (congrArg (u.submissions.length + ·) (Eq.symm (submitting_same ht ?_)))
    rfl
  | flush _ hf | close _ hf _ =>
    refine hu.trans (congrArg (u.submissions.length + ·)
      (Eq.symm (submitting_same (idle_of_isFree hf).2 ?_)))
    rfl
  | _ => exact hu

theorem callsKept_of_reachable (h : Reachable e options u) : u.CallsKept := by
  refine h.keeps (fun {d} _ threads => ?_) Step.callsKept
  have hn : submitting (List.replicate threads .idle) = 0 :=
    submitting_eq_zero fun a ha => by rw [List.eq_of_mem_replicate ha]; rfl
  simp [CallsKept, new, hn]

/-! ## The queue goes -/

/-- A worker that has left leaves nothing, and nothing is queued any more. -/
def LeavesNothing (u : Usage) : Prop :=
  u.dispatcher.phase = .finished → u.dispatcher.queue = []

theorem Step.leavesNothing (h : Step u label v) (hu : u.LeavesNothing) : v.LeavesNothing := by
  cases h with
  | take m _ _ _ => cases m <;> exact nofun
  | handed | markHanded | finish | panic | count | notify | cut => exact nofun
  | leave _ hq _ => exact fun _ => hq
  | queued _ _ _ _ hc _ | markQueued _ _ _ hc _ =>
    intro hp
    have hp : u.dispatcher.phase = .finished := hp
    simp [isCut, hp] at hc
  | _ => exact hu

theorem leavesNothing_of_reachable (h : Reachable e options u) : u.LeavesNothing := by
  refine h.keeps (fun {d} hd threads => ?_) Step.leavesNothing
  obtain ⟨url, _, rfl⟩ := eq_of_start hd
  exact nofun

theorem Step.cut_of_gone (h : Step u label v) (hg : v.dispatcher.phase = .gone) :
    u.dispatcher.phase = .gone ∨ label = .cut := by
  cases h with
  | cut _ => exact .inr rfl
  | take m _ _ _ => cases m <;> exact absurd hg nofun
  | handed | markHanded | finish | panic | count | notify | leave => exact absurd hg nofun
  | _ => exact .inl hg

/-- A queue that is gone went at some moment. -/
theorem exists_cut_of_gone (h : Reachable e options u) (hg : u.dispatcher.phase = .gone) :
    ∃ w x, Reachable e options w ∧ w.next? .cut = some x ∧ Reaches x u := by
  obtain ⟨d, threads, hd, hu⟩ := h
  induction hu with
  | refl =>
    obtain ⟨url, _, rfl⟩ := eq_of_start hd
    exact absurd hg nofun
  | step label hr hn ih =>
    rcases (step_of_next? hn).cut_of_gone hg with hg | rfl
    · obtain ⟨w, x, hw, hx, hu⟩ := ih hg
      exact ⟨w, x, hw, hx, .step label hu hn⟩
    · exact ⟨_, _, ⟨d, threads, hd, hr⟩, hn, .refl⟩

/-- What was queued and never counted once the queue is gone: the body in the worker's hands, and
those that went with the queue. -/
theorem accepted_of_cut (hw : Reachable e options w) (hx : w.next? .cut = some x)
    (hu : Reaches x u) : ∃ hand,
      u.accepted = u.counted.map (·.1) ++ hand :: bodies w.dispatcher.queue := by
  have hf := (sound_of_reachable hw).flows
  have hst := strands_of_reachable hw
  cases step_of_next? hx with
  | cut hp =>
    have hc := hu.contained rfl
    obtain ⟨hand, hb⟩ := hst (by show w.dispatcher.phase.hasPanicked = true; rw [hp]; rfl)
    have ha : w.accepted = w.begun ++ bodies w.dispatcher.queue := hf.accepted_eq hp nofun
    refine ⟨hand, ?_⟩
    rw [hc.accepted, hc.counted]
    show w.accepted = _
    rw [ha, show w.begun = w.counted.map (·.1) ++ [hand] from hb, List.append_assoc]
    rfl

/-! ## Once the worker has ended -/

theorem countP_returned (u : Usage) :
    u.submissions.countP (·.fate.returned) = u.accepted.length := by
  have hm := congrArg List.length u.map_fate_taken
  rw [List.length_map, List.length_map] at hm
  exact List.countP_eq_length_filter.trans hm

/-- All calls are in the statistics but for those whose bodies were queued and never counted. -/
theorem calls_of_lost (h : Reachable e options u) (hq : ∀ a ∈ u.threads, a.call? = none)
    {lost : List (List Char)} (hl : u.accepted = u.counted.map (·.1) ++ lost) :
    u.calls = u.dispatcher.stats.total + lost.length := by
  have hb := (sound_of_reachable h).balanced
  have hk : u.calls = u.submissions.length + submitting u.threads := callsKept_of_reachable h
  have hn : submitting u.threads = 0 := submitting_eq_zero hq
  have hd : u.dispatcher.stats.dropped = u.submissions.countP (!·.fate.returned) := hb.dropped
  have hc : u.counted.length = u.dispatcher.stats.delivered + u.dispatcher.stats.failed :=
    hb.length_counted
  have ht : u.submissions.countP (·.fate.returned) = u.accepted.length := countP_returned u
  have hs := List.length_eq_countP_add_countP (fun s : Submission => s.fate.returned)
    (l := u.submissions)
  have hla := congrArg List.length hl
  rw [List.length_append, List.length_map] at hla
  simp only [Bool.not_eq_true, Bool.decide_eq_false] at hs
  unfold Stats.total
  omega

/-- **What the statistics count once the worker has ended.** Whatever was submitted and flushed by
any number of threads, with a panic at any delivery: when no submission is under way any more, the
statistics count all that were called, each once, except those that were lost.

* The lost ones are the last of those that returned true, and behind all that were counted.
* If the worker has left by itself, none is lost.
* If it has panicked, one is lost that it had in its hands, and all that were queued at the moment
  when the queue went: the statistics never come to the number of calls. -/
theorem calls_of_ended (h : Reachable e options u) (hq : ∀ a ∈ u.threads, a.call? = none)
    (hc : u.dispatcher.isCut = true) :
    ∃ lost, u.taken.map (·.fate) = (u.counted.map (·.1) ++ lost).map .queued ∧
      u.calls = u.dispatcher.stats.total + lost.length ∧
      (u.dispatcher.phase = .finished → lost = []) ∧
      (u.dispatcher.phase = .gone → ∃ hand w x, lost = hand :: bodies w.dispatcher.queue ∧
        Reachable e options w ∧ w.next? .cut = some x ∧ Reaches x u) := by
  have hf := (sound_of_reachable h).flows
  suffices hlost : ∃ lost, u.accepted = u.counted.map (·.1) ++ lost ∧
      (u.dispatcher.phase = .finished → lost = []) ∧
      (u.dispatcher.phase = .gone → ∃ hand w x, lost = hand :: bodies w.dispatcher.queue ∧
        Reachable e options w ∧ w.next? .cut = some x ∧ Reaches x u) by
    obtain ⟨lost, ha, hl⟩ := hlost
    exact ⟨lost, by rw [map_fate_taken, ha], calls_of_lost h hq ha, hl⟩
  cases hp : u.dispatcher.phase with
  | gone =>
    obtain ⟨w, x, hw, hx, hu⟩ := exists_cut_of_gone h hp
    obtain ⟨hand, ha⟩ := accepted_of_cut hw hx hu
    exact ⟨_, ha, nofun, fun _ => ⟨hand, w, x, rfl, hw, hx, hu⟩⟩
  | finished =>
    have ha : u.accepted = u.begun ++ bodies u.dispatcher.queue := hf.accepted_eq hp nofun
    have hb : u.begun = u.counted.map (·.1) ++ Phase.finished.hand := hf.begun_eq hp rfl
    rw [leavesNothing_of_reachable h hp, hb] at ha
    exact ⟨[], by simpa [bodies] using ha, fun _ => rfl, nofun⟩
  | _ => simp [isCut, hp] at hc

/-- The worker panics at the first body while the second is queued, a third is queued before the
queue goes, and a fourth is refused after that. -/
theorem calls_of_panic :
    ∃ u, Reachable (.of "http://[::]" "/") ⟨none, 3, .ofSeconds 2⟩ u ∧
      (∀ a ∈ u.threads, a.call? = none) ∧ u.dispatcher.isCut = true ∧ u.calls = 4 ∧
      u.dispatcher.stats = ⟨0, 0, 1⟩ ∧
      ∃ lost, u.taken.map (·.fate) = (u.counted.map (·.1) ++ lost).map .queued ∧
        u.calls = u.dispatcher.stats.total + lost.length := by
  have hu : (Endpoint.of "http://[::]" "/").targetUrl.toOption = some "http://[::]/".toList := by
    decide +kernel
  have h := Reachable.of_run? hu ⟨none, 3, .ofSeconds 2⟩ 2
    [.submit 0 (.bool true), .offer 0, .submit 0 (.bool false), .offer 0, .take,
      .finish (.panicked Http.clockMessage), .submit 1 (.bool true), .offer 1, .cut,
      .submit 0 (.bool true), .offer 0, .drop 0] rfl
  have hq : ∀ a ∈ [Activity.idle, Activity.idle], a.call? = none := by decide
  obtain ⟨lost, ht, hc, _⟩ := calls_of_ended h hq rfl
  exact ⟨_, h, hq, rfl, rfl, rfl, lost, ht, hc⟩

/-- A submission that returned true is in no counter once the worker has panicked, and so it is
when a script asks. -/
theorem calls_not_counted :
    (∃ u, Reachable endless ⟨none, 1, .ofSeconds 2⟩ u ∧ (∀ a ∈ u.threads, a.call? = none) ∧
      u.dispatcher.isCut = true ∧ u.calls = 1 ∧ u.dispatcher.stats = ⟨0, 0, 0⟩) ∧
    (run .unreachable endless ⟨none, 1, .ofSeconds 2⟩
      [.submit (.bool true) 1, .awaitWorker, .stats]).toOption.map (·.answers) =
        some [.queued [true], .attempted 1, .stats ⟨0, 0, 0⟩] := by
  constructor
  · have hu : endless.targetUrl.toOption = some "http://[::]/".toList := by decide +kernel
    have h := Reachable.of_run? hu ⟨none, 1, .ofSeconds 2⟩ 1
      [.submit 0 (.bool true), .offer 0, .take, .finish (.panicked Http.clockMessage), .cut] rfl
    have hq : ∀ a ∈ [Activity.idle], a.call? = none := by decide
    refine ⟨_, h, hq, ?_, ?_, ?_⟩
    · rfl
    · rfl
    · rfl
  · decide +kernel

end Usage

end Dispatch

end Courier
