import Courier.Proofs.Dispatch.Death
import Courier.Proofs.Dispatch.Edits
import Courier.Proofs.Payload.Values

/-!
# What a hook can do to a dispatcher

A hook is asked once, before a result has a body, and its verdict is all that is left of it. So one
that panics leaves the result that it was asked about, and a dispatcher that is told apart from one
without a hook by nothing but an event in its caller's log, whatever happens next.

Results:

* `next?_noted`, `run?_noted` — a usage with an event more in its log goes on as it would without.
* `atomic_of_edits` — **the failure of a hook is atomic**, whatever edits the hook makes.
-/

namespace Courier

open Courier.Dispatch

namespace Dispatcher

/-- The dispatcher with another hook, or none. -/
def rehook (d : Dispatcher) (hook : Option Hook) : Dispatcher :=
  { d with options := { d.options with hook } }

/-- What comes of a submission to which another hook is put, or none; the dispatcher keeps its
own. -/
def submitBy (d : Dispatcher) (hook : Option Hook) (payload : Payload) : Bool × Dispatcher :=
  let (taken, after) := (d.rehook hook).submit payload
  (taken, after.rehook d.options.hook)

/-- The dispatcher with an event more in its caller's log, at a place, and with so many results
more that were dropped. -/
def noted (d : Dispatcher) (place : Nat) (event : Event) (drops : Nat) : Dispatcher :=
  { d with
    stats := { d.stats with dropped := d.stats.dropped + drops }
    callerLog := d.callerLog.insertIdx place event }

end Dispatcher

namespace Dispatch

/-- The usage with another hook, or none. -/
def Usage.rehook (u : Usage) (hook : Option Hook) : Usage :=
  { u with dispatcher := u.dispatcher.rehook hook }

/-- The usage after the call of a submission to which another hook is put, or none; the dispatcher
keeps its own. -/
def Usage.submitBy (u : Usage) (hook : Option Hook) (thread : Nat) (payload : Payload) : Usage :=
  ((u.rehook hook).submit thread payload).rehook u.dispatcher.options.hook

/-- The usage with an event more in the callers' log, and so many results more that were dropped. -/
def Usage.noted (u : Usage) (place : Nat) (event : Event) (drops : Nat) : Usage :=
  { u with dispatcher := u.dispatcher.noted place event drops }

/-- The usage after a submission that was over at once, with this fate. -/
def Usage.recorded (u : Usage) (thread : Nat) (fate : Fate) : Usage :=
  { u with calls := u.calls + 1, submissions := u.submissions ++ [⟨thread, u.calls, fate⟩] }

end Dispatch

namespace Dispatcher

variable {d : Dispatcher} {hook : Option Hook} {payload : Payload} {place drops : Nat}
  {event : Event}

/-! ## An event more -/

/-- What is added behind does not move what is put in before. -/
theorem insertIdx_append_of_le {log : List Event} (h : place ≤ log.length) (event : Event)
    (events : List Event) :
    (log ++ events).insertIdx place event = log.insertIdx place event ++ events := by
  induction log generalizing place with
  | nil =>
    obtain rfl : place = 0 := Nat.le_zero.mp h
    rfl
  | cons first rest ih =>
    cases place with
    | zero => rfl
    | succ n =>
      have hn : n ≤ rest.length := Nat.le_of_succ_le_succ h
      simp only [List.cons_append, List.insertIdx_succ_cons, ih hn]

theorem noted_tell (h : place ≤ d.callerLog.length) (events : List Event) :
    (d.noted place event drops).tell events = (d.tell events).noted place event drops := by
  simp only [tell, noted, insertIdx_append_of_le h]

theorem noted_accept (m : Message) :
    (d.noted place event drops).accept m = (d.accept m).noted place event drops := by
  by_cases hn : d.options.capacity = 0
  · rw [accept_of_no_capacity hn]
    exact accept_of_no_capacity (d := d.noted place event drops) hn m
  · rw [accept_of_capacity hn]
    exact accept_of_capacity (d := d.noted place event drops) hn m

theorem noted_offer (m : Message) :
    (d.noted place event drops).offer m =
      ((d.offer m).1, (d.offer m).2.noted place event drops) := by
  have hc : (d.noted place event drops).isCut = d.isCut := rfl
  have hr : (d.noted place event drops).hasRoom = d.hasRoom := rfl
  unfold offer
  rw [hc, hr, noted_accept]
  split
  · rfl
  · split <;> rfl

theorem noted_dropOne :
    (d.noted place event drops).dropOne = d.dropOne.noted place event drops := by
  simp only [dropOne, noted, Stats.drop, Nat.add_right_comm]

theorem noted_take? :
    (d.noted place event drops).take? = d.take?.map (·.noted place event drops) := by
  have hp : (d.noted place event drops).phase = d.phase := rfl
  have hq : (d.noted place event drops).queue = d.queue := rfl
  unfold take?
  rw [hp, hq]
  split <;> rfl

theorem noted_count : (d.noted place event drops).count = d.count.noted place event drops := by
  have hp : (d.noted place event drops).phase = d.phase := rfl
  unfold count
  rw [hp]
  split
  · next result _ => cases result <;> rfl
  · rfl

theorem noted_finish (body : List Char) (attempt : Http.Attempt) :
    (d.noted place event drops).finish body attempt =
      (d.finish body attempt).noted place event drops := by
  cases attempt <;> rfl

theorem noted_notify :
    (d.noted place event drops).notify = d.notify.noted place event drops := by
  have hp : (d.noted place event drops).phase = d.phase := rfl
  unfold notify
  rw [hp]
  split <;> rfl

theorem noted_cut : (d.noted place event drops).cut = d.cut.noted place event drops := by
  have hp : (d.noted place event drops).phase = d.phase := rfl
  unfold cut
  rw [hp]
  split <;> rfl

theorem noted_leave : (d.noted place event drops).leave = d.leave.noted place event drops := by
  have hp : (d.noted place event drops).phase = d.phase := rfl
  have hq : (d.noted place event drops).queue = d.queue := rfl
  have hh : (d.noted place event drops).isHeld = d.isHeld := rfl
  unfold leave
  rw [hp, hq, hh]
  split <;> rfl

theorem tell_event (d : Dispatcher) (event : Event) :
    d.tell [event] = d.noted d.callerLog.length event 0 := by
  simp only [tell, noted, List.insertIdx_length_self, Nat.add_zero]

/-- A result that is dropped with an event. -/
theorem tell_dropOne (d : Dispatcher) (event : Event) :
    (d.tell [event]).dropOne = d.noted d.callerLog.length event 1 := by
  simp only [tell, dropOne, noted, List.insertIdx_length_self, Stats.drop]

/-- A body is queued if it is taken, and else told of and counted. -/
theorem enqueue_cases (d : Dispatcher) (body : List Char) :
    d.offer (.body body) = (.taken, d.accept (.body body)) ∧
        d.enqueue body = (true, d.accept (.body body)) ∨
      ∃ refusal, refusal ≠ .taken ∧ d.offer (.body body) = (refusal, d) ∧
        d.enqueue body = (false, (d.tell refusal.events).dropOne) := by
  unfold enqueue
  rcases offer_cases d (.body body) with ⟨_, _, ho⟩ | ⟨refusal, hn, ho⟩
  · exact .inl ⟨ho, by rw [ho]⟩
  · refine .inr ⟨refusal, hn, ho, ?_⟩
    rw [ho]
    cases refusal with
    | taken => exact absurd rfl hn
    | full | cut => rfl

theorem noted_enqueue (h : place ≤ d.callerLog.length) (body : List Char) :
    (d.noted place event drops).enqueue body =
      ((d.enqueue body).1, (d.enqueue body).2.noted place event drops) := by
  unfold enqueue
  rw [noted_offer]
  rcases offer_cases d (.body body) with ⟨_, _, ho⟩ | ⟨refusal, hn, ho⟩
  · rw [ho]
  · rw [ho]
    cases refusal with
    | taken => exact absurd rfl hn
    | full | cut => simp only [noted_tell h, noted_dropOne]

/-! ## Another hook -/

theorem rehook_accept (m : Message) : (d.rehook hook).accept m = (d.accept m).rehook hook := by
  by_cases hn : d.options.capacity = 0
  · rw [accept_of_no_capacity hn]
    exact accept_of_no_capacity (d := d.rehook hook) hn m
  · rw [accept_of_capacity hn]
    exact accept_of_capacity (d := d.rehook hook) hn m

theorem options_accept (m : Message) : (d.accept m).options = d.options := by
  unfold accept
  split <;> rfl

theorem rehook_enqueue (body : List Char) :
    (d.rehook hook).enqueue body = ((d.enqueue body).1, (d.enqueue body).2.rehook hook) := by
  have hc : (d.rehook hook).isCut = d.isCut := rfl
  have hr : (d.rehook hook).hasRoom = d.hasRoom := rfl
  unfold enqueue offer
  rw [hc, hr, rehook_accept]
  cases d.isCut with
  | true => rfl
  | false => cases d.hasRoom <;> rfl

theorem options_enqueue (d : Dispatcher) (body : List Char) :
    (d.enqueue body).2.options = d.options := by
  rcases enqueue_cases d body with ⟨_, he⟩ | ⟨refusal, _, _, he⟩
  · rw [he]
    exact options_accept _
  · rw [he]
    rfl

/-- **No submission changes the hook**, nor how the dispatcher is set up otherwise. -/
theorem options_submit (d : Dispatcher) (payload : Payload) :
    (d.submit payload).2.options = d.options := by
  unfold submit
  cases prepare d.options.hook payload with
  | mk events body =>
    cases body with
    | none => rfl
    | some body => exact options_enqueue _ body

/-- What another hook makes of a result is all that matters of it. -/
theorem submitBy_eq (d : Dispatcher) (hook : Option Hook) (payload : Payload) :
    d.submitBy hook payload =
      match prepare hook payload with
      | (events, none) => (false, (d.tell events).dropOne)
      | (events, some body) => (d.tell events).enqueue body := by
  have hs : (d.rehook hook).submit payload =
      match prepare hook payload with
      | (events, none) => (false, ((d.rehook hook).tell events).dropOne)
      | (events, some body) => ((d.rehook hook).tell events).enqueue body := rfl
  unfold submitBy
  rw [hs]
  cases prepare hook payload with
  | mk events body =>
    cases body with
    | none => rfl
    | some body =>
      have he : ((d.rehook hook).tell events).enqueue body = _ :=
        rehook_enqueue (d := d.tell events) body
      have ho := options_enqueue (d.tell events) body
      simp only [he]
      refine Prod.ext rfl ?_
      show ((d.tell events).enqueue body).2.rehook (d.tell events).options.hook = _
      rw [← ho]
      rfl

theorem submitBy_of_prepare {other : Option Hook} (h : prepare hook payload = prepare other payload)
    (d : Dispatcher) : d.submitBy hook payload = d.submitBy other payload := by
  rw [submitBy_eq, submitBy_eq, h]

end Dispatcher

namespace Dispatch

open Courier.Dispatcher

namespace Usage

variable {u v : Usage} {label : Label} {place drops thread call : Nat} {event : Event}
  {payload : Payload}

theorem noted_submit (h : place ≤ u.dispatcher.callerLog.length) (thread : Nat)
    (payload : Payload) :
    (u.noted place event drops).submit thread payload =
      (u.submit thread payload).noted place event drops := by
  simp only [submit, noted, noted_tell h]
  rfl

theorem noted_refuse (h : place ≤ u.dispatcher.callerLog.length) (thread call : Nat)
    (body : List Char) (refusal : Offer) :
    (u.noted place event drops).refuse thread call body refusal =
      (u.refuse thread call body refusal).noted place event drops := by
  simp only [refuse, noted, noted_tell h]
  rfl

theorem noted_offer (h : place ≤ u.dispatcher.callerLog.length) (thread call : Nat)
    (body : List Char) :
    (u.noted place event drops).offer thread call body =
      (u.offer thread call body).noted place event drops := by
  have ho : (u.dispatcher.noted place event drops).offer (.body body) = _ :=
    Dispatcher.noted_offer (.body body)
  unfold offer
  rw [show (u.noted place event drops).dispatcher = u.dispatcher.noted place event drops from rfl,
    ho]
  cases hd : u.dispatcher.offer (.body body) with
  | mk answer after =>
    cases answer with
    | taken => rfl
    | full | cut => exact noted_refuse h thread call body _

theorem noted_mark? (thread ticket : Nat) :
    (u.noted place event drops).mark? thread ticket =
      (u.mark? thread ticket).map (·.noted place event drops) := by
  have ho : (u.dispatcher.noted place event drops).offer (.marker ticket) = _ :=
    Dispatcher.noted_offer (.marker ticket)
  unfold mark?
  rw [show (u.noted place event drops).dispatcher = u.dispatcher.noted place event drops from rfl,
    ho]
  cases hd : u.dispatcher.offer (.marker ticket) with
  | mk answer after => cases answer <;> rfl

theorem noted_endFlush (h : place ≤ u.dispatcher.callerLog.length) (thread ticket : Nat)
    (inTime : Bool) :
    (u.noted place event drops).endFlush thread ticket inTime =
      (u.endFlush thread ticket inTime).noted place event drops := by
  simp only [endFlush, noted, noted_tell h]
  rfl

theorem noted_drop (thread call : Nat) (body : Option (List Char)) :
    (u.noted place event drops).drop thread call body =
      (u.drop thread call body).noted place event drops := by
  simp only [Usage.drop, noted, noted_dropOne]
  rfl

/-- **A usage with an event more in its log goes on as it would without.** -/
theorem next?_noted (h : place ≤ u.dispatcher.callerLog.length) (label : Label) :
    (u.noted place event drops).next? label =
      (u.next? label).map (·.noted place event drops) := by
  have ht : (u.noted place event drops).threads = u.threads := rfl
  have hd : (u.noted place event drops).dispatcher = u.dispatcher.noted place event drops := rfl
  have hp : (u.dispatcher.noted place event drops).phase = u.dispatcher.phase := rfl
  cases label with
  | submit thread payload =>
    simp only [next?, apply_ite (Option.map _), Option.map_some, Option.map_none, noted_submit h]
    rfl
  | offer thread =>
    simp only [next?, ht]
    split
    · simp only [noted_offer h, Option.map_some]
    · rfl
  | miss thread =>
    simp only [next?, ht]
    split
    · simp only [apply_ite (Option.map _), Option.map_some, Option.map_none, noted_refuse h]
      rfl
    · rfl
  | drop thread =>
    simp only [next?, ht]
    split
    · simp only [noted_drop, Option.map_some]
    · rfl
  | mark thread =>
    simp only [next?, ht]
    split
    · exact noted_mark? thread _
    · rfl
  | endFlush thread =>
    simp only [next?, ht]
    split
    · simp only [noted_endFlush h, Option.map_some]
    · simp only [noted_endFlush h, Option.map_some]
      rfl
    · rfl
  | flush | turn | close | letGo =>
    simp only [next?, apply_ite (Option.map _), Option.map_some, Option.map_none]
    rfl
  | take =>
    simp only [next?, hd, noted_take?, Option.map_map]
    rfl
  | finish attempt =>
    simp only [next?, hd, hp]
    split
    · simp only [noted_finish, apply_ite (Option.map _), Option.map_some, Option.map_none]
      rfl
    · rfl
  | count =>
    simp only [next?, hd, hp]
    split
    · simp only [noted_count, Option.map_some]
      rfl
    · rfl
  | notify =>
    simp only [next?, hd, hp]
    split
    · simp only [noted_notify, Option.map_some]
      rfl
    · rfl
  | cut =>
    simp only [next?, hd, hp, noted_cut, apply_ite (Option.map _), Option.map_some,
      Option.map_none]
    rfl
  | leave =>
    simp only [next?, hd, noted_leave, apply_ite (Option.map _), Option.map_some, Option.map_none]
    rfl

theorem Step.length_callerLog_le (h : Step u label v) :
    u.dispatcher.callerLog.length ≤ v.dispatcher.callerLog.length := by
  cases h with
  | submit | refused | missed | givenUp | waited => exact (List.prefix_append _ _).length_le
  | _ => exact Nat.le_refl _

/-- **A run goes on as it would without the event**, whatever happens in it. -/
theorem run?_noted (h : place ≤ u.dispatcher.callerLog.length) (labels : List Label) :
    (u.noted place event drops).run? labels =
      (u.run? labels).map (·.noted place event drops) := by
  induction labels generalizing u with
  | nil => rfl
  | cons label rest ih =>
    rw [run?, run?, next?_noted h]
    cases hn : u.next? label with
    | none => rfl
    | some v => exact ih (Nat.le_trans h (step_of_next? hn).length_callerLog_le)

/-! ## The end of a submission -/

/-- A thread that goes on alone comes to the end of its submission, and that returns what is given
and leaves this dispatcher. -/
def Ends (u : Usage) (thread call : Nat) (result : Bool × Dispatcher) : Prop :=
  ∃ own v fate, (∀ label ∈ own, label.thread? = some thread) ∧ u.run? own = some v ∧
    v.dispatcher = result.2 ∧ v.threads = u.threads.set thread .idle ∧
    v.submissions = u.submissions ++ [⟨thread, call, fate⟩] ∧ fate.returned = result.1

theorem ends_of_dropping {body : Option (List Char)}
    (hb : u.threads[thread]? = some (.dropping call body)) :
    u.Ends thread call (false, u.dispatcher.dropOne) := by
  have hn : u.next? (.drop thread) = some (u.drop thread call body) := by simp only [next?, hb]
  refine ⟨[.drop thread], u.drop thread call body, .refused body,
    List.forall_mem_singleton.mpr rfl, ?_, rfl, rfl, rfl, rfl⟩
  simp only [run?, hn, Option.bind_some]

/-- A submission that has a body ends with the enqueuing of that. -/
theorem ends_of_offering {body : List Char}
    (hb : u.threads[thread]? = some (.offering call body)) :
    u.Ends thread call (u.dispatcher.enqueue body) := by
  have hn : u.next? (.offer thread) = some (u.offer thread call body) := by simp only [next?, hb]
  have hlt : thread < u.threads.length := (List.getElem?_eq_some_iff.mp hb).1
  rcases enqueue_cases u.dispatcher body with ⟨ho, he⟩ | ⟨refusal, hne, ho, he⟩
  · have hu : u.offer thread call body =
        { (u.follow (u.dispatcher.accept (.body body))).put thread .idle with
          submissions := u.submissions ++ [⟨thread, call, .queued body⟩] } := by
      simp only [Usage.offer, ho]
    rw [he]
    refine ⟨[.offer thread], u.offer thread call body, .queued body,
      List.forall_mem_singleton.mpr rfl, by simp only [run?, hn, Option.bind_some], ?_⟩
    rw [hu]
    exact ⟨rfl, rfl, rfl, rfl⟩
  · have hr : u.offer thread call body = u.refuse thread call body refusal := by
      cases refusal with
      | taken => exact absurd rfl hne
      | full | cut => simp only [Usage.offer, ho]
    have ht : (u.refuse thread call body refusal).threads[thread]? =
        some (.dropping call (some body)) := List.getElem?_set_self hlt
    obtain ⟨own, v, fate, hown, hrun, hd, hthreads, hs, hf⟩ := ends_of_dropping ht
    rw [he]
    refine ⟨.offer thread :: own, v, fate, List.forall_mem_cons.mpr ⟨rfl, hown⟩, ?_, hd,
      hthreads.trans (List.set_set _), hs, hf⟩
    rw [run?, hn, hr]
    exact hrun

/-- **A submission ends whatever its hook does**, as one of a single caller ends. -/
theorem ends_of_isFree (hf : u.isFree thread = true) (payload : Payload) :
    (u.submit thread payload).Ends thread u.calls (u.dispatcher.submit payload) := by
  have hlt : thread < u.threads.length :=
    (List.getElem?_eq_some_iff.mp (idle_of_isFree hf).2).1
  unfold Usage.submit Dispatcher.submit
  cases prepare u.dispatcher.options.hook payload with
  | mk events body =>
    cases body with
    | none => exact ends_of_dropping (List.getElem?_set_self hlt)
    | some body => exact ends_of_offering (List.getElem?_set_self hlt)

/-! ## Verdicts -/

theorem submitBy_of_silent {hook : Option Hook} {body : Option (List Char)}
    (hp : prepare hook payload = ([], body)) (thread : Nat) :
    u.submitBy hook thread payload =
      { u.put thread (.called u.calls body) with calls := u.calls + 1 } := by
  have he : u.submitBy hook thread payload =
      { u.put thread (.called u.calls (prepare hook payload).2) with
        dispatcher := u.dispatcher.tell (prepare hook payload).1
        calls := u.calls + 1 } := rfl
  rw [he, hp, tell_nil]
  rfl

/-- A submission that is told of, and has the body that it has without a hook, goes on as without
one. -/
theorem run?_of_original {body : Option (List Char)}
    (hp : prepare u.dispatcher.options.hook payload = ([event], body))
    (hn : prepare none payload = ([], body)) (thread : Nat) (labels : List Label) :
    (u.submit thread payload).run? labels =
      ((u.submitBy none thread payload).run? labels).map
        (·.noted u.dispatcher.callerLog.length event 0) := by
  have hs : u.submit thread payload =
      (u.submitBy none thread payload).noted u.dispatcher.callerLog.length event 0 := by
    rw [submitBy_of_silent hn]
    simp only [Usage.submit, hp, tell_event]
    rfl
  rw [hs, run?_noted]
  rw [submitBy_of_silent hn]
  exact Nat.le_refl _

/-- A submission that has no body is over once its drop is counted. -/
theorem run?_of_dropped (hf : u.isFree thread = true)
    (hp : prepare u.dispatcher.options.hook payload = ([event], none)) (labels : List Label) :
    u.run? (.submit thread payload :: .drop thread :: labels) =
      ((u.recorded thread (.refused none)).run? labels).map
        (·.noted u.dispatcher.callerLog.length event 1) := by
  have hidle := (idle_of_isFree hf).2
  obtain ⟨hlt, hi⟩ := List.getElem?_eq_some_iff.mp hidle
  have hs : u.next? (.submit thread payload) = some (u.submit thread payload) := if_pos hf
  have hb : (u.submit thread payload).threads[thread]? = some (.dropping u.calls none) := by
    simp only [Usage.submit, hp]
    exact List.getElem?_set_self hlt
  have hd : (u.submit thread payload).drop thread u.calls none =
      (u.recorded thread (.refused none)).noted u.dispatcher.callerLog.length event 1 := by
    have hset : (u.threads.set thread (.dropping u.calls none)).set thread .idle = u.threads := by
      rw [List.set_set, ← hi, List.set_getElem_self]
    simp only [Usage.submit, hp, Usage.drop, put, Activity.called, tell_dropOne, hset]
    rfl
  have hdrop : (u.submit thread payload).next? (.drop thread) =
      some ((u.submit thread payload).drop thread u.calls none) := by
    simp only [next?, hb]
  rw [run?, hs, Option.bind_some, run?, hdrop, Option.bind_some, hd]
  exact run?_noted (Nat.le_refl _) labels

end Usage

variable {d : Dispatcher} {edits : List Edit} {payload : Payload} {value after : Json} {hook : Hook}

theorem prepare_of_panic (hv : payload.toJson = .ok value) (hr : hook.run value = .panic) :
    prepare (some hook) payload = ([.hookPanicked], some value.text) := by
  simp only [prepare, hv, hr]

theorem prepare_of_drop (hv : payload.toJson = .ok value) (hr : hook.run value = .drop) :
    prepare (some hook) payload = ([.hookDropped], none) := by
  simp only [prepare, hv, hr]

theorem prepare_of_keep (hv : payload.toJson = .ok value) (hr : hook.run value = .keep after) :
    prepare (some hook) payload = ([], some after.text) := by
  simp only [prepare, hv, hr]

theorem prepare_none (hv : payload.toJson = .ok value) :
    prepare none payload = ([], some value.text) := by
  simp only [prepare, hv]

theorem submit_of_body {body : List Char} {events : List Event}
    (hp : prepare d.options.hook payload = (events, some body)) :
    d.submit payload = (d.tell events).enqueue body := by
  simp only [Dispatcher.submit, hp]

theorem submit_of_no_body {event : Event}
    (hp : prepare d.options.hook payload = ([event], none)) :
    d.submit payload = (false, d.noted d.callerLog.length event 1) := by
  simp only [Dispatcher.submit, hp, tell_dropOne]

/-- **The failure of a hook is atomic**: what is true of a dispatcher with a hook of edits, whatever
it is at and whatever is submitted. -/
structure Atomic (edits : List Edit) : Prop where
  /-- Edits of a value stop at one that panics, or at one that drops, or make something of it, -/
  ends : ∀ value, Stops Edit.Panics edits value ∨ Stops Edit.Drops edits value ∨
    ∃ after, Leads edits value after
  /-- and that is the only one of these that they do. -/
  alone : ∀ value, ¬(Stops Edit.Panics edits value ∧ Stops Edit.Drops edits value) ∧
    ∀ after, Leads edits value after →
      ¬Stops Edit.Panics edits value ∧ ¬Stops Edit.Drops edits value
  /-- What stands behind the edit that stops is of no effect. -/
  later : ∀ done edit rest value after, edits = done ++ edit :: rest → Leads done value after →
    edit.Panics after ∨ edit.Drops after → ∀ (d : Dispatcher) (payload : Payload),
      payload.toJson = .ok value →
        d.submitBy (some edits) payload = d.submitBy (some (done ++ [edit] : List Edit)) payload
  /-- A result about which the hook panics is submitted as by no hook, and it is told once. -/
  panicked : ∀ (d : Dispatcher) (payload : Payload) value,
    d.options.hook = some (Hook.ofEdits edits) → payload.toJson = .ok value →
      Stops Edit.Panics edits value →
        d.submit payload = ((d.submitBy none payload).1,
          (d.submitBy none payload).2.noted d.callerLog.length .hookPanicked 0)
  /-- Whatever happens after that, it is what would have happened without the hook. -/
  resumes : ∀ (u : Usage) (thread : Nat) (payload : Payload) value labels,
    u.dispatcher.options.hook = some (Hook.ofEdits edits) → payload.toJson = .ok value →
      Stops Edit.Panics edits value →
        (u.submit thread payload).run? labels =
          ((u.submitBy none thread payload).run? labels).map
            (·.noted u.dispatcher.callerLog.length .hookPanicked 0)
  /-- A result that the hook drops is not queued, and counted. -/
  dropped : ∀ (d : Dispatcher) (payload : Payload) value,
    d.options.hook = some (Hook.ofEdits edits) → payload.toJson = .ok value →
      Stops Edit.Drops edits value →
        d.submit payload = (false, d.noted d.callerLog.length .hookDropped 1)
  /-- Whatever happens after that, it is what would have happened otherwise. -/
  forgets : ∀ (u : Usage) (thread : Nat) (payload : Payload) value labels,
    u.isFree thread = true →
    u.dispatcher.options.hook = some (Hook.ofEdits edits) → payload.toJson = .ok value →
      Stops Edit.Drops edits value →
        u.run? (.submit thread payload :: .drop thread :: labels) =
          ((u.recorded thread (.refused none)).run? labels).map
            (·.noted u.dispatcher.callerLog.length .hookDropped 1)
  /-- Of any other result the body is the text of what all edits together make of it. -/
  kept : ∀ (d : Dispatcher) (payload : Payload) value after,
    d.options.hook = some (Hook.ofEdits edits) → payload.toJson = .ok value →
      Leads edits value after →
        d.submit payload = d.enqueue after.text ∧
          (Payload.ofJson after).text = .ok after.text
  /-- The hook is not asked about what is no value. -/
  unread : ∀ (d : Dispatcher) (payload : Payload) cause, payload.toJson = .error cause →
    d.submit payload = (false, d.noted d.callerLog.length (.unserializable cause) 1)
  /-- A submission can be called whenever its thread is free, and comes to an end. -/
  returns : ∀ (u : Usage) (thread : Nat) (payload : Payload), u.isFree thread = true →
    u.next? (.submit thread payload) = some (u.submit thread payload) ∧
      (u.submit thread payload).Ends thread u.calls (u.dispatcher.submit payload)
  /-- The dispatcher keeps its hook, and so does later what it does now. -/
  keeps : ∀ (d : Dispatcher) (payload : Payload), (d.submit payload).2.options = d.options

theorem submit_of_panic (hh : d.options.hook = some hook) (hv : payload.toJson = .ok value)
    (hr : hook.run value = .panic) :
    d.submit payload = ((d.submitBy none payload).1,
      (d.submitBy none payload).2.noted d.callerLog.length .hookPanicked 0) := by
  have hn : d.submitBy none payload = d.enqueue value.text := by
    simp only [submitBy_eq, prepare_none hv, tell_nil]
  rw [hn, submit_of_body (hh ▸ prepare_of_panic hv hr), tell_event,
    noted_enqueue (Nat.le_refl _)]

/-- **The failure of a hook is atomic**, however many edits it makes and wherever it fails. -/
theorem atomic_of_edits (edits : List Edit) : Atomic edits where
  ends := edits_cases edits
  alone value := by
    refine ⟨fun ⟨hp, hd⟩ => ?_, fun after hl => ⟨fun hp => ?_, fun hd => ?_⟩⟩
    · exact absurd ((run_ofEdits_of_panics hp).symm.trans (run_ofEdits_of_drops hd)) nofun
    · exact absurd ((run_ofEdits_of_leads hl).symm.trans (run_ofEdits_of_panics hp)) nofun
    · exact absurd ((run_ofEdits_of_leads hl).symm.trans (run_ofEdits_of_drops hd)) nofun
  later done edit rest value after he hl hs d payload hv := by
    have hrun : (Hook.ofEdits edits).run value = (Hook.ofEdits (done ++ [edit])).run value := by
      subst he
      rcases hs with hp | hd
      · exact (run_ofEdits_of_stops hl hp.apply nofun rest).trans
          (run_ofEdits_of_stops hl hp.apply nofun []).symm
      · exact (run_ofEdits_of_stops hl hd.apply nofun rest).trans
          (run_ofEdits_of_stops hl hd.apply nofun []).symm
    refine submitBy_of_prepare ?_ d
    simp only [prepare, hv, hrun]
  panicked d payload value hh hv hs := submit_of_panic hh hv (run_ofEdits_of_panics hs)
  resumes u thread payload value labels hh hv hs := by
    have hp := prepare_of_panic hv (run_ofEdits_of_panics hs)
    exact Usage.run?_of_original (hh ▸ hp) (prepare_none hv) thread labels
  dropped d payload value hh hv hs :=
    submit_of_no_body (hh ▸ prepare_of_drop hv (run_ofEdits_of_drops hs))
  forgets u thread payload value labels hf hh hv hs :=
    Usage.run?_of_dropped hf (hh ▸ prepare_of_drop hv (run_ofEdits_of_drops hs)) labels
  kept d payload value after hh hv hl := by
    refine ⟨?_, Payload.text_ofJson after⟩
    rw [submit_of_body (hh ▸ prepare_of_keep hv (run_ofEdits_of_leads hl)), tell_nil]
  unread d payload cause hv := submit_of_no_body (by simp only [prepare, hv])
  returns u thread payload hf := ⟨if_pos hf, Usage.ends_of_isFree hf payload⟩
  keeps := options_submit

end Dispatch

end Courier
