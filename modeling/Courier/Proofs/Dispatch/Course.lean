import Courier.Dispatch.Wired
import Courier.Proofs.Delivery.Clock
import Courier.Proofs.Dispatch.Telling

/-!
# What the network sees of deliveries

A `Course` is a sequence of deliveries over a network, each with its result. Two things run a
course: whoever sends results one after the other, and the worker.

Results:

* `trySendAll_of_course` — sending the results of a course directly has the outcomes, the log and
  the network of the course.
* `runsCourse_of_run?` — the worker has run the course of all that it told, whatever happened.
-/

namespace Courier.Dispatch

/-- Bodies are posted one after the other, and each comes to a result. -/
inductive Course (e : Endpoint) (url : List Char) :
    Http.Network → List (List Char × Except Failure Unit) → Http.Network → Prop where
  | nil (net : Http.Network) : Course e url net [] net
  | cons {net mid after : Http.Network} {body : List Char} {attempt : Http.Attempt}
      {result : Except Failure Unit} {rest : List (List Char × Except Failure Unit)}
      (hd : Http.deliver net e.timeouts url (e.bearer.map String.toList) body = (attempt, mid))
      (he : attempt.ending = .returned result) (hr : Course e url mid rest after) :
      Course e url net ((body, result) :: rest) after

variable {e : Endpoint} {url body : List Char} {net mid after : Http.Network}
  {told : List (List Char × Except Failure Unit)} {attempt : Http.Attempt}
  {result : Except Failure Unit}

/-- A course goes on with one more delivery. -/
theorem Course.concat (h : Course e url net told mid)
    (hd : Http.deliver mid e.timeouts url (e.bearer.map String.toList) body = (attempt, after))
    (he : attempt.ending = .returned result) :
    Course e url net (told ++ [(body, result)]) after := by
  induction h with
  | nil net => exact .cons hd he (.nil after)
  | cons hd' he' _ ih => exact .cons hd' he' (ih hd)

/-! ## Directly -/

theorem networkAfter_cons {α : Type} (net : Http.Network) (call : Call α) (rest : List (Call α)) :
    networkAfter net (call :: rest) = networkAfter call.network rest := by
  unfold networkAfter
  rw [List.getLast?_cons]
  cases rest.getLast? <;> rfl

/-- What one call comes to whose delivery comes to a result. -/
theorem trySend_of_deliver {payload : Payload} (hu : e.targetUrl = .ok url)
    (hp : payload.text = .ok body)
    (hd : Http.deliver net e.timeouts url (e.bearer.map String.toList) body = (attempt, after))
    (he : attempt.ending = .returned result) :
    trySend net e payload = ⟨.returned result, after, [.ofResult url body result]⟩ := by
  simp only [trySend, hu, hp, hd, he, Ending.log]

/-- **Results that are sent directly run a course.** -/
theorem trySendAll_of_course (h : Course e url net told after) (hu : e.targetUrl = .ok url)
    {payloads : List Payload} (hp : payloads.map (·.text) = told.map fun t => .ok t.1) :
    (trySendAll net e payloads).map (·.ending) = told.map (fun t => .returned t.2) ∧
      (trySendAll net e payloads).flatMap (·.log) = told.map (fun t => .ofResult url t.1 t.2) ∧
      networkAfter net (trySendAll net e payloads) = after := by
  induction h generalizing payloads with
  | nil net =>
    obtain rfl : payloads = [] := List.map_eq_nil_iff.mp hp
    exact ⟨rfl, rfl, rfl⟩
  | cons hd he _ ih =>
    obtain ⟨payload, rest, rfl, hb, hrest⟩ := List.map_eq_cons_iff.mp hp
    obtain ⟨hend, hlog, hnet⟩ := ih hrest
    simp only [trySendAll, trySend_of_deliver hu hb hd he, List.map_cons, List.flatMap_cons,
      networkAfter_cons]
    exact ⟨congrArg _ hend, congrArg _ hlog, hnet⟩

/-! ## By the worker -/

namespace Wired

variable {w x : Wired} {label : Label} {labels : List Label}

/-- From a network on the worker has run the course of all that it told. -/
def RunsCourse (e : Endpoint) (net : Http.Network) (w : Wired) : Prop :=
  Course e w.usage.dispatcher.url net w.usage.told w.network

/-- **Whatever happens, the worker goes on with its course.** A delivery that panics sends and
tells nothing. -/
theorem runsCourse_of_next? (h : w.next? e label = some x) (hw : w.RunsCourse e net) :
    x.RunsCourse e net := by
  obtain ⟨hn, hc⟩ := cases_of_next? h
  have hs := Usage.step_of_next? hn
  unfold RunsCourse at *
  rw [hs.url, hs.told]
  rcases hc with ⟨hnet, hne⟩ | ⟨body, attempt, hp, ha, rfl⟩
  · have ht : label.tells w.usage.dispatcher.phase = [] := by
      cases label with
      | finish ended => exact absurd rfl (hne ended)
      | _ => rfl
    rw [ht, List.append_nil, hnet]
    exact hw
  · rw [hp]
    cases attempt with
    | finished result => exact hw.concat ha rfl
    | waiting => exact hw.concat ha rfl
    | panicked message =>
      obtain ⟨_, _, _, hnet⟩ := Http.refusal_of_panicked ha
      rw [hnet]
      simpa [settled] using hw

theorem runsCourse_of_run? (h : w.run? e labels = some x) (hw : w.RunsCourse e net) :
    x.RunsCourse e net :=
  run?_keeps h hw fun _ _ hn ha => runsCourse_of_next? hn ha

/-- A worker that has told nothing is at the beginning of its course. -/
theorem runsCourse_new (d : Dispatcher) (threads : Nat) (hd : d.phase = .waiting) :
    (Wired.mk (.new d threads) net).RunsCourse e net := by
  have ht : (Usage.new d threads).told = [] := by simp [Usage.told, Usage.new, hd]
  unfold RunsCourse
  rw [ht]
  exact .nil net

end Wired

end Courier.Dispatch
