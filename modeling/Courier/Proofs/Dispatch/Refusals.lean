import Courier.Proofs.Delivery.Requests
import Courier.Proofs.Dispatch.Course
import Courier.Proofs.Dispatch.Draining

/-!
# Deliveries that the client refuses

What is wrong with a URL or a token is found before anything is sent, and for all results alike.

Results:

* `trySend_of_refused`: a result that is sent directly fails, and nothing is sent.
* `course_of_refused`, `hasPanicked_of_refused`: so does all that a worker delivers, and nothing
  stops it.
-/

namespace Courier

open Courier.Http

variable {e : Endpoint} {net after : Network} {url body : List Char} {cause : TransportError}

/-- The client refuses what an endpoint would send to a URL. -/
def Endpoint.IsRefused (e : Endpoint) (url : List Char) (cause : TransportError) : Prop :=
  refusal? url (e.bearer.map String.toList) = .error cause

theorem trySend_of_refused {payload : Payload} (hu : e.targetUrl = .ok url)
    (hb : payload.text = .ok body) (hs : e.IsRefused url cause) (net : Network) :
    trySend net e payload = ⟨.returned (.error (.noResponse cause)), net,
      [.ofResult url body (.error (.noResponse cause))]⟩ :=
  Dispatch.trySend_of_deliver hu hb (deliver_of_refused hs) rfl

namespace Dispatch

variable {told : List (List Char × Except Failure Unit)} {labels : List Label} {w x : Wired}

/-- A course of refusals leads nowhere. -/
theorem course_of_refused (hs : e.IsRefused url cause) (h : Course e url net told after) :
    after = net ∧ ∀ t ∈ told, t.2 = .error (.noResponse cause) := by
  induction h with
  | nil net => exact ⟨rfl, nofun⟩
  | @cons net mid after body attempt result rest hd he _ ih =>
    rw [deliver_of_refused hs] at hd
    cases hd
    cases he
    exact ⟨ih.1, List.forall_mem_cons.mpr ⟨rfl, ih.2⟩⟩

/-- A refusal stops no worker. -/
theorem hasPanicked_of_refused (hs : e.IsRefused w.usage.dispatcher.url cause)
    (h : w.run? e labels = some x) (hw : w.usage.dispatcher.phase.hasPanicked = false) :
    x.usage.dispatcher.phase.hasPanicked = false := by
  have hkept : x.usage.dispatcher.url = w.usage.dispatcher.url ∧
      x.usage.dispatcher.phase.hasPanicked = false := by
    apply Wired.run?_keeps (P := fun x => x.usage.dispatcher.url = w.usage.dispatcher.url ∧
      x.usage.dispatcher.phase.hasPanicked = false) h ⟨rfl, hw⟩
    rintro a b label _ hn ⟨hurl, ha⟩
    obtain ⟨hn, hc⟩ := Wired.cases_of_next? hn
    have hstep := Usage.step_of_next? hn
    refine ⟨hstep.url.trans hurl, hstep.hasPanicked ?_ ha⟩
    rcases hc with ⟨_, hne⟩ | ⟨body, attempt, _, hd, rfl⟩
    · cases label with
      | finish ended => exact absurd rfl (hne ended)
      | _ => rfl
    · rw [← hurl] at hs
      obtain ⟨rfl, _⟩ := Prod.mk.inj ((deliver_of_refused hs).symm.trans hd)
      rfl
  exact hkept.2

end Dispatch

end Courier
