import Courier.Delivery.Send
import Mathlib

/-!
# Sending and the clock

A timeout that the clock cannot count to from where it is stops the caller who comes to look at
it. Nothing else stops one: neither the endpoint nor the result nor whatever the collector replies.

Results:

* `refusal_of_panicked` — a delivery that panics has come as far as its timeouts, and one of those
  is beyond the clock.
* `send_returned_iff` — **sending returns unless it comes to look at a timeout beyond the clock**;
  then it panics, and nobody is sent or told anything.
* `send_panicked_of_endless` — that comes about.
-/

namespace Courier

open Courier.Http

/-- Whether timeouts stop the caller who looks at them and at a clock. That for connecting is looked
at only if there is any time at all. -/
def Timeouts.overflow (t : Timeouts) (clock : Clock) : Bool :=
  isBeyondClock clock t.total || (t.total.nanoseconds ≠ 0 && isBeyondClock clock t.connect)

namespace Http

variable {net after : Network} {timeouts : Timeouts} {url body : List Char}
  {token : Option (List Char)} {uri : Uri} {message : String}

/-- However an exchange ends, it stops nobody. -/
theorem attempt_ne_panicked (result : Exchange) : result.attempt ≠ .panicked message := by
  cases result with
  | waiting => exact nofun
  | failed cause => exact nofun
  | replied response =>
    by_cases hs : response.status = 200
    · simp [Exchange.attempt, hs]
    · simp [Exchange.attempt, hs]

/-- A delivery that comes to look at timeouts beyond the clock panics before it sends anything. -/
theorem deliver_of_overflow (hs : refusal? url token = .ok uri)
    (ho : timeouts.overflow net.clock = true) :
    deliver net timeouts url token body = (.panicked clockMessage, net) := by
  simp only [Timeouts.overflow, Bool.or_eq_true, Bool.and_eq_true, decide_eq_true_eq] at ho
  unfold deliver
  rw [hs]
  simp only
  by_cases ht : isBeyondClock net.clock timeouts.total = true
  · rw [if_pos ht]
  · obtain ⟨hz, hc⟩ := ho.resolve_left ht
    rw [if_neg ht, if_neg hz, if_pos hc]

/-- **What a panic says of a delivery.** Its URI and token were fit to be sent, and its timeouts
are beyond the clock. -/
theorem refusal_of_panicked (h : deliver net timeouts url token body = (.panicked message, after)) :
    (∃ uri, refusal? url token = .ok uri) ∧ timeouts.overflow net.clock = true ∧
      message = clockMessage ∧ after = net := by
  unfold deliver at h
  split at h
  · simp at h
  · rename_i uri hs
    by_cases ht : isBeyondClock net.clock timeouts.total = true
    · rw [if_pos ht] at h
      cases h
      exact ⟨⟨uri, hs⟩, by simp [Timeouts.overflow, ht], rfl, rfl⟩
    · rw [if_neg ht] at h
      by_cases hz : timeouts.total.nanoseconds = 0
      · rw [if_pos hz] at h
        simp at h
      · rw [if_neg hz] at h
        by_cases hc : isBeyondClock net.clock timeouts.connect = true
        · rw [if_pos hc] at h
          cases h
          exact ⟨⟨uri, hs⟩, by simp [Timeouts.overflow, hz, hc], rfl, rfl⟩
        · rw [if_neg hc] at h
          exact absurd (Prod.mk.inj h).1 (attempt_ne_panicked _)

/-- A delivery that has time within the clock ends as its exchange does. -/
theorem deliver_of_exchange {result : Exchange} (hs : refusal? url token = .ok uri)
    (ho : timeouts.overflow net.clock = false) (hz : timeouts.total.nanoseconds ≠ 0)
    (hx : exchange net uri (post uri token body) maxRedirects = (result, after)) :
    deliver net timeouts url token body = (result.attempt, after) := by
  obtain ⟨ht, hc⟩ : isBeyondClock net.clock timeouts.total = false ∧
      isBeyondClock net.clock timeouts.connect = false := by
    simpa [Timeouts.overflow, hz] using ho
  unfold deliver
  simp only [hs, ht, hc, hx, if_neg hz, Bool.false_eq_true, if_false]

/-- A delivery panics iff it comes to look at timeouts beyond the clock. -/
theorem deliver_panicked_iff :
    (∃ message, (deliver net timeouts url token body).1 = .panicked message) ↔
      (∃ uri, refusal? url token = .ok uri) ∧ timeouts.overflow net.clock = true := by
  constructor
  · rintro ⟨message, h⟩
    obtain ⟨hs, ho, _⟩ := refusal_of_panicked (Prod.ext h rfl)
    exact ⟨hs, ho⟩
  · rintro ⟨⟨uri, hs⟩, ho⟩
    exact ⟨clockMessage, by rw [deliver_of_overflow hs ho]⟩

/-- The caller of a delivery that does not panic is told a result. -/
theorem ending_returned_iff {attempt : Attempt} :
    (∃ result, attempt.ending = .returned result) ↔ ¬∃ message, attempt = .panicked message := by
  cases attempt <;> simp [Attempt.ending]

end Http

/-- Sending a result comes to look at timeouts beyond a clock: the endpoint has a URL that the
client takes, with a token that may stand in a header, and the result has a text. -/
def Stopped (clock : Clock) (e : Endpoint) (payload : Payload) : Prop :=
  ∃ url body uri, e.targetUrl = .ok url ∧ payload.text = .ok body ∧
    refusal? url (e.bearer.map String.toList) = .ok uri ∧ e.timeouts.overflow clock = true

variable {net : Network} {e : Endpoint} {payload : Payload}

theorem trySend_of_stopped (h : Stopped net.clock e payload) :
    trySend net e payload = ⟨.panicked clockMessage, net, []⟩ := by
  obtain ⟨url, body, uri, hu, hb, hs, ho⟩ := h
  simp only [trySend, hu, hb, deliver_of_overflow hs ho]
  rfl

theorem trySend_returned (h : ¬Stopped net.clock e payload) :
    ∃ result, (trySend net e payload).ending = .returned result := by
  unfold trySend
  cases hu : e.targetUrl with
  | error cause => exact ⟨_, rfl⟩
  | ok url =>
    cases hb : payload.text with
    | error cause => exact ⟨_, rfl⟩
    | ok body =>
      refine ending_returned_iff.mpr fun hp => h ?_
      obtain ⟨⟨uri, hs⟩, ho⟩ := deliver_panicked_iff.mp hp
      exact ⟨url, body, uri, hu, hb, hs, ho⟩

/-- **When sending returns.** For every endpoint, every result and every network, whatever the
collector replies and whatever the clock reads, sending returns true or false unless it comes to
look at timeouts beyond the clock. Then it panics with nothing sent and nothing told. -/
theorem send_returned_iff (net : Network) (e : Endpoint) (payload : Payload) :
    ((∃ accepted, (send net e payload).ending = .returned accepted) ↔
      ¬Stopped net.clock e payload) ∧
      (Stopped net.clock e payload →
        send net e payload = ⟨.panicked clockMessage, net, []⟩) := by
  have hstop : Stopped net.clock e payload →
      send net e payload = ⟨.panicked clockMessage, net, []⟩ := by
    intro h
    unfold send
    rw [trySend_of_stopped h]
    rfl
  refine ⟨⟨?_, fun h => ?_⟩, hstop⟩
  · rintro ⟨accepted, ha⟩ h
    rw [hstop h] at ha
    exact absurd ha nofun
  · obtain ⟨result, hr⟩ := trySend_returned h
    refine ⟨result.isOk, ?_⟩
    show (trySend net e payload).ending.isOk = _
    rw [hr]
    rfl

/-! ## The unspecified address -/

theorem targetUrl_unspecified :
    (Endpoint.of "http://[::]" "/").targetUrl = .ok "http://[::]/".toList := by
  cbv

theorem refusal?_unspecified :
    refusal? "http://[::]/".toList none = .ok ⟨some "http".toList, "[::]".toList, "/".toList⟩ := by
  cbv

/-- An endpoint that would wait for a reply as long as a duration can be. -/
def endless : Endpoint :=
  (Endpoint.of "http://[::]" "/").withTimeouts ⟨.ofSeconds 10, ⟨18446744073709551615999999999⟩⟩

/-- Sending to it panics. -/
theorem send_panicked_of_endless :
    (send .unreachable endless (.bool true)).ending = .panicked clockMessage := by
  have hstop : Stopped Network.unreachable.clock endless (.bool true) :=
    ⟨_, "true".toList, _, targetUrl_unspecified, rfl, refusal?_unspecified, by decide⟩
  unfold send
  rw [trySend_of_stopped hstop]
  rfl

end Courier
