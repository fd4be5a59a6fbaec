import Courier.CommandLine.Command
import Courier.Proofs.Delivery.Outcomes
import Courier.Proofs.Delivery.Prompt
import Courier.Proofs.Dispatch.Refinement

/-!
# One value through a queue

A command that delivers its value through a queue comes to what it comes to at once, if no reply is
held back: the worker takes the value, tells how its delivery ended and counts it before the flush
is over, and has nothing left to send when the dispatcher is let go of.

Results:

* `settle_body`, `flush_of_settle`: what the worker and the flush come to.
* `deliverNow_of_finished`, `deliverQueued_of_finished`: **what comes of a delivery that comes to an
  end**, on the two ways.
-/

namespace Courier.CommandLine

open Courier.Http Courier.Dispatch Courier.Dispatcher

variable {net after : Network} {e : Endpoint} {value : Json} {url body : List Char}
  {result : Except Failure Unit} {d : Dispatcher} {ticket : Nat}

/-! ## The worker -/

/-- A worker with one body takes it, delivers it, tells how that ended and counts it. -/
theorem settle_body (hp : d.phase = .waiting) (hq : d.queue = [.body body])
    (hx : deliver net e.timeouts d.url (e.bearer.map String.toList) body =
      (.finished result, after)) :
    settle e (d, net) =
      ({ d with
        queue := []
        stats := d.stats.record result
        workerLog := d.workerLog ++ [.ofResult d.url body result] }, after) := by
  simp [settle, advanceBy, advance, Dispatcher.take?, Dispatcher.receive, complete, finish, count,
    cut, hp, hq, hx]

/-- A worker with a marker says that it came to it. -/
theorem settle_marker (hp : d.phase = .waiting) (hq : d.queue = [.marker ticket]) :
    settle e (d, net) = ({ d with queue := [], reached := d.reached ++ [ticket] }, net) := by
  simp [settle, advanceBy, advance, Dispatcher.take?, Dispatcher.receive, notify, hp, hq]

/-- A worker with nothing to do does nothing. -/
theorem settle_nothing (hp : d.phase = .waiting) (hq : d.queue = []) :
    settle e (d, net) = (d, net) := by
  simp [settle, advanceBy, advance, Dispatcher.take?, hp, hq]

/-! ## The caller -/

/-- A message is taken as long as there is room in the queue. -/
theorem offer_of_room (hp : d.phase = .waiting) (hq : d.queue.length < d.options.capacity)
    (m : Message) : d.offer m = (.taken, { d with queue := d.queue ++ [m] }) := by
  have hc : d.options.capacity ≠ 0 := Nat.ne_zero_of_lt hq
  simp [offer, isCut, hasRoom, accept_of_capacity hc, hp, hc, hq]

/-- A proper value is queued with its own text. -/
theorem submit_ofJson (hh : d.options.hook = none) (hp : d.phase = .waiting)
    (hq : d.queue.length < d.options.capacity) (hv : value.IsProper) :
    d.submit (.ofJson value) = (true, { d with queue := d.queue ++ [.body value.text] }) := by
  have hprepare : Dispatcher.prepare none (.ofJson value) = ([], some value.text) := by
    simp only [Dispatcher.prepare, Payload.toJson_ofJson value hv]
  simp only [submit, hh, hprepare, tell_nil, enqueue, offer_of_room hp hq]

/-- A flush is over in time if the worker has nothing left before it. -/
theorem flush_of_settle {d' : Dispatcher}
    (hs : settle e ({ d with tickets := d.tickets + 1 }, net) = (d', after))
    (hp : d'.phase = .waiting) (hq : d'.queue = []) (hc : d'.options.capacity ≠ 0) :
    Dispatch.flush e (d, net) =
      (true, { d' with reached := d'.reached ++ [d.tickets] }, after) := by
  have hroom : d'.queue.length < d'.options.capacity := by
    rw [hq]
    exact Nat.pos_of_ne_zero hc
  have hm : settle e ({ d' with queue := [.marker d.tickets] }, after) =
      ({ d' with queue := [], reached := d'.reached ++ [d.tickets] }, after) :=
    settle_marker hp rfl
  simp [Dispatch.flush, issue, hs, offer_of_room hp hroom, hq, hm, hasReached]

/-! ## One value -/

/-- **What comes of delivering a value at once.** -/
theorem deliverNow_of_finished (hu : e.targetUrl = .ok url)
    (hx : deliver net e.timeouts url (e.bearer.map String.toList) value.text =
      (.finished result, after)) :
    (deliverNow net e value).ending = .returned result.isOk ∧
      (deliverNow net e value).network = after := by
  simp [deliverNow, send, trySend, hu, Payload.text_ofJson, hx, Attempt.ending, Ending.isOk]

/-- **What comes of delivering it through a queue** is the same. -/
theorem deliverQueued_of_finished (hv : value.IsProper) (hu : e.targetUrl = .ok url)
    (hx : deliver net e.timeouts url (e.bearer.map String.toList) value.text =
      (.finished result, after)) :
    ∃ delivery, deliverQueued net e value = .ok delivery ∧
      delivery.ending = .returned result.isOk ∧ delivery.network = after := by
  let d : Dispatcher := ⟨url, .standard, [], .waiting, true, .zero, 0, [], [], []⟩
  have hd : Dispatcher.start e .standard = .ok d := by
    unfold Dispatcher.start
    rw [hu]
  let queued : Dispatcher := { d with queue := [.body value.text] }
  have hsubmit : d.submit (.ofJson value) = (true, queued) :=
    submit_ofJson rfl rfl (show 0 < 100 by decide) hv
  -- The flush before the answer, and the one when the dispatcher is let go of.
  let flushed : Dispatcher :=
    { queued with
      queue := [], tickets := 1, reached := [0]
      stats := Stats.zero.record result
      workerLog := [.ofResult url value.text result] }
  have hflush : Dispatch.flush e (queued, net) = (true, flushed, after) :=
    flush_of_settle (settle_body rfl rfl hx) rfl rfl (show 100 ≠ 0 by decide)
  have hagain : Dispatch.flush e (flushed, after) =
      (true, { flushed with tickets := 2, reached := [0, 1] }, after) :=
    flush_of_settle (settle_nothing rfl rfl) rfl rfl (show 100 ≠ 0 by decide)
  have hcount : decide (flushed.stats.delivered = 1) = result.isOk := by
    cases result <;> rfl
  refine ⟨_, by simp only [deliverQueued, hd, hsubmit, hflush]; rfl, ?_, ?_⟩
  · simp [hcount]
  · simp [Scene.dropCurrent, Scene.flushCurrent, hagain]

end Courier.CommandLine
