import Courier.Delivery.Send
import Courier.Dispatch.Hook
import Courier.Payload.ToJson

/-!
# Dispatchers

A dispatcher takes results without waiting and has one worker deliver them. Between them stands a
queue of bounded capacity; with capacity zero a message changes hands only while the worker waits
for one. A flush puts a marker behind all results that are queued, and is over when the worker
comes to it.

The worker waits for a message, delivers a result, tells how that ended and only then counts it,
or says that it came to a marker. A panic stops it. Then it unwinds, and only after that the queue
is gone with all that is in it.

`start`, `submit`, `flush` and `drop` of `Dispatcher`, each cut where others may come between:
`prepare`, `offer` and `dropOne` are the parts of `submit`, `issue`, `offer` and `hasReached` those
of `flush` and of the `FlushSignal` that it waits for. The worker's `run_loop` is `take?`, then
`finish` and `count` (`run` and `record`) or `notify`; `cut` and `leave` end its thread.
-/

namespace Courier

instance : DecidableEq (Except Failure Unit)
  | .ok (), .ok () => isTrue rfl
  | .error a, .error b => decidable_of_iff (a = b) ⟨congrArg _, Except.error.inj⟩
  | .ok (), .error _ => isFalse nofun
  | .error _, .ok () => isFalse nofun

/-- What happened to results so far. -/
structure Stats where
  /-- Accepted by the collector. -/
  delivered : Nat
  /-- Attempted, but not accepted. -/
  failed : Nat
  /-- Never queued. -/
  dropped : Nat
  deriving Repr, DecidableEq

namespace Stats

/-- Nothing happened yet. -/
def zero : Stats := ⟨0, 0, 0⟩

/-- One more delivery with a result. -/
def record (s : Stats) : Except Failure Unit → Stats
  | .ok () => { s with delivered := s.delivered + 1 }
  | .error _ => { s with failed := s.failed + 1 }

/-- One more result that was dropped. -/
def drop (s : Stats) : Stats :=
  { s with dropped := s.dropped + 1 }

/-- The statistics on one line. -/
def line (s : Stats) : List Char :=
  (Text.Shown.record "DispatchStats" [
    ("delivered", .leaf (Decimal.naturalText s.delivered)),
    ("failed", .leaf (Decimal.naturalText s.failed)),
    ("dropped", .leaf (Decimal.naturalText s.dropped))]).inline

end Stats

namespace Dispatch

/-- How a dispatcher is set up. -/
structure Options where
  hook : Option Hook
  capacity : Nat
  flushTimeout : Duration

/-- No hook, room for a hundred, two seconds for a flush. -/
def Options.standard : Options := ⟨none, 100, .ofSeconds 2⟩

/-- What is queued. -/
inductive Message where
  | body (text : List Char)
  | marker (ticket : Nat)
  deriving Repr, DecidableEq

/-- What becomes of a message that is offered without waiting. -/
inductive Offer where
  | taken
  /-- There is no room. -/
  | full
  /-- There is no queue any more. -/
  | cut
  deriving Repr, DecidableEq

/-- What the caller tells of an offer. -/
def Offer.events : Offer → List Event
  | .taken => []
  | .full => [.queueFull]
  | .cut => [.workerGone]

/-- What the worker is at. -/
inductive Phase where
  | waiting
  | delivering (body : List Char)
  /-- Done with a delivery whose result is told but not counted. -/
  | counting (body : List Char) (result : Except Failure Unit)
  /-- At a marker that nobody was told of. -/
  | notifying (ticket : Nat)
  /-- Stopped by a panic, the queue still there. -/
  | unwinding
  /-- Stopped, the queue gone. -/
  | gone
  /-- Done, after the dispatcher was dropped and the queue was empty. -/
  | finished
  deriving Repr, DecidableEq

/-- What the worker is at once it has a message. -/
def Message.phase : Message → Phase
  | .body text => .delivering text
  | .marker ticket => .notifying ticket

/-- The body that a message carries, if it is no marker. -/
def Message.body? : Message → Option (List Char)
  | .body text => some text
  | .marker _ => none

@[simp] theorem Message.phase_body (text : List Char) :
    (Message.body text).phase = .delivering text := rfl

@[simp] theorem Message.phase_marker (ticket : Nat) :
    (Message.marker ticket).phase = .notifying ticket := rfl

@[simp] theorem Message.body?_body (text : List Char) :
    (Message.body text).body? = some text := rfl

@[simp] theorem Message.body?_marker (ticket : Nat) : (Message.marker ticket).body? = none := rfl

/-- The bodies among messages. -/
def bodies (messages : List Message) : List (List Char) :=
  messages.filterMap Message.body?

end Dispatch

open Dispatch in
/-- A dispatcher with its worker. -/
structure Dispatcher where
  url : List Char
  options : Options
  queue : List Message
  phase : Phase
  /-- Whether the dispatcher is still held. -/
  isHeld : Bool
  stats : Stats
  /-- How many markers were made; they are numbered from zero. -/
  tickets : Nat
  /-- The markers that the worker came to. -/
  reached : List Nat
  callerLog : List Event
  workerLog : List Event

namespace Dispatcher

open Dispatch

/-- A dispatcher for an endpoint, if that has a URL. -/
def start (e : Endpoint) (options : Options) : Except Failure Dispatcher :=
  match e.targetUrl with
  | .error cause => .error (.invalidEndpoint cause.message)
  | .ok url => .ok ⟨url, options, [], .waiting, true, .zero, 0, [], [], []⟩

/-- What a dispatcher is at first. -/
theorem eq_of_start {e : Endpoint} {options : Options} {d : Dispatcher}
    (h : start e options = .ok d) :
    ∃ url, e.targetUrl = .ok url ∧
      d = ⟨url, options, [], .waiting, true, .zero, 0, [], [], []⟩ := by
  unfold start at h
  split at h
  · exact absurd h nofun
  · rename_i url hu
    cases h
    exact ⟨url, hu, rfl⟩

/-- An endpoint that has a URL has a dispatcher. -/
theorem start_of_targetUrl {e : Endpoint} {url : List Char}
    (h : e.targetUrl.toOption = some url) (options : Options) :
    start e options = .ok ⟨url, options, [], .waiting, true, .zero, 0, [], [], []⟩ := by
  unfold start
  cases he : e.targetUrl with
  | error cause =>
    rw [he] at h
    exact absurd h nofun
  | ok target =>
    rw [he] at h
    cases h
    rfl

/-! ## The queue -/

/-- Whether the queue is gone. -/
def isCut (d : Dispatcher) : Bool :=
  d.phase = .gone || d.phase = .finished

/-- Whether a message can be handed over without waiting. -/
def hasRoom (d : Dispatcher) : Bool :=
  if d.options.capacity = 0 then d.phase = .waiting
  else d.queue.length < d.options.capacity

/-- The worker has a message. -/
def receive (d : Dispatcher) (m : Message) : Dispatcher :=
  { d with phase := m.phase }

/-- A message is handed over: into the queue, or straight to the worker if the queue holds none. -/
def accept (d : Dispatcher) (m : Message) : Dispatcher :=
  if d.options.capacity = 0 then d.receive m else { d with queue := d.queue ++ [m] }

theorem accept_of_capacity {d : Dispatcher} (h : d.options.capacity ≠ 0) (m : Message) :
    d.accept m = { d with queue := d.queue ++ [m] } := if_neg h

theorem accept_of_no_capacity {d : Dispatcher} (h : d.options.capacity = 0) (m : Message) :
    d.accept m = d.receive m := if_pos h

/-- Offers a message to the queue. -/
def offer (d : Dispatcher) (m : Message) : Offer × Dispatcher :=
  if d.isCut then (.cut, d)
  else if d.hasRoom then (.taken, d.accept m)
  else (.full, d)

/-! ## Submitting -/

/-- What the caller tells before a result is queued, and the body if there is one. -/
def prepare (hook : Option Hook) (payload : Payload) : List Event × Option (List Char) :=
  match payload.toJson with
  | .error cause => ([.unserializable cause], none)
  | .ok value =>
    match hook with
    | none => ([], some value.text)
    | some hook =>
      match hook.run value with
      | .keep value => ([], some value.text)
      | .drop => ([.hookDropped], none)
      | .panic => ([.hookPanicked], some value.text)

/-- The dispatcher after the caller told of events. -/
def tell (d : Dispatcher) (events : List Event) : Dispatcher :=
  { d with callerLog := d.callerLog ++ events }

@[simp] theorem tell_nil (d : Dispatcher) : d.tell [] = d := by
  unfold tell
  rw [List.append_nil]

/-- The dispatcher with another hook. -/
def withHook (d : Dispatcher) (hook : Hook) : Dispatcher :=
  { d with options := { d.options with hook := some hook } }

/-- The dispatcher after a result was dropped. -/
def dropOne (d : Dispatcher) : Dispatcher :=
  { d with stats := d.stats.drop }

/-- Queues a body, if there is a queue and room in it. -/
def enqueue (d : Dispatcher) (body : List Char) : Bool × Dispatcher :=
  match d.offer (.body body) with
  | (.taken, d) => (true, d)
  | (refusal, d) => (false, (d.tell refusal.events).dropOne)

/-- Submits a result: whether it was queued. -/
def submit (d : Dispatcher) (payload : Payload) : Bool × Dispatcher :=
  match prepare d.options.hook payload with
  | (events, none) => (false, (d.tell events).dropOne)
  | (events, some body) => (d.tell events).enqueue body

/-! ## Flushing -/

/-- Makes a marker. -/
def issue (d : Dispatcher) : Nat × Dispatcher :=
  (d.tickets, { d with tickets := d.tickets + 1 })

/-- Whether the worker came to a marker. -/
def hasReached (d : Dispatcher) (ticket : Nat) : Bool :=
  d.reached.contains ticket

/-! ## The worker -/

/-- The worker takes the next message. -/
def take? (d : Dispatcher) : Option Dispatcher :=
  match d.phase, d.queue with
  | .waiting, m :: rest => some ({ d with queue := rest }.receive m)
  | _, _ => none

/-- A delivery ends: its result is told, or that it panicked. -/
def finish (d : Dispatcher) (body : List Char) : Http.Attempt → Dispatcher
  | .finished result =>
    { d with
      phase := .counting body result
      workerLog := d.workerLog ++ [.ofResult d.url body result] }
  | .panicked _ =>
    { d with
      phase := .unwinding
      workerLog := d.workerLog ++ [.workerPanicked] }
  | .waiting => d

/-- The worker counts the result that it told, and waits again. -/
def count (d : Dispatcher) : Dispatcher :=
  match d.phase with
  | .counting _ result => { d with phase := .waiting, stats := d.stats.record result }
  | _ => d

/-- The worker is done with a delivery: the result is told and counted, or a panic is told. -/
def complete (d : Dispatcher) (body : List Char) (attempt : Http.Attempt) : Dispatcher :=
  (d.finish body attempt).count

/-- The worker tells that it came to a marker, and waits again. -/
def notify (d : Dispatcher) : Dispatcher :=
  match d.phase with
  | .notifying ticket => { d with phase := .waiting, reached := d.reached ++ [ticket] }
  | _ => d

/-- The worker that was stopped lets the queue go. -/
def cut (d : Dispatcher) : Dispatcher :=
  if d.phase = .unwinding then { d with phase := .gone, queue := [] } else d

/-- The dispatcher is let go of. -/
def letGo (d : Dispatcher) : Dispatcher :=
  { d with isHeld := false }

/-- The worker leaves once nobody can queue anything and nothing is queued. -/
def leave (d : Dispatcher) : Dispatcher :=
  if d.phase = .waiting ∧ d.queue = [] ∧ d.isHeld = false then { d with phase := .finished } else d

end Dispatcher

end Courier
