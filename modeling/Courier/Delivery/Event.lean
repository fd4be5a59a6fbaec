import Courier.Delivery.Failure

/-!
# The log of deliveries

What is told about submitting and delivering results. An event has a level, a message and named
fields; the token never occurs in one.

The events are those of `try_send`, `submit`, `apply_before_send`, `drop`, `spawn` and `run`.
-/

namespace Courier

/-- How much an event matters, the gravest first. -/
inductive Level where
  | error
  | warn
  | info
  | debug
  | trace
  deriving Repr, DecidableEq

/-- The rank of a level: the higher, the more is told. -/
def Level.rank : Level → Nat
  | .error => 1
  | .warn => 2
  | .info => 3
  | .debug => 4
  | .trace => 5

/-- The name of a level. -/
def Level.name : Level → String
  | .error => "ERROR"
  | .warn => "WARN"
  | .info => "INFO"
  | .debug => "DEBUG"
  | .trace => "TRACE"

/-- Something that is told. -/
inductive Event where
  | forwarded (url : String) (bytes : Nat)
  | notForwarded (url : String) (failure : Failure)
  | unserializable (cause : Json.Report)
  | hookDropped
  | queueFull
  | workerGone
  | hookPanicked
  | flushTimedOut
  | workerPanicked
  deriving Repr, DecidableEq

namespace Event

/-- How much the event matters. -/
def level : Event → Level
  | .forwarded .. | .hookDropped => .debug
  | .workerPanicked => .error
  | _ => .warn

/-- What the event says. -/
def message : Event → String
  | .forwarded .. => "result forwarded"
  | .notForwarded .. => "failed to forward result"
  | .unserializable _ => "result payload is not serializable, dropping it"
  | .hookDropped => "before_send dropped a result payload"
  | .queueFull => "dispatch queue is full, dropping result"
  | .workerGone => "delivery worker has shut down, dropping result"
  | .hookPanicked => "before_send panicked, forwarding the original result"
  | .flushTimedOut => "flush timed out, some results may not have been forwarded"
  | .workerPanicked => "delivery worker panicked, queued results will be dropped"

/-- The particulars of the event. -/
def fields : Event → List (String × String)
  | .forwarded url bytes => [("url", url), ("bytes", toString bytes)]
  | .notForwarded url failure => [("url", url), ("error", failure.message)]
  | .unserializable cause => [("error", String.ofList cause.text)]
  | _ => []

end Event

end Courier
