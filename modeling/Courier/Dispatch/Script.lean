import Courier.Dispatch.Basic

/-!
# Scripts

A script drives a dispatcher step by step from one thread. While a step waits, the worker gets as
far as the network lets it. Between such steps the worker has time for one thing at most: once
enough submissions have gone by since the queue held something, it has taken the first message,
and its delivery is under way until a step waits again.
-/

namespace Courier.Dispatch

/-- A step of a script. -/
inductive Step where
  | submit (payload : Payload) (times : Nat)
  | flush
  | stats
  | awaitRequests
  | awaitWorker
  | release
  | drop
  | start

/-- What a step answers. -/
inductive Answer where
  | queued (results : List Bool)
  | flushed (inTime : Bool)
  | stats (stats : Stats)
  | received (requests : Nat)
  | attempted (deliveries : Nat)
  | released
  | dropped
  | started
  | noDispatcher
  deriving Repr, DecidableEq

/-- Where a script is: the dispatcher in use, those that were let go of, and how much effort the
caller has spent since the queue held something. -/
structure Scene where
  endpoint : Endpoint
  options : Options
  network : Http.Network
  current : Option Dispatcher
  past : List Dispatcher
  effort : Nat

/-- How much effort it takes until the worker has taken a message. -/
def Scene.patience : Nat := 8

/-- The effort of a submission that is told of nothing. -/
def Scene.quiet : Nat := 1

/-- The effort of a submission that is told of. -/
def Scene.told : Nat := 4

/-- A dispatcher and the network that its worker uses. -/
abbrev Pair := Dispatcher × Http.Network

/-- What the worker does next, if it can do anything. -/
def advance (e : Endpoint) : Pair → Pair
  | (d, net) =>
    match d.phase with
    | .delivering body =>
      match Http.deliver net e.timeouts d.url (e.bearer.map String.toList) body with
      | (.waiting, _) => (d, net)
      | (attempt, after) => ((d.complete body attempt).cut, after)
    | .notifying _ => (d.notify, net)
    | _ => (d.take?.getD d, net)

/-- What the worker does in so many moves. -/
def advanceBy (e : Endpoint) : Nat → Pair → Pair
  | 0, pair => pair
  | moves + 1, pair => advanceBy e moves (advance e pair)

/-- What the worker does until it can do nothing more: two moves for a message, one for what is
under way. -/
def settle (e : Endpoint) (pair : Pair) : Pair :=
  advanceBy e (2 * pair.1.queue.length + 1) pair

/-- A flush during which the worker goes on: whether it came to the marker. -/
def flush (e : Endpoint) (pair : Pair) : Bool × Pair :=
  let (ticket, d) := pair.1.issue
  let (d, net) := settle e (d, pair.2)
  match d.offer (.marker ticket) with
  | (.taken, d) =>
    let pair := settle e (d, net)
    (pair.1.hasReached ticket, pair)
  | (_, d) => (false, (d, net))

/-- The requests that the collector has, that of a delivery under way included. -/
def received (e : Endpoint) : Pair → Nat
  | (d, net) =>
    match d.phase with
    | .delivering body =>
      (Http.deliver net e.timeouts d.url (e.bearer.map String.toList) body).2.requests.length
    | _ => net.requests.length

namespace Scene

/-- The scene with the worker of the dispatcher in use, and of those before it, as far as they
get. -/
def settleAll (s : Scene) : Scene :=
  let (past, net) := s.past.foldl
    (fun (done, net) d =>
      let (d, net) := settle s.endpoint (d, net)
      (done ++ [d.leave], net))
    ([], s.network)
  match s.current with
  | none => { s with past, network := net, effort := 0 }
  | some d =>
    let (d, net) := settle s.endpoint (d, net)
    { s with past, network := net, current := some d, effort := 0 }

/-- The dispatcher after the worker took a message, if the caller has given it the time. -/
def hurry (s : Scene) (d : Dispatcher) : Dispatcher × Nat :=
  if d.queue = [] then (d, 0)
  else if patience ≤ s.effort then
    match d.take? with
    | some d => (d, 0)
    | none => (d, s.effort)
  else (d, s.effort)

/-- Submits a payload once. -/
def submitOnce (s : Scene) (d : Dispatcher) (payload : Payload) : Bool × Dispatcher × Nat :=
  let (d, effort) := s.hurry d
  let (ok, after) := d.submit payload
  let spent := if after.callerLog.length = d.callerLog.length then quiet else told
  (ok, after, if after.queue = [] then 0 else effort + spent)

/-- Submits a payload again and again. -/
def submitTimes (s : Scene) (d : Dispatcher) (payload : Payload) : Nat → List Bool × Scene
  | 0 => ([], { s with current := some d })
  | times + 1 =>
    let (ok, d, effort) := s.submitOnce d payload
    let (oks, s) := submitTimes { s with effort } d payload times
    (ok :: oks, s)

/-- Flushes the dispatcher in use. -/
def flushCurrent (s : Scene) (d : Dispatcher) : Bool × Dispatcher × Scene :=
  let (ok, d, network) := flush s.endpoint (d, s.network)
  (ok, d, { s with network, effort := 0 })

/-- Lets go of the dispatcher in use, which flushes it first. -/
def dropCurrent (s : Scene) (d : Dispatcher) : Scene :=
  let (ok, d, s) := s.flushCurrent d
  let d := if ok then d else d.tell [.flushTimedOut]
  { s with current := none, past := s.past ++ [d.letGo.leave] }

/-- All that callers were told. -/
def callerLog (s : Scene) : List Event :=
  (s.past ++ s.current.toList).flatMap (·.callerLog)

/-- All that workers told. -/
def workerLog (s : Scene) : List Event :=
  (s.past ++ s.current.toList).flatMap (·.workerLog)

/-- Lets go of the dispatcher in use, if there is one. -/
def dropAny (s : Scene) : Scene :=
  match s.current with
  | some d => s.dropCurrent d
  | none => s

/-- Starts another dispatcher in the place of the one in use. -/
def restart (s : Scene) : Scene :=
  let s := s.dropAny
  match Dispatcher.start s.endpoint s.options with
  | .ok d => { s with current := some d, effort := 0 }
  | .error _ => s

/-- Takes a step. -/
def step (s : Scene) : Step → Answer × Scene
  | .submit payload times =>
    match s.current with
    | none => (.noDispatcher, s)
    | some d =>
      let (oks, s) := s.submitTimes d payload times
      (.queued oks, s)
  | .flush =>
    match s.current with
    | none => (.noDispatcher, s)
    | some d =>
      let (ok, d, s) := s.flushCurrent d
      (.flushed ok, { s with current := some d })
  | .stats =>
    match s.current with
    | none => (.noDispatcher, s)
    | some d => (.stats d.stats, s)
  | .awaitRequests =>
    let s := s.settleAll
    match s.current with
    | none => (.received s.network.requests.length, s)
    | some d => (.received (received s.endpoint (d, s.network)), s)
  | .awaitWorker =>
    let s := s.settleAll
    (.attempted s.workerLog.length, s)
  | .release => (.released, { s with network := s.network.release })
  | .drop =>
    match s.current with
    | none => (.noDispatcher, s)
    | some d => (.dropped, s.dropCurrent d)
  | .start => (.started, s.restart)

/-- Takes steps in order. -/
def steps (s : Scene) : List Step → List Answer × Scene
  | [] => ([], s)
  | first :: rest =>
    let (answer, s) := s.step first
    let (answers, s) := steps s rest
    (answer :: answers, s)

end Scene

/-- What a script leaves behind. -/
structure Outcome where
  answers : List Answer
  callerLog : List Event
  workerLog : List Event
  requests : List Http.Request

/-- Runs a script, opens the gate, and lets every worker come to its end. -/
def run (net : Http.Network) (e : Endpoint) (options : Options) (script : List Step) :
    Except Failure Outcome :=
  match Dispatcher.start e options with
  | .error failure => .error failure
  | .ok d =>
    let (answers, s) := Scene.steps ⟨e, options, net, some d, [], 0⟩ script
    let last := { s with network := s.network.release }.settleAll
    .ok ⟨answers, s.callerLog, last.workerLog, last.network.requests⟩

end Courier.Dispatch
