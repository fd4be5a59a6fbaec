import Courier.Dispatch.Basic

/-!
# Interleavings

A dispatcher that any number of threads submit to and flush, while its worker goes on. A usage is
the dispatcher with what every thread is at, and with the history of what was called, queued,
begun and counted; a label is the next thing that happens, whoever does it. Nothing that two
threads could see is done in one step with anything else: a submission is called, offers its body,
and counts a drop if that was refused; a flush is called, has its marker queued, and ends; the
worker takes a message, tells how a delivery ended, and counts it.

Labels say more than a script does: every thread and the worker may take their time, a flush may be
given up at any moment, a delivery may end in any way, whatever the collector replies, and a hook
that keeps a state may judge differently from one result to the next. `Reachable` is what can come
of a new dispatcher.

The labels are the steps of `submit`, `flush`, `drop`, `run_loop` and `run`.
-/

namespace Courier.Dispatch

/-- How a submission ended. -/
inductive Fate where
  /-- Its body was queued. -/
  | queued (body : List Char)
  /-- It was counted as dropped: its body, if it had one, was refused. -/
  | refused (body : Option (List Char))
  deriving Repr, DecidableEq

namespace Fate

/-- What a submission with this fate returned. -/
def returned : Fate → Bool
  | .queued _ => true
  | .refused _ => false

/-- The body that was queued, if one was. -/
def body? : Fate → Option (List Char)
  | .queued body => some body
  | .refused _ => none

@[simp] theorem returned_queued (body : List Char) : (queued body).returned = true := rfl

@[simp] theorem returned_refused (body : Option (List Char)) :
    (refused body).returned = false := rfl

@[simp] theorem body?_queued (body : List Char) : (queued body).body? = some body := rfl

@[simp] theorem body?_refused (body : Option (List Char)) : (refused body).body? = none := rfl

end Fate

/-- A submission that is over. -/
structure Submission where
  thread : Nat
  /-- Its number among all submissions in the order of their calls. -/
  call : Nat
  fate : Fate
  deriving Repr, DecidableEq

/-- What a thread is at. -/
inductive Activity where
  | idle
  /-- In a submission that has a body. -/
  | offering (call : Nat) (body : List Char)
  /-- In a submission that has no body or whose body was refused; the drop is not counted. -/
  | dropping (call : Nat) (body : Option (List Char))
  /-- In a flush whose marker is not queued. -/
  | sending (ticket : Nat)
  /-- In a flush whose marker is queued. -/
  | awaiting (ticket : Nat)
  deriving Repr, DecidableEq

namespace Activity

/-- What a thread is at once it has called a submission that has a body or none. -/
def called (call : Nat) : Option (List Char) → Activity
  | some body => .offering call body
  | none => .dropping call none

/-- The number of the submission that a thread is in. -/
def call? : Activity → Option Nat
  | .offering call _ | .dropping call _ => some call
  | _ => none

/-- The ticket of the flush that a thread is in. -/
def ticket? : Activity → Option Nat
  | .sending ticket | .awaiting ticket => some ticket
  | _ => none

theorem call?_called (call : Nat) (body : Option (List Char)) :
    (called call body).call? = some call := by
  cases body <;> rfl

theorem ticket?_called (call : Nat) (body : Option (List Char)) :
    (called call body).ticket? = none := by
  cases body <;> rfl

end Activity

/-- A dispatcher in use. -/
structure Usage where
  dispatcher : Dispatcher
  threads : List Activity
  /-- Whether the dispatcher is about to be let go of: nothing more is called. -/
  isClosing : Bool
  /-- How many submissions were called. -/
  calls : Nat
  /-- The submissions that are over, in the order of their ends. -/
  submissions : List Submission
  /-- By ticket, the bodies that had been queued when the flush was called. -/
  marks : List (List (List Char))
  /-- The flushes that are over, and what they returned. -/
  ended : List (Nat × Bool)
  /-- The bodies whose delivery was begun, in order. -/
  begun : List (List Char)
  /-- The deliveries that were counted, in order, and their results. -/
  counted : List (List Char × Except Failure Unit)

/-- What can happen next. -/
inductive Label where
  /-- A thread submits a payload: it has a body for the queue, or none. -/
  | submit (thread : Nat) (payload : Payload)
  /-- A thread offers its body to the queue. -/
  | offer (thread : Nat)
  /-- A thread offers its body to a worker that is about to wait, but not waiting yet: without a
  queue there is no room then. -/
  | miss (thread : Nat)
  /-- A thread counts its result as dropped. -/
  | drop (thread : Nat)
  /-- A thread calls a flush. -/
  | flush (thread : Nat)
  /-- The marker of a thread's flush is queued. -/
  | mark (thread : Nat)
  /-- A thread's flush ends: in time if the worker has come to its marker, else it is given up. -/
  | endFlush (thread : Nat)
  /-- The hook judges differently from now on. -/
  | turn (hook : Hook)
  /-- A thread begins to let go of the dispatcher, with a flush. -/
  | close (thread : Nat)
  /-- The dispatcher is let go of. -/
  | letGo
  /-- The worker takes the next message. -/
  | take
  /-- A delivery ends and is told of. -/
  | finish (attempt : Http.Attempt)
  /-- The worker counts a delivery. -/
  | count
  /-- The worker tells a flush that it came to the marker. -/
  | notify
  /-- The queue of a worker that was stopped goes. -/
  | cut
  /-- The worker leaves. -/
  | leave

/-- The thread that does it, if one does. -/
def Label.thread? : Label → Option Nat
  | .submit thread _ | .offer thread | .miss thread | .drop thread | .flush thread | .mark thread
  | .endFlush thread | .close thread => some thread
  | _ => none

/-- Whether it is the call of a submission or a flush. -/
def Label.isCall : Label → Bool
  | .submit _ _ | .flush _ | .close _ => true
  | _ => false

/-- Whether the worker does it. -/
def Label.isWork : Label → Bool
  | .take | .finish _ | .count | .notify | .cut | .leave => true
  | _ => false

/-- The body whose delivery begins when the worker goes from one phase to another. -/
def Phase.begins : Phase → Phase → List (List Char)
  | .waiting, .delivering body => [body]
  | _, _ => []

/-- Whether an attempt is over. -/
def isOver : Http.Attempt → Bool
  | .waiting => false
  | _ => true

namespace Usage

/-- A dispatcher that so many threads have and nobody has used yet. -/
def new (d : Dispatcher) (threads : Nat) : Usage :=
  ⟨d, List.replicate threads .idle, false, 0, [], [], [], [], []⟩

/-- The bodies that were queued, in order. -/
def accepted (u : Usage) : List (List Char) :=
  u.submissions.filterMap (·.fate.body?)

/-- The submissions that returned true, in the order in which their bodies were queued. -/
def taken (u : Usage) : List Submission :=
  u.submissions.filter (·.fate.returned)

/-- What was queued is what the submissions that returned true carried. -/
theorem map_fate_taken (u : Usage) : u.taken.map (·.fate) = u.accepted.map .queued := by
  unfold taken accepted
  induction u.submissions with
  | nil => rfl
  | cons s rest ih =>
    cases s with
    | mk thread call fate =>
      cases fate with
      | queued body => simpa [List.filter_cons, List.filterMap_cons] using ih
      | refused body => simpa [List.filter_cons, List.filterMap_cons] using ih

/-- The usage with a thread at something else. -/
def put (u : Usage) (thread : Nat) (activity : Activity) : Usage :=
  { u with threads := u.threads.set thread activity }

/-- The usage with the dispatcher after a step, and with the body whose delivery that began. -/
def follow (u : Usage) (d : Dispatcher) : Usage :=
  { u with dispatcher := d, begun := u.begun ++ u.dispatcher.phase.begins d.phase }

/-- Whether a thread can call something. -/
def isFree (u : Usage) (thread : Nat) : Bool :=
  !u.isClosing && u.threads[thread]? = some .idle

/-- Whether no thread is in a call. -/
def isQuiet (u : Usage) : Bool :=
  u.threads.all (· = .idle)

/-! ## Threads -/

/-- A submission is called. -/
def submit (u : Usage) (thread : Nat) (payload : Payload) : Usage :=
  let (events, body) := Dispatcher.prepare u.dispatcher.options.hook payload
  { u.put thread (.called u.calls body) with
    dispatcher := u.dispatcher.tell events
    calls := u.calls + 1 }

/-- A submission whose body was refused. -/
def refuse (u : Usage) (thread call : Nat) (body : List Char) (refusal : Offer) : Usage :=
  { u.put thread (.dropping call (some body)) with
    dispatcher := u.dispatcher.tell refusal.events }

/-- A submission offers its body, and is over if that is taken. -/
def offer (u : Usage) (thread call : Nat) (body : List Char) : Usage :=
  match u.dispatcher.offer (.body body) with
  | (.taken, d) =>
    { (u.follow d).put thread .idle with
      submissions := u.submissions ++ [⟨thread, call, .queued body⟩] }
  | (refusal, _) => u.refuse thread call body refusal

/-- A submission counts its result as dropped, and is over. -/
def drop (u : Usage) (thread call : Nat) (body : Option (List Char)) : Usage :=
  { u.put thread .idle with
    dispatcher := u.dispatcher.dropOne
    submissions := u.submissions ++ [⟨thread, call, .refused body⟩] }

/-- A flush is called. -/
def flush (u : Usage) (thread : Nat) : Usage :=
  let (ticket, d) := u.dispatcher.issue
  { u.put thread (.sending ticket) with
    dispatcher := d
    marks := u.marks ++ [u.accepted] }

/-- The marker of a flush is queued, if it can be. -/
def mark? (u : Usage) (thread ticket : Nat) : Option Usage :=
  match u.dispatcher.offer (.marker ticket) with
  | (.taken, d) => some ((u.follow d).put thread (.awaiting ticket))
  | _ => none

/-- A flush ends. If the dispatcher is about to be let go of, one that was given up is told of. -/
def endFlush (u : Usage) (thread ticket : Nat) (inTime : Bool) : Usage :=
  { u.put thread .idle with
    dispatcher := u.dispatcher.tell (if u.isClosing && !inTime then [.flushTimedOut] else [])
    ended := u.ended ++ [(ticket, inTime)] }

/-! ## Runs -/

/-- The usage after something happened, if it can happen. -/
def next? (u : Usage) : Label → Option Usage
  | .submit thread payload => if u.isFree thread then some (u.submit thread payload) else none
  | .offer thread =>
    match u.threads[thread]? with
    | some (.offering call body) => some (u.offer thread call body)
    | _ => none
  | .miss thread =>
    match u.threads[thread]? with
    | some (.offering call body) =>
      if u.dispatcher.options.capacity = 0 ∧ u.dispatcher.isCut = false then
        some (u.refuse thread call body .full)
      else none
    | _ => none
  | .drop thread =>
    match u.threads[thread]? with
    | some (.dropping call body) => some (u.drop thread call body)
    | _ => none
  | .flush thread => if u.isFree thread then some (u.flush thread) else none
  | .mark thread =>
    match u.threads[thread]? with
    | some (.sending ticket) => u.mark? thread ticket
    | _ => none
  | .endFlush thread =>
    match u.threads[thread]? with
    | some (.sending ticket) => some (u.endFlush thread ticket false)
    | some (.awaiting ticket) =>
      some (u.endFlush thread ticket (u.dispatcher.hasReached ticket))
    | _ => none
  | .turn hook =>
    if u.dispatcher.options.hook.isSome then
      some { u with dispatcher := u.dispatcher.withHook hook }
    else none
  | .close thread =>
    if u.isFree thread ∧ u.isQuiet then some { u.flush thread with isClosing := true } else none
  | .letGo =>
    if u.dispatcher.isHeld ∧ u.isClosing ∧ u.isQuiet then
      some { u with dispatcher := u.dispatcher.letGo }
    else none
  | .take => u.dispatcher.take?.map u.follow
  | .finish attempt =>
    match u.dispatcher.phase with
    | .delivering body =>
      if isOver attempt then some { u with dispatcher := u.dispatcher.finish body attempt }
      else none
    | _ => none
  | .count =>
    match u.dispatcher.phase with
    | .counting body result =>
      some { u with dispatcher := u.dispatcher.count, counted := u.counted ++ [(body, result)] }
    | _ => none
  | .notify =>
    match u.dispatcher.phase with
    | .notifying _ => some { u with dispatcher := u.dispatcher.notify }
    | _ => none
  | .cut =>
    if u.dispatcher.phase = .unwinding then some { u with dispatcher := u.dispatcher.cut } else none
  | .leave =>
    if u.dispatcher.phase = .waiting ∧ u.dispatcher.queue = [] ∧ u.dispatcher.isHeld = false then
      some { u with dispatcher := u.dispatcher.leave }
    else none

/-- What can come of a usage. -/
inductive Reaches (u : Usage) : Usage → Prop where
  | refl : Reaches u u
  | step {v w : Usage} (label : Label) (h : Reaches u v) (hn : v.next? label = some w) :
    Reaches u w

/-- What can come of a new dispatcher for an endpoint, with so many threads. -/
def Reachable (e : Endpoint) (options : Options) (u : Usage) : Prop :=
  ∃ d threads, Dispatcher.start e options = .ok d ∧ Reaches (.new d threads) u

/-- What happens in order, if it can. -/
def run? (u : Usage) : List Label → Option Usage
  | [] => some u
  | label :: rest => (u.next? label).bind fun v => v.run? rest

/-- What comes of labels in order can come of the usage. -/
theorem Reaches.of_run? {u v w : Usage} (h : Reaches u v) (labels : List Label)
    (hr : v.run? labels = some w) : Reaches u w := by
  induction labels generalizing v with
  | nil =>
    simp only [run?, Option.some.injEq] at hr
    exact hr ▸ h
  | cons label rest ih =>
    simp only [run?, Option.bind_eq_some_iff] at hr
    obtain ⟨x, hx, hr⟩ := hr
    exact ih (.step label h hx) hr

/-- What comes of labels in order can come of a new dispatcher. -/
theorem Reachable.of_run? {e : Endpoint} {url : List Char}
    (hu : e.targetUrl.toOption = some url) (options : Options) (threads : Nat)
    (labels : List Label) {u : Usage}
    (hr : (new ⟨url, options, [], .waiting, true, .zero, 0, [], [], []⟩ threads).run? labels =
      some u) : Reachable e options u :=
  ⟨_, threads, Dispatcher.start_of_targetUrl hu options, .of_run? .refl labels hr⟩

end Usage

end Courier.Dispatch
