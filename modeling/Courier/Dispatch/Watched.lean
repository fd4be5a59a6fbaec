import Courier.Dispatch.Interleaving

/-!
# Interleavings in which the statistics are read

A usage, and threads that read its statistics while everything else goes on. A reading is called,
loads the three counters one after the other, and returns what it loaded; between any two of these
steps other threads and the worker may do whatever they can, and other readings may go on. So the
statistics need never have been what a reading returns.

Nothing orders the loads of different counters: they are relaxed. Here they may come in any order,
`Act.reading` has them in the order in which they are written down. A load sees the counter as it
is at that moment; older values, which a weaker memory might show, are not modelled. A thread that
reads does nothing else until its reading has returned, and nobody lets go of a dispatcher that is
read.

`Act.reading` is `stats`.
-/

namespace Courier

/-- The counters of the statistics. -/
inductive Counter where
  | delivered
  | failed
  | dropped
  deriving Repr, DecidableEq

/-- What a counter says. -/
def Stats.value (s : Stats) : Counter → Nat
  | .delivered => s.delivered
  | .failed => s.failed
  | .dropped => s.dropped

namespace Dispatch

/-- A reading that is under way. -/
structure Reading where
  /-- How many readings were over when it was called. -/
  earlier : Nat
  /-- The usage when it was called. -/
  before : Usage
  /-- What it loaded so far. -/
  loaded : Counter → Option Nat

namespace Reading

/-- The reading with one more counter loaded. -/
def load (r : Reading) (counter : Counter) (value : Nat) : Reading :=
  { r with loaded := fun other => if other = counter then some value else r.loaded other }

/-- What the reading returns, once all counters are loaded. -/
def stats? (r : Reading) : Option Stats :=
  match r.loaded .delivered, r.loaded .failed, r.loaded .dropped with
  | some delivered, some failed, some dropped => some ⟨delivered, failed, dropped⟩
  | _, _, _ => none

theorem loaded_load (r : Reading) (counter : Counter) (value : Nat) (other : Counter) :
    (r.load counter value).loaded other =
      if other = counter then some value else r.loaded other := rfl

/-- A reading returns what it loaded of every counter. -/
theorem stats?_eq_some_iff {r : Reading} {stats : Stats} :
    r.stats? = some stats ↔ ∀ counter, r.loaded counter = some (stats.value counter) := by
  constructor
  · intro h counter
    unfold stats? at h
    split at h
    · cases h
      cases counter <;> assumption
    · cases h
  · intro h
    unfold stats?
    rw [h .delivered, h .failed, h .dropped]
    rfl

end Reading

/-- A reading that is over. -/
structure Snapshot where
  thread : Nat
  /-- How many readings were over when it was called. -/
  earlier : Nat
  /-- The usage when it was called. -/
  before : Usage
  /-- The usage when it returned. -/
  after : Usage
  /-- What it returned. -/
  stats : Stats

/-- A dispatcher in use whose statistics are read. -/
structure Watched where
  usage : Usage
  /-- By thread, the reading that it is in. -/
  readings : List (Option Reading)
  /-- The readings that are over, in the order of their ends. -/
  snapshots : List Snapshot

/-- What can happen next. -/
inductive Act where
  /-- Something that happens in the usage. -/
  | other (label : Label)
  /-- A thread calls a reading. -/
  | call (thread : Nat)
  /-- A thread loads a counter. -/
  | load (thread : Nat) (counter : Counter)
  /-- A thread's reading returns. -/
  | answer (thread : Nat)

/-- What a thread does that reads the statistics. -/
def Act.reading (thread : Nat) : List Act :=
  [.call thread, .load thread .delivered, .load thread .failed, .load thread .dropped,
    .answer thread]

namespace Watched

/-- A usage whose statistics nobody has read yet. -/
def new (u : Usage) : Watched :=
  ⟨u, List.replicate u.threads.length none, []⟩

/-- The reading that a thread is in. -/
def reading? (w : Watched) (thread : Nat) : Option Reading :=
  w.readings[thread]?.join

/-- Whether readings let something happen in the usage. -/
def admits (w : Watched) : Label → Bool
  | .close _ => w.readings.all (·.isNone)
  | label => label.thread?.all fun thread => (w.reading? thread).isNone

/-- With a thread in another reading, or in none. -/
def put (w : Watched) (thread : Nat) (reading : Option Reading) : Watched :=
  { w with readings := w.readings.set thread reading }

/-- A reading is called. -/
def call (w : Watched) (thread : Nat) : Watched :=
  w.put thread (some ⟨w.snapshots.length, w.usage, fun _ => none⟩)

/-- A reading loads a counter. -/
def load (w : Watched) (thread : Nat) (counter : Counter) (r : Reading) : Watched :=
  w.put thread (some (r.load counter (w.usage.dispatcher.stats.value counter)))

/-- A reading returns. -/
def answer (w : Watched) (thread : Nat) (r : Reading) (stats : Stats) : Watched :=
  { w.put thread none with
    snapshots := w.snapshots ++ [⟨thread, r.earlier, r.before, w.usage, stats⟩] }

/-- What is there after something happened, if it can happen. -/
def next? (w : Watched) : Act → Option Watched
  | .other label =>
    if w.admits label then (w.usage.next? label).map fun u => { w with usage := u } else none
  | .call thread =>
    if w.usage.isFree thread ∧ w.reading? thread = none then some (w.call thread) else none
  | .load thread counter =>
    match w.reading? thread with
    | some r => if r.loaded counter = none then some (w.load thread counter r) else none
    | none => none
  | .answer thread =>
    match w.reading? thread with
    | some r => r.stats?.map (w.answer thread r)
    | none => none

/-- What is there after all of it happened in order, if it can. -/
def run? (w : Watched) : List Act → Option Watched
  | [] => some w
  | act :: rest => (w.next? act).bind fun x => x.run? rest

/-- What can come of it. -/
inductive Reaches (w : Watched) : Watched → Prop where
  | refl : Reaches w w
  | step {x y : Watched} (act : Act) (h : Reaches w x) (hn : x.next? act = some y) : Reaches w y

/-- What can come of a new dispatcher for an endpoint. -/
def Reachable (e : Endpoint) (options : Options) (w : Watched) : Prop :=
  ∃ d threads, Dispatcher.start e options = .ok d ∧ Reaches (.new (.new d threads)) w

/-- What comes of acts in order can come of it. -/
theorem Reaches.of_run? {w x y : Watched} (h : Reaches w x) (acts : List Act)
    (hr : x.run? acts = some y) : Reaches w y := by
  induction acts generalizing x with
  | nil =>
    cases hr
    exact h
  | cons act rest ih =>
    simp only [run?, Option.bind_eq_some_iff] at hr
    obtain ⟨z, hz, hr⟩ := hr
    exact ih (.step act h hz) hr

/-- What comes of acts in order can come of a new dispatcher. -/
theorem Reachable.of_run? {e : Endpoint} {url : List Char}
    (hu : e.targetUrl.toOption = some url) (options : Options) (threads : Nat) (acts : List Act)
    {w : Watched}
    (hr : (new (.new ⟨url, options, [], .waiting, true, .zero, 0, [], [], []⟩ threads)).run? acts =
      some w) : Reachable e options w :=
  ⟨_, threads, Dispatcher.start_of_targetUrl hu options, .of_run? .refl acts hr⟩

end Watched

end Dispatch

end Courier
