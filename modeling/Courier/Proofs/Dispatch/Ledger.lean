import Courier.Dispatch.Interleaving
import Mathlib.Logic.Relation

/-!
# The ledger of a dispatcher

A ledger is what remains of a usage without threads, hooks and logs: what was queued and refused,
what is queued, what the worker is at, and what came of it. It moves in smaller steps than a usage:
a body that is handed to the worker without a queue is queued and taken at once, so that a queue
of any capacity moves alike.

Three things always hold of a ledger, and every move keeps them.
* `Flows`: bodies go one way. What was accepted is what was begun and behind it what is queued, and
  what was begun is what was counted and behind it what is in the worker's hands.
* `Balanced`: the statistics count what was counted and what was refused.
* `Marked`: a marker stands behind all that was queued before its flush was called (`InPlace`), so
  that all of that is counted once the worker has come to the marker (`Passed`).
-/

namespace Courier.Dispatch

/-- The body that the worker has in its hands, if it has one. -/
@[simp]
def Phase.hand : Phase → List (List Char)
  | .delivering body | .counting body _ => [body]
  | _ => []

/-- Whether the worker was stopped by a panic. -/
@[simp]
def Phase.hasPanicked : Phase → Bool
  | .unwinding | .gone => true
  | _ => false

/-- What was queued, what is queued, and what came of it. -/
structure Ledger where
  accepted : List (List Char)
  /-- How many submissions were counted as dropped. -/
  refused : Nat
  marks : List (List (List Char))
  queue : List Message
  phase : Phase
  begun : List (List Char)
  counted : List (List Char × Except Failure Unit)
  reached : List Nat
  stats : Stats

/-- The bodies whose delivery was counted, in order. -/
def Ledger.done (l : Ledger) : List (List Char) :=
  l.counted.map (·.1)

/-- What a ledger can do at once. -/
inductive Move (l : Ledger) : Ledger → Prop where
  | accept (body : List Char) (h : l.phase ≠ .gone) :
      Move l { l with accepted := l.accepted ++ [body], queue := l.queue ++ [.body body] }
  | refuse : Move l { l with refused := l.refused + 1, stats := l.stats.drop }
  | call : Move l { l with marks := l.marks ++ [l.accepted] }
  | mark (ticket : Nat) (h : l.phase ≠ .gone) (ht : ticket < l.marks.length) :
      Move l { l with queue := l.queue ++ [.marker ticket] }
  | take (m : Message) (rest : List Message) (hp : l.phase = .waiting) (hq : l.queue = m :: rest) :
      Move l { l with queue := rest, phase := m.phase, begun := l.begun ++ m.body?.toList }
  | finish (body : List Char) (result : Except Failure Unit) (hp : l.phase = .delivering body) :
      Move l { l with phase := .counting body result }
  | panic (body : List Char) (hp : l.phase = .delivering body) :
      Move l { l with phase := .unwinding }
  | count (body : List Char) (result : Except Failure Unit) (hp : l.phase = .counting body result) :
      Move l { l with
        phase := .waiting
        counted := l.counted ++ [(body, result)]
        stats := l.stats.record result }
  | notify (ticket : Nat) (hp : l.phase = .notifying ticket) :
      Move l { l with phase := .waiting, reached := l.reached ++ [ticket] }
  | cut (hp : l.phase = .unwinding) : Move l { l with phase := .gone, queue := [] }
  | leave (hp : l.phase = .waiting) (hq : l.queue = []) : Move l { l with phase := .finished }

/-- What a ledger can do in any number of moves. -/
abbrev Moves : Ledger → Ledger → Prop := Relation.ReflTransGen Move

/-! ## Markers -/

variable {marks more : List (List (List Char))} {ticket : Nat} {done after : List (List Char)}

/-- All that was queued before the flush with a ticket was called is done first. -/
def Passed (marks : List (List (List Char))) (ticket : Nat) (done : List (List Char)) : Prop :=
  ∃ before, marks[ticket]? = some before ∧ before <+: done

theorem Passed.mono (h : Passed marks ticket done) (hd : done <+: after) :
    Passed marks ticket after := by
  obtain ⟨before, hb, hp⟩ := h
  exact ⟨before, hb, hp.trans hd⟩

theorem Passed.call (h : Passed marks ticket done) : Passed (marks ++ more) ticket done := by
  obtain ⟨before, hb, hp⟩ := h
  refine ⟨before, ?_, hp⟩
  rw [List.getElem?_append_left (List.getElem?_eq_some_iff.mp hb).1]
  exact hb

/-- Every marker in a queue stands behind all that was queued before its flush was called, if
`done` came out of the queue so far. -/
def InPlace (marks : List (List (List Char))) : List (List Char) → List Message → Prop
  | _, [] => True
  | done, .body text :: rest => InPlace marks (done ++ [text]) rest
  | done, .marker ticket :: rest => Passed marks ticket done ∧ InPlace marks done rest

theorem InPlace.call {queue : List Message} (h : InPlace marks done queue) :
    InPlace (marks ++ more) done queue := by
  induction queue generalizing done with
  | nil => trivial
  | cons m rest ih =>
    cases m with
    | body text => exact ih h
    | marker ticket => exact ⟨h.1.call, ih h.2⟩

/-- A message may be queued if it may stand behind all bodies that are queued. -/
theorem InPlace.push {queue : List Message} {m : Message} (h : InPlace marks done queue)
    (hm : InPlace marks (done ++ bodies queue) [m]) : InPlace marks done (queue ++ [m]) := by
  induction queue generalizing done with
  | nil => simpa [bodies] using hm
  | cons first rest ih =>
    cases first with
    | body text =>
      apply @ih (done ++ [text]) h
      simpa [bodies] using hm
    | marker ticket => exact ⟨h.1, ih h.2 hm⟩

/-! ## Bodies go one way -/

theorem bodies_append (queue more : List Message) :
    bodies (queue ++ more) = bodies queue ++ bodies more := List.filterMap_append

theorem bodies_cons (m : Message) (rest : List Message) :
    bodies (m :: rest) = m.body?.toList ++ bodies rest := by
  cases m <;> rfl

/-- Where the bodies of a ledger are. Only when the queue of a stopped worker goes is something
lost of what was accepted. -/
structure Ledger.Flows (l : Ledger) : Prop where
  fifo : l.phase ≠ .gone → l.accepted = l.begun ++ bodies l.queue
  begun_prefix : l.begun <+: l.accepted
  hand : l.phase.hasPanicked = false → l.begun = l.done ++ l.phase.hand

variable {l m : Ledger} {phase : Phase}

theorem Ledger.Flows.accepted_eq (h : l.Flows) (hp : l.phase = phase) (hn : phase ≠ .gone) :
    l.accepted = l.begun ++ bodies l.queue := h.fifo (hp ▸ hn)

theorem Ledger.Flows.begun_eq (h : l.Flows) (hp : l.phase = phase)
    (hn : phase.hasPanicked = false) : l.begun = l.done ++ phase.hand := by
  subst hp
  exact h.hand hn

theorem Move.flows (h : Move l m) (hl : l.Flows) : m.Flows := by
  cases h with
  | accept body hp =>
    refine ⟨fun _ => ?_, hl.begun_prefix.trans (List.prefix_append _ _), hl.hand⟩
    rw [bodies_append, ← List.append_assoc, ← hl.fifo hp]
    rfl
  | refuse => exact ⟨hl.fifo, hl.begun_prefix, hl.hand⟩
  | call => exact ⟨hl.fifo, hl.begun_prefix, hl.hand⟩
  | mark ticket hp _ =>
    refine ⟨fun _ => ?_, hl.begun_prefix, hl.hand⟩
    rw [bodies_append, hl.fifo hp]
    exact congrArg _ (List.append_nil _).symm
  | take first rest hp hq =>
    have hf := hl.accepted_eq hp nofun
    rw [hq, bodies_cons, ← List.append_assoc] at hf
    refine ⟨fun _ => hf, ⟨_, hf.symm⟩, fun _ => ?_⟩
    have hh := hl.begun_eq hp rfl
    cases first with
    | body text => simpa [Ledger.done] using hh
    | marker ticket => simpa [Ledger.done] using hh
  | finish body result hp =>
    have hh := hl.begun_eq hp rfl
    exact ⟨fun _ => hl.accepted_eq hp nofun, hl.begun_prefix, fun _ => hh⟩
  | panic body hp => exact ⟨fun _ => hl.accepted_eq hp nofun, hl.begun_prefix, nofun⟩
  | count body result hp =>
    refine ⟨fun _ => hl.accepted_eq hp nofun, hl.begun_prefix, fun _ => ?_⟩
    simpa [Ledger.done] using hl.begun_eq hp rfl
  | notify ticket hp =>
    have hh := hl.begun_eq hp rfl
    exact ⟨fun _ => hl.accepted_eq hp nofun, hl.begun_prefix, fun _ => hh⟩
  | cut hp => exact ⟨fun h => absurd rfl h, hl.begun_prefix, nofun⟩
  | leave hp hq =>
    have hh := hl.begun_eq hp rfl
    exact ⟨fun _ => hl.accepted_eq hp nofun, hl.begun_prefix, fun _ => hh⟩

/-! ## The statistics -/

/-- The statistics count what was counted and what was refused. -/
structure Ledger.Balanced (l : Ledger) : Prop where
  delivered : l.stats.delivered = l.counted.countP (·.2.isOk)
  failed : l.stats.failed = l.counted.countP (!·.2.isOk)
  dropped : l.stats.dropped = l.refused

theorem Move.balanced (h : Move l m) (hl : l.Balanced) : m.Balanced := by
  cases h with
  | refuse =>
    refine ⟨hl.delivered, hl.failed, ?_⟩
    simp only [Stats.drop, hl.dropped]
  | count body result _ =>
    cases result with
    | ok _ =>
      refine ⟨?_, ?_, hl.dropped⟩
      · simp [Stats.record, hl.delivered, Except.isOk, Except.toBool]
      · simp [Stats.record, hl.failed, Except.isOk, Except.toBool]
    | error _ =>
      refine ⟨?_, ?_, hl.dropped⟩
      · simp [Stats.record, hl.delivered, Except.isOk, Except.toBool]
      · simp [Stats.record, hl.failed, Except.isOk, Except.toBool]
  | _ => exact ⟨hl.delivered, hl.failed, hl.dropped⟩

/-! ## Markers in a ledger -/

/-- Where the markers of a ledger are. -/
structure Ledger.Marked (l : Ledger) : Prop where
  marks_prefix : ∀ before ∈ l.marks, before <+: l.accepted
  inPlace : InPlace l.marks l.begun l.queue
  notifying : ∀ ticket, l.phase = .notifying ticket → Passed l.marks ticket l.done
  reached : ∀ ticket ∈ l.reached, Passed l.marks ticket l.done

theorem Move.marked (h : Move l m) (hf : l.Flows) (hl : l.Marked) : m.Marked := by
  cases h with
  | accept body _ =>
    refine ⟨fun before hb => ?_, hl.inPlace.push trivial, hl.notifying, hl.reached⟩
    exact (hl.marks_prefix before hb).trans (List.prefix_append _ _)
  | refuse => exact ⟨hl.marks_prefix, hl.inPlace, hl.notifying, hl.reached⟩
  | call =>
    refine ⟨fun before hb => ?_, hl.inPlace.call, fun ticket hp => (hl.notifying ticket hp).call,
      fun ticket ht => (hl.reached ticket ht).call⟩
    rcases List.mem_append.mp hb with hb | hb
    · exact hl.marks_prefix before hb
    · exact List.mem_singleton.mp hb ▸ List.prefix_rfl
  | mark ticket hp ht =>
    have hpre := hl.marks_prefix _ (List.getElem_mem ht)
    rw [hf.fifo hp] at hpre
    refine ⟨hl.marks_prefix, hl.inPlace.push ⟨⟨_, List.getElem?_eq_getElem ht, hpre⟩, trivial⟩,
      hl.notifying, hl.reached⟩
  | take first rest hp hq =>
    have hh : l.begun = l.done := by simpa using hf.begun_eq hp rfl
    have hi := hl.inPlace
    rw [hq] at hi
    cases first with
    | body text => exact ⟨hl.marks_prefix, hi, nofun, hl.reached⟩
    | marker ticket =>
      have hb : l.begun ++ (Message.marker ticket).body?.toList = l.begun := List.append_nil _
      refine ⟨hl.marks_prefix, by rw [hb]; exact hi.2, fun other ho => ?_, hl.reached⟩
      cases ho
      exact hh ▸ hi.1
  | count body result _ =>
    refine ⟨hl.marks_prefix, hl.inPlace, nofun, fun ticket ht => (hl.reached ticket ht).mono ?_⟩
    simp [Ledger.done]
  | notify ticket hp =>
    refine ⟨hl.marks_prefix, hl.inPlace, nofun, fun other ho => ?_⟩
    rcases List.mem_append.mp ho with ho | ho
    · exact hl.reached other ho
    · exact List.mem_singleton.mp ho ▸ hl.notifying ticket hp
  | cut _ => exact ⟨hl.marks_prefix, trivial, nofun, hl.reached⟩
  | finish _ _ _ | panic _ _ | leave _ _ =>
    exact ⟨hl.marks_prefix, hl.inPlace, nofun, hl.reached⟩

/-! ## Sound ledgers -/

/-- What always holds of a ledger. -/
structure Ledger.Sound (l : Ledger) : Prop where
  flows : l.Flows
  balanced : l.Balanced
  marked : l.Marked

/-- **Every move keeps a ledger sound.** -/
theorem Move.sound (h : Move l m) (hl : l.Sound) : m.Sound :=
  ⟨h.flows hl.flows, h.balanced hl.balanced, h.marked hl.flows hl.marked⟩

theorem Moves.sound (h : Moves l m) (hl : l.Sound) : m.Sound := by
  induction h with
  | refl => exact hl
  | tail _ hm ih => exact hm.sound ih

/-- A ledger to which nothing happened yet. -/
def Ledger.new : Ledger := ⟨[], 0, [], [], .waiting, [], [], [], .zero⟩

theorem Ledger.sound_new : Ledger.new.Sound where
  flows := ⟨fun _ => rfl, List.prefix_rfl, fun _ => rfl⟩
  balanced := ⟨rfl, rfl, rfl⟩
  marked := ⟨nofun, trivial, nofun, nofun⟩

end Courier.Dispatch
