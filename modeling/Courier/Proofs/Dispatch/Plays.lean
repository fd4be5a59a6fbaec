import Courier.Dispatch.Script
import Courier.Dispatch.Wired
import Courier.Proofs.Dispatch.Steps

/-!
# What a script does is a run

A script drives a dispatcher from one thread and lets the worker go on only where it says so. What
it does to the dispatcher and to the network is a run over the network, of that one thread and the
worker.

Results:

* `works_settle` — what a worker does until it can do nothing more is a run in which no thread
  takes part.
* `plays_submit`, `plays_flush`, `plays_letGo` — a submission, a flush and letting go are runs of
  the one caller and the worker, with the calls and the answers that the script has.
-/

namespace Courier.Dispatch

open Courier.Dispatcher

variable {e : Endpoint} {d d' : Dispatcher} {net after : Http.Network} {p q r : Pair}

/-- What a script knows of a dispatcher in use over a network. -/
def Wired.pair (w : Wired) : Pair := (w.usage.dispatcher, w.network)

/-! ## The worker -/

/-- The worker may bring a dispatcher and its network from one to the other, with no thread taking
part. -/
def Works (e : Endpoint) (p q : Pair) : Prop :=
  ∀ w : Wired, w.pair = p → ∃ labels x, w.run? e labels = some x ∧
    (∀ label ∈ labels, label.isWork = true) ∧ x.pair = q

theorem Works.refl (p : Pair) : Works e p p :=
  fun w hw => ⟨[], w, rfl, nofun, hw⟩

theorem Works.trans (h : Works e p q) (h' : Works e q r) : Works e p r := by
  intro w hw
  obtain ⟨labels, x, hx, hl, hq⟩ := h w hw
  obtain ⟨more, y, hy, hm, hr⟩ := h' x hq
  refine ⟨labels ++ more, y, ?_, fun label ho => ?_, hr⟩
  · rw [Wired.run?_append, hx]
    exact hy
  · rcases List.mem_append.mp ho with ho | ho
    · exact hl label ho
    · exact hm label ho

theorem works_of_next? (label : Label) (hl : label.isWork = true)
    (h : ∀ w : Wired, w.pair = p → ∃ x, w.next? e label = some x ∧ x.pair = q) :
    Works e p q := by
  intro w hw
  obtain ⟨x, hx, hq⟩ := h w hw
  exact ⟨[label], x, Wired.run?_single hx, fun other ho => List.mem_singleton.mp ho ▸ hl, hq⟩

/-- What the worker does to the dispatcher alone leaves the network as it is. -/
theorem works_of_usage (label : Label) (hl : label.isWork = true)
    (hn : ∀ ended, label ≠ .finish ended)
    (h : ∀ u : Usage, u.dispatcher = d → ∃ v, u.next? label = some v ∧ v.dispatcher = d') :
    Works e (d, net) (d', net) := by
  refine works_of_next? label hl fun w hw => ?_
  obtain ⟨hd, rfl⟩ := Prod.mk.inj hw
  obtain ⟨v, hv, rfl⟩ := h w.usage hd
  exact ⟨_, Wired.next?_of_usage hn hv, rfl⟩

theorem works_take (d : Dispatcher) (net : Http.Network) :
    Works e (d, net) (d.take?.getD d, net) := by
  cases ht : d.take? with
  | none => exact .refl _
  | some taken =>
    refine works_of_usage .take rfl nofun ?_
    rintro u rfl
    have hn : u.next? .take = some (u.follow taken) := by
      simp only [Usage.next?, ht, Option.map_some]
    exact ⟨_, hn, rfl⟩

theorem works_notify {ticket : Nat} (hp : d.phase = .notifying ticket) :
    Works e (d, net) (d.notify, net) := by
  refine works_of_usage .notify rfl nofun ?_
  rintro u rfl
  have hn : u.next? .notify = some { u with dispatcher := u.dispatcher.notify } := by
    simp only [Usage.next?, hp]
  exact ⟨_, hn, rfl⟩

/-- A delivery ends as the attempt does. -/
theorem works_finish {body : List Char} {attempt : Http.Attempt} (hp : d.phase = .delivering body)
    (ha : Http.deliver net e.timeouts d.url (e.bearer.map String.toList) body = (attempt, after)) :
    Works e (d, net) (d.finish body (settled attempt), after) := by
  refine works_of_next? (.finish (settled attempt)) rfl fun w hw => ?_
  obtain ⟨rfl, rfl⟩ := Prod.mk.inj hw
  have ho : isOver (settled attempt) = true := by cases attempt <;> rfl
  have hn : w.usage.next? (.finish (settled attempt)) =
      some { w.usage with
        dispatcher := w.usage.dispatcher.finish body (settled attempt) } := by
    simp only [Usage.next?, hp, ho, if_true]
  exact ⟨_, Wired.next?_of_attempt hp ha hn, rfl⟩

theorem works_count (d : Dispatcher) (net : Http.Network) : Works e (d, net) (d.count, net) := by
  cases hp : d.phase with
  | counting body result =>
    refine works_of_usage .count rfl nofun ?_
    rintro u rfl
    have hn : u.next? .count = some { u with
        dispatcher := u.dispatcher.count
        counted := u.counted ++ [(body, result)] } := by
      simp only [Usage.next?, hp]
    exact ⟨_, hn, rfl⟩
  | _ =>
    have hd : d.count = d := by simp [count, hp]
    rw [hd]
    exact .refl _

theorem works_cut (d : Dispatcher) (net : Http.Network) : Works e (d, net) (d.cut, net) := by
  by_cases hp : d.phase = .unwinding
  · refine works_of_usage .cut rfl nofun ?_
    rintro u rfl
    exact ⟨_, if_pos hp, rfl⟩
  · have hd : d.cut = d := if_neg hp
    rw [hd]
    exact .refl _

theorem works_leave (d : Dispatcher) (net : Http.Network) : Works e (d, net) (d.leave, net) := by
  by_cases hp : d.phase = .waiting ∧ d.queue = [] ∧ d.isHeld = false
  · refine works_of_usage .leave rfl nofun ?_
    rintro u rfl
    exact ⟨_, if_pos hp, rfl⟩
  · have hd : d.leave = d := if_neg hp
    rw [hd]
    exact .refl _

/-- What a worker does next in a script is up to it alone. -/
theorem works_advance (pair : Pair) : Works e pair (advance e pair) := by
  obtain ⟨d, net⟩ := pair
  cases hp : d.phase with
  | delivering body =>
    simp only [advance, hp]
    cases ha : Http.deliver net e.timeouts d.url (e.bearer.map String.toList) body with
    | mk attempt after =>
      have hover := ((works_finish hp ha).trans (works_count _ after)).trans (works_cut _ after)
      cases attempt with
      | waiting => exact .refl _
      | finished result => exact hover
      | panicked message => exact hover
  | notifying ticket =>
    simp only [advance, hp]
    exact works_notify hp
  | _ =>
    simp only [advance, hp]
    exact works_take d net

theorem works_advanceBy (moves : Nat) (pair : Pair) : Works e pair (advanceBy e moves pair) := by
  induction moves generalizing pair with
  | zero => exact .refl _
  | succ moves ih => exact (works_advance pair).trans (ih _)

/-- **What a worker does until it can do nothing more** is a run without any thread. -/
theorem works_settle (e : Endpoint) (pair : Pair) : Works e pair (settle e pair) :=
  works_advanceBy _ pair

/-- Callers see no difference between two usages. -/
structure Usage.SameCallers (u v : Usage) : Prop where
  threads : v.threads = u.threads
  isClosing : v.isClosing = u.isClosing
  calls : v.calls = u.calls
  submissions : v.submissions = u.submissions
  ended : v.ended = u.ended

/-- Callers see nothing of what the worker does by itself. -/
theorem Usage.Step.sameCallers {u v : Usage} {label : Label} (h : Usage.Step u label v)
    (hl : label.isWork = true) : Usage.SameCallers u v := by
  cases h with
  | take | finish | panic | count | notify | cut | leave => exact ⟨rfl, rfl, rfl, rfl, rfl⟩
  | _ => exact absurd hl nofun

theorem Wired.sameCallers_of_run? {w x : Wired} {labels : List Label}
    (h : w.run? e labels = some x) (hl : ∀ label ∈ labels, label.isWork = true) :
    Usage.SameCallers w.usage x.usage := by
  apply Wired.run?_keeps (P := fun x => Usage.SameCallers w.usage x.usage) h
  · exact ⟨rfl, rfl, rfl, rfl, rfl⟩
  · intro a b label hm hn ha
    have hb := (Usage.step_of_next? (Wired.cases_of_next? hn).1).sameCallers (hl label hm)
    exact ⟨hb.threads.trans ha.threads, hb.isClosing.trans ha.isClosing, hb.calls.trans ha.calls,
      hb.submissions.trans ha.submissions, hb.ended.trans ha.ended⟩

/-- What the worker does is no call. -/
theorem isCall_of_isWork {label : Label} (h : label.isWork = true) : label.isCall = false := by
  cases label with
  | take | finish | count | notify | cut | leave => rfl
  | _ => exact absurd h nofun

/-! ## The caller -/

/-- Where a dispatcher with one caller is. -/
structure Standing where
  pair : Pair
  activity : Activity
  isClosing : Bool
  /-- How many submissions were called. -/
  calls : Nat

/-- A dispatcher in use is where a single caller has brought it. -/
structure Wired.IsAt (w : Wired) (s : Standing) : Prop where
  pair : w.pair = s.pair
  threads : w.usage.threads = [s.activity]
  isClosing : w.usage.isClosing = s.isClosing
  calls : w.usage.calls = s.calls

/-- One caller and the worker may bring a dispatcher from one standing to another, with these calls,
of which the submissions and the flushes that came to an end returned this. -/
def Plays (e : Endpoint) (calls : List Label) (returned : List Bool) (ended : List (Nat × Bool))
    (s t : Standing) : Prop :=
  ∀ w : Wired, w.IsAt s → ∃ labels x, w.run? e labels = some x ∧
    labels.filter (·.isCall) = calls ∧ x.IsAt t ∧
    x.usage.submissions.map (·.fate.returned) =
      w.usage.submissions.map (·.fate.returned) ++ returned ∧
    x.usage.ended = w.usage.ended ++ ended

variable {calls calls' : List Label} {returned returned' : List Bool}
  {ended ended' : List (Nat × Bool)} {s t t' : Standing} {isClosing : Bool} {n : Nat}

theorem Plays.trans (h : Plays e calls returned ended s t)
    (h' : Plays e calls' returned' ended' t t') :
    Plays e (calls ++ calls') (returned ++ returned') (ended ++ ended') s t' := by
  intro w hw
  obtain ⟨labels, x, hx, hc, ht, hr, he⟩ := h w hw
  obtain ⟨more, y, hy, hc', ht', hr', he'⟩ := h' x ht
  refine ⟨labels ++ more, y, ?_, ?_, ht', ?_, ?_⟩
  · rw [Wired.run?_append, hx]
    exact hy
  · rw [List.filter_append, hc, hc']
  · rw [hr', hr, List.append_assoc]
  · rw [he', he, List.append_assoc]

/-- What the worker does by itself is no call of the caller. -/
theorem Works.plays (h : Works e p q) (a : Activity) (isClosing : Bool) (n : Nat) :
    Plays e [] [] [] ⟨p, a, isClosing, n⟩ ⟨q, a, isClosing, n⟩ := by
  intro w hw
  obtain ⟨labels, x, hx, hl, hq⟩ := h w hw.pair
  have hs := Wired.sameCallers_of_run? hx hl
  refine ⟨labels, x, hx, ?_, ⟨hq, hs.threads.trans hw.threads, hs.isClosing.trans hw.isClosing,
    hs.calls.trans hw.calls⟩, ?_, ?_⟩
  · exact List.filter_eq_nil_iff.mpr fun label hm => by simp [isCall_of_isWork (hl label hm)]
  · rw [hs.submissions, List.append_nil]
  · rw [hs.ended, List.append_nil]

/-- What the caller does is a run if it can be done by itself. -/
theorem plays_of_next? (label : Label) (hl : ∀ attempt, label ≠ .finish attempt)
    (h : ∀ w : Wired, w.IsAt s → ∃ u, w.usage.next? label = some u ∧
      (Wired.mk u w.network).IsAt t ∧
      u.submissions.map (·.fate.returned) =
        w.usage.submissions.map (·.fate.returned) ++ returned ∧
      u.ended = w.usage.ended ++ ended) :
    Plays e ([label].filter (·.isCall)) returned ended s t := by
  intro w hw
  obtain ⟨u, hu, ht, hr, he⟩ := h w hw
  exact ⟨[label], ⟨u, w.network⟩, Wired.run?_single (Wired.next?_of_usage hl hu), rfl, ht, hr, he⟩

theorem isFree_of_idle {u : Usage} (ht : u.threads = [.idle]) (hc : u.isClosing = false) :
    u.isFree 0 = true := by
  simp [Usage.isFree, ht, hc]

theorem set_only {threads : List Activity} {a : Activity} (ht : threads = [a]) (b : Activity) :
    threads.set 0 b = [b] := by
  rw [ht]
  rfl

/-! ## Submissions -/

theorem plays_drop (d : Dispatcher) (net : Http.Network) (call : Nat)
    (body : Option (List Char)) :
    Plays e [] [false] [] ⟨(d, net), .dropping call body, isClosing, n⟩
      ⟨(d.dropOne, net), .idle, isClosing, n⟩ := by
  refine plays_of_next? (.drop 0) nofun fun w ⟨hp, ht, hc, hk⟩ => ?_
  obtain ⟨rfl, rfl⟩ := Prod.mk.inj hp
  have hn : w.usage.next? (.drop 0) = some (w.usage.drop 0 call body) := by
    simp only [Usage.next?, ht, List.getElem?_cons_zero]
  exact ⟨_, hn, ⟨rfl, set_only ht _, hc, hk⟩, List.map_append, (List.append_nil _).symm⟩

/-- A submission that has a body ends with the enqueuing of that. -/
theorem plays_enqueue (d : Dispatcher) (net : Http.Network) (call : Nat) (body : List Char) :
    Plays e [] [(d.enqueue body).1] [] ⟨(d, net), .offering call body, isClosing, n⟩
      ⟨((d.enqueue body).2, net), .idle, isClosing, n⟩ := by
  have hno : ∀ ended, Label.offer 0 ≠ .finish ended := nofun
  have hoffer : ∀ w : Wired, w.IsAt ⟨(d, net), .offering call body, isClosing, n⟩ →
      w.usage.next? (.offer 0) = some (w.usage.offer 0 call body) := by
    intro w hw
    simp only [Usage.next?, hw.threads, List.getElem?_cons_zero]
  unfold Dispatcher.enqueue
  rcases offer_cases d (.body body) with ⟨_, _, ho⟩ | ⟨refusal, hne, ho⟩
  · rw [ho]
    refine plays_of_next? (.offer 0) hno fun w hw => ⟨_, hoffer w hw, ?_⟩
    obtain ⟨hp, ht, hc, hk⟩ := hw
    obtain ⟨rfl, rfl⟩ := Prod.mk.inj hp
    simp only [Usage.offer, ho]
    exact ⟨⟨rfl, set_only ht _, hc, hk⟩, List.map_append, (List.append_nil _).symm⟩
  · have hrefuse : Plays e [] [] [] ⟨(d, net), .offering call body, isClosing, n⟩
        ⟨(d.tell refusal.events, net), .dropping call (some body), isClosing, n⟩ := by
      refine plays_of_next? (.offer 0) hno fun w hw => ⟨_, hoffer w hw, ?_⟩
      obtain ⟨hp, ht, hc, hk⟩ := hw
      obtain ⟨rfl, rfl⟩ := Prod.mk.inj hp
      have hw : w.usage.offer 0 call body = w.usage.refuse 0 call body refusal := by
        cases refusal with
        | taken => exact absurd rfl hne
        | full => simp only [Usage.offer, ho]
        | cut => simp only [Usage.offer, ho]
      rw [hw]
      exact ⟨⟨rfl, set_only ht _, hc, hk⟩, (List.append_nil _).symm, (List.append_nil _).symm⟩
    rw [ho]
    cases refusal with
    | taken => exact absurd rfl hne
    | full => exact hrefuse.trans (plays_drop _ _ _ _)
    | cut => exact hrefuse.trans (plays_drop _ _ _ _)

/-- **A submission is a run of its caller alone.** -/
theorem plays_submit (d : Dispatcher) (net : Http.Network) (payload : Payload) (n : Nat) :
    Plays e [.submit 0 payload] [(d.submit payload).1] [] ⟨(d, net), .idle, false, n⟩
      ⟨((d.submit payload).2, net), .idle, false, n + 1⟩ := by
  unfold Dispatcher.submit
  cases hb : prepare d.options.hook payload with
  | mk events body =>
    have hcall : Plays e [.submit 0 payload] [] [] ⟨(d, net), .idle, false, n⟩
        ⟨(d.tell events, net), .called n body, false, n + 1⟩ := by
      refine plays_of_next? (.submit 0 payload) nofun fun w ⟨hp, ht, hc, hk⟩ => ?_
      obtain ⟨rfl, rfl⟩ := Prod.mk.inj hp
      refine ⟨_, if_pos (isFree_of_idle ht hc), ?_⟩
      cases hk
      simp only [Usage.submit, hb]
      exact ⟨⟨rfl, set_only ht _, hc, rfl⟩, (List.append_nil _).symm, (List.append_nil _).symm⟩
    cases body with
    | none => exact hcall.trans (plays_drop _ _ _ _)
    | some body => exact hcall.trans (plays_enqueue _ _ _ _)

/-! ## Flushes -/

/-- What the caller tells of the end of its flush: one that was given up while it lets go. -/
def flushEvents (isClosing inTime : Bool) : List Event :=
  if isClosing && !inTime then [.flushTimedOut] else []

theorem plays_giveUp (d : Dispatcher) (net : Http.Network) (ticket : Nat) :
    Plays e [] [] [(ticket, false)] ⟨(d, net), .sending ticket, isClosing, n⟩
      ⟨(d.tell (flushEvents isClosing false), net), .idle, isClosing, n⟩ := by
  refine plays_of_next? (.endFlush 0) nofun fun w ⟨hp, ht, hc, hk⟩ => ?_
  obtain ⟨rfl, rfl⟩ := Prod.mk.inj hp
  have hn : w.usage.next? (.endFlush 0) = some (w.usage.endFlush 0 ticket false) := by
    simp only [Usage.next?, ht, List.getElem?_cons_zero]
  cases hc
  exact ⟨_, hn, ⟨rfl, set_only ht _, rfl, hk⟩, (List.append_nil _).symm, rfl⟩

theorem plays_await (d : Dispatcher) (net : Http.Network) (ticket : Nat) :
    Plays e [] [] [(ticket, d.hasReached ticket)] ⟨(d, net), .awaiting ticket, isClosing, n⟩
      ⟨(d.tell (flushEvents isClosing (d.hasReached ticket)), net), .idle, isClosing, n⟩ := by
  refine plays_of_next? (.endFlush 0) nofun fun w ⟨hp, ht, hc, hk⟩ => ?_
  obtain ⟨rfl, rfl⟩ := Prod.mk.inj hp
  have hn : w.usage.next? (.endFlush 0) =
      some (w.usage.endFlush 0 ticket (w.usage.dispatcher.hasReached ticket)) := by
    simp only [Usage.next?, ht, List.getElem?_cons_zero]
  cases hc
  exact ⟨_, hn, ⟨rfl, set_only ht _, rfl, hk⟩, (List.append_nil _).symm, rfl⟩

theorem plays_mark {ticket : Nat} (ho : d.offer (.marker ticket) = (.taken, d')) :
    Plays e [] [] [] ⟨(d, net), .sending ticket, isClosing, n⟩
      ⟨(d', net), .awaiting ticket, isClosing, n⟩ := by
  refine plays_of_next? (.mark 0) nofun fun w ⟨hp, ht, hc, hk⟩ => ?_
  obtain ⟨rfl, rfl⟩ := Prod.mk.inj hp
  have hn : w.usage.next? (.mark 0) =
      some ((w.usage.follow d').put 0 (.awaiting ticket)) := by
    simp only [Usage.next?, ht, List.getElem?_cons_zero, Usage.mark?, ho]
  exact ⟨_, hn, ⟨rfl, set_only ht _, hc, hk⟩, (List.append_nil _).symm, (List.append_nil _).symm⟩

/-- A flush whose marker is queued goes on waiting, and one whose marker is not ends. -/
theorem flush_of_offer {pair : Pair} (hp : settle e (d.issue.2, net) = pair) :
    (∀ {d'}, pair.1.offer (.marker d.tickets) = (.taken, d') →
      Dispatch.flush e (d, net) =
        ((settle e (d', pair.2)).1.hasReached d.tickets, settle e (d', pair.2))) ∧
    ∀ {refusal}, refusal ≠ .taken → pair.1.offer (.marker d.tickets) = (refusal, pair.1) →
      Dispatch.flush e (d, net) = (false, pair) := by
  simp only [issue] at hp
  constructor
  · intro d' ho
    simp only [Dispatch.flush, issue, hp, ho]
  · intro refusal hne ho
    cases refusal with
    | taken => exact absurd rfl hne
    | full => simp only [Dispatch.flush, issue, hp, ho]
    | cut => simp only [Dispatch.flush, issue, hp, ho]

/-- A flush that was called ends while the worker goes on. -/
theorem plays_flushing (d : Dispatcher) (net : Http.Network) :
    Plays e [] [] [(d.tickets, (Dispatch.flush e (d, net)).1)]
      ⟨(d.issue.2, net), .sending d.tickets, isClosing, n⟩
      ⟨((Dispatch.flush e (d, net)).2.1.tell (flushEvents isClosing (Dispatch.flush e (d, net)).1),
        (Dispatch.flush e (d, net)).2.2), .idle, isClosing, n⟩ := by
  have hs := (works_settle e (d.issue.2, net)).plays (.sending d.tickets) isClosing n
  generalize hp : settle e (d.issue.2, net) = pair at hs
  obtain ⟨htaken, hrefused⟩ := flush_of_offer hp
  rcases offer_cases pair.1 (.marker d.tickets) with ⟨_, _, ho⟩ | ⟨refusal, hne, ho⟩
  · rw [htaken ho]
    have hw := (works_settle e (pair.1.accept (.marker d.tickets), pair.2)).plays
      (.awaiting d.tickets) isClosing n
    exact ((hs.trans (plays_mark ho)).trans hw).trans (plays_await _ _ _)
  · rw [hrefused hne ho]
    exact hs.trans (plays_giveUp _ _ _)

/-- **A flush is a run of its caller and the worker.** -/
theorem plays_flush (d : Dispatcher) (net : Http.Network) (n : Nat) :
    Plays e [.flush 0] [] [(d.tickets, (Dispatch.flush e (d, net)).1)]
      ⟨(d, net), .idle, false, n⟩ ⟨(Dispatch.flush e (d, net)).2, .idle, false, n⟩ := by
  have hcall : Plays e [.flush 0] [] [] ⟨(d, net), .idle, false, n⟩
      ⟨(d.issue.2, net), .sending d.tickets, false, n⟩ := by
    refine plays_of_next? (.flush 0) nofun fun w ⟨hp, ht, hc, hk⟩ => ?_
    obtain ⟨rfl, rfl⟩ := Prod.mk.inj hp
    exact ⟨_, if_pos (isFree_of_idle ht hc), ⟨rfl, set_only ht _, hc, hk⟩,
      (List.append_nil _).symm, (List.append_nil _).symm⟩
  have hend := hcall.trans (plays_flushing d net)
  simpa [flushEvents] using hend

/-! ## Letting go -/

/-- A dispatcher that is about to be let go of may be let go of. -/
theorem plays_release (d : Dispatcher) (net : Http.Network) :
    Plays e [] [] [] ⟨(d, net), .idle, true, n⟩ ⟨(d.letGo, net), .idle, true, n⟩ := by
  cases hh : d.isHeld with
  | true =>
    refine plays_of_next? .letGo nofun fun w ⟨hp, ht, hc, hk⟩ => ?_
    obtain ⟨rfl, rfl⟩ := Prod.mk.inj hp
    have hq : w.usage.isQuiet = true := by simp [Usage.isQuiet, ht]
    exact ⟨_, if_pos ⟨hh, hc, hq⟩, ⟨rfl, ht, hc, hk⟩, (List.append_nil _).symm,
      (List.append_nil _).symm⟩
  | false =>
    have hd : d.letGo = d := by
      unfold Dispatcher.letGo
      rw [← hh]
    rw [hd]
    exact (Works.refl _).plays _ _ _

/-- **Letting go of a dispatcher is a run of its caller and the worker**, with the flush before
it. -/
theorem plays_letGo (d : Dispatcher) (net : Http.Network) (n : Nat) :
    Plays e [.close 0] [] [(d.tickets, (Dispatch.flush e (d, net)).1)]
      ⟨(d, net), .idle, false, n⟩
      ⟨(((Dispatch.flush e (d, net)).2.1.tell
        (flushEvents true (Dispatch.flush e (d, net)).1)).letGo.leave,
        (Dispatch.flush e (d, net)).2.2), .idle, true, n⟩ := by
  have hcall : Plays e [.close 0] [] [] ⟨(d, net), .idle, false, n⟩
      ⟨(d.issue.2, net), .sending d.tickets, true, n⟩ := by
    refine plays_of_next? (.close 0) nofun fun w ⟨hp, ht, hc, hk⟩ => ?_
    obtain ⟨rfl, rfl⟩ := Prod.mk.inj hp
    have hq : w.usage.isQuiet = true := by simp [Usage.isQuiet, ht]
    exact ⟨_, if_pos ⟨isFree_of_idle ht hc, hq⟩, ⟨rfl, set_only ht _, rfl, hk⟩,
      (List.append_nil _).symm, (List.append_nil _).symm⟩
  have hleave := (works_leave (e := e) (((Dispatch.flush e (d, net)).2.1.tell
    (flushEvents true (Dispatch.flush e (d, net)).1)).letGo)
    (Dispatch.flush e (d, net)).2.2).plays .idle true n
  exact ((hcall.trans (plays_flushing d net)).trans (plays_release _ _)).trans hleave

end Courier.Dispatch
