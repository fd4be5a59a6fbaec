import Courier.Proofs.Dispatch.Losses

/-!
# Letting go of a dispatcher loses nothing

Once a thread has begun to let go of a dispatcher nothing more is submitted. The worker still has
the message that it is at and those that are queued, and leaves only when all of them are dealt
with, whether or not the flush of letting go has waited for them.

Results:

* `Step.due` — what is due to be dealt with loses at its front what the worker is done with, and
  gains at its end what is queued.
* `Step.left_le` — every step but a turn of the hook brings the worker nearer to leaving.
* `exists_next_of_closing` — until it has left there is such a step.
* `drains_of_closing` — **letting go of a dispatcher loses nothing**: if no delivery panics, the
  worker deals with all that is due, each message once and in order, and only then leaves.
-/

namespace Courier.Dispatch

open Courier.Dispatcher

/-- The message that the worker took and is not done with. -/
@[simp]
def Phase.message? : Phase → Option Message
  | .delivering body | .counting body _ => some (.body body)
  | .notifying ticket => some (.marker ticket)
  | _ => none

/-- Whether a delivery panics. -/
def Label.isPanic : Label → Bool
  | .finish (.panicked _) => true
  | _ => false

/-- Whether the hook turns. -/
def Label.isTurn : Label → Bool
  | .turn _ => true
  | _ => false

/-- The message that the worker is done with after something happened in a phase. -/
@[simp]
def Label.deals (phase : Phase) : Label → List Message
  | .count | .notify => phase.message?.toList
  | _ => []

/-! ## What is left to do -/

/-- How many steps a worker takes with the message that it is at, and then to leave. -/
def Phase.left : Phase → Nat
  | .delivering _ => 3
  | .counting _ _ | .notifying _ => 2
  | .waiting => 1
  | _ => 0

/-- How many steps the worker takes with a message that is queued. -/
def Message.left : Message → Nat
  | .body _ => 3
  | .marker _ => 2

/-- How many steps a flush takes at most, its own and the worker's. -/
def Activity.toCome : Activity → Nat
  | .sending _ => 4
  | .awaiting _ => 1
  | _ => 0

/-- The step of taking a message takes the place of that of leaving. -/
theorem Message.left_phase (m : Message) : m.phase.left = m.left := by
  cases m <;> rfl

namespace Usage

/-- The messages that the worker has still to deal with: the one that it is at, and those queued. -/
def due (u : Usage) : List Message :=
  u.dispatcher.phase.message?.toList ++ u.dispatcher.queue

/-- The messages that the worker is done with, in order, when all of it happens. -/
def dealt (u : Usage) : List Label → List Message
  | [] => []
  | label :: rest =>
    label.deals u.dispatcher.phase ++ (u.next? label).elim [] fun v => v.dealt rest

/-- How many steps but turns of the hook there are at most until the worker has left. -/
def left (u : Usage) : Nat :=
  u.dispatcher.phase.left + (u.dispatcher.queue.map Message.left).sum +
    (u.threads.map Activity.toCome).sum + if u.dispatcher.isHeld then 1 else 0

variable {u v w : Usage} {label : Label} {labels : List Label} {e : Endpoint} {options : Options}
  {thread : Nat} {a b : Activity}

/-! ## Closing -/

/-- Who lets go of a dispatcher, and when the worker leaves. -/
structure Closes (u : Usage) : Prop where
  /-- Nothing is submitted any more, -/
  called : u.isClosing = true → ∀ a ∈ u.threads, a.call? = none
  /-- a dispatcher that is let go of is in no call, -/
  letGo : u.dispatcher.isHeld = false → u.isClosing = true ∧ u.isQuiet = true
  /-- and the worker leaves only then. -/
  left : u.dispatcher.phase = .finished → u.dispatcher.isHeld = false

theorem call?_of_isQuiet (h : u.isQuiet = true) : ∀ a ∈ u.threads, a.call? = none := by
  intro a ha
  have hi : a = .idle := by simpa using List.all_eq_true.mp h a ha
  rw [hi]
  rfl

/-- A thread that is in a call may go to what is no submission once the dispatcher is closing. -/
theorem Closes.put {d : Dispatcher} (hu : u.Closes) (hb : u.threads[thread]? = some b)
    (hi : b ≠ .idle) (ha : u.isClosing = true → a.call? = none)
    (hh : d.isHeld = u.dispatcher.isHeld)
    (hp : d.phase ≠ .finished ∨ d.phase = u.dispatcher.phase) :
    Closes { u.put thread a with dispatcher := d } where
  called := by
    intro hc other ho
    rcases List.mem_or_eq_of_mem_set ho with ho | rfl
    · exact hu.called hc other ho
    · exact ha hc
  letGo := by
    intro h
    exact absurd (isQuiet_iff.mp (hu.letGo (hh ▸ h)).2 thread b hb) hi
  left := by
    intro h
    rcases hp with hp | hp
    · exact absurd h hp
    · exact hh.trans (hu.left (hp ▸ h))

/-- The worker may go on, and leave once the dispatcher is let go of. -/
theorem Closes.work {d : Dispatcher} (hu : u.Closes) (hh : d.isHeld = u.dispatcher.isHeld)
    (hp : d.phase = .finished → u.dispatcher.isHeld = false) :
    Closes { u with dispatcher := d } where
  called := hu.called
  letGo := fun h => hu.letGo (hh ▸ h)
  left := fun h => hh.trans (hp h)

/-- A thread that calls something has a dispatcher that is held and not closing. -/
theorem Closes.of_isFree (hu : u.Closes) (hf : u.isFree thread = true) :
    u.isClosing = false ∧ u.dispatcher.isHeld = true := by
  have hc := (idle_of_isFree hf).1
  refine ⟨hc, Bool.eq_true_of_not_eq_false fun hh => ?_⟩
  exact absurd ((hu.letGo hh).1.symm.trans hc) nofun

theorem Step.closes (h : Step u label v) (hu : u.Closes) : v.Closes := by
  cases h with
  | submit thread payload hf | flush thread hf =>
    obtain ⟨hc, hh⟩ := hu.of_isFree hf
    exact ⟨fun h => absurd (h.symm.trans hc) nofun, fun h => absurd (h.symm.trans hh) nofun,
      hu.left⟩
  | close thread hf hq =>
    obtain ⟨_, hh⟩ := hu.of_isFree hf
    refine ⟨fun _ a ha => ?_, fun h => absurd (h.symm.trans hh) nofun, hu.left⟩
    rcases List.mem_or_eq_of_mem_set ha with ha | rfl
    · exact call?_of_isQuiet hq a ha
    · rfl
  | queued thread call body ht | drop thread call body ht | givenUp thread ticket ht
  | waited thread ticket ht =>
    have hp := hu.put (a := .idle) ht nofun (fun _ => rfl) rfl (.inr rfl)
    exact ⟨hp.called, hp.letGo, hp.left⟩
  | handed thread call body ht =>
    have hp := hu.put (a := .idle) (d := { u.dispatcher with phase := .delivering body }) ht nofun
      (fun _ => rfl) rfl (.inl nofun)
    exact ⟨hp.called, hp.letGo, hp.left⟩
  | refused thread call body refusal ht | missed thread call body ht =>
    have hp := hu.put (a := .dropping call (some body)) ht nofun
      (fun hc => absurd (hu.called hc _ (List.mem_of_getElem? ht)) nofun) rfl (.inr rfl)
    exact ⟨hp.called, hp.letGo, hp.left⟩
  | markQueued thread ticket ht => exact hu.put ht nofun (fun _ => rfl) rfl (.inr rfl)
  | markHanded thread ticket ht => exact hu.put ht nofun (fun _ => rfl) rfl (.inl nofun)
  | letGo hh hc hq => exact ⟨hu.called, fun _ => ⟨hc, hq⟩, fun _ => rfl⟩
  | take m rest hp hq =>
    have hw := hu.work (d := { u.dispatcher with queue := rest, phase := m.phase }) rfl
      (by cases m <;> exact nofun)
    exact ⟨hw.called, hw.letGo, hw.left⟩
  | finish | panic | count | notify | cut =>
    exact ⟨hu.called, hu.letGo, nofun⟩
  | leave hp hq hh => exact ⟨hu.called, hu.letGo, fun _ => hh⟩
  | turn => exact ⟨hu.called, hu.letGo, hu.left⟩

theorem closes_of_reachable (h : Reachable e options u) : u.Closes := by
  refine h.keeps (fun {d} hd threads => ?_) Step.closes
  obtain ⟨url, _, rfl⟩ := eq_of_start hd
  exact ⟨nofun, nofun, nofun⟩

/-! ## One step -/

/-- **What a step does to what is due.** The worker is done with messages at the front, and what is
queued comes to the end: markers only, unless a thread is in a submission, and nothing if no
thread is in a call. -/
theorem Step.due (h : Step u label v) (ht : u.Tidy) (hn : label.isPanic = false)
    (hp : u.dispatcher.phase.hasPanicked = false) :
    ∃ more, u.due ++ more = label.deals u.dispatcher.phase ++ v.due ∧
      ((∀ a ∈ u.threads, a.call? = none) → ∀ m ∈ more, m.body? = none) ∧
      (u.isQuiet = true → more = []) := by
  have hquiet : ∀ {thread : Nat} {b : Activity} {more : List Message},
      u.threads[thread]? = some b → b ≠ .idle → u.isQuiet = true → more = [] :=
    fun hb hi hq => absurd (isQuiet_iff.mp hq _ _ hb) hi
  cases h with
  | queued thread call body hb _ _ =>
    refine ⟨[.body body], ?_, fun hc => ?_, hquiet hb nofun⟩
    · simp [Usage.due]
    · exact absurd (hc _ (List.mem_of_getElem? hb)) nofun
  | handed thread call body hb hz hw =>
    refine ⟨[.body body], ?_, fun hc => ?_, hquiet hb nofun⟩
    · simp [Usage.due, hw, ht.rendezvous hz]
    · exact absurd (hc _ (List.mem_of_getElem? hb)) nofun
  | markQueued thread ticket hb _ _ =>
    refine ⟨[.marker ticket], ?_, fun _ m hm => ?_, hquiet hb nofun⟩
    · simp [Usage.due]
    · rw [List.mem_singleton.mp hm]
      rfl
  | markHanded thread ticket hb hz hw =>
    refine ⟨[.marker ticket], ?_, fun _ m hm => ?_, hquiet hb nofun⟩
    · simp [Usage.due, hw, ht.rendezvous hz]
    · rw [List.mem_singleton.mp hm]
      rfl
  | panic => exact absurd hn nofun
  | cut hc => simp [hc] at hp
  | take m rest hw hq =>
    refine ⟨[], ?_, fun _ => nofun, fun _ => rfl⟩
    cases m <;> simp [Usage.due, hw, hq]
  | finish _ _ hw | count _ _ hw | notify _ hw | leave hw _ _ =>
    refine ⟨[], ?_, fun _ => nofun, fun _ => rfl⟩
    simp [Usage.due, hw]
  | _ => exact ⟨[], List.append_nil _, fun _ => nofun, fun _ => rfl⟩

theorem sum_toCome_set {threads : List Activity} (hb : threads[thread]? = some b) (a : Activity) :
    ((threads.set thread a).map Activity.toCome).sum + b.toCome =
      (threads.map Activity.toCome).sum + a.toCome := by
  induction threads generalizing thread with
  | nil => exact absurd hb nofun
  | cons first rest ih =>
    cases thread with
    | zero =>
      obtain rfl : first = b := Option.some.inj hb
      simp only [List.set_cons_zero, List.map_cons, List.sum_cons]
      omega
    | succ thread =>
      have hs := ih hb
      simp only [List.set_cons_succ, List.map_cons, List.sum_cons]
      omega

/-- **Every step but a turn of the hook brings the worker nearer to leaving.** -/
theorem Step.left_le (h : Step u label v) (hu : u.Closes) (hc : u.isClosing = true)
    (hn : label.isPanic = false) (hp : u.dispatcher.phase.hasPanicked = false) :
    (if label.isTurn then 0 else 1) + v.left ≤ u.left := by
  -- Nobody can begin a call any more, and no call that is under way is a submission.
  have hfree : ∀ {thread : Nat}, u.isFree thread = true → False :=
    fun hf => absurd (hc.symm.trans (hu.of_isFree hf).1) nofun
  have hcall : ∀ {thread : Nat} {b : Activity}, u.threads[thread]? = some b → b.call? = none :=
    fun hb => hu.called hc _ (List.mem_of_getElem? hb)
  cases h with
  | submit _ _ hf | flush _ hf | close _ hf _ => exact (hfree hf).elim
  | queued _ _ _ hb _ _ | handed _ _ _ hb _ _ | refused _ _ _ _ hb _ _ | missed _ _ _ hb _ _
  | drop _ _ _ hb => exact absurd (hcall hb) nofun
  | panic => exact absurd hn nofun
  | cut hw => simp [hw] at hp
  | markQueued thread ticket hb _ _ =>
    have hs := sum_toCome_set hb (.awaiting ticket)
    simp [left, put, Label.isTurn, Activity.toCome, Message.left] at hs ⊢
    omega
  | markHanded thread ticket hb _ hw =>
    have hs := sum_toCome_set hb (.awaiting ticket)
    simp [left, put, Label.isTurn, Activity.toCome, Phase.left, hw] at hs ⊢
    omega
  | givenUp thread ticket hb | waited thread ticket hb =>
    have hs := sum_toCome_set hb .idle
    simp [left, put, Usage.endFlush, Dispatcher.tell, Label.isTurn, Activity.toCome] at hs ⊢
    omega
  | turn => exact (Nat.zero_add _).le
  | letGo hh _ _ =>
    simp [left, Dispatcher.letGo, Label.isTurn, hh]
    omega
  | take m rest hw hq =>
    simp [left, Label.isTurn, hw, hq, m.left_phase, show Phase.waiting.left = 1 from rfl]
    omega
  | finish _ _ hw | count _ _ hw | notify _ hw | leave hw _ _ =>
    simp [left, Label.isTurn, Phase.left, hw]
    omega

/-- What the worker is done with is counted or told, in order. -/
theorem Step.deals (h : Step u label v) :
    v.counted.map (·.1) = u.counted.map (·.1) ++ bodies (label.deals u.dispatcher.phase) ∧
      v.dispatcher.reached = u.dispatcher.reached ++
        (label.deals u.dispatcher.phase).filterMap Message.ticket? := by
  cases h with
  | count _ _ hw => simp [hw, bodies]
  | notify _ hw => simp [hw, bodies]
  | _ => exact ⟨(List.append_nil _).symm, (List.append_nil _).symm⟩

/-- A closing dispatcher stays one, and nothing is queued any more that was submitted. -/
theorem Step.of_closing (h : Step u label v) (hu : u.Closes) (hc : u.isClosing = true) :
    v.isClosing = true ∧ v.accepted = u.accepted := by
  have hcall : ∀ {thread : Nat} {b : Activity}, u.threads[thread]? = some b → b.call? = none :=
    fun hb => hu.called hc _ (List.mem_of_getElem? hb)
  cases h with
  | queued _ _ _ hb _ _ | handed _ _ _ hb _ _ | drop _ _ _ hb => exact absurd (hcall hb) nofun
  | close => exact ⟨rfl, rfl⟩
  | _ => exact ⟨hc, rfl⟩

theorem Step.isHeld (h : Step u label v) (hh : u.dispatcher.isHeld = false) :
    v.dispatcher.isHeld = false := by
  cases h with
  | letGo => rfl
  | _ => exact hh

/-- Only a delivery that panics makes a worker one that has panicked. -/
theorem Step.hasPanicked (h : Step u label v) (hn : label.isPanic = false)
    (hp : u.dispatcher.phase.hasPanicked = false) : v.dispatcher.phase.hasPanicked = false := by
  cases h with
  | take m _ _ _ => cases m <;> rfl
  | panic => exact absurd hn nofun
  | cut hw => simp [hw] at hp
  | handed | markHanded | finish | count | notify | leave => rfl
  | _ => exact hp

/-! ## Runs -/

/-- What comes of a usage whose dispatcher is closing, along labels. -/
structure Drains (u : Usage) (labels : List Label) (v : Usage) : Prop where
  /-- The worker is done with messages at the front of what was due, in order. What has come to
  the end is no result, and is nothing if the dispatcher was let go of before. -/
  due : ∃ markers, u.due ++ markers = u.dealt labels ++ v.due ∧
    (∀ m ∈ markers, m.body? = none) ∧ (u.dispatcher.isHeld = false → markers = [])
  accepted : v.accepted = u.accepted
  /-- It has counted the results and come to the markers among the messages that it is done with. -/
  counted : v.counted.map (·.1) = u.counted.map (·.1) ++ bodies (u.dealt labels)
  reached : v.dispatcher.reached =
    u.dispatcher.reached ++ (u.dealt labels).filterMap Message.ticket?
  /-- There are only so many steps until it has left. -/
  steps : (labels.filter (!·.isTurn)).length + v.left ≤ u.left

theorem dealt_cons (hn : u.next? label = some w) (rest : List Label) :
    u.dealt (label :: rest) = label.deals u.dispatcher.phase ++ w.dealt rest := by
  simp only [dealt, hn, Option.elim_some]

theorem Drains.nil (u : Usage) : Drains u [] u where
  due := ⟨[], List.append_nil _, nofun, fun _ => rfl⟩
  accepted := rfl
  counted := (List.append_nil _).symm
  reached := (List.append_nil _).symm
  steps := (Nat.zero_add _).le

/-- **A step before a run that drains is one more that does.** -/
theorem Drains.cons (hn : u.next? label = some w) (ht : u.Tidy) (hu : u.Closes)
    (hc : u.isClosing = true) (hl : label.isPanic = false)
    (hp : u.dispatcher.phase.hasPanicked = false) (h : Drains w labels v) :
    Drains u (label :: labels) v := by
  have hs := step_of_next? hn
  obtain ⟨more, hmore, hbodies, hnone⟩ := hs.due ht hl hp
  obtain ⟨markers, hmarkers, hrest, hempty⟩ := h.due
  obtain ⟨hcounted, hreached⟩ := hs.deals
  have hleft := hs.left_le hu hc hl hp
  have hsteps := h.steps
  refine ⟨⟨more ++ markers, ?_, fun m hm => ?_, fun hh => ?_⟩, ?_, ?_, ?_, ?_⟩
  · rw [dealt_cons hn, ← List.append_assoc, hmore, List.append_assoc, hmarkers, List.append_assoc]
  · rcases List.mem_append.mp hm with hm | hm
    · exact hbodies (hu.called hc) m hm
    · exact hrest m hm
  · rw [hnone (hu.letGo hh).2, hempty (hs.isHeld hh)]
    rfl
  · exact h.accepted.trans (hs.of_closing hu hc).2
  · rw [dealt_cons hn, h.counted, hcounted, bodies_append, List.append_assoc]
  · rw [dealt_cons hn, h.reached, hreached, List.filterMap_append, List.append_assoc]
  · rw [List.filter_cons]
    cases hturn : label.isTurn with
    | true =>
      simp only [hturn, if_true] at hleft
      simp only [Bool.not_true, Bool.false_eq_true, if_false]
      omega
    | false =>
      simp only [hturn, Bool.false_eq_true, if_false] at hleft
      simp only [Bool.not_false, if_true, List.length_cons]
      omega

theorem drains_of_run? (h : u.run? labels = some v) (hu : Reachable e options u)
    (hc : u.isClosing = true) (hp : u.dispatcher.phase.hasPanicked = false)
    (hl : ∀ label ∈ labels, label.isPanic = false) :
    Drains u labels v ∧ v.isClosing = true ∧ v.dispatcher.phase.hasPanicked = false := by
  induction labels generalizing u with
  | nil =>
    cases h
    exact ⟨.nil _, hc, hp⟩
  | cons label rest ih =>
    simp only [run?, Option.bind_eq_some_iff] at h
    obtain ⟨w, hn, h⟩ := h
    have hs := step_of_next? hn
    have hcloses := closes_of_reachable hu
    have hlabel := hl label List.mem_cons_self
    obtain ⟨hd, hclosing, hpanicked⟩ := ih h (hu.reaches (.step label .refl hn))
      (hs.of_closing hcloses hc).1 (hs.hasPanicked hlabel hp)
      fun other ho => hl other (List.mem_cons_of_mem _ ho)
    exact ⟨hd.cons hn (tidy_of_reachable hu) hcloses hc hlabel hp, hclosing, hpanicked⟩

/-! ## Until the worker has left -/

/-- The worker of a dispatcher that is let go of can go on by itself, over any network. -/
theorem exists_work (net : Http.Network) (hh : v.dispatcher.isHeld = false)
    (hp : v.dispatcher.phase.hasPanicked = false) (hf : v.dispatcher.phase ≠ .finished) :
    ∃ label x, (Wired.mk v net).next? e label = some x ∧ label.isWork = true := by
  cases hphase : v.dispatcher.phase with
  | waiting =>
    cases hq : v.dispatcher.queue with
    | nil =>
      have hn : v.next? .leave = some _ := if_pos ⟨hphase, hq, hh⟩
      exact ⟨.leave, _, Wired.next?_of_usage (w := ⟨v, net⟩) (by simp) hn, rfl⟩
    | cons m rest =>
      have ht : v.dispatcher.take? = some ({ v.dispatcher with queue := rest }.receive m) := by
        simp only [take?, hphase, hq]
      have hn : v.next? .take =
          some (v.follow ({ v.dispatcher with queue := rest }.receive m)) := by
        simp only [next?, ht, Option.map_some]
      exact ⟨.take, _, Wired.next?_of_usage (w := ⟨v, net⟩) (by simp) hn, rfl⟩
  | delivering body =>
    cases ha : (Wired.mk v net).attempt e body with
    | mk attempt after =>
      have ho : isOver (settled attempt) = true := by cases attempt <;> rfl
      have hn : v.next? (.finish (settled attempt)) =
          some { v with dispatcher := v.dispatcher.finish body (settled attempt) } := by
        simp only [next?, hphase, ho, if_true]
      exact ⟨_, _, Wired.next?_of_attempt hphase ha hn, rfl⟩
  | counting body result =>
    have hn : v.next? .count = some { v with
        dispatcher := v.dispatcher.count
        counted := v.counted ++ [(body, result)] } := by
      simp only [next?, hphase]
    exact ⟨.count, _, Wired.next?_of_usage (w := ⟨v, net⟩) (by simp) hn, rfl⟩
  | notifying ticket =>
    have hn : v.next? .notify = some { v with dispatcher := v.dispatcher.notify } := by
      simp only [next?, hphase]
    exact ⟨.notify, _, Wired.next?_of_usage (w := ⟨v, net⟩) (by simp) hn, rfl⟩
  | unwinding | gone => simp [hphase] at hp
  | finished => exact absurd hphase hf

/-- **Until the worker has left something happens**, and if the dispatcher is let go of it is the
worker that does it. -/
theorem exists_next_of_closing (net : Http.Network) (hc : v.isClosing = true)
    (hp : v.dispatcher.phase.hasPanicked = false) (hf : v.dispatcher.phase ≠ .finished) :
    ∃ label x, (Wired.mk v net).next? e label = some x ∧ label.isTurn = false ∧
      (v.dispatcher.isHeld = false → label.isWork = true) := by
  cases hh : v.dispatcher.isHeld with
  | false =>
    obtain ⟨label, x, hx, hw⟩ := exists_work (e := e) net hh hp hf
    refine ⟨label, x, hx, ?_, fun _ => hw⟩
    cases label with
    | turn => exact absurd hw nofun
    | _ => rfl
  | true =>
    by_cases hq : v.isQuiet = true
    · have hn : v.next? .letGo = some _ := if_pos ⟨hh, hc, hq⟩
      exact ⟨.letGo, _, Wired.next?_of_usage (w := ⟨v, net⟩) nofun hn, rfl, nofun⟩
    · -- The flush that letting go makes is still under way.
      obtain ⟨thread, a, ha, hi⟩ : ∃ (thread : Nat) (a : Activity),
          v.threads[thread]? = some a ∧ a ≠ .idle := by
        simpa [isQuiet_iff] using hq
      obtain ⟨label, w, hthread, hn⟩ := exists_next ha hi
      have hne : ∀ ended, label ≠ .finish ended := by
        rintro ended rfl
        exact absurd hthread nofun
      refine ⟨label, _, Wired.next?_of_usage (w := ⟨v, net⟩) hne hn, ?_, nofun⟩
      cases label with
      | turn => exact absurd hthread nofun
      | _ => rfl

/-! ## Once the worker has left -/

/-- What is left behind when the worker of a closing dispatcher has left, after labels. -/
structure Emptied (u : Usage) (labels : List Label) (v : Usage) : Prop where
  /-- It has left only after the dispatcher was let go of, with nothing queued any more. -/
  letGo : v.dispatcher.isHeld = false
  queue : v.dispatcher.queue = []
  /-- It is done with all that was due, in order, and after that with markers only, or with nothing
  if the dispatcher was let go of before. -/
  dealt : ∃ markers, u.dealt labels = u.due ++ markers ∧
    (∀ m ∈ markers, m.body? = none) ∧ (u.dispatcher.isHeld = false → markers = [])
  /-- It has begun what was queued and not begun yet, in order, which is all that was accepted, -/
  begun : v.begun = u.begun ++ bodies u.dispatcher.queue ∧ v.begun = u.accepted
  /-- and has counted each of these once. -/
  counted : v.counted.map (·.1) = u.accepted
  /-- It has come to all markers that were queued. -/
  reached : u.markers <+: v.dispatcher.reached
  stats : v.dispatcher.stats.delivered + v.dispatcher.stats.failed =
    v.submissions.countP (·.fate.returned)

theorem markers_eq (u : Usage) :
    u.markers = u.dispatcher.reached ++ u.due.filterMap Message.ticket? := by
  unfold markers due
  rw [List.filterMap_append, ← List.append_assoc]
  cases u.dispatcher.phase <;> rfl

theorem ne_gone (hp : u.dispatcher.phase.hasPanicked = false) : u.dispatcher.phase ≠ .gone := by
  intro hg
  rw [hg] at hp
  exact absurd hp nofun

/-- What was accepted is counted or due. -/
theorem accepted_eq (h : Reachable e options u) (hp : u.dispatcher.phase.hasPanicked = false) :
    u.accepted = u.counted.map (·.1) ++ bodies u.due := by
  have hf := (sound_of_reachable h).flows
  have ha : u.accepted = u.begun ++ bodies u.dispatcher.queue := hf.fifo (ne_gone hp)
  have hb : u.begun = u.counted.map (·.1) ++ u.dispatcher.phase.hand := hf.hand hp
  have hh : u.dispatcher.phase.hand = bodies u.dispatcher.phase.message?.toList := by
    cases u.dispatcher.phase <;> rfl
  rw [ha, hb, hh, due, bodies_append, List.append_assoc]

/-- **A worker that has left has emptied the queue.** -/
theorem Drains.emptied (h : Drains u labels v) (hu : Reachable e options u)
    (hv : Reachable e options v) (hp : u.dispatcher.phase.hasPanicked = false)
    (hf : v.dispatcher.phase = .finished) : Emptied u labels v := by
  have hq := leavesNothing_of_reachable hv hf
  have hs := sound_of_reachable hv
  have hdue : v.due = [] := by
    rw [Usage.due, hf, hq]
    rfl
  have hcounted : v.counted.map (·.1) = v.accepted := by
    have ha := accepted_eq hv (by rw [hf]; rfl)
    rw [hdue] at ha
    exact (ha.trans (List.append_nil _)).symm
  have hbegun : v.begun = v.counted.map (·.1) :=
    (hs.flows.begun_eq hf rfl).trans (List.append_nil _)
  have haccepted : v.begun = u.accepted := (hbegun.trans hcounted).trans h.accepted
  have hfifo : u.accepted = u.begun ++ bodies u.dispatcher.queue :=
    (sound_of_reachable hu).flows.fifo (ne_gone hp)
  obtain ⟨markers, hmarkers, hbodies⟩ := h.due
  rw [hdue, List.append_nil] at hmarkers
  refine ⟨(closes_of_reachable hv).left hf, hq, ⟨markers, hmarkers.symm, hbodies⟩,
    ⟨haccepted.trans hfifo, haccepted⟩, hcounted.trans h.accepted, ?_, ?_⟩
  · rw [h.reached, markers_eq, ← hmarkers, List.filterMap_append, ← List.append_assoc]
    exact List.prefix_append _ _
  · rw [countP_returned, ← hcounted, List.length_map]
    exact hs.balanced.length_counted.symm

/-- **Letting go of a dispatcher loses nothing.** The worker never leaves while the dispatcher is
held. From the moment when a thread begins to let go of it, however the flush that this makes ends,
and if no delivery panics:

* along any run the worker deals with what was due, in order;
* a run has only so many steps besides turns of the hook, and until the worker has left there is a
  next one over any network, its own if the dispatcher is let go of;
* and when it has left, the queue is empty and every result that was accepted is counted. -/
theorem drains_of_closing (hu : Reachable e options u) :
    (u.dispatcher.isHeld = true → u.dispatcher.phase ≠ .finished) ∧
      (u.isClosing = true → u.dispatcher.phase.hasPanicked = false →
        ∀ labels v, u.run? labels = some v → (∀ label ∈ labels, label.isPanic = false) →
          Drains u labels v ∧
            (v.dispatcher.phase = .finished → Emptied u labels v) ∧
            (v.dispatcher.phase ≠ .finished → ∀ net, ∃ label x,
              (Wired.mk v net).next? e label = some x ∧ label.isTurn = false ∧
                (v.dispatcher.isHeld = false → label.isWork = true))) := by
  constructor
  · intro hh hf
    exact absurd (hh.symm.trans ((closes_of_reachable hu).left hf)) nofun
  · intro hc hp labels v hr hl
    obtain ⟨hd, hclosing, hpanicked⟩ := drains_of_run? hr hu hc hp hl
    refine ⟨hd, hd.emptied hu (hu.reaches (.of_run? .refl labels hr)) hp, ?_⟩
    exact fun hf net => exists_next_of_closing net hclosing hpanicked hf

/-- A delivery is under way, a body and the marker of a flush that was given up are queued, and so
is the marker of letting go, whose flush times out too. -/
theorem drains_of_timed_out :
    ∃ u, Reachable (.of "http://[::]" "/") ⟨none, 4, .ofSeconds 2⟩ u ∧
      u.dispatcher.isHeld = false ∧ u.dispatcher.callerLog = [.flushTimedOut] ∧
      u.due = [.body "true".toList, .body "false".toList, .marker 0, .marker 1] ∧
      ∃ labels v, u.run? labels = some v ∧ (∀ label ∈ labels, label.isPanic = false) ∧
        v.dispatcher.phase = .finished ∧ v.dispatcher.stats = ⟨1, 1, 0⟩ ∧
        v.dispatcher.reached = [0, 1] ∧ Emptied u labels v := by
  have hu : (Endpoint.of "http://[::]" "/").targetUrl.toOption = some "http://[::]/".toList := by
    decide +kernel
  have h := Reachable.of_run? hu ⟨none, 4, .ofSeconds 2⟩ 2
    [.submit 0 (.bool true), .offer 0, .take, .submit 0 (.bool false), .offer 0, .flush 1, .mark 1,
      .endFlush 1, .close 0, .mark 0, .endFlush 0, .letGo] rfl
  let labels : List Label := [.finish (.finished (.error (.refused 404 ""))), .count, .take,
    .finish (.finished (.ok ())), .count, .take, .notify, .take, .notify, .leave]
  have hl : ∀ label ∈ labels, label.isPanic = false := by decide
  refine ⟨_, h, rfl, rfl, rfl, labels, _, rfl, hl, rfl, rfl, rfl, ?_⟩
  exact ((drains_of_closing h).2 rfl rfl labels _ rfl hl).2.1 rfl

end Usage

end Courier.Dispatch
