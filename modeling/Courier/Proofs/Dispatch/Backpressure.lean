import Courier.Proofs.Dispatch.Logs
import Courier.Proofs.Dispatch.Tickets

/-!
# Backpressure

A message that reaches a full queue is not waited for. Bodies and markers share the queue and count
alike; what waits keeps its place, and it is the newest that is refused.

Results:

* `length_queue_le` — no more waits than there is room for.
* `fills_of_run?` — while the worker takes no message, what reaches the queue fills it, in order,
  and the rest is refused.
* `backpressure_of_reachable` — **backpressure is exact and drops the newest**, and no submission
  waits.
-/

namespace Courier.Dispatch

open Courier.Dispatcher

/-- What a thread has for the queue. -/
def Activity.message? : Activity → Option Message
  | .offering _ body => some (.body body)
  | .sending ticket => some (.marker ticket)
  | _ => none

/-- The thread that has a message reach the queue. -/
def Label.reaching? : Label → Option Nat
  | .offer thread | .miss thread | .mark thread => some thread
  | _ => none

/-- Nothing that is told before a result is queued says that the queue is full. -/
theorem prepare_queueFull (hook : Option Hook) (payload : Payload) :
    (prepare hook payload).1.count .queueFull = 0 := by
  rw [List.count_eq_zero]
  intro hm
  cases hv : payload.toJson with
  | error cause => simp [prepare, hv] at hm
  | ok value =>
    cases hook with
    | none => simp [prepare, hv] at hm
    | some hook => cases hr : hook.run value <;> simp [prepare, hv, hr] at hm

namespace Usage

variable {u v w : Usage} {label : Label} {labels : List Label} {arrived more : List Message}
  {thread call : Nat} {body : List Char} {e : Endpoint} {options : Options}

/-! ## The room of a queue -/

theorem Step.capacity (h : Step u label v) :
    v.dispatcher.options.capacity = u.dispatcher.options.capacity := by
  cases h <;> rfl

theorem capacity_of_reachable (h : Reachable e options u) :
    u.dispatcher.options.capacity = options.capacity := by
  refine h.keeps (fun {d} hd threads => ?_) fun hs ha => hs.capacity.trans ha
  obtain ⟨url, _, rfl⟩ := eq_of_start hd
  rfl

/-- How many messages there is room for. -/
def room (u : Usage) : Nat :=
  u.dispatcher.options.capacity - u.dispatcher.queue.length

theorem Step.length_queue_le (h : Step u label v)
    (hu : u.dispatcher.queue.length ≤ u.dispatcher.options.capacity) :
    v.dispatcher.queue.length ≤ v.dispatcher.options.capacity := by
  rw [h.capacity]
  cases h with
  | queued _ _ _ _ _ hr | markQueued _ _ _ _ hr =>
    rw [List.length_append]
    exact hr
  | take m rest _ hq =>
    rw [hq] at hu
    exact Nat.le_of_succ_le hu
  | cut _ => exact Nat.zero_le _
  | _ => exact hu

/-- **No more waits than there is room for.** -/
theorem length_queue_le (h : Reachable e options u) :
    u.dispatcher.queue.length ≤ options.capacity := by
  rw [← capacity_of_reachable h]
  refine h.keeps (fun {d} hd threads => ?_) Step.length_queue_le
  obtain ⟨url, _, rfl⟩ := eq_of_start hd
  exact Nat.zero_le _

/-! ## Whether the worker takes a message -/

/-- How many messages the worker has taken. -/
def fetched (u : Usage) : Nat :=
  u.begun.length + u.dispatcher.reached.length + u.dispatcher.phase.ticket?.toList.length

/-- A worker that waits has one message more once it takes one. -/
theorem fetched_of_waiting (hp : u.dispatcher.phase = .waiting) (m : Message) :
    (u.begun ++ m.body?.toList).length + u.dispatcher.reached.length +
      m.phase.ticket?.toList.length = u.fetched + 1 := by
  unfold fetched
  rw [hp]
  cases m with
  | body text => simp [Nat.add_right_comm]
  | marker ticket => simp

/-- A worker takes a message when it waits for one, in the queue or handed over. -/
theorem Step.fetched (h : Step u label v) :
    v.fetched = u.fetched ∨ v.fetched = u.fetched + 1 ∧
      (label = .take ∨ u.dispatcher.options.capacity = 0 ∧ u.dispatcher.phase = .waiting) := by
  cases h with
  | handed _ _ body _ hn hp => exact .inr ⟨fetched_of_waiting hp (.body body), .inr ⟨hn, hp⟩⟩
  | markHanded _ ticket _ hn hp =>
    refine .inr ⟨?_, .inr ⟨hn, hp⟩⟩
    have hf := fetched_of_waiting hp (.marker ticket)
    rwa [Message.body?_marker, Option.toList_none, List.append_nil] at hf
  | take m _ hp _ => exact .inr ⟨fetched_of_waiting hp m, .inl rfl⟩
  | notify ticket hp =>
    refine .inl ?_
    simp [Usage.fetched, hp, Nat.add_assoc]
  | finish _ _ hp | panic _ _ hp | count _ _ hp | cut hp | leave hp _ _ =>
    refine .inl ?_
    simp [Usage.fetched, hp]
  | _ => exact .inl rfl

theorem Step.fetched_le (h : Step u label v) : u.fetched ≤ v.fetched := by
  rcases h.fetched with hf | ⟨hf, _⟩
  · exact hf.ge
  · exact hf ▸ Nat.le_succ _

theorem Reaches.fetched_le (h : Reaches u v) : u.fetched ≤ v.fetched :=
  h.keeps (P := fun v => u.fetched ≤ v.fetched) (Nat.le_refl _) fun hs ha =>
    ha.trans hs.fetched_le

/-- A queue that is gone stays gone. -/
theorem Step.isCut (h : Step u label v) (hu : u.dispatcher.isCut = true) :
    v.dispatcher.isCut = true := by
  cases h with
  | handed _ _ _ _ _ hp | markHanded _ _ _ _ hp | take _ _ hp _ | finish _ _ hp | panic _ _ hp
  | count _ _ hp | notify _ hp =>
    simp [Dispatcher.isCut, hp] at hu
  | cut _ | leave _ _ _ => rfl
  | _ => exact hu

theorem Reaches.isCut (h : Reaches u v) (hv : v.dispatcher.isCut = false) :
    u.dispatcher.isCut = false := by
  by_contra hu
  rw [Bool.not_eq_false] at hu
  have hk := h.keeps (P := fun v => v.dispatcher.isCut = true) hu Step.isCut
  exact absurd (hv.symm.trans hk) nofun

/-! ## What fills the queue -/

/-- The message that reaches the queue when something happens, whether or not it is taken. -/
def arrival? (u : Usage) (label : Label) : Option Message :=
  label.reaching?.bind fun thread => u.threads[thread]?.bind Activity.message?

/-- The messages that reach the queue when all of it happens, in order. -/
def arrivals (u : Usage) : List Label → List Message
  | [] => []
  | label :: rest => (u.arrival? label).toList ++ (u.next? label).elim [] fun v => v.arrivals rest

/-- What comes of messages that reach the queue: the first ones are queued behind those that wait,
as many as there is room for, and callers tell of each other one that the queue is full. -/
structure Fills (u v : Usage) (arrived : List Message) : Prop where
  capacity : v.dispatcher.options.capacity = u.dispatcher.options.capacity
  queue : v.dispatcher.queue = u.dispatcher.queue ++ arrived.take u.room
  accepted : v.accepted = u.accepted ++ bodies (arrived.take u.room)
  refused : ∃ told, v.dispatcher.callerLog = u.dispatcher.callerLog ++ told ∧
    told.count .queueFull = arrived.length - u.room

/-- There is as much less room as messages were queued. -/
theorem Fills.room (h : Fills u v arrived) : v.room = u.room - arrived.length := by
  unfold Usage.room
  rw [h.queue, h.capacity, List.length_append, List.length_take]
  unfold Usage.room
  omega

theorem Fills.trans (h : Fills u v arrived) (hv : Fills v w more) :
    Fills u w (arrived ++ more) := by
  obtain ⟨told, ht, hn⟩ := h.refused
  obtain ⟨told', ht', hn'⟩ := hv.refused
  refine ⟨hv.capacity.trans h.capacity, ?_, ?_, told ++ told', ?_, ?_⟩
  · rw [hv.queue, h.queue, h.room, List.append_assoc, List.take_append]
  · rw [hv.accepted, h.accepted, h.room, List.append_assoc, ← bodies_append, List.take_append]
  · rw [ht', ht, List.append_assoc]
  · rw [List.count_append, hn, hn', h.room, List.length_append]
    omega

/-- Nothing reaches the queue. -/
theorem Fills.nothing {told : List Event}
    (hc : v.dispatcher.options.capacity = u.dispatcher.options.capacity)
    (hq : v.dispatcher.queue = u.dispatcher.queue) (ha : v.accepted = u.accepted)
    (hl : v.dispatcher.callerLog = u.dispatcher.callerLog ++ told)
    (ht : told.count .queueFull = 0) : Fills u v [] := by
  refine ⟨hc, ?_, ?_, told, hl, ?_⟩
  · rw [hq, List.take_nil, List.append_nil]
  · rw [ha, List.take_nil]
    exact (List.append_nil _).symm
  · rw [ht, List.length_nil, Nat.zero_sub]

/-- A message is queued. -/
theorem Fills.queued {m : Message}
    (hr : u.dispatcher.queue.length < u.dispatcher.options.capacity)
    (hc : v.dispatcher.options.capacity = u.dispatcher.options.capacity)
    (hq : v.dispatcher.queue = u.dispatcher.queue ++ [m])
    (ha : v.accepted = u.accepted ++ bodies [m])
    (hl : v.dispatcher.callerLog = u.dispatcher.callerLog) : Fills u v [m] := by
  have hroom : [m].length ≤ u.room := Nat.sub_pos_of_lt hr
  refine ⟨hc, ?_, ?_, [], hl.trans (List.append_nil _).symm, ?_⟩
  · rw [hq, List.take_of_length_le hroom]
  · rw [ha, List.take_of_length_le hroom]
  · rw [Nat.sub_eq_zero_of_le hroom]
    rfl

/-- A body is refused. -/
theorem fills_refuse (hr : u.room = 0) (thread call : Nat) (body : List Char) :
    Fills u (u.refuse thread call body .full) [.body body] := by
  refine ⟨rfl, ?_, ?_, [.queueFull], rfl, ?_⟩
  · rw [hr, List.take_zero]
    exact (List.append_nil _).symm
  · rw [hr, List.take_zero]
    exact (List.append_nil _).symm
  · rw [hr]
    rfl

theorem room_of_not_hasRoom (h : u.dispatcher.hasRoom = false) : u.room = 0 := by
  unfold Dispatcher.hasRoom at h
  unfold room
  split at h
  · rename_i hc
    rw [hc, Nat.zero_sub]
  · exact Nat.sub_eq_zero_of_le (Nat.le_of_not_lt (of_decide_eq_false h))

/-- A queue that is there refuses a message for want of room alone. -/
theorem full_of_refused {m : Message} {refusal : Offer} (hc : u.dispatcher.isCut = false)
    (ho : u.dispatcher.offer m = (refusal, u.dispatcher)) (hr : refusal ≠ .taken) :
    refusal = .full ∧ u.room = 0 := by
  unfold Dispatcher.offer at ho
  rw [hc, if_neg Bool.false_ne_true] at ho
  split at ho
  · exact absurd (congrArg Prod.fst ho).symm hr
  · rename_i hroom
    exact ⟨(congrArg Prod.fst ho).symm, room_of_not_hasRoom (Bool.eq_false_of_not_eq_true hroom)⟩

theorem arrival?_of_thread {a : Activity} (label : Label) (hl : label.reaching? = some thread)
    (ht : u.threads[thread]? = some a) : u.arrival? label = a.message? := by
  unfold arrival?
  rw [hl, Option.bind_some, ht, Option.bind_some]

/-- **A step with which the worker takes no message and the queue stays** has what reaches the queue
queued if there is room, and refused if there is none. -/
theorem Step.fills (h : Step u label v) (hf : v.fetched = u.fetched)
    (hc : v.dispatcher.isCut = false) : Fills u v (u.arrival? label).toList := by
  have htaken : v.fetched ≠ u.fetched + 1 := by omega
  cases h with
  | submit thread payload _ => exact .nothing rfl rfl rfl rfl (prepare_queueFull _ payload)
  | queued thread call body ht _ hr =>
    rw [arrival?_of_thread (.offer thread) rfl ht]
    refine .queued hr rfl rfl ?_ rfl
    exact List.filterMap_append
  | handed thread call body _ _ hp => exact absurd (fetched_of_waiting hp (.body body)) htaken
  | refused thread call body refusal ht ho hr =>
    rw [arrival?_of_thread (.offer thread) rfl ht]
    obtain ⟨rfl, hroom⟩ := full_of_refused (u := u) hc ho hr
    exact fills_refuse hroom thread call body
  | missed thread call body ht hn _ =>
    rw [arrival?_of_thread (.miss thread) rfl ht]
    refine fills_refuse ?_ thread call body
    rw [room, hn, Nat.zero_sub]
  | drop thread call body _ =>
    refine .nothing rfl rfl ?_ (List.append_nil _).symm rfl
    exact (List.filterMap_append).trans (List.append_nil _)
  | markQueued thread ticket ht _ hr =>
    rw [arrival?_of_thread (.mark thread) rfl ht]
    exact .queued hr rfl rfl (List.append_nil _).symm rfl
  | markHanded thread ticket _ _ hp =>
    refine absurd ?_ htaken
    have hs := fetched_of_waiting hp (.marker ticket)
    rwa [Message.body?_marker, Option.toList_none, List.append_nil] at hs
  | givenUp _ _ _ | waited _ _ _ =>
    refine .nothing rfl rfl rfl rfl ?_
    split <;> rfl
  | take m _ hp _ => exact absurd (fetched_of_waiting hp m) htaken
  | cut _ | leave _ _ _ => exact absurd hc nofun
  | _ => exact .nothing rfl rfl rfl (List.append_nil _).symm rfl

/-- **While the worker takes no message, what reaches the queue fills it**, in order, and the rest
is refused. -/
theorem fills_of_run? (h : u.run? labels = some w) (hf : w.fetched = u.fetched)
    (hc : w.dispatcher.isCut = false) : Fills u w (u.arrivals labels) := by
  induction labels generalizing u with
  | nil =>
    cases h
    exact .nothing rfl rfl rfl (List.append_nil _).symm rfl
  | cons label rest ih =>
    simp only [run?, Option.bind_eq_some_iff] at h
    obtain ⟨v, hn, h⟩ := h
    have hr : Reaches v w := Reaches.of_run? .refl rest h
    have hs : Step u label v := step_of_next? hn
    have hv : v.fetched = u.fetched := le_antisymm (hf ▸ hr.fetched_le) hs.fetched_le
    rw [arrivals, hn]
    exact (hs.fills hv (hr.isCut hc)).trans (ih h (hf.trans hv.symm))

/-! ## What is answered -/

/-- What comes of messages that reach the queue, of the body that is offered next, and of a body
that was refused. -/
structure Backpressure (u w : Usage) (arrived : List Message) : Prop extends Fills u w arrived where
  /-- The next submission is over and has returned true if there is room for it, else its thread
  tells that the queue is full and -/
  next : ∀ (thread call : Nat) body label x, w.threads[thread]? = some (.offering call body) →
    label.reaching? = some thread → w.next? label = some x → x.fetched = w.fetched →
      if arrived.length < u.room then
        x.submissions = w.submissions ++ [⟨thread, call, .queued body⟩]
      else x.threads[thread]? = some (.dropping call (some body)) ∧
        x.dispatcher.callerLog = w.dispatcher.callerLog ++ [.queueFull]
  /-- counts one more drop, with which it has returned false. -/
  drop : ∀ (thread call : Nat) body, w.threads[thread]? = some (.dropping call body) →
    ∃ x, w.next? (.drop thread) = some x ∧
      x.submissions = w.submissions ++ [⟨thread, call, .refused body⟩] ∧
      x.dispatcher = w.dispatcher.dropOne

/-- **What becomes of the body that is offered next**, if the worker takes no message. -/
theorem Step.answered (h : Step u label v) (hc : u.dispatcher.isCut = false)
    (ht : u.threads[thread]? = some (.offering call body)) (hl : label.reaching? = some thread)
    (hf : v.fetched = u.fetched) :
    0 < u.room ∧ v.submissions = u.submissions ++ [⟨thread, call, .queued body⟩] ∨
      u.room = 0 ∧ v.threads[thread]? = some (.dropping call (some body)) ∧
        v.dispatcher.callerLog = u.dispatcher.callerLog ++ [.queueFull] := by
  have htaken : v.fetched ≠ u.fetched + 1 := by omega
  have hset : ∀ a : Activity, (u.threads.set thread a)[thread]? = some a := fun a =>
    List.getElem?_set_self (List.getElem?_eq_some_iff.mp ht).1
  cases h with
  | queued other _ _ ho _ hr =>
    cases hl
    cases Option.some.inj (ht.symm.trans ho)
    exact .inl ⟨Nat.sub_pos_of_lt hr, rfl⟩
  | handed _ _ body _ _ hp => exact absurd (fetched_of_waiting hp (.body body)) htaken
  | refused other _ _ refusal ho hoffer hr =>
    cases hl
    cases Option.some.inj (ht.symm.trans ho)
    obtain ⟨rfl, hroom⟩ := full_of_refused hc hoffer hr
    exact .inr ⟨hroom, hset _, rfl⟩
  | missed other _ _ ho hn _ =>
    cases hl
    cases Option.some.inj (ht.symm.trans ho)
    refine .inr ⟨?_, hset _, rfl⟩
    rw [room, hn, Nat.zero_sub]
  | markQueued other _ ho _ _ | markHanded other _ ho _ _ =>
    cases hl
    exact absurd (Option.some.inj (ht.symm.trans ho)) nofun
  | _ => exact absurd hl nofun

/-- **Backpressure is exact and drops the newest.** No more than the capacity is queued. While the
worker takes no message and the queue stays, the first messages that reach the queue are queued in
order, as many as there is room for, and every later submission is refused, told and counted as
dropped. A thread that is in a submission can always go on by itself, and is done with it after two
steps at most. -/
theorem backpressure_of_reachable (h : Reachable e options u) :
    u.dispatcher.queue.length ≤ options.capacity ∧
    u.room = options.capacity - u.dispatcher.queue.length ∧
    (∀ labels w, u.run? labels = some w → w.fetched = u.fetched → w.dispatcher.isCut = false →
      Backpressure u w (u.arrivals labels)) ∧
    ∀ (thread : Nat) (a : Activity), u.threads[thread]? = some a → a.call?.isSome = true →
      a.left ≤ 2 ∧ (∃ label v, label.thread? = some thread ∧ u.next? label = some v) ∧
        ∀ label v, u.next? label = some v → Nearer thread a label v := by
  refine ⟨length_queue_le h, by rw [room, capacity_of_reachable h], ?_, ?_⟩
  · intro labels w hr hf hc
    have hw := fills_of_run? hr hf hc
    refine ⟨hw, fun thread call body label x ht hl hx hfx => ?_, fun thread call body ht => ?_⟩
    · have hroom := hw.room
      rcases (step_of_next? hx).answered hc ht hl hfx with ⟨hpos, hs⟩ | ⟨hzero, hd⟩
      · rw [if_pos (by omega)]
        exact hs
      · rw [if_neg (by omega)]
        exact hd
    · refine ⟨w.drop thread call body, ?_, rfl, rfl⟩
      simp only [next?, ht]
  · intro thread a ha hc
    refine ⟨?_, exists_next ha ?_, fun label v hn => (step_of_next? hn).nearer_of_call ha hc⟩
    · cases a <;> simp [Activity.left]
    · rintro rfl
      cases hc

/-- The worker is busy, and a marker waits where there is room for two: one of three results that
reach the queue is queued behind it. Without capacity none is. -/
theorem backpressure_of_marker :
    (∃ u labels w, Reachable (.of "http://[::]" "/") ⟨none, 2, .ofSeconds 2⟩ u ∧
      u.dispatcher.queue = [.marker 0] ∧ u.dispatcher.phase.hand ≠ [] ∧
      u.run? labels = some w ∧ w.fetched = u.fetched ∧ w.dispatcher.isCut = false ∧
      (u.arrivals labels).length = 3 ∧ w.dispatcher.stats = ⟨0, 0, 2⟩ ∧
      Backpressure u w (u.arrivals labels)) ∧
    ∃ u labels w, Reachable (.of "http://[::]" "/") ⟨none, 0, .ofSeconds 2⟩ u ∧
      u.dispatcher.phase.hand ≠ [] ∧ u.run? labels = some w ∧ w.fetched = u.fetched ∧
      w.dispatcher.isCut = false ∧ (u.arrivals labels).length = 1 ∧
      w.dispatcher.stats = ⟨0, 0, 1⟩ ∧ Backpressure u w (u.arrivals labels) := by
  have hu : (Endpoint.of "http://[::]" "/").targetUrl.toOption = some "http://[::]/".toList := by
    decide +kernel
  constructor
  · have h := Reachable.of_run? hu ⟨none, 2, .ofSeconds 2⟩ 2
      [.submit 0 (.bool true), .offer 0, .take, .flush 1, .mark 1] rfl
    let labels : List Label := [.submit 0 (.bool true), .offer 0, .submit 0 (.bool false),
      .endFlush 1, .submit 1 (.bool true), .offer 1, .offer 0, .drop 1, .drop 0]
    refine ⟨_, labels, _, h, rfl, nofun, rfl, rfl, rfl, rfl, rfl, ?_⟩
    exact (backpressure_of_reachable h).2.2.1 labels _ rfl rfl rfl
  · have h := Reachable.of_run? hu ⟨none, 0, .ofSeconds 2⟩ 1 [.submit 0 (.bool true), .offer 0] rfl
    let labels : List Label := [.submit 0 (.bool true), .offer 0, .drop 0]
    refine ⟨_, labels, _, h, nofun, rfl, rfl, rfl, rfl, rfl, ?_⟩
    exact (backpressure_of_reachable h).2.2.1 labels _ rfl rfl rfl

end Usage

end Courier.Dispatch
