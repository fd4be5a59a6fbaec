import Courier.Proofs.Dispatch.Ledger

/-!
# The steps of a usage

`Step` says once what every label does and when, with the choices of `next?` resolved; a usage
whose `next?` is another one steps to it (`step_of_next?`), and to no other (`next?_of_step`).
Whatever is to be shown of all usages that can come of a new dispatcher is shown for its
constructors (`Reaches.keeps`).

`Usage.ledger` forgets threads, hooks and logs. A step of a usage whose threads and queue are
`Tidy` is nothing or a few moves of its ledger (`Step.moves`), so that the ledger of a reachable
usage is sound (`sound_of_reachable`).
-/

namespace Courier.Dispatch

open Courier.Dispatcher

/-- An offer is taken if there is a queue with room, and changes nothing else. -/
theorem offer_cases (d : Dispatcher) (m : Message) :
    (d.isCut = false ∧ d.hasRoom = true ∧ d.offer m = (.taken, d.accept m)) ∨
      ∃ refusal, refusal ≠ .taken ∧ d.offer m = (refusal, d) := by
  unfold offer
  cases hc : d.isCut with
  | true => exact .inr ⟨.cut, nofun, rfl⟩
  | false =>
    cases hr : d.hasRoom with
    | true => exact .inl ⟨rfl, rfl, rfl⟩
    | false => exact .inr ⟨.full, nofun, rfl⟩

/-- A message is queued if there is room for it. -/
theorem offer_of_length_lt {d : Dispatcher} (hc : d.isCut = false)
    (hr : d.queue.length < d.options.capacity) (m : Message) :
    d.offer m = (.taken, { d with queue := d.queue ++ [m] }) := by
  have hn : d.options.capacity ≠ 0 := by omega
  have hroom : d.hasRoom = true := by simp [hasRoom, hn, hr]
  unfold Dispatcher.offer
  rw [hc, if_neg Bool.false_ne_true, if_pos hroom, accept_of_capacity hn]

/-- A message is handed to a worker that waits if there is no queue. -/
theorem offer_of_waiting {d : Dispatcher} (hn : d.options.capacity = 0) (hp : d.phase = .waiting)
    (m : Message) : d.offer m = (.taken, d.receive m) := by
  have hc : d.isCut = false := by simp [isCut, hp]
  have hroom : d.hasRoom = true := by simp [hasRoom, hn, hp]
  unfold Dispatcher.offer
  rw [hc, if_neg Bool.false_ne_true, if_pos hroom, accept_of_no_capacity hn]

namespace Usage

/-- What can happen to a usage. -/
inductive Step (u : Usage) : Label → Usage → Prop where
  | submit (thread : Nat) (payload : Payload) (h : u.isFree thread = true) :
      Step u (.submit thread payload) (u.submit thread payload)
  | queued (thread call : Nat) (body : List Char)
      (h : u.threads[thread]? = some (.offering call body)) (hc : u.dispatcher.isCut = false)
      (hr : u.dispatcher.queue.length < u.dispatcher.options.capacity) :
      Step u (.offer thread) { u.put thread .idle with
        dispatcher := { u.dispatcher with queue := u.dispatcher.queue ++ [.body body] }
        submissions := u.submissions ++ [⟨thread, call, .queued body⟩] }
  | handed (thread call : Nat) (body : List Char)
      (h : u.threads[thread]? = some (.offering call body))
      (hn : u.dispatcher.options.capacity = 0) (hp : u.dispatcher.phase = .waiting) :
      Step u (.offer thread) { u.put thread .idle with
        dispatcher := { u.dispatcher with phase := .delivering body }
        begun := u.begun ++ [body]
        submissions := u.submissions ++ [⟨thread, call, .queued body⟩] }
  | refused (thread call : Nat) (body : List Char) (refusal : Offer)
      (h : u.threads[thread]? = some (.offering call body))
      (ho : u.dispatcher.offer (.body body) = (refusal, u.dispatcher)) (hr : refusal ≠ .taken) :
      Step u (.offer thread) (u.refuse thread call body refusal)
  | missed (thread call : Nat) (body : List Char)
      (h : u.threads[thread]? = some (.offering call body))
      (hn : u.dispatcher.options.capacity = 0) (hc : u.dispatcher.isCut = false) :
      Step u (.miss thread) (u.refuse thread call body .full)
  | drop (thread call : Nat) (body : Option (List Char))
      (h : u.threads[thread]? = some (.dropping call body)) :
      Step u (.drop thread) (u.drop thread call body)
  | flush (thread : Nat) (h : u.isFree thread = true) : Step u (.flush thread) (u.flush thread)
  | markQueued (thread ticket : Nat) (h : u.threads[thread]? = some (.sending ticket))
      (hc : u.dispatcher.isCut = false)
      (hr : u.dispatcher.queue.length < u.dispatcher.options.capacity) :
      Step u (.mark thread) { u.put thread (.awaiting ticket) with
        dispatcher := { u.dispatcher with queue := u.dispatcher.queue ++ [.marker ticket] } }
  | markHanded (thread ticket : Nat) (h : u.threads[thread]? = some (.sending ticket))
      (hn : u.dispatcher.options.capacity = 0) (hp : u.dispatcher.phase = .waiting) :
      Step u (.mark thread) { u.put thread (.awaiting ticket) with
        dispatcher := { u.dispatcher with phase := .notifying ticket } }
  | givenUp (thread ticket : Nat) (h : u.threads[thread]? = some (.sending ticket)) :
      Step u (.endFlush thread) (u.endFlush thread ticket false)
  | waited (thread ticket : Nat) (h : u.threads[thread]? = some (.awaiting ticket)) :
      Step u (.endFlush thread) (u.endFlush thread ticket (u.dispatcher.hasReached ticket))
  | turn (hook : Hook) (h : u.dispatcher.options.hook.isSome = true) :
      Step u (.turn hook) { u with dispatcher := u.dispatcher.withHook hook }
  | close (thread : Nat) (h : u.isFree thread = true) (hq : u.isQuiet = true) :
      Step u (.close thread) { u.flush thread with isClosing := true }
  | letGo (hh : u.dispatcher.isHeld = true) (hc : u.isClosing = true) (hq : u.isQuiet = true) :
      Step u .letGo { u with dispatcher := u.dispatcher.letGo }
  | take (m : Message) (rest : List Message) (hp : u.dispatcher.phase = .waiting)
      (hq : u.dispatcher.queue = m :: rest) :
      Step u .take { u with
        dispatcher := { u.dispatcher with queue := rest, phase := m.phase }
        begun := u.begun ++ m.body?.toList }
  | finish (body : List Char) (result : Except Failure Unit)
      (hp : u.dispatcher.phase = .delivering body) :
      Step u (.finish (.finished result)) { u with
        dispatcher := { u.dispatcher with
          phase := .counting body result
          workerLog := u.dispatcher.workerLog ++ [.ofResult u.dispatcher.url body result] } }
  | panic (body : List Char) (message : String) (hp : u.dispatcher.phase = .delivering body) :
      Step u (.finish (.panicked message)) { u with
        dispatcher := { u.dispatcher with
          phase := .unwinding
          workerLog := u.dispatcher.workerLog ++ [.workerPanicked] } }
  | count (body : List Char) (result : Except Failure Unit)
      (hp : u.dispatcher.phase = .counting body result) :
      Step u .count { u with
        dispatcher := { u.dispatcher with
          phase := .waiting
          stats := u.dispatcher.stats.record result }
        counted := u.counted ++ [(body, result)] }
  | notify (ticket : Nat) (hp : u.dispatcher.phase = .notifying ticket) :
      Step u .notify { u with
        dispatcher := { u.dispatcher with
          phase := .waiting
          reached := u.dispatcher.reached ++ [ticket] } }
  | cut (hp : u.dispatcher.phase = .unwinding) :
      Step u .cut { u with dispatcher := { u.dispatcher with phase := .gone, queue := [] } }
  | leave (hp : u.dispatcher.phase = .waiting) (hq : u.dispatcher.queue = [])
      (hh : u.dispatcher.isHeld = false) :
      Step u .leave { u with dispatcher := { u.dispatcher with phase := .finished } }

variable {u v w : Usage} {label : Label}

/-- A step that leaves the worker where it is begins no delivery. -/
theorem follow_of_phase {d : Dispatcher} (h : d.phase = u.dispatcher.phase) :
    u.follow d = { u with dispatcher := d } := by
  unfold follow
  rw [h]
  cases u.dispatcher.phase <;> simp [Phase.begins]

/-- What a waiting worker begins with a message is its body, if it has one. -/
theorem follow_of_waiting {d : Dispatcher} {m : Message} (hw : u.dispatcher.phase = .waiting)
    (h : d.phase = m.phase) :
    u.follow d = { u with dispatcher := d, begun := u.begun ++ m.body?.toList } := by
  unfold follow
  rw [hw, h]
  cases m <;> rfl

/-- What becomes of a message that is taken: it is queued behind the others, or without capacity
handed to the worker that waits. -/
theorem follow_accept (m : Message) (hr : u.dispatcher.hasRoom = true) :
    u.dispatcher.queue.length < u.dispatcher.options.capacity ∧
        u.follow (u.dispatcher.accept m) =
          { u with dispatcher := { u.dispatcher with queue := u.dispatcher.queue ++ [m] } } ∨
      (u.dispatcher.options.capacity = 0 ∧ u.dispatcher.phase = .waiting) ∧
        u.follow (u.dispatcher.accept m) =
          { u with
            dispatcher := { u.dispatcher with phase := m.phase }
            begun := u.begun ++ m.body?.toList } := by
  unfold hasRoom at hr
  by_cases hc : u.dispatcher.options.capacity = 0
  · rw [if_pos hc, decide_eq_true_eq] at hr
    refine .inr ⟨⟨hc, hr⟩, ?_⟩
    rw [accept_of_no_capacity hc]
    exact follow_of_waiting hr rfl
  · rw [if_neg hc, decide_eq_true_eq] at hr
    refine .inl ⟨hr, ?_⟩
    rw [accept_of_capacity hc]
    exact follow_of_phase rfl

/-- A body that is offered is queued, handed over or refused. -/
theorem step_of_offer {thread call : Nat} {body : List Char}
    (ht : u.threads[thread]? = some (.offering call body)) :
    Step u (.offer thread) (u.offer thread call body) := by
  unfold Usage.offer
  rcases offer_cases u.dispatcher (.body body) with ⟨hc, hr, ho⟩ | ⟨refusal, hn, ho⟩
  · rw [ho]
    rcases follow_accept (.body body) hr with ⟨hl, hf⟩ | ⟨⟨hn, hp⟩, hf⟩
    · simp only [hf]
      exact .queued thread call body ht hc hl
    · simp only [hf]
      exact .handed thread call body ht hn hp
  · rw [ho]
    cases refusal with
    | taken => exact absurd rfl hn
    | full => exact .refused thread call body _ ht ho hn
    | cut => exact .refused thread call body _ ht ho hn

/-- A marker that can be queued is queued or handed over. -/
theorem step_of_mark? {thread ticket : Nat}
    (ht : u.threads[thread]? = some (.sending ticket)) (h : u.mark? thread ticket = some v) :
    Step u (.mark thread) v := by
  unfold Usage.mark? at h
  rcases offer_cases u.dispatcher (.marker ticket) with ⟨hc, hr, ho⟩ | ⟨refusal, hn, ho⟩
  · rw [ho] at h
    cases h
    rcases follow_accept (.marker ticket) hr with ⟨hl, hf⟩ | ⟨⟨hn, hp⟩, hf⟩
    · simp only [hf]
      exact .markQueued thread ticket ht hc hl
    · simp only [hf, Message.body?, Option.toList, List.append_nil]
      exact .markHanded thread ticket ht hn hp
  · rw [ho] at h
    cases refusal with
    | taken => exact absurd rfl hn
    | full => exact absurd h nofun
    | cut => exact absurd h nofun

/-- What `next?` computes is a step. -/
theorem step_of_next? (h : u.next? label = some v) : Step u label v := by
  cases label with
  | submit thread payload =>
    obtain ⟨hf, h⟩ := Option.ite_none_right_eq_some.mp h
    cases h
    exact .submit thread payload hf
  | offer thread =>
    simp only [next?] at h
    split at h
    · rename_i call body ht
      cases h
      exact step_of_offer ht
    · exact absurd h nofun
  | miss thread =>
    simp only [next?] at h
    split at h
    · rename_i call body ht
      obtain ⟨⟨hc, hr⟩, h⟩ := Option.ite_none_right_eq_some.mp h
      cases h
      exact .missed thread call body ht hc hr
    · exact absurd h nofun
  | drop thread =>
    simp only [next?] at h
    split at h
    · rename_i call body ht
      cases h
      exact .drop thread call body ht
    · exact absurd h nofun
  | flush thread =>
    obtain ⟨hf, h⟩ := Option.ite_none_right_eq_some.mp h
    cases h
    exact .flush thread hf
  | mark thread =>
    simp only [next?] at h
    split at h
    · rename_i ticket ht
      exact step_of_mark? ht h
    · exact absurd h nofun
  | endFlush thread =>
    simp only [next?] at h
    split at h
    · rename_i ticket ht
      cases h
      exact .givenUp thread ticket ht
    · rename_i ticket ht
      cases h
      exact .waited thread ticket ht
    · exact absurd h nofun
  | turn hook =>
    obtain ⟨hh, h⟩ := Option.ite_none_right_eq_some.mp h
    cases h
    exact .turn hook hh
  | close thread =>
    obtain ⟨⟨hf, hq⟩, h⟩ := Option.ite_none_right_eq_some.mp h
    cases h
    exact .close thread hf hq
  | letGo =>
    obtain ⟨⟨hh, hc, hq⟩, h⟩ := Option.ite_none_right_eq_some.mp h
    cases h
    exact .letGo hh hc hq
  | take =>
    simp only [next?, take?] at h
    split at h
    · rename_i m rest hp hq
      cases h
      rw [follow_of_waiting hp rfl]
      exact .take m rest hp hq
    · exact absurd h nofun
  | finish attempt =>
    simp only [next?] at h
    split at h
    · rename_i body hp
      obtain ⟨ha, h⟩ := Option.ite_none_right_eq_some.mp h
      cases h
      cases attempt with
      | finished result => exact .finish body result hp
      | panicked message => exact .panic body message hp
      | waiting => exact absurd ha nofun
    · exact absurd h nofun
  | count =>
    simp only [next?] at h
    split at h
    · rename_i body result hp
      cases h
      unfold Dispatcher.count
      rw [hp]
      exact .count body result hp
    · exact absurd h nofun
  | notify =>
    simp only [next?] at h
    split at h
    · rename_i ticket hp
      cases h
      unfold Dispatcher.notify
      rw [hp]
      exact .notify ticket hp
    · exact absurd h nofun
  | cut =>
    obtain ⟨hp, h⟩ := Option.ite_none_right_eq_some.mp h
    cases h
    unfold Dispatcher.cut
    rw [if_pos hp]
    exact .cut hp
  | leave =>
    obtain ⟨hl, h⟩ := Option.ite_none_right_eq_some.mp h
    cases h
    unfold Dispatcher.leave
    rw [if_pos hl]
    exact .leave hl.1 hl.2.1 hl.2.2

/-- What is a step is what `next?` computes. -/
theorem next?_of_step (h : Step u label v) : u.next? label = some v := by
  cases h with
  | submit thread payload hf => simp only [next?, hf, if_true]
  | queued thread call body ht hc hr =>
    have ho := offer_of_length_lt hc hr (.body body)
    have hf : u.follow { u.dispatcher with queue := u.dispatcher.queue ++ [.body body] } = _ :=
      follow_of_phase rfl
    simp only [next?, ht, Usage.offer, ho, hf]
    rfl
  | handed thread call body ht hn hp =>
    have ho := offer_of_waiting hn hp (.body body)
    simp only [next?, ht, Usage.offer, ho]
    rw [follow_of_waiting (m := .body body) hp rfl]
    rfl
  | refused thread call body refusal ht ho hr => simp only [next?, ht, Usage.offer, ho]
  | missed thread call body ht hn hc => simp only [next?, ht, hn, hc, and_self, if_true]
  | drop thread call body ht => simp only [next?, ht]
  | flush thread hf => simp only [next?, hf, if_true]
  | markQueued thread ticket ht hc hr =>
    have ho := offer_of_length_lt hc hr (.marker ticket)
    have hf : u.follow { u.dispatcher with queue := u.dispatcher.queue ++ [.marker ticket] } = _ :=
      follow_of_phase rfl
    simp only [next?, ht, mark?, ho, hf]
    rfl
  | markHanded thread ticket ht hn hp =>
    have ho := offer_of_waiting hn hp (.marker ticket)
    simp only [next?, ht, mark?, ho]
    rw [follow_of_waiting (m := .marker ticket) hp rfl]
    simp only [Message.body?_marker, Option.toList_none, List.append_nil]
    rfl
  | givenUp thread ticket ht => simp only [next?, ht]
  | waited thread ticket ht => simp only [next?, ht]
  | turn hook hh => simp only [next?, hh, if_true]
  | close thread hf hq => simp only [next?, hf, hq, and_self, if_true]
  | letGo hh hc hq => simp only [next?, hh, hc, hq, and_self, if_true]
  | take m rest hp hq =>
    simp only [next?, take?, hp, hq, Option.map_some]
    rw [follow_of_waiting hp rfl]
    rfl
  | finish body result hp =>
    simp only [next?, hp, isOver, if_true]
    rfl
  | panic body message hp =>
    simp only [next?, hp, isOver, if_true]
    rfl
  | count body result hp => simp only [next?, hp, Dispatcher.count]
  | notify ticket hp => simp only [next?, hp, Dispatcher.notify]
  | cut hp => simp only [next?, hp, if_true, Dispatcher.cut]
  | leave hp hq hh => simp only [next?, hp, hq, hh, and_self, if_true, Dispatcher.leave]

/-- What a usage has and every step keeps, whatever can come of the usage has. -/
theorem Reaches.keeps {P : Usage → Prop} (h : Reaches u v) (hu : P u)
    (hs : ∀ {a b label}, Step a label b → P a → P b) : P v := by
  induction h with
  | refl => exact hu
  | step label _ hn ih => exact hs (step_of_next? hn) ih

/-- Submissions that are over stay so. -/
theorem Step.submissions_prefix (h : Step u label v) : u.submissions <+: v.submissions := by
  cases h with
  | queued | handed | drop => exact List.prefix_append _ _
  | _ => exact List.prefix_rfl

theorem Reaches.submissions_prefix (h : Reaches u v) : u.submissions <+: v.submissions :=
  h.keeps (P := fun v => u.submissions <+: v.submissions) List.prefix_rfl
    fun hs ha => ha.trans hs.submissions_prefix

theorem Step.length_threads (h : Step u label v) : v.threads.length = u.threads.length := by
  cases h with
  | turn | letGo | take | finish | panic | count | notify | cut | leave => rfl
  | _ => exact List.length_set

/-! ## Tidy usages -/

/-- After a thread went to something else, it is at that and every other thread where it was. -/
theorem getElem?_set_cases {α : Type} {threads : List α} {thread other : Nat} {a b : α}
    (h : (threads.set thread a)[other]? = some b) :
    other = thread ∧ b = a ∨ other ≠ thread ∧ threads[other]? = some b := by
  rw [List.getElem?_set] at h
  by_cases ho : thread = other
  · rw [if_pos ho] at h
    obtain ⟨_, h⟩ := Option.ite_none_right_eq_some.mp h
    cases h
    exact .inl ⟨ho.symm, rfl⟩
  · rw [if_neg ho] at h
    exact .inr ⟨fun he => ho he.symm, h⟩

/-- What is known of the threads and the queue of a usage by itself: without capacity nothing is
queued, and every ticket of a flush was issued when the flush was called. -/
structure Tidy (u : Usage) : Prop where
  rendezvous : u.dispatcher.options.capacity = 0 → u.dispatcher.queue = []
  issued : u.marks.length = u.dispatcher.tickets
  underWay : ∀ a : Activity, a ∈ u.threads → ∀ ticket ∈ a.ticket?, ticket < u.marks.length

/-- A thread may go to whatever has no ticket or one that was issued. -/
theorem Tidy.set {thread : Nat} {a : Activity} (hu : u.Tidy)
    (ha : ∀ ticket ∈ a.ticket?, ticket < u.marks.length) :
    ∀ b : Activity, b ∈ u.threads.set thread a → ∀ ticket ∈ b.ticket?,
      ticket < u.marks.length := by
  intro b hb
  rcases List.mem_or_eq_of_mem_set hb with hb | rfl
  · exact hu.underWay b hb
  · exact ha

theorem Tidy.flush (hu : u.Tidy) (thread : Nat) : (u.flush thread).Tidy where
  rendezvous := hu.rendezvous
  issued := by
    show (u.marks ++ [u.accepted]).length = u.dispatcher.tickets + 1
    rw [List.length_append, hu.issued]
    rfl
  underWay := by
    intro a ha ticket ht
    show ticket < (u.marks ++ [u.accepted]).length
    rw [List.length_append]
    rcases List.mem_or_eq_of_mem_set ha with ha | rfl
    · exact Nat.lt_add_right _ (hu.underWay a ha ticket ht)
    · cases ht
      exact hu.issued ▸ Nat.lt_succ_self _

theorem Step.tidy (h : Step u label v) (hu : u.Tidy) : v.Tidy := by
  cases h with
  | submit thread payload _ =>
    refine ⟨hu.rendezvous, hu.issued, hu.set ?_⟩
    rw [Activity.ticket?_called]
    exact nofun
  | queued _ _ _ _ _ hr =>
    exact ⟨fun hc => absurd hr (by rw [hc]; exact Nat.not_lt_zero _), hu.issued, hu.set nofun⟩
  | handed => exact ⟨hu.rendezvous, hu.issued, hu.set nofun⟩
  | refused => exact ⟨hu.rendezvous, hu.issued, hu.set nofun⟩
  | missed => exact ⟨hu.rendezvous, hu.issued, hu.set nofun⟩
  | drop => exact ⟨hu.rendezvous, hu.issued, hu.set nofun⟩
  | flush thread _ => exact hu.flush thread
  | markQueued thread ticket ht _ hr =>
    refine ⟨fun hc => absurd hr (by rw [hc]; exact Nat.not_lt_zero _), hu.issued, hu.set ?_⟩
    exact hu.underWay (.sending ticket) (List.mem_of_getElem? ht)
  | markHanded thread ticket ht _ _ =>
    refine ⟨hu.rendezvous, hu.issued, hu.set ?_⟩
    exact hu.underWay (.sending ticket) (List.mem_of_getElem? ht)
  | givenUp => exact ⟨hu.rendezvous, hu.issued, hu.set nofun⟩
  | waited => exact ⟨hu.rendezvous, hu.issued, hu.set nofun⟩
  | close thread _ _ =>
    have hf := hu.flush thread
    exact ⟨hf.rendezvous, hf.issued, hf.underWay⟩
  | take m rest _ hq =>
    refine ⟨fun hc => ?_, hu.issued, hu.underWay⟩
    rw [hu.rendezvous hc] at hq
    exact absurd hq nofun
  | cut => exact ⟨fun _ => rfl, hu.issued, hu.underWay⟩
  | _ => exact ⟨hu.rendezvous, hu.issued, hu.underWay⟩

/-! ## Ledgers of usages -/

/-- What was queued and refused in a usage, what is queued, and what came of it. -/
def ledger (u : Usage) : Ledger where
  accepted := u.accepted
  refused := u.submissions.countP (!·.fate.returned)
  marks := u.marks
  queue := u.dispatcher.queue
  phase := u.dispatcher.phase
  begun := u.begun
  counted := u.counted
  reached := u.dispatcher.reached
  stats := u.dispatcher.stats

theorem phase_ne_gone (hc : u.dispatcher.isCut = false) : u.dispatcher.phase ≠ .gone := by
  intro hp
  simp [isCut, hp] at hc

/-- **What a step does to the ledger.** A step of a tidy usage is a few moves of its ledger: none
for most of what threads do, and two where a message is handed over without a queue. -/
theorem Step.moves (h : Step u label v) (hu : u.Tidy) : Moves u.ledger v.ledger := by
  cases h with
  | queued thread call body _ hc _ =>
    have hm := Move.accept (l := u.ledger) body (phase_ne_gone hc)
    refine .single ?_
    simpa [ledger, accepted, put] using hm
  | handed thread call body _ hn hp =>
    have hq := hu.rendezvous hn
    have ha := Move.accept (l := u.ledger) body (by simp [ledger, hp])
    have ht := Move.take (l := { u.ledger with
      accepted := u.accepted ++ [body], queue := [.body body] }) (.body body) [] hp rfl
    refine .tail (.single ha) ?_
    simpa [ledger, accepted, put, hq] using ht
  | drop thread call body _ =>
    have hm := Move.refuse (l := u.ledger)
    refine .single ?_
    simpa [ledger, accepted, put, Usage.drop, dropOne, List.filterMap_cons] using hm
  | flush thread _ => exact .single .call
  | close thread _ _ => exact .single .call
  | markQueued thread ticket ht hc _ =>
    have hi := hu.underWay (.sending ticket) (List.mem_of_getElem? ht) ticket rfl
    exact .single (.mark ticket (phase_ne_gone hc) hi)
  | markHanded thread ticket ht hn hp =>
    have hi := hu.underWay (.sending ticket) (List.mem_of_getElem? ht) ticket rfl
    have hq := hu.rendezvous hn
    have hm := Move.mark (l := u.ledger) ticket (by simp [ledger, hp]) hi
    have ht := Move.take (l := { u.ledger with queue := [.marker ticket] })
      (.marker ticket) [] hp rfl
    refine .tail (.single hm) ?_
    simpa [ledger, accepted, put, hq] using ht
  | take m rest hp hq => exact .single (.take m rest hp hq)
  | finish body result hp => exact .single (.finish body result hp)
  | panic body _ hp => exact .single (.panic body hp)
  | count body result hp => exact .single (.count body result hp)
  | notify ticket hp => exact .single (.notify ticket hp)
  | cut hp => exact .single (.cut hp)
  | leave hp hq _ => exact .single (.leave hp hq)
  | submit | refused | missed | givenUp | waited | turn | letGo => exact .refl

/-- The ledger of a tidy usage moves along with it. -/
theorem Reaches.moves (h : Reaches u v) (hu : u.Tidy) : v.Tidy ∧ Moves u.ledger v.ledger := by
  apply h.keeps (P := fun v => v.Tidy ∧ Moves u.ledger v.ledger)
  · exact ⟨hu, .refl⟩
  · intro a b label hs ha
    exact ⟨hs.tidy ha.1, ha.2.trans (hs.moves ha.1)⟩

/-! ## What can come of a new dispatcher -/

variable {e : Endpoint} {options : Options} {d : Dispatcher}

theorem Reaches.trans (h : Reaches u v) (hv : Reaches v w) : Reaches u w := by
  induction hv with
  | refl => exact h
  | step label _ hn ih => exact .step label ih hn

theorem Reachable.reaches (h : Reachable e options u) (hv : Reaches u v) :
    Reachable e options v := by
  obtain ⟨d, threads, hd, hu⟩ := h
  exact ⟨d, threads, hd, hu.trans hv⟩

/-- What a new usage has and every step keeps, every reachable usage has. -/
theorem Reachable.keeps {P : Usage → Prop} (h : Reachable e options u)
    (hn : ∀ {d}, Dispatcher.start e options = .ok d → ∀ threads, P (new d threads))
    (hs : ∀ {a b label}, Step a label b → P a → P b) : P u := by
  obtain ⟨d, threads, hd, hu⟩ := h
  exact hu.keeps (hn hd threads) hs

theorem tidy_new (h : Dispatcher.start e options = .ok d) (threads : Nat) :
    (new d threads).Tidy := by
  obtain ⟨url, _, rfl⟩ := eq_of_start h
  refine ⟨fun _ => rfl, rfl, fun a ha => ?_⟩
  rw [List.eq_of_mem_replicate ha]
  exact nofun

theorem ledger_new (h : Dispatcher.start e options = .ok d) (threads : Nat) :
    (new d threads).ledger = .new := by
  obtain ⟨url, _, rfl⟩ := eq_of_start h
  rfl

theorem tidy_of_reachable (h : Reachable e options u) : u.Tidy :=
  h.keeps tidy_new Step.tidy

/-- **The ledger of whatever can come of a new dispatcher is sound.** -/
theorem sound_of_reachable (h : Reachable e options u) : u.ledger.Sound := by
  obtain ⟨d, threads, hd, hu⟩ := h
  have hm := (hu.moves (tidy_new hd threads)).2
  rw [ledger_new hd threads] at hm
  exact hm.sound Ledger.sound_new

end Usage

end Courier.Dispatch
