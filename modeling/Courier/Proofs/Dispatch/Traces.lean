import Courier.Proofs.Dispatch.Backpressure

/-!
# What a flush leaves behind

A marker that is queued cannot be taken back, and takes a place in the queue until the worker comes
to it. `Usage.without` is a usage as it would be if one of its flushes had not been called.

Results:

* `Step.without` — a step is the same step without the flush, or none if the flush makes it, unless
  its marker stands in the way.
* `traceless_of_flush` — **a flush leaves nothing behind but its marker**.
* `refused_for_marker` — a flush that was given up has a result refused.
-/

namespace Courier

open Courier.Dispatch

namespace Dispatch

/-! ## Without a flush -/

/-- The number of a flush among those that are left without one. -/
def renumber (ticket other : Nat) : Option Nat :=
  if other = ticket then none else some (if ticket < other then other - 1 else other)

/-- A message, if it is left without a flush. -/
def Message.without (ticket : Nat) : Message → Option Message
  | .body text => some (.body text)
  | .marker other => (renumber ticket other).map .marker

/-- What the worker is at without a flush: it waits where it is at the marker. -/
def Phase.without (ticket : Nat) : Phase → Phase
  | .notifying other => (renumber ticket other).elim .waiting .notifying
  | phase => phase

/-- What a thread is at without a flush: it is idle where it is in that one. -/
def Activity.without (ticket : Nat) : Activity → Activity
  | .sending other => (renumber ticket other).elim .idle .sending
  | .awaiting other => (renumber ticket other).elim .idle .awaiting
  | activity => activity

/-- Whether a body is offered. -/
def Label.isOffer : Label → Bool
  | .offer _ => true
  | _ => false

end Dispatch

/-- A dispatcher without a flush. -/
def Dispatcher.without (d : Dispatcher) (ticket : Nat) : Dispatcher :=
  { d with
    queue := d.queue.filterMap (Message.without ticket)
    phase := d.phase.without ticket
    tickets := d.tickets - 1
    reached := d.reached.filterMap (renumber ticket) }

namespace Dispatch

open Courier.Dispatcher

/-- **A usage without a flush.** The submissions and their bodies, the deliveries, the statistics
and both logs are the same. -/
def Usage.without (u : Usage) (ticket : Nat) : Usage :=
  { u with
    dispatcher := u.dispatcher.without ticket
    threads := u.threads.map (Activity.without ticket)
    marks := u.marks.eraseIdx ticket
    ended := u.ended.filterMap fun flush => (renumber ticket flush.1).map (·, flush.2) }

variable {ticket other n : Nat}

theorem renumber_eq_none_iff : renumber ticket other = none ↔ other = ticket := by
  simp [renumber]

theorem renumber_of_lt (h : other < ticket) : renumber ticket other = some other := by
  rw [renumber, if_neg h.ne, if_neg (Nat.lt_asymm h)]

theorem renumber_of_gt (h : ticket < other) : renumber ticket other = some (other - 1) := by
  rw [renumber, if_neg h.ne', if_pos h]

theorem exists_renumber (h : other ≠ ticket) : ∃ n, renumber ticket other = some n :=
  Option.ne_none_iff_exists'.mp fun hn => h (renumber_eq_none_iff.mp hn)

/-- The flushes that are left keep numbers of their own. -/
theorem renumber_injective {a b : Nat} (ha : renumber ticket a = some n)
    (hb : renumber ticket b = some n) : a = b := by
  unfold renumber at ha hb
  split at ha
  · exact absurd ha nofun
  · split at hb
    · exact absurd hb nofun
    · have ha := Option.some.inj ha
      have hb := Option.some.inj hb
      split at ha <;> split at hb <;> omega

/-- A flush that is left has reached the worker if it had before. -/
theorem mem_filterMap_renumber {reached : List Nat} (h : renumber ticket other = some n) :
    n ∈ reached.filterMap (renumber ticket) ↔ other ∈ reached := by
  rw [List.mem_filterMap]
  constructor
  · rintro ⟨a, ha, hn⟩
    exact renumber_injective hn h ▸ ha
  · exact fun hm => ⟨other, hm, h⟩

theorem Activity.without_sending (h : renumber ticket other = some n) :
    (sending other).without ticket = sending n := by
  rw [without, h, Option.elim_some]

theorem Activity.without_awaiting (h : renumber ticket other = some n) :
    (awaiting other).without ticket = awaiting n := by
  rw [without, h, Option.elim_some]

theorem Phase.without_notifying (h : renumber ticket other = some n) :
    (notifying other).without ticket = notifying n := by
  rw [without, h, Option.elim_some]

theorem Activity.without_called (ticket call : Nat) (body : Option (List Char)) :
    (called call body).without ticket = called call body := by
  cases body <;> rfl

/-- A marker is all that goes with its flush. -/
theorem Message.without_eq_none_iff {m : Message} :
    m.without ticket = none ↔ m = .marker ticket := by
  cases m with
  | body text => simp [without]
  | marker other => simp [without, renumber_eq_none_iff]

theorem Message.without_phase {m : Message} :
    m.phase.without ticket = (m.without ticket).elim .waiting Message.phase := by
  cases m with
  | body text => rfl
  | marker other =>
    show (renumber ticket other).elim _ _ = ((renumber ticket other).map _).elim _ _
    cases renumber ticket other <;> rfl

/-- The worker waits without a flush, and not with it, while it is at the marker. -/
theorem Phase.without_eq_waiting_iff {phase : Phase} :
    phase ≠ .waiting ∧ phase.without ticket = .waiting ↔ phase = .notifying ticket := by
  cases phase with
  | notifying other =>
    rw [without, notifying.injEq, ← renumber_eq_none_iff]
    cases renumber ticket other <;> simp
  | _ => simp [without]

theorem Message.body?_of_without {m left : Message} (h : m.without ticket = some left) :
    left.body? = m.body? := by
  cases m with
  | body text =>
    cases h
    rfl
  | marker other =>
    obtain ⟨n, _, rfl⟩ := Option.map_eq_some_iff.mp h
    rfl

variable {d : Dispatcher}

theorem isCut_without (d : Dispatcher) (ticket : Nat) : (d.without ticket).isCut = d.isCut := by
  unfold isCut
  cases hp : d.phase with
  | notifying other =>
    cases hr : renumber ticket other <;> simp [Dispatcher.without, Phase.without, hp, hr]
  | _ => simp [Dispatcher.without, Phase.without, hp]

theorem length_queue_without_lt (h : d.queue.length < d.options.capacity) :
    (d.without ticket).queue.length < (d.without ticket).options.capacity :=
  Nat.lt_of_le_of_lt (List.length_filterMap_le _ _) h

/-- The queue is as long without a flush unless its marker is there. -/
theorem length_queue_without_iff : (d.without ticket).queue.length = d.queue.length ↔
    .marker ticket ∉ d.queue := by
  show (d.queue.filterMap (Message.without ticket)).length = _ ↔ _
  rw [List.filterMap_length_eq_length]
  constructor
  · intro h hm
    have hs := h _ hm
    rw [Message.without_eq_none_iff.mpr rfl] at hs
    cases hs
  · intro h m hm
    rw [Option.isSome_iff_ne_none]
    intro hs
    exact h (Message.without_eq_none_iff.mp hs ▸ hm)

theorem hasReached_without (h : renumber ticket other = some n) :
    (d.without ticket).hasReached n = d.hasReached other := by
  unfold hasReached
  rw [Bool.eq_iff_iff, List.contains_iff_mem, List.contains_iff_mem]
  exact mem_filterMap_renumber h

/-- What is refused is refused without a flush too, unless the marker takes the room for it. -/
theorem offer_without {m left : Message} {refusal : Offer} (hr : refusal ≠ .taken)
    (ho : d.offer m = (refusal, d)) (hn : d.hasRoom = false → (d.without ticket).hasRoom = false) :
    (d.without ticket).offer left = (refusal, d.without ticket) := by
  unfold Dispatcher.offer at ho ⊢
  rw [isCut_without]
  split at ho
  · rename_i hc
    obtain rfl : Offer.cut = refusal := congrArg Prod.fst ho
    rw [if_pos hc]
  · rename_i hc
    split at ho
    · exact absurd (congrArg Prod.fst ho).symm hr
    · rename_i hroom
      obtain rfl : Offer.full = refusal := congrArg Prod.fst ho
      rw [if_neg hc, hn (Bool.eq_false_of_not_eq_true hroom), if_neg Bool.false_ne_true]

namespace Usage

variable {u v w : Usage} {label : Label} {labels : List Label} {thread : Nat} {a b : Activity}
  {e : Endpoint} {options : Options}

/-- Whether the marker of a flush stands in the way: there is no room for a message, and would be
without the flush. -/
def isHindered (u : Usage) (ticket : Nat) : Bool :=
  !u.dispatcher.hasRoom && (u.dispatcher.without ticket).hasRoom

/-- Whether something happens to a flush or its marker, and to nothing else. -/
def isOwn (u : Usage) (ticket : Nat) : Label → Bool
  | .mark thread | .endFlush thread => u.threads[thread]?.bind Activity.ticket? = some ticket
  | .take => u.dispatcher.queue.head? = some (.marker ticket)
  | .notify => u.dispatcher.phase = .notifying ticket
  | _ => false

/-- A flush was called, and none of a dispatcher that is about to be let go of. -/
structure Called (u : Usage) (ticket : Nat) : Prop where
  issued : ticket < u.marks.length
  isOpen : ∀ a ∈ u.threads, a.ticket? = some ticket → u.isClosing = false

theorem Step.called (h : Step u label v) (ht : u.Tidy) (hu : u.Called ticket) :
    v.Called ticket := by
  refine ⟨Nat.lt_of_lt_of_le hu.issued h.marks_prefix.length_le, ?_⟩
  have hset : ∀ {thread : Nat} {a : Activity}, (a.ticket? = some ticket → u.isClosing = false) →
      ∀ b ∈ u.threads.set thread a, b.ticket? = some ticket → u.isClosing = false := by
    intro thread a ha b hb
    rcases List.mem_or_eq_of_mem_set hb with hb | rfl
    · exact hu.isOpen b hb
    · exact ha
  cases h with
  | submit thread payload _ =>
    refine hset fun ha => ?_
    rw [Activity.ticket?_called] at ha
    exact absurd ha nofun
  | flush thread hf => exact fun _ _ _ => (idle_of_isFree hf).1
  | close thread _ hq =>
    intro b hb hk
    rcases List.mem_or_eq_of_mem_set hb with hb | rfl
    · obtain ⟨i, hi⟩ := List.getElem?_of_mem hb
      rw [isQuiet_iff.mp hq i b hi] at hk
      exact absurd hk nofun
    · have hlt := hu.issued
      rw [ht.issued, ← Option.some.inj hk] at hlt
      exact absurd hlt (Nat.lt_irrefl _)
  | markQueued thread other hb _ _ | markHanded thread other hb _ _ =>
    exact hset (hu.isOpen (.sending other) (List.mem_of_getElem? hb))
  | queued | handed | refused | missed | drop | givenUp | waited => exact hset nofun
  | _ => exact hu.isOpen

theorem threads_without (ha : u.threads[thread]? = some a) :
    (u.without ticket).threads[thread]? = some (a.without ticket) := by
  simp only [Usage.without, List.getElem?_map, ha, Option.map_some]

theorem isFree_without (hf : u.isFree thread = true) :
    (u.without ticket).isFree thread = true := by
  obtain ⟨hc, ht⟩ := idle_of_isFree hf
  have ht : (u.without ticket).threads[thread]? = some .idle := threads_without ht
  have hc : (u.without ticket).isClosing = false := hc
  simp [isFree, hc, ht]

theorem isQuiet_without (hq : u.isQuiet = true) : (u.without ticket).isQuiet = true := by
  rw [isQuiet_iff] at hq ⊢
  intro thread b hb
  simp only [Usage.without, List.getElem?_map, Option.map_eq_some_iff] at hb
  obtain ⟨a, ha, rfl⟩ := hb
  rw [hq thread a ha]
  rfl

theorem phase_without {phase : Phase} (hp : u.dispatcher.phase = phase)
    (hn : phase.without ticket = phase) : (u.without ticket).dispatcher.phase = phase := by
  show u.dispatcher.phase.without ticket = phase
  rw [hp, hn]

/-- A thread that is not in the flush goes to something else without it too. -/
theorem map_without_set (threads : List Activity) (thread : Nat) (a : Activity) :
    (threads.set thread a).map (Activity.without ticket) =
      (threads.map (Activity.without ticket)).set thread (a.without ticket) := List.map_set

theorem Step.to (h : Step u label v) (hv : v = w) : Step u label w := hv ▸ h

theorem without_flush (ht : u.Tidy) (hu : u.Called ticket) (thread : Nat) :
    (u.without ticket).flush thread = (u.flush thread).without ticket := by
  have hlt : ticket < u.dispatcher.tickets := ht.issued ▸ hu.issued
  have hsending := Activity.without_sending (renumber_of_gt hlt)
  have hmarks : (u.marks ++ [u.accepted]).eraseIdx ticket =
      u.marks.eraseIdx ticket ++ [u.accepted] :=
    List.eraseIdx_append_of_lt_length hu.issued _
  simp only [Usage.without, Usage.flush, Dispatcher.issue, Dispatcher.without, put,
    map_without_set, hsending, hmarks, Nat.add_sub_cancel,
    Nat.sub_add_cancel (Nat.one_le_of_lt hlt)]
  rfl

/-- A flush that is not the one is left with a number. -/
theorem exists_renumber_of_thread (hb : u.threads[thread]? = some a) (ha : a.ticket? = some other)
    (ho : decide (u.threads[thread]?.bind Activity.ticket? = some ticket) = false) :
    ∃ n, renumber ticket other = some n := by
  refine exists_renumber ?_
  rintro rfl
  rw [hb, Option.bind_some, ha] at ho
  simp at ho

/-- A thread that is in the flush is idle without it. -/
theorem map_without_idle (hb : u.threads[thread]? = some b) (hk : b.ticket? = some ticket)
    (ha : a.without ticket = .idle) :
    (u.threads.set thread a).map (Activity.without ticket) =
      u.threads.map (Activity.without ticket) := by
  have hidle : b.without ticket = .idle := by
    cases b with
    | sending other | awaiting other =>
      simp only [Activity.without, renumber_eq_none_iff.mpr (Option.some.inj hk), Option.elim_none]
    | _ => exact absurd hk nofun
  rw [map_without_set, ha, ← hidle]
  obtain ⟨hlt, rfl⟩ := List.getElem?_eq_some_iff.mp hb
  rw [← List.map_set, List.set_getElem_self]

/-- **What happens to a flush alone does not happen without it.** -/
theorem Step.without_of_own (h : Step u label v) (hu : u.Called ticket)
    (ho : u.isOwn ticket label = true) : v.without ticket = u.without ticket := by
  have hself : renumber ticket ticket = none := renumber_eq_none_iff.mpr rfl
  have hown : ∀ {thread : Nat} {b : Activity}, u.threads[thread]? = some b →
      decide (u.threads[thread]?.bind Activity.ticket? = some ticket) = true →
        b.ticket? = some ticket := by
    intro thread b hb hd
    rwa [hb, Option.bind_some, decide_eq_true_eq] at hd
  cases h with
  | markQueued thread other hb hc hr =>
    obtain rfl : other = ticket := Option.some.inj (hown hb ho)
    have hm : [Message.marker other].filterMap (Message.without other) = [] := by
      simp [Message.without, hself]
    have ht := map_without_idle (a := .awaiting other) hb rfl (by simp [Activity.without, hself])
    simp only [Usage.without, put, Dispatcher.without, List.filterMap_append, hm,
      List.append_nil, ht]
  | markHanded thread other hb hcap hp =>
    obtain rfl : other = ticket := Option.some.inj (hown hb ho)
    have ht := map_without_idle (a := .awaiting other) hb rfl (by simp [Activity.without, hself])
    simp only [Usage.without, put, Dispatcher.without, ht, hp, Phase.without, hself,
      Option.elim_none]
  | givenUp thread other hb | waited thread other hb =>
    obtain rfl : other = ticket := Option.some.inj (hown hb ho)
    have ht := map_without_idle (a := .idle) hb rfl rfl
    have hopen := hu.isOpen _ (List.mem_of_getElem? hb) rfl
    simp only [Usage.without, put, endFlush, ht, hopen, List.filterMap_append, List.filterMap_cons,
      hself, Option.map_none, List.filterMap_nil, List.append_nil, Bool.false_and,
      Bool.false_eq_true, if_false, tell_nil]
  | take m rest hp hq =>
    have hm : m = .marker ticket := by simpa [isOwn, hq] using ho
    subst hm
    simp only [Usage.without, Dispatcher.without, hq, hp, Message.phase_marker, Message.without,
      List.filterMap_cons, hself, Option.map_none, Option.elim_none, Phase.without,
      Message.body?_marker, Option.toList_none, List.append_nil]
  | notify other hp =>
    obtain rfl : other = ticket := by simpa [isOwn, hp] using ho
    simp only [Usage.without, Dispatcher.without, hp, Phase.without, hself, Option.elim_none,
      List.filterMap_append, List.filterMap_cons, List.filterMap_nil, List.append_nil]
  | _ => cases ho

/-- **What does not happen to a flush alone happens without it**, unless its marker stands in the
way. -/
theorem Step.without (h : Step u label v) (ht : u.Tidy) (hu : u.Called ticket)
    (ho : u.isOwn ticket label = false) (hn : (label.isOffer && u.isHindered ticket) = false) :
    Step (u.without ticket) label (v.without ticket) := by
  cases h with
  -- Results: without the flush there is as much room for them or more.
  | submit thread payload hf =>
    refine (Step.submit (u := u.without ticket) thread payload (isFree_without hf)).to ?_
    simp only [Usage.without, Usage.submit, put, map_without_set, Activity.without_called]
    rfl
  | queued thread call body hb hc hr =>
    refine (Step.queued (u := u.without ticket) thread call body (threads_without hb)
      ((isCut_without _ _).trans hc) (length_queue_without_lt hr)).to ?_
    simp only [Usage.without, put, map_without_set, Dispatcher.without, List.filterMap_append]
    rfl
  | handed thread call body hb hcap hp =>
    refine (Step.handed (u := u.without ticket) thread call body (threads_without hb) hcap
      (phase_without hp rfl)).to ?_
    simp only [Usage.without, put, map_without_set]
    rfl
  | refused thread call body refusal hb hoffer hr =>
    -- A body is refused all the same: the marker is not what takes the room.
    have hroom : u.dispatcher.hasRoom = false → (u.dispatcher.without ticket).hasRoom = false := by
      intro h
      simpa [Label.isOffer, isHindered, h] using hn
    refine (Step.refused (u := u.without ticket) thread call body refusal (threads_without hb)
      (offer_without hr hoffer hroom) hr).to ?_
    simp only [Usage.without, put, map_without_set, refuse]
    rfl
  | missed thread call body hb hcap hc =>
    refine (Step.missed (u := u.without ticket) thread call body (threads_without hb) hcap
      ((isCut_without _ _).trans hc)).to ?_
    simp only [Usage.without, put, map_without_set, refuse]
    rfl
  | drop thread call body hb =>
    refine (Step.drop (u := u.without ticket) thread call body (threads_without hb)).to ?_
    simp only [Usage.without, put, map_without_set, Usage.drop]
    rfl
  | turn hook hh => exact .turn (u := u.without ticket) hook hh
  | letGo hh hc hq => exact .letGo (u := u.without ticket) hh hc (isQuiet_without hq)
  | finish body result hp =>
    exact .finish (u := u.without ticket) body result (phase_without hp rfl)
  | panic body message hp =>
    exact .panic (u := u.without ticket) body message (phase_without hp rfl)
  | count body result hp =>
    exact .count (u := u.without ticket) body result (phase_without hp rfl)
  | cut hp => exact .cut (u := u.without ticket) (phase_without hp rfl)
  | leave hp hq hh =>
    refine .leave (u := u.without ticket) (phase_without hp rfl) ?_ hh
    show u.dispatcher.queue.filterMap _ = []
    rw [hq, List.filterMap_nil]
  -- Other flushes: one called later has a number less without this one.
  | flush thread hf =>
    exact (Step.flush (u := u.without ticket) thread (isFree_without hf)).to
      (without_flush ht hu thread)
  | close thread hf hq =>
    refine
      (Step.close (u := u.without ticket) thread (isFree_without hf) (isQuiet_without hq)).to ?_
    rw [without_flush ht hu thread]
    rfl
  | markQueued thread other hb hc hr =>
    obtain ⟨n, hn⟩ := exists_renumber_of_thread hb rfl ho
    have ha := Activity.without_sending hn
    refine (Step.markQueued (u := u.without ticket) thread n (ha ▸ threads_without hb)
      ((isCut_without _ _).trans hc) (length_queue_without_lt hr)).to ?_
    have hb := Activity.without_awaiting hn
    have hm : [Message.marker other].filterMap (Message.without ticket) = [.marker n] := by
      simp [Message.without, hn]
    simp only [Usage.without, put, map_without_set, Dispatcher.without, List.filterMap_append,
      hb, hm]
  | markHanded thread other hb hcap hp =>
    obtain ⟨n, hn⟩ := exists_renumber_of_thread hb rfl ho
    have ha := Activity.without_sending hn
    refine (Step.markHanded (u := u.without ticket) thread n (ha ▸ threads_without hb) hcap
      (phase_without hp rfl)).to ?_
    have hb := Activity.without_awaiting hn
    have hm := Phase.without_notifying hn
    simp only [Usage.without, put, map_without_set, Dispatcher.without, hb, hm]
  | givenUp thread other hb =>
    obtain ⟨n, hn⟩ := exists_renumber_of_thread hb rfl ho
    have ha := Activity.without_sending hn
    refine (Step.givenUp (u := u.without ticket) thread n (ha ▸ threads_without hb)).to ?_
    simp only [Usage.without, put, map_without_set, endFlush, List.filterMap_append,
      List.filterMap_cons, hn]
    rfl
  | waited thread other hb =>
    obtain ⟨n, hn⟩ := exists_renumber_of_thread hb rfl ho
    have ha := Activity.without_awaiting hn
    refine (Step.waited (u := u.without ticket) thread n (ha ▸ threads_without hb)).to ?_
    have hr : (u.dispatcher.without ticket).hasReached n = u.dispatcher.hasReached other :=
      hasReached_without hn
    simp only [Usage.without, put, map_without_set, endFlush, List.filterMap_append,
      List.filterMap_cons, hn, hr]
    rfl
  | take m rest hp hq =>
    have hne : m ≠ .marker ticket := by
      rintro rfl
      simp [isOwn, hq] at ho
    obtain ⟨left, hl⟩ := Option.ne_none_iff_exists'.mp (mt Message.without_eq_none_iff.mp hne)
    have hq : (u.without ticket).dispatcher.queue =
        left :: rest.filterMap (Message.without ticket) := by
      show u.dispatcher.queue.filterMap _ = _
      rw [hq, List.filterMap_cons_some hl]
    refine (Step.take (u := u.without ticket) left _ (phase_without hp rfl) hq).to ?_
    simp only [Usage.without, Dispatcher.without, Message.body?_of_without hl,
      Message.without_phase, hl, Option.elim_some]
  | notify other hp =>
    have hne : other ≠ ticket := by
      rintro rfl
      simp [isOwn, hp] at ho
    obtain ⟨n, hn⟩ := exists_renumber hne
    have hp : (u.without ticket).dispatcher.phase = .notifying n := by
      rw [Usage.without, Dispatcher.without, hp, Phase.without_notifying hn]
    refine (Step.notify (u := u.without ticket) n hp).to ?_
    simp only [Usage.without, Dispatcher.without, List.filterMap_append, List.filterMap_cons, hn,
      List.filterMap_nil]
    rfl

/-! ## Whole runs -/

/-- What is left of labels without a flush: all but what happens to the flush alone. -/
def kept (u : Usage) (ticket : Nat) : List Label → List Label
  | [] => []
  | label :: rest =>
    (if u.isOwn ticket label then [] else [label]) ++
      (u.next? label).elim [] fun v => v.kept ticket rest

/-- Whether at some moment a body is offered and the marker of a flush stands in its way. -/
def hinders (u : Usage) (ticket : Nat) : List Label → Bool
  | [] => false
  | label :: rest =>
    label.isOffer && u.isHindered ticket ||
      (u.next? label).elim false fun v => v.hinders ticket rest

theorem kept_sublist (u : Usage) (ticket : Nat) (labels : List Label) :
    (u.kept ticket labels).Sublist labels := by
  induction labels generalizing u with
  | nil => exact .slnil
  | cons label rest ih =>
    have hrest : ((u.next? label).elim [] fun v => v.kept ticket rest).Sublist rest := by
      cases u.next? label with
      | none => exact List.nil_sublist rest
      | some v => exact ih v
    rw [kept]
    split
    · exact hrest.cons label
    · exact hrest.cons_cons label

/-- **A run goes on without a flush as it does with it**, unless the marker of the flush stands in
the way of a body. -/
theorem run?_without (hr : u.run? labels = some w) (ht : u.Tidy) (hu : u.Called ticket)
    (hn : u.hinders ticket labels = false) :
    (u.without ticket).run? (u.kept ticket labels) = some (w.without ticket) := by
  induction labels generalizing u with
  | nil =>
    cases hr
    rfl
  | cons label rest ih =>
    simp only [run?, Option.bind_eq_some_iff] at hr
    obtain ⟨v, hv, hr⟩ := hr
    have hs : Step u label v := step_of_next? hv
    rw [hinders, hv, Option.elim_some, Bool.or_eq_false_iff] at hn
    have hrun := ih hr (hs.tidy ht) (hs.called ht hu) hn.2
    rw [kept, hv, Option.elim_some]
    cases ho : u.isOwn ticket label with
    | true =>
      -- The run without the flush stands still.
      rw [hs.without_of_own hu ho] at hrun
      exact hrun
    | false =>
      have hnext := next?_of_step (hs.without ht hu ho hn.1)
      rw [if_neg Bool.false_ne_true, List.singleton_append, run?, hnext, Option.bind_some, hrun]

/-- The marker of a flush stands in the way in a full queue, or without capacity while the worker
is at it. -/
theorem isHindered_iff (hl : u.dispatcher.queue.length ≤ u.dispatcher.options.capacity) :
    u.isHindered ticket = true ↔
      u.dispatcher.options.capacity ≠ 0 ∧
          u.dispatcher.queue.length = u.dispatcher.options.capacity ∧
            .marker ticket ∈ u.dispatcher.queue ∨
        u.dispatcher.options.capacity = 0 ∧ u.dispatcher.phase = .notifying ticket := by
  have hcap : (u.dispatcher.without ticket).options.capacity = u.dispatcher.options.capacity := rfl
  rw [isHindered, Bool.and_eq_true, Bool.not_eq_true', hasRoom, hasRoom, hcap]
  by_cases hc : u.dispatcher.options.capacity = 0
  · rw [if_pos hc, if_pos hc, decide_eq_false_iff_not, decide_eq_true_eq]
    simp only [hc, ne_eq, not_true_eq_false, false_and, true_and, false_or]
    exact Phase.without_eq_waiting_iff
  · have hmem : (u.dispatcher.without ticket).queue.length = _ ↔ _ := length_queue_without_iff
    have hle : (u.dispatcher.without ticket).queue.length ≤ u.dispatcher.queue.length :=
      List.length_filterMap_le _ _
    rw [if_neg hc, if_neg hc, decide_eq_false_iff_not, decide_eq_true_eq]
    by_cases hm : .marker ticket ∈ u.dispatcher.queue
    · have hne := mt hmem.mp (not_not.mpr hm)
      simp only [hc, hm, ne_eq, not_false_eq_true, true_and, and_true, false_and, or_false]
      omega
    · have heq := hmem.mpr hm
      simp only [hc, hm, and_false, false_and, or_false, iff_false]
      omega

theorem filterMap_of_forall {α : Type} {f : α → Option α} {l : List α} (h : ∀ x ∈ l, f x = some x) :
    l.filterMap f = l :=
  (List.filterMap_congr h).trans List.filterMap_some

/-- Without the flush that was called last, everything is as before its call. -/
theorem flush_without (h : Reachable e options u) (hf : u.isFree thread = true) :
    (u.flush thread).without u.dispatcher.tickets = u := by
  have ht := tidy_of_reachable h
  have hm := minted_of_reachable h
  have hidle := (idle_of_isFree hf).2
  have hkeep : ∀ other < u.marks.length, renumber u.dispatcher.tickets other = some other :=
    fun other ho => renumber_of_lt (ht.issued ▸ ho)
  have hqueue : u.dispatcher.queue.filterMap (Message.without u.dispatcher.tickets) =
      u.dispatcher.queue := by
    refine filterMap_of_forall fun m hmem => ?_
    cases m with
    | body text => rfl
    | marker other =>
      have hmark : other ∈ u.markers :=
        List.mem_append_right _ (List.mem_filterMap.mpr ⟨_, hmem, rfl⟩)
      simp only [Message.without, hkeep other (hm.markers_lt other hmark), Option.map_some]
  have hphase : u.dispatcher.phase.without u.dispatcher.tickets = u.dispatcher.phase := by
    cases hp : u.dispatcher.phase with
    | notifying other =>
      have hmark : other ∈ u.markers := by simp [markers, hp]
      exact Phase.without_notifying (hkeep other (hm.markers_lt other hmark))
    | _ => rfl
  have hreached : u.dispatcher.reached.filterMap (renumber u.dispatcher.tickets) =
      u.dispatcher.reached := by
    refine filterMap_of_forall fun other hmem => hkeep other (hm.markers_lt other ?_)
    exact List.mem_append_left _ (List.mem_append_left _ hmem)
  have hthreads : u.threads.map (Activity.without u.dispatcher.tickets) = u.threads := by
    refine (List.map_congr_left fun a ha => ?_).trans (List.map_id _)
    cases a with
    | sending other | awaiting other =>
      simp only [Activity.without, hkeep other (ht.underWay _ ha other rfl), Option.elim_some, id]
    | _ => rfl
  have hsending : (Activity.sending u.dispatcher.tickets).without u.dispatcher.tickets = .idle := by
    simp only [Activity.without, renumber_eq_none_iff.mpr rfl, Option.elim_none]
  have hset : u.threads.set thread .idle = u.threads := by
    obtain ⟨hlt, hi⟩ := List.getElem?_eq_some_iff.mp hidle
    rw [← hi, List.set_getElem_self]
  have hmarks : (u.marks ++ [u.accepted]).eraseIdx u.dispatcher.tickets = u.marks := by
    rw [← ht.issued, List.eraseIdx_append_of_length_le (Nat.le_refl _), Nat.sub_self]
    exact List.append_nil _
  have hended : u.ended.filterMap (fun flush =>
      (renumber u.dispatcher.tickets flush.1).map (·, flush.2)) = u.ended := by
    refine filterMap_of_forall fun flush hmem => ?_
    rw [hkeep flush.1 (hm.ended_lt flush hmem)]
    rfl
  simp only [Usage.without, Usage.flush, Dispatcher.issue, Dispatcher.without, put, map_without_set,
    hqueue, hphase, hreached, hthreads, hsending, hset, hmarks, hended, Nat.add_sub_cancel]

/-! ## What a flush leaves -/

/-- The same was submitted, delivered, counted and told, and the same waits. -/
structure SameResults (u v : Usage) : Prop where
  calls : v.calls = u.calls
  submissions : v.submissions = u.submissions
  begun : v.begun = u.begun
  counted : v.counted = u.counted
  queued : bodies v.dispatcher.queue = bodies u.dispatcher.queue
  stats : v.dispatcher.stats = u.dispatcher.stats
  callerLog : v.dispatcher.callerLog = u.dispatcher.callerLog
  workerLog : v.dispatcher.workerLog = u.dispatcher.workerLog

/-- A usage without a flush has the same results. -/
theorem sameResults_without (u : Usage) (ticket : Nat) : SameResults u (u.without ticket) := by
  refine ⟨rfl, rfl, rfl, rfl, ?_, rfl, rfl, rfl⟩
  show (u.dispatcher.queue.filterMap (Message.without ticket)).filterMap Message.body? = _
  rw [List.filterMap_filterMap]
  refine List.filterMap_congr fun m _ => ?_
  cases hm : m.without ticket with
  | none => rw [Message.without_eq_none_iff.mp hm, Option.bind_none, Message.body?_marker]
  | some left => rw [Option.bind_some, Message.body?_of_without hm]

/-- Bodies and markers are all that is queued. -/
theorem length_bodies_add (queue : List Message) :
    (bodies queue).length + (queue.filterMap Message.ticket?).length = queue.length := by
  induction queue with
  | nil => rfl
  | cons m rest ih =>
    cases m with
    | body text =>
      rw [bodies_cons, List.filterMap_cons]
      simp
      omega
    | marker other =>
      rw [bodies_cons, List.filterMap_cons]
      simp
      omega

theorem hasRoom_of_full {m : Message} (ho : (d.offer m).1 = .full) : d.hasRoom = false := by
  unfold Dispatcher.offer at ho
  split at ho
  · exact absurd ho nofun
  · split at ho
    · exact absurd ho nofun
    · rename_i hroom
      exact Bool.eq_false_of_not_eq_true hroom

/-- What happens after the call of a flush happens without it, with the same results, unless its
marker stands in the way of a body. -/
theorem exists_run_without (h : Reachable e options u) (hf : u.next? (.flush thread) = some v)
    (hr : v.run? labels = some w) (hn : v.hinders u.dispatcher.tickets labels = false) :
    ∃ x, u.run? (v.kept u.dispatcher.tickets labels) = some x ∧ SameResults w x := by
  obtain ⟨hfree, hv⟩ := Option.ite_none_right_eq_some.mp hf
  obtain rfl : u.flush thread = v := Option.some.inj hv
  have ht := tidy_of_reachable h
  have hcalled : (u.flush thread).Called u.dispatcher.tickets := by
    refine ⟨?_, fun _ _ _ => (idle_of_isFree hfree).1⟩
    show u.dispatcher.tickets < (u.marks ++ [u.accepted]).length
    rw [List.length_append, ht.issued]
    exact Nat.lt_succ_self _
  have hrun := run?_without hr (ht.flush thread) hcalled hn
  rw [flush_without h hfree] at hrun
  exact ⟨_, hrun, sameResults_without w _⟩

/-- **A flush leaves nothing behind but its marker.** Whatever it returns, and however often others
flush:

* everything that happens after its call can happen without it, with the same results for all who
  submit, unless a body is offered while the marker of the flush stands in its way;
* the marker stands in the way in a full queue, in which it takes one place, and without capacity
  while the worker is at it, and never else;
* a queue is full when as many bodies and markers wait as there is room for, and without capacity
  when the worker does not wait. -/
theorem traceless_of_flush (h : Reachable e options u) (hf : u.next? (.flush thread) = some v) :
    (∀ labels w, v.run? labels = some w → v.hinders u.dispatcher.tickets labels = false →
      ∃ x, u.run? (v.kept u.dispatcher.tickets labels) = some x ∧ SameResults w x ∧
        (v.kept u.dispatcher.tickets labels).Sublist labels) ∧
    (∀ w, Reaches v w → (w.isHindered u.dispatcher.tickets = true ↔
      options.capacity ≠ 0 ∧ w.dispatcher.queue.length = options.capacity ∧
          .marker u.dispatcher.tickets ∈ w.dispatcher.queue ∨
        options.capacity = 0 ∧ w.dispatcher.phase = .notifying u.dispatcher.tickets)) ∧
    ∀ w m, Reachable e options w → (w.dispatcher.offer m).1 = .full →
      (bodies w.dispatcher.queue).length +
          (w.dispatcher.queue.filterMap Message.ticket?).length = options.capacity ∧
        (options.capacity = 0 → w.dispatcher.phase ≠ .waiting) := by
  have hreach : Reachable e options v := h.reaches (.step _ .refl hf)
  refine ⟨fun labels w hr hn => ?_, fun w hw => ?_, fun w m hw ho => ?_⟩
  · obtain ⟨x, hx, hs⟩ := exists_run_without h hf hr hn
    exact ⟨x, hx, hs, kept_sublist _ _ labels⟩
  · have hw := hreach.reaches hw
    rw [← capacity_of_reachable hw]
    exact isHindered_iff (capacity_of_reachable hw ▸ length_queue_le hw)
  · have hle := length_queue_le hw
    have hroom := hasRoom_of_full ho
    rw [hasRoom, capacity_of_reachable hw] at hroom
    rw [length_bodies_add]
    split at hroom
    · rename_i hc
      exact ⟨Nat.le_antisymm hle (hc ▸ Nat.zero_le _), fun _ => of_decide_eq_false hroom⟩
    · rename_i hc
      exact ⟨Nat.le_antisymm hle (Nat.le_of_not_lt (of_decide_eq_false hroom)),
        fun h => absurd h hc⟩

/-- Two results and a flush between them that is given up: its marker has the place in the queue
that the second result does not need. -/
theorem traceless_of_room :
    ∃ u v w x, Reachable (.of "http://[::]" "/") ⟨none, 2, .ofSeconds 2⟩ u ∧
      u.dispatcher.phase.hand ≠ [] ∧ u.next? (.flush 1) = some v ∧ ∃ labels,
      v.run? labels = some w ∧ v.hinders 0 labels = false ∧ w.ended = [(0, false)] ∧
      u.run? (v.kept 0 labels) = some x ∧ x.ended = [] ∧ x.dispatcher.stats = ⟨1, 0, 0⟩ ∧
      SameResults w x := by
  have hu : (Endpoint.of "http://[::]" "/").targetUrl.toOption = some "http://[::]/".toList := by
    decide +kernel
  have h := Reachable.of_run? hu ⟨none, 2, .ofSeconds 2⟩ 2
    [.submit 0 (.bool true), .offer 0, .take] rfl
  let labels : List Label := [.mark 1, .endFlush 1, .submit 0 (.bool false), .offer 0,
    .finish (.finished (.ok ())), .count, .take, .notify, .take]
  obtain ⟨x, hx, hs, _⟩ := (traceless_of_flush h (rfl : next? _ (.flush 1) = _)).1 labels _ rfl rfl
  refine ⟨_, _, _, x, h, nofun, rfl, labels, rfl, rfl, rfl, hx, ?_, ?_, hs⟩
  · cases hx
    rfl
  · rw [hs.stats]
    rfl

/-- A flush that was given up has a result refused that would have been queued: the queue is full
of its marker, and no result waits. -/
theorem refused_for_marker :
    ∃ u w x, Reachable (.of "http://[::]" "/") ⟨none, 1, .ofSeconds 2⟩ u ∧
      u.dispatcher.phase.hand ≠ [] ∧
      u.run? [.flush 1, .mark 1, .endFlush 1, .submit 0 (.bool false), .offer 0, .drop 0] =
        some w ∧
      w.ended = [(0, false)] ∧ w.dispatcher.callerLog = [.queueFull] ∧
      bodies w.dispatcher.queue = [] ∧
      w.submissions.map (·.fate.returned) = [true, false] ∧
      u.run? [.submit 0 (.bool false), .offer 0] = some x ∧
      x.submissions.map (·.fate.returned) = [true, true] := by
  have hu : (Endpoint.of "http://[::]" "/").targetUrl.toOption = some "http://[::]/".toList := by
    decide +kernel
  have h := Reachable.of_run? hu ⟨none, 1, .ofSeconds 2⟩ 2
    [.submit 0 (.bool true), .offer 0, .take] rfl
  exact ⟨_, _, _, h, nofun, rfl, rfl, rfl, rfl, rfl, rfl, rfl⟩

end Usage

end Dispatch

end Courier
