import Courier.Proofs.Dispatch.Traces

/-!
# Flushes that leave nothing behind

All that a flush can leave behind is its marker, and that comes to nothing where it is not in the
way of anyone: before it is queued, and once the worker has come to it. Only the thread that is in
the flush can still queue it.

Results:

* `Step.clear` — a marker that is in nobody's way stays so, unless its flush queues it.
* `traceless_of_unmarked` — **a flush that gives up before its marker is queued leaves no trace**.
* `traceless_of_reached` — **nor does one leave any from then on that the worker has come to its
  marker**.
-/

namespace Courier.Dispatch.Usage

open Courier.Dispatcher

/-- The marker of a flush is in nobody's way, and one thread at most can still queue it. -/
structure Clear (u : Usage) (ticket : Nat) (sender : Option Nat) : Prop where
  issued : ticket < u.marks.length
  queued : .marker ticket ∉ u.dispatcher.queue
  /-- Without capacity a worker that is at the marker takes nothing else. -/
  taken : u.dispatcher.phase = .notifying ticket → u.dispatcher.options.capacity ≠ 0
  sending : ∀ thread : Nat, u.threads[thread]? = some (.sending ticket) → some thread = sender

variable {u v w x : Usage} {label : Label} {labels before after : List Label}
  {thread ticket : Nat} {sender : Option Nat} {e : Endpoint} {options : Options}

/-- Whatever queues no marker and brings no thread into a flush keeps a marker out of the way. -/
theorem Clear.mono (hu : u.Clear ticket sender) (hk : v.marks = u.marks)
    (hq : .marker ticket ∈ v.dispatcher.queue → .marker ticket ∈ u.dispatcher.queue)
    (hp : v.dispatcher.phase = .notifying ticket →
      u.dispatcher.phase = .notifying ticket ∨ .marker ticket ∈ u.dispatcher.queue)
    (hc : v.dispatcher.options.capacity = u.dispatcher.options.capacity)
    (ht : ∀ thread : Nat, v.threads[thread]? = some (.sending ticket) →
      u.threads[thread]? = some (.sending ticket)) : v.Clear ticket sender where
  issued := hk ▸ hu.issued
  queued := fun h => hu.queued (hq h)
  taken := fun h => by
    rw [hc]
    exact (hp h).elim hu.taken fun hm => absurd hm hu.queued
  sending := fun thread h => hu.sending thread (ht thread h)

/-- A thread that goes to something else than a flush is not sending. -/
theorem sending_of_set {threads : List Activity} {a : Activity} (ha : a ≠ .sending ticket)
    (other : Nat) (h : (threads.set thread a)[other]? = some (.sending ticket)) :
    threads[other]? = some (.sending ticket) := by
  rcases getElem?_set_cases h with ⟨_, rfl⟩ | ⟨_, h⟩
  · exact absurd rfl ha
  · exact h

/-- Another flush is called. -/
theorem Clear.flush (hu : u.Clear ticket sender) (ht : u.Tidy) (thread : Nat) :
    (u.flush thread).Clear ticket sender := by
  have hne : u.dispatcher.tickets ≠ ticket := (ht.issued ▸ hu.issued).ne'
  refine ⟨?_, hu.queued, hu.taken, fun other h => hu.sending other ?_⟩
  · show ticket < (u.marks ++ [u.accepted]).length
    rw [List.length_append]
    exact Nat.lt_add_right _ hu.issued
  · exact sending_of_set (fun h => hne (Activity.sending.inj h)) other h

/-- **A marker that is in nobody's way stays so**, unless its flush queues it. -/
theorem Step.clear (h : Step u label v) (ht : u.Tidy) (hu : u.Clear ticket sender)
    (hl : ∀ thread ∈ sender, label ≠ .mark thread) : v.Clear ticket sender := by
  cases h with
  | submit thread payload _ =>
    refine hu.mono rfl id .inl rfl (sending_of_set fun h => ?_)
    have hn := congrArg Activity.ticket? h
    rw [Activity.ticket?_called] at hn
    exact absurd hn nofun
  | queued thread call body _ _ _ =>
    refine hu.mono rfl (fun h => ?_) .inl rfl (sending_of_set nofun)
    exact (List.mem_append.mp h).resolve_right (by simp)
  | handed thread call body _ _ hp =>
    exact hu.mono rfl id nofun rfl (sending_of_set nofun)
  | refused | missed | drop | givenUp | waited =>
    exact hu.mono rfl id .inl rfl (sending_of_set nofun)
  | flush thread _ => exact hu.flush ht thread
  | close thread _ _ =>
    exact (hu.flush ht thread).mono rfl id .inl rfl fun _ => id
  | markQueued thread other hs _ _ =>
    have hne : other ≠ ticket := by
      rintro rfl
      exact hl thread (hu.sending thread hs).symm rfl
    refine hu.mono rfl (fun h => ?_) .inl rfl (sending_of_set nofun)
    exact (List.mem_append.mp h).resolve_right (by simp [hne.symm])
  | markHanded thread other hs _ _ =>
    refine hu.mono rfl id (fun h => ?_) rfl (sending_of_set nofun)
    obtain rfl : other = ticket := Phase.notifying.inj h
    exact absurd rfl (hl thread (hu.sending thread hs).symm)
  | take m rest _ hq =>
    refine hu.mono rfl (fun h => ?_) (fun h => .inr ?_) rfl fun _ => id
    · rw [hq]
      exact List.mem_cons_of_mem m h
    · cases m with
      | body text => exact absurd h nofun
      | marker other =>
        obtain rfl : other = ticket := Phase.notifying.inj h
        rw [hq]
        exact List.mem_cons_self
  | cut => exact hu.mono rfl nofun nofun rfl fun _ => id
  | finish | panic | count | notify | leave => exact hu.mono rfl id nofun rfl fun _ => id
  | turn | letGo => exact hu.mono rfl id .inl rfl fun _ => id

/-- Once the flush is over nobody can queue its marker. -/
theorem Step.clear_of_end (h : Step u (.endFlush thread) v) (hu : u.Clear ticket (some thread)) :
    v.Clear ticket none := by
  have hidle : ∀ other : Nat, ¬ (u.threads.set thread .idle)[other]? = some (.sending ticket) := by
    intro other ho
    rcases getElem?_set_cases ho with ⟨_, he⟩ | ⟨hne, ho⟩
    · exact absurd he nofun
    · exact hne (Option.some.inj (hu.sending other ho))
  cases h with
  | givenUp | waited =>
    exact ⟨hu.issued, hu.queued, hu.taken, fun other ho => absurd ho (hidle other)⟩

/-- A marker that is in nobody's way does not stand in the way. -/
theorem Clear.isHindered_eq (hu : u.Clear ticket sender) (h : Reachable e options u) :
    u.isHindered ticket = false := by
  have hl := length_queue_le h
  rw [← capacity_of_reachable h] at hl
  refine Bool.eq_false_iff.mpr fun hh => ?_
  rcases (isHindered_iff hl).mp hh with ⟨_, _, hm⟩ | ⟨hc, hp⟩
  · exact hu.queued hm
  · exact hu.taken hp hc

/-! ## Runs -/

/-- **As long as its flush does not queue it, a marker hinders nobody.** -/
theorem Clear.run? (hu : u.Clear ticket sender) (h : Reachable e options u)
    (hr : u.run? labels = some w) (hl : ∀ thread ∈ sender, .mark thread ∉ labels) :
    u.hinders ticket labels = false ∧ w.Clear ticket sender := by
  induction labels generalizing u with
  | nil =>
    cases hr
    exact ⟨rfl, hu⟩
  | cons label rest ih =>
    simp only [Usage.run?, Option.bind_eq_some_iff] at hr
    obtain ⟨v, hv, hr⟩ := hr
    have hs : Step u label v := step_of_next? hv
    have hc := hs.clear (tidy_of_reachable h) hu fun thread ht he =>
      hl thread ht (he ▸ List.mem_cons_self)
    obtain ⟨hn, hw⟩ := ih hc (h.reaches (.step _ .refl hv)) hr fun thread ht hm =>
      hl thread ht (List.mem_cons_of_mem _ hm)
    rw [hinders, hu.isHindered_eq h, Bool.and_false, Bool.false_or, hv, Option.elim_some]
    exact ⟨hn, hw⟩

/-- One run after another. -/
theorem run?_append (u : Usage) (before after : List Label) :
    u.run? (before ++ after) = (u.run? before).bind fun v => v.run? after := by
  induction before generalizing u with
  | nil => rfl
  | cons label rest ih => simp only [List.cons_append, Usage.run?, ih, Option.bind_assoc]

theorem hinders_append (hr : u.run? before = some v) :
    u.hinders ticket (before ++ after) = (u.hinders ticket before || v.hinders ticket after) := by
  induction before generalizing u with
  | nil =>
    cases hr
    rfl
  | cons label rest ih =>
    simp only [Usage.run?, Option.bind_eq_some_iff] at hr
    obtain ⟨x, hx, hr⟩ := hr
    simp only [List.cons_append, hinders, hx, Option.elim_some, ih hr, Bool.or_assoc]

/-- The marker of a flush that was just called is in nobody's way, and is its thread's to queue. -/
theorem clear_flush (h : Reachable e options u) (thread : Nat) :
    (u.flush thread).Clear u.dispatcher.tickets (some thread) := by
  have ht := tidy_of_reachable h
  obtain ⟨hm, -, ha⟩ := (minted_of_reachable h).fresh ht
  have hmem : u.dispatcher.tickets ∉ u.dispatcher.phase.ticket?.toList ∧
      u.dispatcher.tickets ∉ u.dispatcher.queue.filterMap Message.ticket? := by
    simp only [markers, List.mem_append, not_or] at hm
    exact ⟨hm.1.2, hm.2⟩
  refine ⟨?_, fun hq => hmem.2 (List.mem_filterMap.mpr ⟨_, hq, rfl⟩), fun hp => ?_, ?_⟩
  · show u.dispatcher.tickets < (u.marks ++ [u.accepted]).length
    rw [List.length_append, ht.issued]
    exact Nat.lt_succ_self _
  · refine absurd ?_ hmem.1
    rw [show u.dispatcher.phase = _ from hp]
    exact List.mem_singleton_self _
  · intro other ho
    rcases getElem?_set_cases ho with ⟨he, _⟩ | ⟨_, ho⟩
    · rw [he]
    · exact absurd rfl (ha other _ ho)

/-- The worker comes to a marker once: it is not queued then, nor will it be. -/
theorem clear_of_reached (h : Reachable e options u)
    (hm : ticket ∈ u.dispatcher.reached ∨
      u.dispatcher.phase = .notifying ticket ∧ options.capacity ≠ 0) :
    u.Clear ticket none := by
  have hu := minted_of_reachable h
  have hcome : ticket ∈ u.dispatcher.reached ++ u.dispatcher.phase.ticket?.toList :=
    List.mem_append.mpr (hm.imp_right fun hp => by
      rw [hp.1]
      exact List.mem_singleton_self _)
  have hmem : ticket ∈ u.markers := List.mem_append_left _ hcome
  obtain ⟨hleft, -, hqueue⟩ := List.nodup_append.mp hu.markers_nodup
  refine ⟨hu.markers_lt ticket hmem, fun hq => ?_, fun hp => ?_, fun thread hs => ?_⟩
  · exact hqueue ticket hcome ticket (List.mem_filterMap.mpr ⟨_, hq, rfl⟩) rfl
  · rcases hm with hm | ⟨_, hc⟩
    · refine absurd rfl ((List.nodup_append.mp hleft).2.2 ticket hm ticket ?_)
      rw [hp]
      exact List.mem_singleton_self _
    · rw [capacity_of_reachable h]
      exact hc
  · exact absurd hmem (hu.sending thread ticket hs)

/-! ## No trace -/

/-- **A flush that gives up before its marker is queued leaves no trace**: everything that happens
after its call happens without it, with the same results. -/
theorem traceless_of_unmarked (h : Reachable e options u)
    (hf : u.next? (.flush thread) = some v) (hm : .mark thread ∉ before)
    (hr : v.run? (before ++ .endFlush thread :: after) = some w) :
    ∃ x, u.run? (v.kept u.dispatcher.tickets (before ++ .endFlush thread :: after)) = some x ∧
      SameResults w x := by
  refine exists_run_without h hf hr ?_
  obtain ⟨_, hv⟩ := Option.ite_none_right_eq_some.mp hf
  obtain rfl : u.flush thread = v := Option.some.inj hv
  have hreach : Reachable e options (u.flush thread) := h.reaches (.step _ .refl hf)
  rw [run?_append, Option.bind_eq_some_iff] at hr
  obtain ⟨x, hx, hr⟩ := hr
  simp only [Usage.run?, Option.bind_eq_some_iff] at hr
  obtain ⟨y, hy, hr⟩ := hr
  have hrx : Reachable e options x := hreach.reaches (.of_run? .refl before hx)
  -- The thread of the flush alone can queue the marker, and does not until it gives up.
  obtain ⟨hb, hclear⟩ := (clear_flush h thread).run? hreach hx fun other ho => by
    cases ho
    exact hm
  have hend := (step_of_next? hy).clear_of_end hclear
  obtain ⟨ha, -⟩ := hend.run? (hrx.reaches (.step _ .refl hy)) hr fun other ho => by cases ho
  rw [hinders_append hx, hb, Bool.false_or, hinders, hclear.isHindered_eq hrx, Bool.and_false,
    Bool.false_or, hy, Option.elim_some, ha]

/-- **A flush leaves no trace from then on that the worker has come to its marker**, or is at it
where there is a queue: if the marker was in nobody's way until then, everything happens without it,
with the same results. -/
theorem traceless_of_reached (h : Reachable e options u)
    (hf : u.next? (.flush thread) = some v) (hb : v.run? before = some w)
    (hn : v.hinders u.dispatcher.tickets before = false)
    (hm : u.dispatcher.tickets ∈ w.dispatcher.reached ∨
      w.dispatcher.phase = .notifying u.dispatcher.tickets ∧ options.capacity ≠ 0)
    (hr : w.run? after = some x) :
    ∃ y, u.run? (v.kept u.dispatcher.tickets (before ++ after)) = some y ∧ SameResults x y := by
  have hrun : v.run? (before ++ after) = some x := by rw [run?_append, hb, Option.bind_some, hr]
  refine exists_run_without h hf hrun ?_
  have hw : Reachable e options w := (h.reaches (.step _ .refl hf)).reaches (.of_run? .refl _ hb)
  obtain ⟨ha, -⟩ := (clear_of_reached hw hm).run? hw hr fun other ho => by cases ho
  rw [hinders_append hb, hn, ha, Bool.or_self]

end Courier.Dispatch.Usage
