import Courier.Proofs.Dispatch.Steps

/-!
# The tickets of flushes

A flush has one marker of its own. Its ticket is issued when the flush is called, its marker is
queued once at most, and the flush ends once at most (`Minted`). What threads, markers and flushes
that are over know of tickets comes of two steps alone: a marker is queued, and a flush ends; all
others keep it (`Minted.mono`).
-/

namespace Courier.Dispatch

open Courier.Dispatcher

/-- The ticket of the marker that the worker is at. -/
@[simp]
def Phase.ticket? : Phase → Option Nat
  | .notifying ticket => some ticket
  | _ => none

/-- The ticket of a marker. -/
def Message.ticket? : Message → Option Nat
  | .marker ticket => some ticket
  | .body _ => none

@[simp] theorem Message.ticket?_body (text : List Char) : (body text).ticket? = none := rfl

@[simp] theorem Message.ticket?_marker (ticket : Nat) :
    (marker ticket).ticket? = some ticket := rfl

/-- The worker is at the marker that it took. -/
@[simp] theorem Message.ticket?_phase (m : Message) : m.phase.ticket? = m.ticket? := by
  cases m <;> rfl

namespace Usage

/-- No two threads are in one flush. -/
def Apart (threads : List Activity) : Prop :=
  ∀ (thread other : Nat) (a b : Activity), threads[thread]? = some a → threads[other]? = some b →
    ∀ ticket ∈ a.ticket?, ticket ∈ b.ticket? → thread = other

/-- A thread may go to a flush that no other thread is in. -/
theorem Apart.set {threads : List Activity} {thread : Nat} {a : Activity} (h : Apart threads)
    (ha : ∀ ticket ∈ a.ticket?, ∀ (other : Nat) (b : Activity), threads[other]? = some b →
      ticket ∈ b.ticket? → other = thread) : Apart (threads.set thread a) := by
  intro i j b c hb hc ticket htb htc
  rcases getElem?_set_cases hb with ⟨hi, he⟩ | ⟨_, hb⟩
  · rcases getElem?_set_cases hc with ⟨hj, _⟩ | ⟨_, hc⟩
    · exact hi.trans hj.symm
    · rw [he] at htb
      exact hi.trans (ha ticket htb j c hc htc).symm
  · rcases getElem?_set_cases hc with ⟨hj, he⟩ | ⟨_, hc⟩
    · rw [he] at htc
      exact (ha ticket htc i b hb htb).trans hj.symm
    · exact h i j b c hb hc ticket htb htc

/-- The tickets of all markers that were queued, in order: those that the worker came to, the one
that it is at, and those in the queue. -/
def markers (u : Usage) : List Nat :=
  u.dispatcher.reached ++ u.dispatcher.phase.ticket?.toList ++
    u.dispatcher.queue.filterMap Message.ticket?

/-- Whose every ticket is. -/
structure Minted (u : Usage) : Prop where
  markers_lt : ∀ ticket ∈ u.markers, ticket < u.marks.length
  markers_nodup : u.markers.Nodup
  ended_lt : ∀ flush ∈ u.ended, flush.1 < u.marks.length
  ended_nodup : (u.ended.map (·.1)).Nodup
  /-- Only a flush whose marker the worker came to was told so. -/
  told : ∀ ticket, (ticket, true) ∈ u.ended → ticket ∈ u.dispatcher.reached
  /-- A marker is queued by its own flush. -/
  sending : ∀ thread ticket : Nat, u.threads[thread]? = some (.sending ticket) →
    ticket ∉ u.markers
  /-- A flush that a thread is in is not over. -/
  underWay : ∀ (thread : Nat) (a : Activity), u.threads[thread]? = some a →
    ∀ ticket ∈ a.ticket?, ∀ inTime, (ticket, inTime) ∉ u.ended
  apart : Apart u.threads

variable {u v : Usage} {label : Label} {thread ticket : Nat}

/-- Whatever makes no marker, calls and ends no flush, and brings no thread into one keeps whose
every ticket is. -/
theorem Minted.mono (hu : u.Minted) (hm : v.markers.Sublist u.markers)
    (hr : u.dispatcher.reached ⊆ v.dispatcher.reached) (hk : v.marks = u.marks)
    (he : v.ended = u.ended)
    (ht : ∀ (thread : Nat) (a : Activity), v.threads[thread]? = some a →
      u.threads[thread]? = some a ∨ a.ticket? = none) : v.Minted where
  markers_lt := by
    rw [hk]
    exact fun ticket h => hu.markers_lt ticket (hm.subset h)
  markers_nodup := hu.markers_nodup.sublist hm
  ended_lt := by
    rw [hk, he]
    exact hu.ended_lt
  ended_nodup := by
    rw [he]
    exact hu.ended_nodup
  told := by
    rw [he]
    exact fun ticket h => hr (hu.told ticket h)
  sending := by
    intro thread ticket h hk
    rcases ht thread _ h with h | h
    · exact hu.sending thread ticket h (hm.subset hk)
    · exact absurd h nofun
  underWay := by
    intro thread a h ticket hk inTime
    rw [he]
    rcases ht thread a h with h | h
    · exact hu.underWay thread a h ticket hk inTime
    · rw [h] at hk
      exact absurd hk nofun
  apart := by
    intro thread other a b ha hb ticket hta htb
    rcases ht thread a ha with ha | ha
    · rcases ht other b hb with hb | hb
      · exact hu.apart thread other a b ha hb ticket hta htb
      · rw [hb] at htb
        exact absurd htb nofun
    · rw [ha] at hta
      exact absurd hta nofun

/-- A thread may leave what it is in for whatever is no flush. -/
theorem leaves_flush {a : Activity} (ha : a.ticket? = none) (other : Nat) (b : Activity)
    (h : (u.threads.set thread a)[other]? = some b) :
    u.threads[other]? = some b ∨ b.ticket? = none := by
  rcases getElem?_set_cases h with ⟨_, rfl⟩ | ⟨_, h⟩
  · exact .inr ha
  · exact .inl h

/-! ## The three steps of a flush -/

/-- The ticket of a flush that is called is nobody's yet. -/
theorem Minted.fresh (hu : u.Minted) (ht : u.Tidy) :
    u.dispatcher.tickets ∉ u.markers ∧
      (∀ inTime, (u.dispatcher.tickets, inTime) ∉ u.ended) ∧
      ∀ (thread : Nat) (a : Activity), u.threads[thread]? = some a →
        u.dispatcher.tickets ∉ a.ticket? := by
  rw [← ht.issued]
  refine ⟨fun h => ?_, fun inTime h => ?_, fun thread a ha h => ?_⟩
  · exact absurd (hu.markers_lt _ h) (Nat.lt_irrefl _)
  · exact absurd (hu.ended_lt _ h) (Nat.lt_irrefl _)
  · exact absurd (ht.underWay a (List.mem_of_getElem? ha) _ h) (Nat.lt_irrefl _)

theorem Minted.flush (hu : u.Minted) (ht : u.Tidy) (thread : Nat) : (u.flush thread).Minted := by
  obtain ⟨hm, he, ha⟩ := hu.fresh ht
  have hlt : ∀ {other}, other < u.marks.length → other < (u.flush thread).marks.length := by
    intro other h
    show other < (u.marks ++ [u.accepted]).length
    rw [List.length_append]
    exact Nat.lt_add_right _ h
  refine ⟨fun other h => hlt (hu.markers_lt other h), hu.markers_nodup,
    fun flush h => hlt (hu.ended_lt flush h), hu.ended_nodup, hu.told, ?_, ?_, ?_⟩
  · intro other ticket h
    rcases getElem?_set_cases h with ⟨_, h⟩ | ⟨_, h⟩
    · cases h
      exact hm
    · exact hu.sending other ticket h
  · intro other a h ticket hk inTime
    rcases getElem?_set_cases h with ⟨_, rfl⟩ | ⟨_, h⟩
    · cases hk
      exact he inTime
    · exact hu.underWay other a h ticket hk inTime
  · refine hu.apart.set fun ticket hk other b hb hkb => ?_
    cases hk
    exact absurd hkb (ha other b hb)

/-- A flush may have its marker queued behind all others. -/
theorem Minted.mark {d : Dispatcher} (hu : u.Minted) (ht : u.Tidy)
    (h : u.threads[thread]? = some (.sending ticket))
    (hr : d.reached = u.dispatcher.reached)
    (hm : markers { u with dispatcher := d } = u.markers ++ [ticket]) :
    Minted { u.put thread (.awaiting ticket) with dispatcher := d } := by
  have hlt := ht.underWay (.sending ticket) (List.mem_of_getElem? h) ticket rfl
  have hn := hu.sending thread ticket h
  have hmem : ∀ other, other ∈ markers { u with dispatcher := d } →
      other ∈ u.markers ∨ other = ticket := by
    intro other ho
    rw [hm] at ho
    exact (List.mem_append.mp ho).imp_right List.mem_singleton.mp
  refine ⟨fun other ho => ?_, ?_, hu.ended_lt, hu.ended_nodup, fun other ho => ?_, ?_, ?_, ?_⟩
  · rcases hmem other ho with ho | rfl
    · exact hu.markers_lt other ho
    · exact hlt
  · show (markers { u with dispatcher := d }).Nodup
    rw [hm]
    exact List.nodup_append.mpr ⟨hu.markers_nodup, List.pairwise_singleton _ _, fun a ha b hb hab =>
      hn (List.mem_singleton.mp hb ▸ hab ▸ ha)⟩
  · show other ∈ d.reached
    rw [hr]
    exact hu.told other ho
  · intro other tk ho hk
    rcases getElem?_set_cases ho with ⟨_, ho⟩ | ⟨hne, ho⟩
    · exact absurd ho nofun
    · rcases hmem tk hk with hk | hk
      · exact hu.sending other tk ho hk
      · exact hne (hu.apart other thread (.sending tk) (.sending ticket) ho h tk rfl (hk ▸ rfl))
  · intro other a ha tk hk inTime
    rcases getElem?_set_cases ha with ⟨_, rfl⟩ | ⟨_, ha⟩
    · cases hk
      exact hu.underWay thread _ h ticket rfl inTime
    · exact hu.underWay other a ha tk hk inTime
  · refine hu.apart.set fun tk hk other b hb hkb => ?_
    cases hk
    exact hu.apart other thread b (.sending ticket) hb h ticket hkb rfl

/-- A flush may end, and in time if the worker came to its marker. -/
theorem Minted.endFlush {a : Activity} {inTime : Bool} (hu : u.Minted) (ht : u.Tidy)
    (h : u.threads[thread]? = some a) (hk : ticket ∈ a.ticket?)
    (hr : inTime = true → ticket ∈ u.dispatcher.reached) :
    (u.endFlush thread ticket inTime).Minted := by
  have hlt := ht.underWay a (List.mem_of_getElem? h) ticket hk
  have hn := hu.underWay thread a h ticket hk
  have hout := @leaves_flush u thread .idle rfl
  refine ⟨hu.markers_lt, hu.markers_nodup, fun flush hf => ?_, ?_, fun other ho => ?_, ?_, ?_, ?_⟩
  · rcases List.mem_append.mp hf with hf | hf
    · exact hu.ended_lt flush hf
    · rw [List.mem_singleton.mp hf]
      exact hlt
  · show ((u.ended ++ [(ticket, inTime)]).map (·.1)).Nodup
    rw [List.map_append]
    refine List.nodup_append.mpr ⟨hu.ended_nodup, List.pairwise_singleton _ _, ?_⟩
    rintro _ hm other ho rfl
    obtain ⟨flush, hm, he⟩ := List.mem_map.mp hm
    have hf : flush.1 = ticket := he.trans (List.mem_singleton.mp ho)
    apply hn flush.2
    rw [← hf]
    exact hm
  · rcases List.mem_append.mp ho with ho | ho
    · exact hu.told other ho
    · cases List.mem_singleton.mp ho
      exact hr rfl
  · intro other tk ho
    rcases hout other _ ho with ho | ho
    · exact hu.sending other tk ho
    · exact absurd ho nofun
  · intro other b hb tk hkb told hm
    rcases getElem?_set_cases hb with ⟨_, rfl⟩ | ⟨hne, hb⟩
    · exact absurd hkb nofun
    · rcases List.mem_append.mp hm with hm | hm
      · exact hu.underWay other b hb tk hkb told hm
      · cases List.mem_singleton.mp hm
        exact hne (hu.apart other thread b a hb h ticket hkb hk)
  · exact hu.apart.set nofun

/-! ## All steps -/

/-- A step that touches no thread and no flush keeps whose every ticket is, if it only moves
markers on or loses some. -/
theorem Minted.work {d : Dispatcher} (hu : u.Minted)
    (hm : (markers { u with dispatcher := d }).Sublist u.markers)
    (hr : u.dispatcher.reached ⊆ d.reached) : Minted { u with dispatcher := d } :=
  hu.mono hm hr rfl rfl fun _ _ h => .inl h

/-- **Every step keeps whose every ticket is.** -/
theorem Step.minted (h : Step u label v) (ht : u.Tidy) (hu : u.Minted) : v.Minted := by
  cases h with
  | submit thread payload _ =>
    exact hu.mono (.refl _) (List.Subset.refl _) rfl rfl
      (leaves_flush (Activity.ticket?_called _ _))
  | queued thread call body _ _ _ =>
    refine hu.mono ?_ (List.Subset.refl _) rfl rfl (leaves_flush rfl)
    simp [markers]
  | handed thread call body _ _ hp =>
    refine hu.mono ?_ (List.Subset.refl _) rfl rfl (leaves_flush rfl)
    simp [markers, hp]
  | refused | missed | drop =>
    exact hu.mono (.refl _) (List.Subset.refl _) rfl rfl (leaves_flush rfl)
  | flush thread _ => exact hu.flush ht thread
  | markQueued thread ticket h _ _ =>
    refine hu.mark ht h rfl ?_
    simp [markers]
  | markHanded thread ticket h hn hp =>
    refine hu.mark ht h rfl ?_
    simp [markers, hp, ht.rendezvous hn]
  | givenUp thread ticket h => exact hu.endFlush ht h rfl nofun
  | waited thread ticket h =>
    exact hu.endFlush ht h rfl fun hr => List.contains_iff_mem.mp hr
  | close thread _ _ =>
    have hf := hu.flush ht thread
    exact hf.mono (.refl _) (List.Subset.refl _) rfl rfl fun _ _ h => .inl h
  | take m rest hp hq =>
    refine hu.mono ?_ (List.Subset.refl _) rfl rfl fun _ _ h => .inl h
    cases m with
    | body text => simp [markers, hp, hq, List.filterMap_cons]
    | marker ticket => simp [markers, hp, hq]
  | finish body result hp =>
    refine hu.work ?_ (List.Subset.refl _)
    simp [markers, hp]
  | panic body _ hp =>
    refine hu.work ?_ (List.Subset.refl _)
    simp [markers, hp]
  | count body result hp =>
    refine hu.mono ?_ (List.Subset.refl _) rfl rfl fun _ _ h => .inl h
    simp [markers, hp]
  | notify ticket hp =>
    refine hu.work ?_ (List.subset_append_left _ _)
    simp [markers, hp]
  | cut hp =>
    refine hu.work ?_ (List.Subset.refl _)
    simp [markers, hp]
  | leave hp hq _ =>
    refine hu.work ?_ (List.Subset.refl _)
    simp [markers, hp]
  | turn | letGo => exact hu.work (.refl _) (List.Subset.refl _)

variable {e : Endpoint} {options : Options}

theorem minted_new {d : Dispatcher} (h : Dispatcher.start e options = .ok d) (threads : Nat) :
    (new d threads).Minted := by
  have hidle : ∀ (thread : Nat) (a : Activity),
      (List.replicate threads Activity.idle)[thread]? = some a → a = .idle :=
    fun thread a ha => List.eq_of_mem_replicate (List.mem_of_getElem? ha)
  obtain ⟨url, _, rfl⟩ := eq_of_start h
  refine ⟨nofun, .nil, nofun, .nil, nofun, fun _ _ _ => nofun, fun _ _ _ _ _ _ => nofun, ?_⟩
  intro thread other a b ha _ ticket hk
  rw [hidle thread a ha] at hk
  exact absurd hk nofun

/-- **In whatever can come of a new dispatcher every flush has one marker of its own.** -/
theorem minted_of_reachable (h : Reachable e options u) : u.Minted := by
  have hm : u.Tidy ∧ u.Minted := by
    apply h.keeps (P := fun u => u.Tidy ∧ u.Minted)
    · intro d hd threads
      exact ⟨tidy_new hd threads, minted_new hd threads⟩
    · intro a b label hs ha
      exact ⟨hs.tidy ha.1, hs.minted ha.1 ha.2⟩
  exact hm.2

end Usage

end Courier.Dispatch
