import Courier.Dispatch.Wired
import Courier.Proofs.Dispatch.Flushing
import Courier.Proofs.Dispatch.Plays
import Courier.Proofs.Dispatch.Telling

/-!
# After the worker's panic

Once the worker has panicked and its queue is gone, nothing is delivered any more, and nobody waits
for it in vain.

Results:

* `Step.contained` — from then on a step refuses a submission, ends a flush that was given up, or
  changes nothing that counts.
* `Step.nearer` — every call is over after two steps of its own thread at most, whatever the others
  do meanwhile (`Activity.left`), and such a step can always be made.
* `contained_of_gone` — **the death of the worker is final and contained**: submissions return false
  and are counted as dropped, flushes return false, that of the drop among them, no request is
  sent, and the panic is the last thing that the worker told.
-/

namespace Courier.Dispatch

open Courier.Dispatcher

/-- How many steps of its own a call takes at most once the queue is gone. -/
def Activity.left : Activity → Nat
  | .idle => 0
  | .offering _ _ => 2
  | .dropping _ _ | .sending _ | .awaiting _ => 1

variable {d : Dispatcher} {e : Endpoint} {net : Http.Network}

/-- A dispatcher without a queue takes no message. -/
theorem offer_of_gone (hg : d.phase = .gone) (m : Message) : d.offer m = (.cut, d) := by
  simp [offer, isCut, hg]

/-- A submission to it returns false and is counted as dropped. -/
theorem submit_of_gone (hg : d.phase = .gone) (payload : Payload) :
    (d.submit payload).1 = false ∧ (d.submit payload).2.stats = d.stats.drop := by
  unfold Dispatcher.submit
  cases prepare d.options.hook payload with
  | mk events body =>
    cases body with
    | none => exact ⟨rfl, rfl⟩
    | some body =>
      have ho := offer_of_gone (d := d.tell events) hg (.body body)
      simp only [Dispatcher.enqueue, ho]
      exact ⟨trivial, rfl⟩

/-- Its worker does nothing. -/
theorem advanceBy_of_gone (hg : d.phase = .gone) (moves : Nat) :
    advanceBy e moves (d, net) = (d, net) := by
  have ha : advance e (d, net) = (d, net) := by simp [advance, take?, hg]
  induction moves with
  | zero => rfl
  | succ moves ih => rw [advanceBy, ha, ih]

/-- A flush of it returns false, and leaves but the number of its ticket. -/
theorem flush_of_gone (hg : d.phase = .gone) :
    Dispatch.flush e (d, net) = (false, (d.issue.2, net)) := by
  have hg : d.issue.2.phase = .gone := hg
  have hne : Offer.cut ≠ .taken := nofun
  exact (flush_of_offer (advanceBy_of_gone hg _)).2 hne (offer_of_gone hg _)

namespace Usage

variable {u v w : Usage} {label : Label} {thread ticket : Nat} {a : Activity}

/-! ## One step -/

/-- What has come of a usage whose queue was gone. -/
structure Contained (u v : Usage) : Prop where
  gone : v.dispatcher.phase = .gone
  delivered : v.dispatcher.stats.delivered = u.dispatcher.stats.delivered
  failed : v.dispatcher.stats.failed = u.dispatcher.stats.failed
  /-- The submissions that are over since returned false, and each is counted as dropped. -/
  refused : ∃ more, v.submissions = u.submissions ++ more ∧
    (∀ s ∈ more, s.fate.returned = false) ∧
    v.dispatcher.stats.dropped = u.dispatcher.stats.dropped + more.length
  /-- No delivery was begun or counted, and the worker told nothing. -/
  begun : v.begun = u.begun
  counted : v.counted = u.counted
  workerLog : v.dispatcher.workerLog = u.dispatcher.workerLog

theorem Contained.refl (hg : u.dispatcher.phase = .gone) : Contained u u :=
  ⟨hg, rfl, rfl, ⟨[], (List.append_nil _).symm, nofun, rfl⟩, rfl, rfl, rfl⟩

/-- **A step without a queue** refuses a submission or changes nothing that counts. -/
theorem Step.contained (h : Step v label w) (hv : Contained u v) : Contained u w := by
  obtain ⟨hg, hd, hf, ⟨more, hs, hr, hn⟩, hb, hc, hw⟩ := hv
  cases h with
  | handed _ _ _ _ _ hp | markHanded _ _ _ _ hp | take _ _ hp _ | finish _ _ hp | panic _ _ hp
  | count _ _ hp | notify _ hp | cut hp | leave hp _ _ =>
    rw [hg] at hp
    exact absurd hp nofun
  | queued _ _ _ _ hcut _ | markQueued _ _ _ hcut _ =>
    simp [isCut, hg] at hcut
  | drop thread call body _ =>
    refine ⟨hg, hd, hf, ⟨more ++ [⟨thread, call, .refused body⟩], ?_, ?_, ?_⟩, hb, hc, hw⟩
    · show v.submissions ++ _ = _
      rw [hs, List.append_assoc]
    · intro s hm
      rcases List.mem_append.mp hm with hm | hm
      · exact hr s hm
      · rw [List.mem_singleton.mp hm]
        rfl
    · show v.dispatcher.stats.dropped + 1 = _
      rw [hn, List.length_append]
      rfl
  | _ => exact ⟨hg, hd, hf, ⟨more, hs, hr, hn⟩, hb, hc, hw⟩

theorem Reaches.contained (h : Reaches u v) (hg : u.dispatcher.phase = .gone) : Contained u v :=
  h.keeps (.refl hg) fun hs ha => hs.contained ha

/-- What was queued before the queue went is all that ever was. -/
theorem Contained.accepted (h : Contained u v) : v.accepted = u.accepted := by
  obtain ⟨more, hs, hr, _⟩ := h.refused
  unfold Usage.accepted
  rw [hs, List.filterMap_append]
  refine (congrArg _ (List.filterMap_eq_nil_iff.mpr fun s hm => ?_)).trans (List.append_nil _)
  have hf := hr s hm
  cases hfate : s.fate with
  | queued body => simp [hfate] at hf
  | refused body => rfl

/-- A flush that is called when the queue is gone does not return true. -/
theorem not_told_of_gone {e : Endpoint} {options : Options} (h : Reachable e options u)
    (hg : u.dispatcher.phase = .gone) (hv : Reaches u v) (hk : u.dispatcher.tickets ≤ ticket) :
    (ticket, true) ∉ v.ended := by
  intro ht
  have hr := (minted_of_reachable (h.reaches hv)).told ticket ht
  rw [hv.of_gone hg] at hr
  have hlt := (minted_of_reachable h).markers_lt ticket
    (List.mem_append_left _ (List.mem_append_left _ hr))
  rw [(tidy_of_reachable h).issued] at hlt
  exact absurd hlt (Nat.not_lt.mpr hk)

/-! ## Nobody waits in vain -/

/-- A thread that is in a call can go on by itself. -/
theorem exists_next (ha : v.threads[thread]? = some a) (hi : a ≠ .idle) :
    ∃ label w, label.thread? = some thread ∧ v.next? label = some w := by
  cases a with
  | idle => exact absurd rfl hi
  | offering call body =>
    exact ⟨.offer thread, v.offer thread call body, rfl, by simp only [next?, ha]⟩
  | dropping call body =>
    exact ⟨.drop thread, v.drop thread call body, rfl, by simp only [next?, ha]⟩
  | sending ticket =>
    exact ⟨.endFlush thread, v.endFlush thread ticket false, rfl, by simp only [next?, ha]⟩
  | awaiting ticket =>
    exact ⟨.endFlush thread, v.endFlush thread ticket (v.dispatcher.hasReached ticket), rfl,
      by simp only [next?, ha]⟩

/-- A thread is idle when it calls something. -/
theorem idle_of_isFree (h : v.isFree thread = true) :
    v.isClosing = false ∧ v.threads[thread]? = some .idle := by
  simpa [isFree] using h

/-- A thread is nearer to the end of its call after a step of its own, and where it was after a
step of another. -/
def Nearer (thread : Nat) (a : Activity) (label : Label) (w : Usage) : Prop :=
  ∃ b, w.threads[thread]? = some b ∧
    if label.thread? = some thread then b.left < a.left else b = a

theorem nearer_set {other : Nat} {b : Activity} (ha : v.threads[thread]? = some a)
    (hl : other = thread → b.left < a.left) :
    ∃ c, (v.threads.set other b)[thread]? = some c ∧
      if some other = some thread then c.left < a.left else c = a := by
  by_cases ho : other = thread
  · subst ho
    have hlt : other < v.threads.length := (List.getElem?_eq_some_iff.mp ha).1
    refine ⟨b, List.getElem?_set_self hlt, ?_⟩
    rw [if_pos rfl]
    exact hl rfl
  · refine ⟨a, (List.getElem?_set_ne ho).trans ha, ?_⟩
    rw [if_neg fun h => ho (Option.some.inj h)]

/-- A thread that is in a call comes nearer to its end with each step of its own, unless it has a
marker queued. -/
theorem Step.nearer_of_no_mark (h : Step v label w) (hm : label ≠ .mark thread)
    (ha : v.threads[thread]? = some a) (hi : a ≠ .idle) : Nearer thread a label w := by
  have hown : ∀ {other : Nat} {b c : Activity}, v.threads[other]? = some c → b.left < c.left →
      other = thread → b.left < a.left := by
    rintro other b c hc hl rfl
    obtain rfl : c = a := Option.some.inj (hc.symm.trans ha)
    exact hl
  have hfree : ∀ {other : Nat} {b : Activity}, v.isFree other = true → other = thread →
      b.left < a.left := by
    rintro other b hf rfl
    exact absurd (Option.some.inj (ha.symm.trans (idle_of_isFree hf).2)) hi
  cases h with
  | markQueued other _ _ _ _ | markHanded other _ _ _ _ =>
    exact nearer_set ha fun he => absurd (congrArg Label.mark he) hm
  | submit _ _ hf | flush _ hf | close _ hf _ => exact nearer_set ha (hfree hf)
  | queued _ _ _ ht _ _ | handed _ _ _ ht _ _ | refused _ _ _ _ ht _ _ | missed _ _ _ ht _ _
  | drop _ _ _ ht | givenUp _ _ ht | waited _ _ ht =>
    exact nearer_set ha (hown ht (by simp [Activity.left]))
  | _ => exact ⟨a, ha, rfl⟩

/-- **A step without a queue** brings a thread that is in a call nearer to its end, if it is the
thread's own, and is nothing to it otherwise. -/
theorem Step.nearer (h : Step v label w) (hg : v.dispatcher.phase = .gone)
    (ha : v.threads[thread]? = some a) (hi : a ≠ .idle) : Nearer thread a label w := by
  refine h.nearer_of_no_mark ?_ ha hi
  rintro rfl
  cases h with
  | markQueued _ _ _ hcut _ => simp [isCut, hg] at hcut
  | markHanded _ _ _ _ hp => cases hg.symm.trans hp

/-- A thread that is in a submission has no marker. -/
theorem Step.nearer_of_call (h : Step v label w) (ha : v.threads[thread]? = some a)
    (hc : a.call?.isSome = true) : Nearer thread a label w := by
  have hsending : ∀ ticket, v.threads[thread]? ≠ some (.sending ticket) := by
    intro ticket ht
    obtain rfl := Option.some.inj (ha.symm.trans ht)
    exact absurd hc nofun
  refine h.nearer_of_no_mark ?_ ha ?_
  · rintro rfl
    cases h with
    | markQueued _ ticket ht _ _ | markHanded _ ticket ht _ _ => exact hsending ticket ht
  · rintro rfl
    exact absurd hc nofun

/-! ## Letting go in vain -/

/-- If the dispatcher is about to be let go of, the flush of that has its marker not queued, or it
was given up and that was told last. -/
def ClosesInVain (v : Usage) : Prop :=
  v.isClosing = true →
    (∃ thread ticket, v.threads[thread]? = some (.sending ticket) ∧
      ∀ (other : Nat) (a : Activity), v.threads[other]? = some a → other ≠ thread → a = .idle) ∨
    v.isQuiet = true ∧ v.dispatcher.callerLog.getLast? = some .flushTimedOut

theorem isQuiet_iff : v.isQuiet = true ↔
    ∀ (thread : Nat) (a : Activity), v.threads[thread]? = some a → a = .idle := by
  simp only [isQuiet, List.all_eq_true, decide_eq_true_eq]
  constructor
  · exact fun h thread a ha => h a (List.mem_of_getElem? ha)
  · intro h a ha
    obtain ⟨thread, hlt, rfl⟩ := List.mem_iff_getElem.mp ha
    exact h thread _ (List.getElem?_eq_getElem hlt)

/-- There is nothing else that a thread can be in then. -/
theorem ClosesInVain.activity (h : v.ClosesInVain) (hc : v.isClosing = true)
    (ha : v.threads[thread]? = some a) : a = .idle ∨ ∃ ticket, a = .sending ticket := by
  rcases h hc with ⟨closer, ticket, ht, ho⟩ | ⟨hq, _⟩
  · by_cases he : thread = closer
    · subst he
      exact .inr ⟨ticket, Option.some.inj (ha.symm.trans ht)⟩
    · exact .inl (ho thread a ha he)
  · exact .inl (isQuiet_iff.mp hq thread a ha)

theorem Step.closesInVain (h : Step v label w) (hg : v.dispatcher.phase = .gone)
    (hv : v.ClosesInVain) : w.ClosesInVain := by
  have hno : ∀ {thread : Nat} {a : Activity}, v.threads[thread]? = some a → a ≠ .idle →
      (∀ ticket, a ≠ .sending ticket) → v.isClosing ≠ true := by
    intro thread a ha hi hs hc
    rcases hv.activity hc ha with rfl | ⟨ticket, rfl⟩
    · exact hi rfl
    · exact hs ticket rfl
  cases h with
  | handed _ _ _ _ _ hp | markHanded _ _ _ _ hp | take _ _ hp _ | finish _ _ hp | panic _ _ hp
  | count _ _ hp | notify _ hp | cut hp | leave hp _ _ =>
    rw [hg] at hp
    exact absurd hp nofun
  | submit _ _ hf | flush _ hf =>
    intro hc
    exact absurd (hc.symm.trans (idle_of_isFree hf).1) nofun
  | refused _ _ _ _ ht _ _ | missed _ _ _ ht _ _ | drop _ _ _ ht | waited _ _ ht =>
    exact fun hc => absurd hc (hno ht nofun nofun)
  | close thread hf hq =>
    intro _
    have hlt : thread < v.threads.length :=
      (List.getElem?_eq_some_iff.mp (idle_of_isFree hf).2).1
    refine .inl ⟨thread, v.dispatcher.tickets, List.getElem?_set_self hlt, fun other a ha hne => ?_⟩
    rcases getElem?_set_cases ha with ⟨he, _⟩ | ⟨_, ha⟩
    · exact absurd he hne
    · exact isQuiet_iff.mp hq other a ha
  | givenUp thread ticket ht =>
    intro hc
    have hc : v.isClosing = true := hc
    refine .inr ⟨isQuiet_iff.mpr fun other a ha => ?_, ?_⟩
    · rcases getElem?_set_cases ha with ⟨_, rfl⟩ | ⟨hne, ha⟩
      · rfl
      · rcases hv hc with ⟨closer, _, _, ho⟩ | ⟨hq, _⟩
        · by_cases he : other = closer
          · have hi := ho thread _ ht fun h => hne (he.trans h.symm)
            exact absurd hi nofun
          · exact ho other a ha he
        · exact isQuiet_iff.mp hq other a ha
    · simp [Usage.endFlush, Dispatcher.tell, hc]
  | queued _ _ _ _ hcut _ | markQueued _ _ _ hcut _ =>
    simp [isCut, hg] at hcut
  | turn | letGo => exact hv

/-! ## Whatever comes -/

/-- What is there, whatever has come of a usage whose queue was gone. -/
structure Final (u v : Usage) : Prop extends Contained u v where
  /-- The panic was told once, and last. -/
  panicked : ∃ before, v.dispatcher.workerLog = before ++ [.workerPanicked] ∧
    .workerPanicked ∉ before
  /-- No flush that was called since has returned true. -/
  flushes : ∀ ticket, u.dispatcher.tickets ≤ ticket → (ticket, true) ∉ v.ended
  /-- A thread that is in a call can go on by itself, -/
  enabled : ∀ (thread : Nat) (a : Activity), v.threads[thread]? = some a → a ≠ .idle →
    ∃ label w, label.thread? = some thread ∧ v.next? label = some w
  /-- and comes nearer to the end of its call with each step of its own, whatever the others do. -/
  nearer : ∀ (thread : Nat) (a : Activity), v.threads[thread]? = some a → a ≠ .idle →
    ∀ label w, v.next? label = some w → Nearer thread a label w
  /-- Once the flush of letting go is over, what callers were told last is that it timed out. -/
  closing : u.isClosing = false → v.isClosing = true → v.isQuiet = true →
    v.dispatcher.callerLog.getLast? = some .flushTimedOut
  /-- One caller who goes on alone is answered the same. -/
  submit : ∀ payload, (v.dispatcher.submit payload).1 = false ∧
    (v.dispatcher.submit payload).2.stats = v.dispatcher.stats.drop
  flush : ∀ e net, Dispatch.flush e (v.dispatcher, net) = (false, (v.dispatcher.issue.2, net))

variable {options : Options}

theorem closing_of_gone (hg : u.dispatcher.phase = .gone) (hu : u.isClosing = false)
    (hv : Reaches u v) (hc : v.isClosing = true) (hq : v.isQuiet = true) :
    v.dispatcher.callerLog.getLast? = some .flushTimedOut := by
  have hin : v.dispatcher.phase = .gone ∧ v.ClosesInVain := by
    apply hv.keeps (P := fun v => v.dispatcher.phase = .gone ∧ v.ClosesInVain)
    · exact ⟨hg, fun hc => absurd (hc.symm.trans hu) nofun⟩
    · intro a b label hs ha
      exact ⟨(hs.of_gone ha.1).1, hs.closesInVain ha.1 ha.2⟩
  rcases hin.2 hc with ⟨thread, ticket, ht, _⟩ | ⟨_, hl⟩
  · exact absurd (isQuiet_iff.mp hq thread _ ht) nofun
  · exact hl

/-- **The death of the worker is final and contained.** However it came about and whatever threads
were in the midst of: once the worker has panicked and its queue is gone, any continuation by any
threads leaves the network as it was, and comes to what `Final` says. -/
theorem contained_of_gone (h : Reachable e options u) (hg : u.dispatcher.phase = .gone)
    (net : Http.Network) (labels : List Label) (w : Wired)
    (hr : (Wired.mk u net).run? e labels = some w) :
    Final u w.usage ∧ w.network = net := by
  have hv : Reaches u w.usage := Wired.reaches_of_run? hr
  have hc := hv.contained hg
  have hnet : w.usage.dispatcher.phase = .gone ∧ w.network = net := by
    apply Wired.run?_keeps (P := fun w => w.usage.dispatcher.phase = .gone ∧ w.network = net) hr
    · exact ⟨hg, rfl⟩
    · rintro a b label _ hn ⟨hp, ha⟩
      obtain ⟨hn, ⟨hb, _⟩ | ⟨body, _, hd, _⟩⟩ := Wired.cases_of_next? hn
      · exact ⟨((step_of_next? hn).of_gone hp).1, hb.trans ha⟩
      · exact absurd (hp.symm.trans hd) nofun
  refine ⟨⟨hc, ?_, ?_, ?_, ?_, ?_, ?_, ?_⟩, hnet.2⟩
  · exact workerLog_of_panicked (h.reaches hv) (by rw [hc.gone]; rfl)
  · exact fun ticket => not_told_of_gone h hg hv
  · exact fun thread a => exists_next
  · exact fun thread a ha hi label x hn => (step_of_next? hn).nearer hc.gone ha hi
  · exact fun hu => closing_of_gone hg hu hv
  · exact submit_of_gone hc.gone
  · exact fun e net => flush_of_gone hc.gone

/-- A body and a marker go with the queue. After that one thread's flush is given up and the other's
submission refused, and the dispatcher is let go of. -/
theorem contained_of_full_queue :
    ∃ u, Reachable (.of "http://[::]" "/") ⟨none, 2, .ofSeconds 2⟩ u ∧
      u.dispatcher.phase = .gone ∧ ∃ labels w,
      (Wired.mk u .unreachable).run? (.of "http://[::]" "/") labels = some w ∧
      w.usage.ended = [(0, false), (1, false)] ∧ w.usage.dispatcher.stats = ⟨0, 0, 1⟩ ∧
      w.usage.dispatcher.isHeld = false ∧ Final u w.usage ∧ w.network = .unreachable := by
  have hu : (Endpoint.of "http://[::]" "/").targetUrl.toOption = some "http://[::]/".toList := by
    decide +kernel
  have h := Reachable.of_run? hu ⟨none, 2, .ofSeconds 2⟩ 2
    [.submit 0 (.bool true), .offer 0, .take, .submit 0 (.bool false), .offer 0, .flush 1, .mark 1,
      .finish (.panicked Http.clockMessage), .cut] rfl
  let labels : List Label :=
    [.submit 0 (.bool true), .endFlush 1, .offer 0, .drop 0, .close 1, .endFlush 1, .letGo]
  refine ⟨_, h, rfl, labels, ?_⟩
  refine ⟨_, (rfl : Wired.run? _ _ labels = _), rfl, rfl, rfl, ?_⟩
  exact contained_of_gone h rfl .unreachable labels _ rfl

end Usage

end Courier.Dispatch
