import Courier.Proofs.Dispatch.Counting
import Mathlib.Tactic.Choose

/-!
# Readings of the statistics

A reading loads one counter after the other while submissions and deliveries go on, and so may
return what the statistics never were: that of `fair_of_torn_reading` has missed a delivery that was
counted before the drop that it has seen. What it loaded of a counter is what that counter was at
some moment since the reading was called, though, and each counter counts other submissions.

Results:

* `Snapshot.fair` — what three loads at three moments say of the submissions.
* `Step.sound` — every step keeps account of the moments at which counters were loaded.
* `run?_reading` — a reading that nothing interrupts returns the statistics.
* `reachable_iff` — readings make no difference to what can come of a dispatcher.
* `fair_of_reachable` — **however a reading is torn apart, it counts no submission twice**, and a
  later one returns no less.
-/

namespace Courier.Dispatch

open Courier.Dispatcher

variable {e : Endpoint} {options : Options}

/-! ## Three loads -/

/-- At some moment between two usages a counter had a value. -/
def Usage.Shows (u v : Usage) (c : Counter) (value : Nat) : Prop :=
  ∃ m, Reaches u m ∧ Reaches m v ∧ m.dispatcher.stats.value c = value

theorem Usage.Shows.mono {u v w : Usage} {c : Counter} {value : Nat} (h : u.Shows v c value)
    (hw : Reaches v w) : u.Shows w c value := by
  obtain ⟨m, hu, hv, hs⟩ := h
  exact ⟨m, hu, hv.trans hw, hs⟩

/-- What a snapshot says of the usages in which its reading was called and returned. -/
structure Snapshot.Fair (s : Snapshot) : Prop where
  /-- One of them came of the other. -/
  course : s.before.Reaches s.after
  /-- Every counter is between what it was in the one and in the other. -/
  between : ∀ c, s.before.dispatcher.stats.value c ≤ s.stats.value c ∧
    s.stats.value c ≤ s.after.dispatcher.stats.value c
  /-- All that were resolved when the reading was called are counted. -/
  resolved : s.before.resolved.length ≤ s.stats.total
  /-- No more are counted than were called when the reading returned. -/
  called : s.stats.total ≤ s.after.calls
  /-- The counters count different submissions, each of them those that it counted when the reading
  was called, and perhaps some of those that it came to count until the reading returned. -/
  once : ∃ counts : Counter → List Submission,
    (∀ c, (counts c).length = s.stats.value c ∧ s.before.countedBy c <+: counts c ∧
      counts c <+: s.after.countedBy c) ∧
    (counts .delivered ++ counts .failed ++ counts .dropped).Nodup

/-- **Three loads at three moments** count no submission twice. -/
theorem Snapshot.fair {s : Snapshot} (hb : s.before.Reachable e options)
    (hc : s.before.Reaches s.after)
    (hl : ∀ c, s.before.Shows s.after c (s.stats.value c)) : s.Fair := by
  choose moment hbefore hafter hvalue using hl
  have hm : ∀ c, (moment c).Reachable e options := fun c => hb.reaches (hbefore c)
  have ha : s.after.Reachable e options := hb.reaches hc
  have hlength : ∀ c, ((moment c).countedBy c).length = s.stats.value c := fun c =>
    (Usage.length_countedBy (hm c) c).trans (hvalue c)
  have hfrom : ∀ c, s.before.countedBy c <+: (moment c).countedBy c := fun c =>
    Usage.Reaches.countedBy_prefix (hbefore c) c
  have hto : ∀ c, (moment c).countedBy c <+: s.after.countedBy c := fun c =>
    Usage.Reaches.countedBy_prefix (hafter c) c
  have hsub : ((moment .delivered).countedBy .delivered ++ (moment .failed).countedBy .failed ++
      (moment .dropped).countedBy .dropped).Sublist s.after.resolved :=
    ((hto _).sublist.append (hto _).sublist).append (hto _).sublist
  have htotal : ((moment .delivered).countedBy .delivered ++ (moment .failed).countedBy .failed ++
      (moment .dropped).countedBy .dropped).length = s.stats.total := by
    rw [List.length_append, List.length_append, hlength, hlength, hlength]
    rfl
  refine ⟨hc, fun c => ⟨?_, ?_⟩, ?_, ?_, fun c => (moment c).countedBy c, fun c =>
    ⟨hlength c, hfrom c, hto c⟩, ?_⟩
  · exact hvalue c ▸ (hbefore c).value_le hb c
  · exact hvalue c ▸ (hafter c).value_le (hm c) c
  · rw [← htotal]
    exact (((hfrom _).sublist.append (hfrom _).sublist).append (hfrom _).sublist).length_le
  · exact htotal ▸ hsub.length_le.trans (Usage.length_resolved_le_calls ha)
  · exact (Usage.nodup_resolved ha).sublist hsub

namespace Watched

variable {w x : Watched} {act : Act} {thread : Nat} {r : Reading}

/-! ## Steps -/

/-- What can happen where statistics are read. -/
inductive Step (w : Watched) : Act → Watched → Prop where
  | other (label : Label) (u : Usage) (ha : w.admits label = true)
      (hn : w.usage.next? label = some u) : Step w (.other label) { w with usage := u }
  | call (thread : Nat) (hf : w.usage.isFree thread = true) (hr : w.reading? thread = none) :
      Step w (.call thread) (w.call thread)
  | load (thread : Nat) (counter : Counter) (r : Reading) (hr : w.reading? thread = some r)
      (hl : r.loaded counter = none) :
      Step w (.load thread counter) (w.load thread counter r)
  | answer (thread : Nat) (r : Reading) (stats : Stats) (hr : w.reading? thread = some r)
      (hs : r.stats? = some stats) : Step w (.answer thread) (w.answer thread r stats)

theorem step_of_next? (h : w.next? act = some x) : Step w act x := by
  cases act with
  | other label =>
    obtain ⟨ha, h⟩ := Option.ite_none_right_eq_some.mp h
    obtain ⟨u, hu, rfl⟩ := Option.map_eq_some_iff.mp h
    exact .other label u ha hu
  | call thread =>
    obtain ⟨⟨hf, hr⟩, h⟩ := Option.ite_none_right_eq_some.mp h
    cases h
    exact .call thread hf hr
  | load thread counter =>
    simp only [next?] at h
    split at h
    · rename_i r hr
      obtain ⟨hl, h⟩ := Option.ite_none_right_eq_some.mp h
      cases h
      exact .load thread counter r hr hl
    · cases h
  | answer thread =>
    simp only [next?] at h
    split at h
    · rename_i r hr
      obtain ⟨stats, hs, rfl⟩ := Option.map_eq_some_iff.mp h
      exact .answer thread r stats hr hs
    · cases h

/-- After a thread went to another reading, it is in that and every other thread where it was. -/
theorem reading?_put_cases {reading : Option Reading} {other : Nat}
    (h : (w.put thread reading).reading? other = some r) :
    reading = some r ∨ w.reading? other = some r := by
  rcases Usage.getElem?_set_cases (Option.join_eq_some_iff.mp h) with ⟨_, hr⟩ | ⟨_, hr⟩
  · exact .inl hr.symm
  · exact .inr (Option.join_eq_some_iff.mpr hr)

/-! ## Moments -/

/-- What was so when a reading was called: every reading that was over then had returned in what
this usage came of. -/
structure Called (e : Endpoint) (options : Options) (snapshots : List Snapshot) (earlier : Nat)
    (before : Usage) : Prop where
  reachable : before.Reachable e options
  earlier_le : earlier ≤ snapshots.length
  behind : ∀ (i : Nat) s, snapshots[i]? = some s → i < earlier → s.after.Reaches before

/-- What a reading that is under way now has loaded. -/
structure UnderWay (e : Endpoint) (options : Options) (snapshots : List Snapshot) (now : Usage)
    (r : Reading) : Prop where
  called : Called e options snapshots r.earlier r.before
  course : r.before.Reaches now
  shows : ∀ c value, r.loaded c = some value → r.before.Shows now c value

/-- What a reading that is over now has returned. -/
structure Ended (e : Endpoint) (options : Options) (snapshots : List Snapshot) (now : Usage)
    (s : Snapshot) : Prop where
  called : Called e options snapshots s.earlier s.before
  course : s.before.Reaches s.after
  returned : s.after.Reaches now
  shows : ∀ c, s.before.Shows s.after c (s.stats.value c)

variable {snapshots : List Snapshot} {now later : Usage} {s : Snapshot}

theorem UnderWay.mono (h : UnderWay e options snapshots now r) (hl : now.Reaches later) :
    UnderWay e options snapshots later r :=
  ⟨h.called, h.course.trans hl, fun c value hv => (h.shows c value hv).mono hl⟩

theorem Ended.mono (h : Ended e options snapshots now s) (hl : now.Reaches later) :
    Ended e options snapshots later s :=
  ⟨h.called, h.course, h.returned.trans hl, h.shows⟩

/-- A reading that returns later makes no difference. -/
theorem Called.append {earlier : Nat} {before : Usage}
    (h : Called e options snapshots earlier before) (s : Snapshot) :
    Called e options (snapshots ++ [s]) earlier before := by
  refine ⟨h.reachable, ?_, fun i t hi hlt => ?_⟩
  · rw [List.length_append]
    exact Nat.le_add_right_of_le h.earlier_le
  · rw [List.getElem?_append_left (Nat.lt_of_lt_of_le hlt h.earlier_le)] at hi
    exact h.behind i t hi hlt

theorem UnderWay.append (h : UnderWay e options snapshots now r) (s : Snapshot) :
    UnderWay e options (snapshots ++ [s]) now r :=
  ⟨h.called.append s, h.course, h.shows⟩

theorem Ended.append (h : Ended e options snapshots now s) (t : Snapshot) :
    Ended e options (snapshots ++ [t]) now s :=
  ⟨h.called.append t, h.course, h.returned, h.shows⟩

/-- A counter that is loaded now shows what it is. -/
theorem UnderWay.load (h : UnderWay e options snapshots now r) (counter : Counter) :
    UnderWay e options snapshots now
      (r.load counter (now.dispatcher.stats.value counter)) := by
  refine ⟨h.called, h.course, fun c value hl => ?_⟩
  rw [Reading.loaded_load] at hl
  split at hl
  · subst c
    cases hl
    exact ⟨now, h.course, .refl, rfl⟩
  · exact h.shows c value hl

/-- A reading returns what its counters showed. -/
theorem UnderWay.ended {stats : Stats} (h : UnderWay e options snapshots now r)
    (hs : r.stats? = some stats) (thread : Nat) :
    Ended e options snapshots now ⟨thread, r.earlier, r.before, now, stats⟩ :=
  ⟨h.called, h.course, .refl, fun c => h.shows c _ (Reading.stats?_eq_some_iff.mp hs c)⟩

/-- What always holds where statistics are read. -/
structure Sound (e : Endpoint) (options : Options) (w : Watched) : Prop where
  reachable : w.usage.Reachable e options
  /-- There is a place for every thread's reading. -/
  places : w.readings.length = w.usage.threads.length
  underWay : ∀ thread r, w.reading? thread = some r → UnderWay e options w.snapshots w.usage r
  ended : ∀ s ∈ w.snapshots, Ended e options w.snapshots w.usage s

/-- A thread may go to any reading that is under way. -/
theorem Sound.put {reading : Option Reading} (h : Sound e options w)
    (hr : ∀ r, reading = some r → UnderWay e options w.snapshots w.usage r) :
    Sound e options (w.put thread reading) := by
  refine ⟨h.reachable, List.length_set.trans h.places, fun other r ho => ?_, h.ended⟩
  rcases reading?_put_cases ho with ho | ho
  · exact hr r ho
  · exact h.underWay other r ho

/-- **Every step keeps account of the moments at which counters were loaded.** -/
theorem Step.sound (h : Step w act x) (hw : Sound e options w) : Sound e options x := by
  cases h with
  | other label u _ hn =>
    have hu : w.usage.Reaches u := .step label .refl hn
    exact ⟨hw.reachable.reaches hu, hw.places.trans (Usage.step_of_next? hn).length_threads.symm,
      fun thread r hr => (hw.underWay thread r hr).mono hu, fun s hs => (hw.ended s hs).mono hu⟩
  | call thread _ _ =>
    refine hw.put ?_
    rintro _ ⟨⟩
    have hbehind : ∀ (i : Nat) s, w.snapshots[i]? = some s → i < w.snapshots.length →
        s.after.Reaches w.usage := fun i s hi _ => (hw.ended s (List.mem_of_getElem? hi)).returned
    exact ⟨⟨hw.reachable, Nat.le_refl _, hbehind⟩, .refl, nofun⟩
  | load thread counter r hr _ =>
    refine hw.put ?_
    rintro _ ⟨⟩
    exact (hw.underWay thread r hr).load counter
  | answer thread r stats hr hs =>
    have hp : Sound e options (w.put thread none) := hw.put nofun
    refine ⟨hp.reachable, hp.places, fun other r hr => (hp.underWay other r hr).append _,
      fun s hm => ?_⟩
    rcases List.mem_append.mp hm with hm | hm
    · exact (hp.ended s hm).append _
    · rw [List.mem_singleton.mp hm]
      exact ((hw.underWay thread r hr).ended hs thread).append _

theorem sound_of_reachable (h : Reachable e options w) : Sound e options w := by
  obtain ⟨d, threads, hd, hw⟩ := h
  induction hw with
  | refl =>
    refine ⟨⟨d, threads, hd, .refl⟩, List.length_replicate, fun thread r hr => ?_,
      fun s hs => absurd hs List.not_mem_nil⟩
    have hm := List.mem_of_getElem? (Option.join_eq_some_iff.mp hr)
    cases List.eq_of_mem_replicate hm
  | step act _ hn ih => exact (step_of_next? hn).sound ih

/-! ## Nobody waits -/

theorem reading?_put_self (h : thread < w.readings.length) (reading : Option Reading) :
    (w.put thread reading).reading? thread = reading := by
  show (w.readings.set thread reading)[thread]?.join = reading
  rw [List.getElem?_set_self h, Option.join_some]

@[simp] theorem length_readings_call : (w.call thread).readings.length = w.readings.length :=
  List.length_set

@[simp] theorem length_readings_load (c : Counter) :
    (w.load thread c r).readings.length = w.readings.length := List.length_set

theorem next?_call (hf : w.usage.isFree thread = true) (hr : w.reading? thread = none) :
    w.next? (.call thread) = some (w.call thread) := by
  simp only [next?, hf, hr, and_self, if_true]

theorem next?_load {c : Counter} (hr : w.reading? thread = some r) (hl : r.loaded c = none) :
    w.next? (.load thread c) = some (w.load thread c r) := by
  simp only [next?, hr, hl, if_true]

theorem next?_answer {stats : Stats} (hr : w.reading? thread = some r)
    (hs : r.stats? = some stats) :
    w.next? (.answer thread) = some (w.answer thread r stats) := by
  simp only [next?, hr, hs, Option.map_some]

theorem run?_cons {acts : List Act} (h : w.next? act = some x) :
    w.run? (act :: acts) = x.run? acts := by
  rw [run?, h, Option.bind_some]

/-- **A reading that nothing interrupts returns the statistics.** -/
theorem run?_reading (h : Reachable e options w) (hf : w.usage.isFree thread = true)
    (hr : w.reading? thread = none) : ∃ x, w.run? (Act.reading thread) = some x ∧
      x.usage = w.usage ∧ x.snapshots = w.snapshots ++
        [⟨thread, w.snapshots.length, w.usage, w.usage, w.usage.dispatcher.stats⟩] := by
  have hlt : thread < w.readings.length := by
    rw [(sound_of_reachable h).places]
    exact (List.getElem?_eq_some_iff.mp (Usage.idle_of_isFree hf).2).1
  have hrun := calc w.run? (Act.reading thread)
      _ = (w.call thread).run? _ := run?_cons (next?_call hf hr)
      _ = _ := run?_cons (next?_load (reading?_put_self hlt _) rfl)
      _ = _ := run?_cons (next?_load (reading?_put_self (by simpa using hlt) _) rfl)
      _ = _ := run?_cons (next?_load (reading?_put_self (by simpa using hlt) _) rfl)
      _ = _ := run?_cons (next?_answer (reading?_put_self (by simpa using hlt) _) rfl)
  exact ⟨_, hrun, rfl, rfl⟩

/-- A thread that is in a reading can load what it has not loaded, or return. -/
theorem exists_next_of_reading (hr : w.reading? thread = some r) :
    (∃ c x, r.loaded c = none ∧ w.next? (.load thread c) = some x) ∨
      ∃ stats, r.stats? = some stats ∧
        w.next? (.answer thread) = some (w.answer thread r stats) := by
  by_cases hn : ∃ c, r.loaded c = none
  · obtain ⟨c, hc⟩ := hn
    exact .inl ⟨c, _, hc, next?_load hr hc⟩
  · have hall : ∀ c, ∃ value, r.loaded c = some value := fun c =>
      Option.ne_none_iff_exists'.mp fun hc => hn ⟨c, hc⟩
    choose value hv using hall
    have hs : r.stats? = some ⟨value .delivered, value .failed, value .dropped⟩ :=
      Reading.stats?_eq_some_iff.mpr fun c => by cases c <;> exact hv _
    exact .inr ⟨_, hs, next?_answer hr hs⟩

/-! ## What can come of a dispatcher -/

theorem reading?_of_unread (h : ∀ r ∈ w.readings, r = none) (thread : Nat) :
    w.reading? thread = none := by
  unfold reading?
  cases hr : w.readings[thread]? with
  | none => rfl
  | some r => rw [h r (List.mem_of_getElem? hr), Option.join_some]

theorem admits_of_unread (h : ∀ r ∈ w.readings, r = none) (label : Label) :
    w.admits label = true := by
  unfold admits
  split
  · refine List.all_eq_true.mpr fun r hr => ?_
    rw [h r hr]
    rfl
  · cases label.thread? with
    | none => rfl
    | some thread => simp only [Option.all_some, reading?_of_unread h, Option.isNone_none]

/-- What happens in a usage happens also while nobody reads its statistics. -/
theorem reaches_of_unread {u v : Usage} (h : u.Reaches v) {readings : List (Option Reading)}
    (hr : ∀ r ∈ readings, r = none) (snapshots : List Snapshot) :
    Reaches ⟨u, readings, snapshots⟩ ⟨v, readings, snapshots⟩ := by
  induction h with
  | refl => exact .refl
  | @step x y label _ hn ih =>
    have ha : admits ⟨x, readings, snapshots⟩ label = true := admits_of_unread hr label
    refine .step (.other label) ih ?_
    simp only [next?, ha, if_true, hn, Option.map_some]

/-- **Readings make no difference to what can come of a dispatcher.** -/
theorem reachable_iff {u : Usage} :
    u.Reachable e options ↔ ∃ w, Reachable e options w ∧ w.usage = u := by
  constructor
  · rintro ⟨d, threads, hd, hu⟩
    refine ⟨_, ⟨d, threads, hd, reaches_of_unread hu ?_ []⟩, rfl⟩
    exact fun r hr => List.eq_of_mem_replicate hr
  · rintro ⟨w, hw, rfl⟩
    exact (sound_of_reachable hw).reachable

/-! ## Torn readings -/

/-- **However a reading is torn apart, it counts no submission twice.** Whatever was submitted and
flushed by any number of threads while any number of them read the statistics, and also if the
worker has panicked:

* what a reading returned of a counter is between what that was when the reading was called and
  when it returned; together its counters count all submissions that were resolved at its call, each
  once, and no more than were called until it returned;
* a reading that was called when another one was over returned no less of any counter;
* a reading that is under way can always go on by itself, with a counter that it has not loaded, or
  with its return. -/
theorem fair_of_reachable (h : Reachable e options w) :
    (∀ s ∈ w.snapshots, s.Fair) ∧
    (∀ (i j : Nat) s t, w.snapshots[i]? = some s → w.snapshots[j]? = some t → i < t.earlier →
      ∀ c, s.stats.value c ≤ t.stats.value c) ∧
    ∀ thread r, w.reading? thread = some r →
      (∃ c x, r.loaded c = none ∧ w.next? (.load thread c) = some x) ∨
        ∃ stats, r.stats? = some stats ∧
          w.next? (.answer thread) = some (w.answer thread r stats) := by
  have hw := sound_of_reachable h
  have hfair : ∀ s ∈ w.snapshots, s.Fair := fun s hs =>
    have he := hw.ended s hs
    Snapshot.fair he.called.reachable he.course he.shows
  refine ⟨hfair, fun i j s t hi hj hlt c => ?_, fun thread r => exists_next_of_reading⟩
  have ht := hw.ended t (List.mem_of_getElem? hj)
  have hafter : s.after.Reachable e options :=
    have hs := hw.ended s (List.mem_of_getElem? hi)
    hs.called.reachable.reaches hs.course
  calc s.stats.value c ≤ s.after.dispatcher.stats.value c :=
        ((hfair s (List.mem_of_getElem? hi)).between c).2
    _ ≤ t.before.dispatcher.stats.value c := (ht.called.behind i s hi hlt).value_le hafter c
    _ ≤ t.stats.value c := ((hfair t (List.mem_of_getElem? hj)).between c).1

/-- Between two loads of a reading a delivery and then a drop are counted; the reading returns the
drop alone, and the next one both. -/
theorem fair_of_torn_reading :
    ∃ w s t, Reachable (.of "http://[::]" "/") ⟨none, 1, .ofSeconds 2⟩ w ∧
      w.snapshots = [s, t] ∧ s.before.dispatcher.stats = ⟨0, 0, 0⟩ ∧
      s.after.dispatcher.stats = ⟨1, 0, 1⟩ ∧ s.stats = ⟨0, 0, 1⟩ ∧ s.Fair ∧
      t.earlier = 1 ∧ t.stats = ⟨1, 0, 1⟩ ∧ ∀ c, s.stats.value c ≤ t.stats.value c := by
  have hu : (Endpoint.of "http://[::]" "/").targetUrl.toOption = some "http://[::]/".toList := by
    decide +kernel
  have h := Reachable.of_run? hu ⟨none, 1, .ofSeconds 2⟩ 3
    ([.other (.submit 0 (.bool true)), .other (.offer 0), .other .take,
      .other (.finish (.finished (.ok ()))), .call 1, .load 1 .delivered, .other .count,
      .other (.submit 0 (.bool true)), .other (.offer 0), .other (.submit 2 (.bool false)),
      .other (.offer 2), .other (.drop 2), .load 1 .failed, .load 1 .dropped, .answer 1] ++
      Act.reading 2) rfl
  have hw := fair_of_reachable h
  refine ⟨_, _, _, h, rfl, rfl, rfl, rfl, hw.1 _ List.mem_cons_self, rfl, rfl, ?_⟩
  exact hw.2.1 0 1 _ _ rfl rfl Nat.one_pos

end Watched

end Courier.Dispatch
