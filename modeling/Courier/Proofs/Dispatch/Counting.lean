import Courier.Dispatch.Watched
import Courier.Proofs.Dispatch.Losses
import Courier.Proofs.Dispatch.Order

/-!
# What the counters count

The worker counts deliveries in the order in which their bodies were queued, so that the first
deliveries that are counted are those of the first submissions that returned true. That says of
every submission which counter counts it, if one does.

Results:

* `fate_of_mem_accounted` — a submission is taken together with the delivery of its own body.
* `length_countedBy` — a counter says how many submissions it counts.
* `Reaches.countedBy_prefix` — a counter goes on counting what it has counted.
* `nodup_resolved` — **no submission is counted twice**, neither by one counter nor by two.
* `length_resolved_le_calls` — only submissions that were called are counted. So it makes no
  difference that the counters are natural numbers here, until 2 ^ 64 submissions were called.
-/

namespace Courier.Dispatch

open Courier.Dispatcher

/-! ## Lists side by side -/

theorem zip_prefix {α β : Type} {xs xs' : List α} {ys ys' : List β} (hx : xs <+: xs')
    (hy : ys <+: ys') : xs.zip ys <+: xs'.zip ys' := by
  obtain ⟨more, rfl⟩ := hx
  obtain ⟨rest, rfl⟩ := hy
  induction xs generalizing ys with
  | nil => exact List.nil_prefix
  | cons x xs ih =>
    cases ys with
    | nil => exact List.nil_prefix
    | cons y ys => exact (List.prefix_cons_inj _).mpr ih

theorem map_fst_zip_sublist {α β : Type} (xs : List α) (ys : List β) :
    ((xs.zip ys).map (·.1)).Sublist xs := by
  induction xs generalizing ys with
  | nil => exact List.nil_sublist _
  | cons x xs ih =>
    cases ys with
    | nil => exact List.nil_sublist _
    | cons y ys => exact (ih ys).cons_cons x

namespace Usage

/-! ## Deliveries and their submissions -/

/-- The submissions whose delivery was counted, and that delivery. -/
def accounted (u : Usage) : List (Submission × (List Char × Except Failure Unit)) :=
  u.taken.zip u.counted

/-- The submissions that a counter counts, in the order in which it came to count them. -/
def countedBy (u : Usage) : Counter → List Submission
  | .delivered => (u.accounted.filter (·.2.2.isOk)).map (·.1)
  | .failed => (u.accounted.filter (!·.2.2.isOk)).map (·.1)
  | .dropped => u.submissions.filter (!·.fate.returned)

/-- The submissions that are delivered, failed or dropped. -/
def resolved (u : Usage) : List Submission :=
  u.countedBy .delivered ++ u.countedBy .failed ++ u.countedBy .dropped

variable {u v : Usage} {label : Label} {e : Endpoint} {options : Options}

/-- The deliveries that were counted are the first of what was queued, also after a panic. -/
theorem counted_prefix_accepted (h : Reachable e options u) :
    u.counted.map (·.1) <+: u.accepted := by
  have hf := (sound_of_reachable h).flows
  have hb : u.counted.map (·.1) <+: u.begun := by
    cases hp : u.dispatcher.phase.hasPanicked with
    | false => exact ⟨_, (hf.hand hp).symm⟩
    | true =>
      obtain ⟨hand, hh⟩ := strands_of_reachable h hp
      exact ⟨[hand], hh.symm⟩
  exact hb.trans hf.begun_prefix

theorem length_counted_le (h : Reachable e options u) : u.counted.length ≤ u.taken.length := by
  have hc := (counted_prefix_accepted h).length_le
  have ht := congrArg List.length u.map_fate_taken
  rw [List.length_map] at hc
  rw [List.length_map, List.length_map] at ht
  exact ht ▸ hc

theorem map_snd_accounted (h : Reachable e options u) : u.accounted.map (·.2) = u.counted :=
  List.map_snd_zip (length_counted_le h)

/-! ## A counter and what it counts -/

/-- **A counter says how many submissions it counts.** -/
theorem length_countedBy (h : Reachable e options u) (c : Counter) :
    (u.countedBy c).length = u.dispatcher.stats.value c := by
  have hb := (sound_of_reachable h).balanced
  have hd : u.dispatcher.stats.delivered = u.counted.countP (·.2.isOk) := hb.delivered
  have hf : u.dispatcher.stats.failed = u.counted.countP (!·.2.isOk) := hb.failed
  have hx : u.dispatcher.stats.dropped = u.submissions.countP (!·.fate.returned) := hb.dropped
  cases c with
  | delivered =>
    simp only [countedBy, Stats.value, hd, List.length_map]
    rw [← map_snd_accounted h, List.countP_map, List.countP_eq_length_filter]
    rfl
  | failed =>
    simp only [countedBy, Stats.value, hf, List.length_map]
    rw [← map_snd_accounted h, List.countP_map, List.countP_eq_length_filter]
    rfl
  | dropped =>
    simp only [countedBy, Stats.value, hx]
    exact List.countP_eq_length_filter.symm

theorem Step.counted_prefix (h : Step u label v) : u.counted <+: v.counted := by
  cases h with
  | count => exact List.prefix_append _ _
  | _ => exact List.prefix_rfl

theorem Reaches.counted_prefix (h : Reaches u v) : u.counted <+: v.counted :=
  h.keeps (P := fun v => u.counted <+: v.counted) List.prefix_rfl
    fun hs ha => ha.trans hs.counted_prefix

/-- **A counter goes on counting what it has counted.** -/
theorem Reaches.countedBy_prefix (h : Reaches u v) (c : Counter) :
    u.countedBy c <+: v.countedBy c := by
  have hs : u.accounted <+: v.accounted :=
    zip_prefix (h.submissions_prefix.filter _) h.counted_prefix
  cases c with
  | delivered | failed => exact (hs.filter _).map _
  | dropped => exact h.submissions_prefix.filter _

/-- No counter goes down. -/
theorem Reaches.value_le (h : Reachable e options u) (hv : Reaches u v) (c : Counter) :
    u.dispatcher.stats.value c ≤ v.dispatcher.stats.value c := by
  rw [← length_countedBy h, ← length_countedBy (h.reaches hv)]
  exact (hv.countedBy_prefix c).length_le

/-! ## Nothing is counted twice -/

/-- No two submissions that are over are the same. -/
theorem nodup_submissions (h : Reachable e options u) : u.submissions.Nodup := by
  refine (inCallOrder_of_reachable h).ordered.imp ?_
  rintro s _ hb rfl
  exact Nat.lt_irrefl _ (hb rfl)

/-- What the counters count, one after the other, are submissions that are over, in some order. -/
theorem resolved_subperm (u : Usage) :
    ∃ part, u.resolved.Perm part ∧ ∃ whole, part.Sublist whole ∧ whole.Perm u.submissions := by
  have haccounted :
      (u.countedBy .delivered ++ u.countedBy .failed).Perm (u.accounted.map (·.1)) := by
    have hp := (List.filter_append_perm (·.2.2.isOk) u.accounted).map (·.1)
    rwa [List.map_append] at hp
  refine ⟨_, haccounted.append_right _, u.taken ++ u.countedBy .dropped, ?_, ?_⟩
  · exact (map_fst_zip_sublist u.taken u.counted).append_right _
  · exact List.filter_append_perm _ u.submissions

/-- **No submission is counted twice**, neither by one counter nor by two. -/
theorem nodup_resolved (h : Reachable e options u) : u.resolved.Nodup := by
  obtain ⟨part, hp, whole, hs, ha⟩ := u.resolved_subperm
  exact hp.nodup_iff.mpr ((ha.nodup_iff.mpr (nodup_submissions h)).sublist hs)

/-- Only submissions that were called are counted. -/
theorem length_resolved_le_calls (h : Reachable e options u) : u.resolved.length ≤ u.calls := by
  obtain ⟨part, hp, whole, hs, ha⟩ := u.resolved_subperm
  have hk : u.calls = u.submissions.length + submitting u.threads := callsKept_of_reachable h
  calc u.resolved.length = part.length := hp.length_eq
    _ ≤ whole.length := hs.length_le
    _ = u.submissions.length := ha.length_eq
    _ ≤ u.calls := hk ▸ Nat.le_add_right _ _

end Usage

end Courier.Dispatch
