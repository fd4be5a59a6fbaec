import Courier.Proofs.Dispatch.OneCaller

/-!
# Whose body it is

Submissions are numbered in the order of their calls, whichever thread calls them.

Results:

* `Step.mem_entries` — a submission has its body because it had it before, or is called with it.
* `authored_of_run?` — **the body of every submission was made of the payload of its own call**, by
  the dispatcher's hook if it has one.
-/

namespace Courier.Dispatch

open Courier.Dispatcher

/-- The payload with which a submission is called. -/
def Label.payload? : Label → Option Payload
  | .submit _ payload => some payload
  | _ => none

/-- The payloads of all submissions, in the order of their calls. -/
def payloads (labels : List Label) : List Payload :=
  labels.filterMap Label.payload?

/-- A submission that is over and its body, whatever became of it. -/
def Submission.entry (s : Submission) : Nat × Option (List Char) :=
  (s.call, s.fate.carried)

/-- The submission that a thread is in and its body, if the thread is in one. -/
def Activity.entries : Activity → List (Nat × Option (List Char))
  | .offering call body => [(call, some body)]
  | .dropping call body => [(call, body)]
  | _ => []

theorem Activity.entries_called (call : Nat) (body : Option (List Char)) :
    (called call body).entries = [(call, body)] := by
  cases body <;> rfl

/-- The body is that which the payload of the submission with a number makes, with a hook if the
dispatcher has one. -/
def MadeOf (options : Options) (labels : List Label) (x : Nat × Option (List Char)) : Prop :=
  ∃ payload hook, (payloads labels)[x.1]? = some payload ∧
    hook.isSome = options.hook.isSome ∧ (prepare hook payload).2 = x.2

variable {e : Endpoint} {options : Options} {labels done : List Label}
  {x : Nat × Option (List Char)}

theorem payloads_append (labels more : List Label) :
    payloads (labels ++ more) = payloads labels ++ payloads more := List.filterMap_append

theorem MadeOf.append (h : MadeOf options labels x) (more : List Label) :
    MadeOf options (labels ++ more) x := by
  obtain ⟨payload, hook, hc, hh⟩ := h
  refine ⟨payload, hook, ?_, hh⟩
  rw [payloads_append, List.getElem?_append_left (List.getElem?_eq_some_iff.mp hc).1]
  exact hc

namespace Usage

variable {u v : Usage} {label : Label} {thread : Nat} {a : Activity}

/-- All submissions that were called, those that are over and those that are under way, and their
bodies. -/
def entries (u : Usage) : List (Nat × Option (List Char)) :=
  u.submissions.map Submission.entry ++ u.threads.flatMap Activity.entries

theorem mem_entries_of_thread (ha : u.threads[thread]? = some a) (hx : x ∈ a.entries) :
    x ∈ u.entries :=
  List.mem_append_right _ (List.mem_flatMap.mpr ⟨a, List.mem_of_getElem? ha, hx⟩)

theorem mem_flatMap_set {threads : List Activity}
    (hx : x ∈ (threads.set thread a).flatMap Activity.entries) :
    x ∈ threads.flatMap Activity.entries ∨ x ∈ a.entries := by
  obtain ⟨b, hb, hc⟩ := List.mem_flatMap.mp hx
  rcases List.mem_or_eq_of_mem_set hb with hb | rfl
  · exact .inl (List.mem_flatMap.mpr ⟨b, hb, hc⟩)
  · exact .inr hc

/-- What bodies there are once a thread went to something else. -/
theorem mem_entries_put (hx : x ∈ v.entries) (hs : v.submissions = u.submissions)
    (ht : v.threads = u.threads.set thread a) : x ∈ u.entries ∨ x ∈ a.entries := by
  rw [entries, hs, ht] at hx
  rcases List.mem_append.mp hx with hx | hx
  · exact .inl (List.mem_append_left _ hx)
  · exact (mem_flatMap_set hx).imp_left (List.mem_append_right _)

/-- What bodies there are once the submission of a thread is over. -/
theorem mem_entries_over {s : Submission} (hx : x ∈ v.entries)
    (hs : v.submissions = u.submissions ++ [s]) (ht : v.threads = u.threads.set thread .idle) :
    x ∈ u.entries ∨ x = s.entry := by
  rw [entries, hs, ht, List.map_append, List.append_assoc] at hx
  rcases List.mem_append.mp hx with hx | hx
  · exact .inl (List.mem_append_left _ hx)
  · rcases List.mem_cons.mp hx with hx | hx
    · exact .inr hx
    · rcases mem_flatMap_set hx with hx | hx
      · exact .inl (List.mem_append_right _ hx)
      · exact absurd hx List.not_mem_nil

/-- **A submission has its body because it had it before, or is called with it.** -/
theorem Step.mem_entries (h : Step u label v) (hx : x ∈ v.entries) :
    x ∈ u.entries ∨ ∃ thread payload, label = .submit thread payload ∧
      x = (u.calls, (prepare u.dispatcher.options.hook payload).2) := by
  cases h with
  | submit thread payload hf =>
    rcases mem_entries_put (u := u) hx rfl rfl with hx | hx
    · exact .inl hx
    · rw [Activity.entries_called] at hx
      exact .inr ⟨thread, payload, rfl, List.mem_singleton.mp hx⟩
  | queued thread call body ht | handed thread call body ht | drop thread call body ht =>
    rcases mem_entries_over (u := u) hx rfl rfl with hx | rfl
    · exact .inl hx
    · exact .inl (mem_entries_of_thread ht List.mem_cons_self)
  | refused thread call body refusal ht | missed thread call body ht =>
    rcases mem_entries_put (u := u) hx rfl rfl with hx | hx
    · exact .inl hx
    · exact .inl (mem_entries_of_thread ht hx)
  | flush | close | markQueued | markHanded | givenUp | waited =>
    rcases mem_entries_put (u := u) hx rfl rfl with hx | hx
    · exact .inl hx
    · exact absurd hx List.not_mem_nil
  | _ => exact .inl hx

/-- No step takes the hook away or gives one. -/
theorem Step.hook (h : Step u label v) :
    v.dispatcher.options.hook.isSome = u.dispatcher.options.hook.isSome := by
  cases h with
  | turn hook hh => exact hh.symm
  | _ => rfl

/-- A call of a submission is counted, and nothing else. -/
theorem Step.calls (h : Step u label v) : v.calls = u.calls + (payloads [label]).length := by
  cases h <;> rfl

/-! ## All that was called -/

/-- What is known of submissions after labels: how many were called, and that each has the body
that its own payload makes. -/
structure Authored (options : Options) (done : List Label) (u : Usage) : Prop where
  calls : u.calls = (payloads done).length
  hook : u.dispatcher.options.hook.isSome = options.hook.isSome
  made : ∀ x ∈ u.entries, MadeOf options done x

/-- **Every step keeps the bodies with their payloads.** The hook may change on its turns, so each
body is made by the hook of its moment. -/
theorem Step.authored (h : Step u label v) (hu : u.Authored options done) :
    v.Authored options (done ++ [label]) where
  calls := by rw [h.calls, hu.calls, payloads_append, List.length_append]
  hook := h.hook.trans hu.hook
  made := by
    intro x hx
    rcases h.mem_entries hx with hx | ⟨thread, payload, rfl, rfl⟩
    · exact (hu.made x hx).append _
    · refine ⟨payload, _, ?_, hu.hook, rfl⟩
      rw [payloads_append, hu.calls, List.getElem?_append_right (Nat.le_refl _), Nat.sub_self]
      rfl

/-- Nothing was submitted before anything happened. -/
theorem authored_new {d : Dispatcher} (h : Dispatcher.start e options = .ok d) (threads : Nat) :
    (new d threads).Authored options [] := by
  obtain ⟨url, _, rfl⟩ := eq_of_start h
  refine ⟨rfl, rfl, fun x hx => ?_⟩
  obtain ⟨a, ha, hx⟩ := List.mem_flatMap.mp hx
  rw [List.eq_of_mem_replicate ha] at hx
  exact absurd hx List.not_mem_nil

/-- **The body of every submission was made of the payload of its own call.** -/
theorem authored_of_run? {w y : Wired} (h : w.run? e labels = some y)
    (hw : w.usage.Authored options done) : y.usage.Authored options (done ++ labels) := by
  induction labels generalizing w done with
  | nil =>
    cases h
    exact (List.append_nil done).symm ▸ hw
  | cons label rest ih =>
    simp only [Wired.run?, Option.bind_eq_some_iff] at h
    obtain ⟨v, hn, h⟩ := h
    rw [List.append_cons]
    exact ih h ((step_of_next? (Wired.cases_of_next? hn).1).authored hw)

/-- A body that was queued is that of a submission that returned true. -/
theorem exists_of_mem_accepted {body : List Char} (h : body ∈ u.accepted) :
    ∃ s ∈ u.taken, s.fate = .queued body := by
  have hm : Fate.queued body ∈ u.taken.map (·.fate) := by
    rw [map_fate_taken]
    exact List.mem_map_of_mem h
  exact List.mem_map.mp hm

theorem entry_of_taken {s : Submission} (h : s ∈ u.taken) : s.entry ∈ u.entries :=
  List.mem_append_left _ (List.mem_map_of_mem (List.mem_filter.mp h).1)

end Usage

end Courier.Dispatch
