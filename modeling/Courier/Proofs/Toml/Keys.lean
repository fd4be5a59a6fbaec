import Courier.Toml.Reader

/-!
# The keys of a document

However the lines of a document come to its tables, by headers, by keys with points, one after the
other or again and again, a key stands in a table once.

Results:

* `isAscending_update` — changing a table of a document keeps the order of the keys above it.
* `nodup_of_parse?` — the keys of a document are different.
-/

namespace Courier.Toml

open Courier.Fields

namespace Draft

variable {change : Fields Draft → Option (Fields Draft)} {key : String} {path : List String}
  {fields after : Fields Draft}

/-- A change of tables that keeps the order of their keys. -/
def KeepsOrder (change : Fields Draft → Option (Fields Draft)) : Prop :=
  ∀ {fields after : Fields Draft}, change fields = some after → IsAscending fields →
    IsAscending after

theorem keepsOrder_openTable (key : String) : KeepsOrder (openTable key) := by
  intro fields after h ha
  unfold openTable at h
  split at h
  · cases h
    exact ha.set _ _
  · cases h
    exact ha.set _ _
  · exact absurd h nofun

theorem keepsOrder_addTable (key : String) : KeepsOrder (addTable key) := by
  intro fields after h ha
  unfold addTable at h
  split at h
  · cases h
    exact ha.set _ _
  · cases h
    exact ha.set _ _
  · exact absurd h nofun

/-- What an inner change comes to is set under a key. -/
theorem isAscending_of_map {inner : Option (Fields Draft)} {wrap : Fields Draft → Draft}
    (h : inner.map (fun inner => fields.set key (wrap inner)) = some after)
    (ha : IsAscending fields) : IsAscending after := by
  obtain ⟨_, _, rfl⟩ := Option.map_eq_some_iff.mp h
  exact ha.set _ _

theorem keepsOrder_assign (value : Value) (path : List String) :
    KeepsOrder (assign value path) := by
  intro fields after h ha
  unfold assign at h
  split at h
  · exact absurd h nofun
  · split at h
    · cases h
      exact ha.set _ _
    · exact absurd h nofun
  · split at h
    · exact isAscending_of_map h ha
    · split at h
      · exact absurd h nofun
      · exact isAscending_of_map h ha
    · split at h
      · exact absurd h nofun
      · split at h
        · exact absurd h nofun
        · exact isAscending_of_map h ha
    · exact absurd h nofun

/-- **Changing a table keeps the order of the keys above it**, if the change keeps that of the
table's own. -/
theorem isAscending_update (hc : KeepsOrder change) (path : List String) :
    KeepsOrder (update change path) := by
  intro fields after h ha
  unfold update at h
  split at h
  · exact hc h ha
  · split at h
    · exact isAscending_of_map h ha
    · exact isAscending_of_map h ha
    · split at h
      · exact absurd h nofun
      · exact isAscending_of_map h ha
    · exact absurd h nofun

theorem map_fst_finishFields (fields : List (String × Draft)) :
    (finishFields fields).map (·.1) = fields.map (·.1) := by
  induction fields with
  | nil => rfl
  | cons field rest ih =>
    obtain ⟨key, draft⟩ := field
    simp only [finishFields, List.map_cons, ih]

end Draft

open Draft

/-- The keys of what lines make are in order. -/
theorem isAscending_assemble {lines : List Line} {header : List String} {root fields : Fields Draft}
    (h : assemble header root lines = some fields) (hr : IsAscending root) :
    IsAscending fields := by
  induction lines generalizing header root with
  | nil =>
    cases h
    exact hr
  | cons line rest ih =>
    cases line with
    | blank => exact ih h hr
    | header path =>
      unfold assemble at h
      split at h
      · exact absurd h nofun
      · obtain ⟨root', hu, h⟩ := Option.bind_eq_some_iff.mp h
        exact ih h (isAscending_update (keepsOrder_openTable _) _ hu hr)
    | repeated path =>
      unfold assemble at h
      split at h
      · exact absurd h nofun
      · obtain ⟨root', hu, h⟩ := Option.bind_eq_some_iff.mp h
        exact ih h (isAscending_update (keepsOrder_addTable _) _ hu hr)
    | assignment path value =>
      obtain ⟨root', hu, h⟩ := Option.bind_eq_some_iff.mp h
      exact ih h (isAscending_update (keepsOrder_assign value path) _ hu hr)

/-- **The keys of a document are different.** -/
theorem nodup_of_parse? {text : List Char} {fields : Fields Value} (h : parse? text = some fields) :
    (fields.map (·.1)).Nodup := by
  obtain ⟨lines, _, h⟩ := Option.bind_eq_some_iff.mp h
  obtain ⟨drafts, hd, rfl⟩ := Option.map_eq_some_iff.mp h
  rw [map_fst_finishFields]
  exact (isAscending_assemble hd List.Pairwise.nil).nodup

end Courier.Toml
