/-!
# Named fields

Values under names, in ascending order of the names and each name once. Setting a field keeps the
order; the result does not depend on where in the list the field was.
-/

namespace Courier

/-- Values under names. -/
abbrev Fields (α : Type) := List (String × α)

namespace Fields

variable {α : Type}

/-- The value under a name. -/
def get? (name : String) : Fields α → Option α
  | [] => none
  | (other, value) :: rest => if name = other then some value else get? name rest

/-- Sets the value under a name, in the place where the name belongs. -/
def set (name : String) (value : α) : Fields α → Fields α
  | [] => [(name, value)]
  | (other, old) :: rest =>
    if name < other then (name, value) :: (other, old) :: rest
    else if name = other then (name, value) :: rest
    else (other, old) :: set name value rest

/-- The fields set one after the other: of those with one name the last counts. -/
def ofList (fields : List (String × α)) : Fields α :=
  fields.foldl (fun done field => set field.1 field.2 done) []

/-- Names in ascending order, each once. -/
def IsAscending (fields : Fields α) : Prop :=
  fields.Pairwise (·.1 < ·.1)

/-- A field whose name belongs behind all others is set there. -/
theorem set_of_last {name : String} {fields : Fields α} (h : ∀ field ∈ fields, field.1 < name)
    (value : α) : set name value fields = fields ++ [(name, value)] := by
  induction fields with
  | nil => rfl
  | cons field rest ih =>
    obtain ⟨other, old⟩ := field
    have hlt : other < name := h (other, old) List.mem_cons_self
    have hge : ¬name < other := String.lt_asymm hlt
    have hne : ¬name = other := (String.ne_of_lt hlt).symm
    simp only [set, if_neg hge, if_neg hne, List.cons_append]
    rw [ih fun field hf => h field (List.mem_cons_of_mem _ hf)]

/-- Fields in order stay as they are when they are set one after the other. -/
theorem ofList_of_isAscending {fields : Fields α} (h : IsAscending fields) :
    ofList fields = fields := by
  suffices hd : ∀ (done rest : Fields α), IsAscending (done ++ rest) →
      rest.foldl (fun done field => set field.1 field.2 done) done = done ++ rest from
    hd [] fields h
  intro done rest h
  induction rest generalizing done with
  | nil => exact (List.append_nil done).symm
  | cons field rest ih =>
    have hlt := fun other ho =>
      (List.pairwise_append.mp h).2.2 other ho field List.mem_cons_self
    have hc : done ++ field :: rest = (done ++ [field]) ++ rest := List.append_cons done field rest
    rw [List.foldl_cons, set_of_last hlt, hc, ih _ (hc ▸ h)]

/-- Setting a field adds no other. -/
theorem eq_or_mem_of_mem_set {name : String} {value : α} {fields : Fields α} {field : String × α}
    (h : field ∈ set name value fields) : field = (name, value) ∨ field ∈ fields := by
  induction fields with
  | nil => exact .inl (List.mem_singleton.mp h)
  | cons first rest ih =>
    obtain ⟨other, old⟩ := first
    unfold set at h
    split at h
    · exact List.mem_cons.mp h
    · split at h
      · exact (List.mem_cons.mp h).imp_right (List.mem_cons_of_mem _)
      · rcases List.mem_cons.mp h with rfl | h
        · exact .inr List.mem_cons_self
        · exact (ih h).imp_right (List.mem_cons_of_mem _)

/-- Setting a field keeps the order. -/
theorem IsAscending.set {fields : Fields α} (h : IsAscending fields) (name : String) (value : α) :
    IsAscending (fields.set name value) := by
  induction fields with
  | nil => exact List.pairwise_singleton _ _
  | cons first rest ih =>
    obtain ⟨other, old⟩ := first
    obtain ⟨hfirst, hrest⟩ := List.pairwise_cons.mp h
    unfold Fields.set
    split
    · next hlt =>
      refine List.pairwise_cons.mpr ⟨fun field hf => ?_, h⟩
      rcases List.mem_cons.mp hf with rfl | hf
      · exact hlt
      · exact String.lt_trans hlt (hfirst field hf)
    · next hge =>
      split
      · next he =>
        subst he
        exact List.pairwise_cons.mpr ⟨hfirst, hrest⟩
      · next hne =>
        refine List.pairwise_cons.mpr ⟨fun field hf => ?_, ih hrest⟩
        rcases eq_or_mem_of_mem_set hf with rfl | hf
        · -- The name is neither below the first one nor the same.
          have hle : other ≤ name := String.not_lt.mp hge
          exact Decidable.byContradiction fun hn =>
            hne (String.le_antisymm (String.not_lt.mp hn) hle)
        · exact hfirst field hf

/-- Fields that are set one after the other are in order. -/
theorem isAscending_ofList (fields : List (String × α)) : IsAscending (ofList fields) := by
  suffices hd : ∀ done : Fields α, IsAscending done →
      IsAscending (fields.foldl (fun done field => done.set field.1 field.2) done) from
    hd [] List.Pairwise.nil
  induction fields with
  | nil => exact fun _ h => h
  | cons field rest ih => exact fun done h => ih _ (h.set field.1 field.2)

/-- Names in order are different. -/
theorem IsAscending.nodup {fields : Fields α} (h : IsAscending fields) :
    (fields.map (·.1)).Nodup :=
  List.pairwise_map.mpr (h.imp String.ne_of_lt)

/-- Every member of an object that is made of fields is one of them. -/
theorem mem_of_mem_ofList {fields : List (String × α)} {field : String × α}
    (h : field ∈ ofList fields) : field ∈ fields := by
  suffices hd : ∀ (rest : List (String × α)) (done : Fields α),
      field ∈ rest.foldl (fun done field => done.set field.1 field.2) done →
        field ∈ done ∨ field ∈ rest from
    (hd fields [] h).resolve_left List.not_mem_nil
  intro rest
  induction rest with
  | nil => exact fun _ h => .inl h
  | cons first rest ih =>
    intro done h
    rcases ih _ h with h | h
    · rcases eq_or_mem_of_mem_set h with rfl | h
      · exact .inr List.mem_cons_self
      · exact .inl h
    · exact .inr (List.mem_cons_of_mem _ h)

/-- What stands under a name is a field. -/
theorem mem_of_get? {name : String} {value : α} {fields : Fields α}
    (h : get? name fields = some value) : (name, value) ∈ fields := by
  induction fields with
  | nil => exact absurd h nofun
  | cons first rest ih =>
    obtain ⟨other, old⟩ := first
    unfold get? at h
    split at h
    · next he =>
      cases h
      exact he ▸ List.mem_cons_self
    · exact List.mem_cons_of_mem _ (ih h)

/-- A field whose name no other has is what stands under the name. -/
theorem get?_of_mem {name : String} {value : α} {fields : Fields α}
    (hn : (fields.map (·.1)).Nodup) (h : (name, value) ∈ fields) :
    get? name fields = some value := by
  induction fields with
  | nil => exact absurd h List.not_mem_nil
  | cons first rest ih =>
    obtain ⟨other, old⟩ := first
    obtain ⟨hfirst, hrest⟩ := List.nodup_cons.mp hn
    unfold get?
    rcases List.mem_cons.mp h with he | hm
    · cases he
      exact if_pos rfl
    · have hne : name ≠ other := fun he =>
        hfirst (he ▸ List.mem_map.mpr ⟨(name, value), hm, rfl⟩)
      rw [if_neg hne, ih hrest hm]

/-- A name under which nothing stands is that of no field. -/
theorem not_mem_of_get?_eq_none {name : String} {fields : Fields α} (h : get? name fields = none)
    (value : α) : (name, value) ∉ fields := by
  induction fields with
  | nil => exact List.not_mem_nil
  | cons first rest ih =>
    obtain ⟨other, old⟩ := first
    unfold get? at h
    split at h
    · exact absurd h nofun
    · next hne =>
      intro hm
      rcases List.mem_cons.mp hm with he | hm
      · exact hne (congrArg Prod.fst he)
      · exact ih h hm

/-- A field that was set is there. -/
theorem get?_set (name : String) (value : α) (fields : Fields α) :
    get? name (set name value fields) = some value := by
  induction fields with
  | nil => simp [set, get?]
  | cons field rest ih =>
    obtain ⟨other, old⟩ := field
    unfold set
    split
    · simp [get?]
    · split
      · simp [get?]
      · next h => simp [get?, h, ih]

/-- Setting a field leaves the others. -/
theorem get?_set_ne {name other : String} (h : other ≠ name) (value : α) (fields : Fields α) :
    get? other (set name value fields) = get? other fields := by
  induction fields with
  | nil => simp [set, get?, h]
  | cons field rest ih =>
    obtain ⟨key, old⟩ := field
    unfold set
    split
    · simp [get?, h]
    · split
      · next hk => subst hk; simp [get?, h]
      · simp only [get?, ih]

end Fields

end Courier
