import Courier.Fields
import Mathlib.Data.List.Dedup

/-!
# Fields put in order

Fields in order are known by their members alone. So where each name occurs once, it does not matter
in which order fields are set.

Results:

* `eq_of_perm`, `eq_of_get?` — fields in order with the same members, or with the same values under
  all names, are the same.
* `ofList_eq_of_perm` — **the order in which fields are set does not matter**, if each name is set
  once.
* `exists_mem_ofList` — of each name that is set one field is left.
-/

namespace Courier.Fields

variable {α : Type} {name : String} {value : α} {as bs : Fields α}

/-- Fields in order are the same if they have the same members. -/
theorem eq_of_perm (ha : IsAscending as) (hb : IsAscending bs) (h : as.Perm bs) : as = bs :=
  h.eq_of_pairwise (fun _ _ _ _ hab hba => absurd hab (String.lt_asymm hba)) ha hb

theorem IsAscending.nodup_fields (h : IsAscending as) : as.Nodup :=
  h.imp fun hlt he => String.ne_of_lt hlt (congrArg Prod.fst he)

theorem mem_iff_get? (h : IsAscending as) {field : String × α} :
    field ∈ as ↔ get? field.1 as = some field.2 :=
  ⟨get?_of_mem h.nodup, mem_of_get?⟩

/-- Fields in order are the same if they have the same values under all names. -/
theorem eq_of_get? (ha : IsAscending as) (hb : IsAscending bs)
    (h : ∀ name, get? name as = get? name bs) : as = bs := by
  refine eq_of_perm ha hb ((List.perm_ext_iff_of_nodup ha.nodup_fields hb.nodup_fields).mpr ?_)
  intro field
  rw [mem_iff_get? ha, mem_iff_get? hb, h]

/-! ## Setting each name once -/

theorem set_perm (h : name ∉ as.map (·.1)) (value : α) :
    (set name value as).Perm ((name, value) :: as) := by
  induction as with
  | nil => exact .refl _
  | cons field rest ih =>
    obtain ⟨other, old⟩ := field
    obtain ⟨hne, hrest⟩ := List.ne_and_not_mem_of_not_mem_cons h
    rw [set, if_neg hne]
    split
    · exact .refl _
    · exact (List.Perm.cons _ (ih hrest)).trans (.swap _ _ _)

theorem foldl_set_perm (done : Fields α) (h : ((done ++ as).map (·.1)).Nodup) :
    (as.foldl (fun done field => set field.1 field.2 done) done).Perm (done ++ as) := by
  induction as generalizing done with
  | nil => exact .of_eq (List.append_nil done).symm
  | cons field rest ih =>
    have hm : (done ++ field :: rest).Perm ((field :: done) ++ rest) := List.perm_middle
    have hn : (((field :: done) ++ rest).map (·.1)).Nodup := (hm.map _).nodup_iff.mp h
    have hs : (set field.1 field.2 done).Perm (field :: done) := by
      refine set_perm ?_ field.2
      rw [List.cons_append, List.map_cons, List.nodup_cons, List.map_append] at hn
      exact fun hd => hn.1 (List.mem_append_left _ hd)
    have hd : ((set field.1 field.2 done ++ rest).map (·.1)).Nodup :=
      ((hs.append_right rest).map _).nodup_iff.mpr hn
    exact (ih _ hd).trans ((hs.append_right rest).trans hm.symm)

/-- Fields with a name each are all there once they are set. -/
theorem ofList_perm (h : (as.map (·.1)).Nodup) : (ofList as).Perm as :=
  foldl_set_perm [] h

/-- **The order in which fields are set does not matter**, if each name is set once. -/
theorem ofList_eq_of_perm (h : as.Perm bs) (hn : (as.map (·.1)).Nodup) :
    ofList as = ofList bs :=
  eq_of_perm (isAscending_ofList as) (isAscending_ofList bs)
    ((ofList_perm hn).trans (h.trans (ofList_perm ((h.map _).nodup_iff.mp hn)).symm))

/-- Of each name that is set one field is left. -/
theorem exists_mem_ofList (h : name ∈ as.map (·.1)) : ∃ value, (name, value) ∈ ofList as := by
  suffices hd : ∀ (rest done : Fields α), (∃ value, get? name done = some value) ∨
      name ∈ rest.map (·.1) → ∃ value, get? name
        (rest.foldl (fun done field => set field.1 field.2 done) done) = some value by
    obtain ⟨value, hv⟩ := hd as [] (.inr h)
    exact ⟨value, mem_of_get? hv⟩
  intro rest
  induction rest with
  | nil => exact fun done h => h.resolve_right List.not_mem_nil
  | cons field rest ih =>
    intro done h
    refine ih _ ?_
    by_cases he : name = field.1
    · exact .inl ⟨field.2, he ▸ get?_set _ _ _⟩
    · rw [get?_set_ne he]
      exact h.imp_right fun hm => (List.mem_cons.mp hm).resolve_left he

/-- A field is left if no other one has its name. -/
theorem mem_ofList (hm : (name, value) ∈ as) (h : ∀ other, (name, other) ∈ as → other = value) :
    (name, value) ∈ ofList as := by
  obtain ⟨other, ho⟩ := exists_mem_ofList (List.mem_map_of_mem (f := (·.1)) hm)
  obtain rfl := h other (mem_of_mem_ofList ho)
  exact ho

end Courier.Fields
