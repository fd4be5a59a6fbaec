import Courier.Proofs.Json.Grammar
import Courier.Proofs.Json.Positions

/-!
# Documents without fractions

Documents whose numbers are integers that are kept whole, how deep they are, and the values that
they mean: a value has forgotten the order of the fields and those that do not count, and nothing
else.

Results:

* `means_array`, `means_object` — what containers mean is made of what their parts mean.
-/

namespace Courier.Json

variable {k : Nat}

/-! ## Documents -/

namespace Document

mutual

/-- Every number in a document is the numeral of an integer that is kept whole. -/
def IsWhole : Document → Prop
  | .word token => IsNumber token.letters → ∃ i, least ≤ i ∧ i ≤ greatest ∧ token = .integer i
  | .string _ => True
  | .array items => AreWhole items
  | .object fields => FieldsAreWhole fields

/-- Whether this is so in all items. -/
def AreWhole : List Document → Prop
  | [] => True
  | item :: rest => IsWhole item ∧ AreWhole rest

/-- Whether this is so in the values of all fields. -/
def FieldsAreWhole : List (String × Document) → Prop
  | [] => True
  | (_, value) :: rest => IsWhole value ∧ FieldsAreWhole rest

end

mutual

/-- How deep containers stand in one another in a document. -/
def depth : Document → Nat
  | .array items => itemsDepth items + 1
  | .object fields => fieldsDepth fields + 1
  | _ => 0

/-- The same of the deepest item. -/
def itemsDepth : List Document → Nat
  | [] => 0
  | item :: rest => max (depth item) (itemsDepth rest)

/-- The same of the deepest value of a field. -/
def fieldsDepth : List (String × Document) → Nat
  | [] => 0
  | (_, value) :: rest => max (depth value) (fieldsDepth rest)

end

end Document

/-! ## Values -/

mutual

/-- No number in a value is a binary fraction. -/
def IsWhole : Json → Prop
  | .real _ => False
  | .array items => AreWhole items
  | .object fields => FieldsAreWhole fields
  | _ => True

/-- Whether this is so in all items. -/
def AreWhole : List Json → Prop
  | [] => True
  | item :: rest => IsWhole item ∧ AreWhole rest

/-- Whether this is so in the values of all fields. -/
def FieldsAreWhole : List (String × Json) → Prop
  | [] => True
  | (_, value) :: rest => IsWhole value ∧ FieldsAreWhole rest

end

mutual

/-- How deep containers stand in one another in a value. -/
def depth : Json → Nat
  | .array items => itemsDepth items + 1
  | .object fields => fieldsDepth fields + 1
  | _ => 0

/-- The same of the deepest item. -/
def itemsDepth : List Json → Nat
  | [] => 0
  | item :: rest => max (depth item) (itemsDepth rest)

/-- The same of the deepest value of a field. -/
def fieldsDepth : List (String × Json) → Nat
  | [] => 0
  | (_, value) :: rest => max (depth value) (fieldsDepth rest)

end

theorem areWhole_iff {items : List Json} : AreWhole items ↔ ∀ item ∈ items, item.IsWhole := by
  induction items with
  | nil => simp [AreWhole]
  | cons first rest ih => simp only [AreWhole, ih, List.forall_mem_cons]

theorem fieldsAreWhole_iff {fields : List (String × Json)} :
    FieldsAreWhole fields ↔ ∀ field ∈ fields, field.2.IsWhole := by
  induction fields with
  | nil => simp [FieldsAreWhole]
  | cons first rest ih => simp only [FieldsAreWhole, ih, List.forall_mem_cons]

theorem itemsDepth_le_iff {items : List Json} :
    itemsDepth items ≤ k ↔ ∀ item ∈ items, item.depth ≤ k := by
  induction items with
  | nil => simp [itemsDepth]
  | cons first rest ih => simp only [itemsDepth, Nat.max_le, ih, List.forall_mem_cons]

theorem fieldsDepth_le_iff {fields : List (String × Json)} :
    fieldsDepth fields ≤ k ↔ ∀ field ∈ fields, field.2.depth ≤ k := by
  induction fields with
  | nil => simp [fieldsDepth]
  | cons first rest ih => simp only [fieldsDepth, Nat.max_le, ih, List.forall_mem_cons]

/-! ## What documents mean -/

/-- A value is what a document means, at most so deep, if the document's numbers are integers that
are kept whole. -/
def Means (k : Nat) (d : Document) (v : Json) : Prop :=
  d.IsWhole → v.depth ≤ k ∧ v.IsWhole ∧ d.Same (.ofJson v)

/-- A field is what another one means. -/
def FieldMeans (k : Nat) (a : String × Document) (b : String × Json) : Prop :=
  a.1 = b.1 ∧ Means k a.2 b.2

theorem forall_of_areWhole {ds : List Document} {vs : List Json}
    (h : List.Forall₂ (Means k) ds vs) (hw : Document.AreWhole ds) :
    (∀ v ∈ vs, v.depth ≤ k) ∧ (∀ v ∈ vs, v.IsWhole) ∧
      List.Forall₂ Document.Same ds (Document.ofItems vs) := by
  induction h with
  | nil => exact ⟨nofun, nofun, .nil⟩
  | cons h _ ih =>
    obtain ⟨hdepth, hwhole, hsame⟩ := h hw.1
    obtain ⟨hdepths, hwholes, hsames⟩ := ih hw.2
    exact ⟨List.forall_mem_cons.mpr ⟨hdepth, hdepths⟩,
      List.forall_mem_cons.mpr ⟨hwhole, hwholes⟩, .cons hsame hsames⟩

theorem means_array {ds : List Document} {vs : List Json} (h : List.Forall₂ (Means k) ds vs) :
    Means (k + 1) (.array ds) (.array vs) := fun hw => by
  obtain ⟨hdepth, hwhole, hsame⟩ := forall_of_areWhole h hw
  exact ⟨Nat.succ_le_succ (itemsDepth_le_iff.mpr hdepth), areWhole_iff.mpr hwhole,
    Document.same_array hsame⟩

theorem forall_of_fieldsAreWhole {ds : List (String × Document)} {vs : List (String × Json)}
    (h : List.Forall₂ (FieldMeans k) ds vs) (hw : Document.FieldsAreWhole ds) :
    (∀ v ∈ vs, v.2.depth ≤ k) ∧ (∀ v ∈ vs, v.2.IsWhole) ∧
      List.Forall₂ Document.SameField ds (Document.ofFields vs) := by
  induction h with
  | nil => exact ⟨nofun, nofun, .nil⟩
  | cons h _ ih =>
    obtain ⟨hdepth, hwhole, hsame⟩ := h.2 hw.1
    obtain ⟨hdepths, hwholes, hsames⟩ := ih hw.2
    exact ⟨List.forall_mem_cons.mpr ⟨hdepth, hdepths⟩,
      List.forall_mem_cons.mpr ⟨hwhole, hwholes⟩, .cons ⟨h.1, hsame⟩ hsames⟩

/-- Fields with one name are set one after the other, so that the last counts. -/
theorem means_object {ds : List (String × Document)} {vs : List (String × Json)}
    (h : List.Forall₂ (FieldMeans k) ds vs) : Means (k + 1) (.object ds) (ofFields vs) :=
  fun hw => by
  obtain ⟨hdepth, hwhole, hsame⟩ := forall_of_fieldsAreWhole h hw
  refine ⟨Nat.succ_le_succ (fieldsDepth_le_iff.mpr fun v hv => ?_),
    fieldsAreWhole_iff.mpr fun v hv => ?_, ?_⟩
  · exact hdepth v (Fields.mem_of_mem_ofList hv)
  · exact hwhole v (Fields.mem_of_mem_ofList hv)
  · exact (Document.same_object_of_forall₂ hsame).trans (Document.same_ofFields vs)

end Courier.Json
