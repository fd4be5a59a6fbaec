import Courier.Proofs.Json.Document
import Mathlib.Data.List.Forall2

/-!
# The same at every position

A position is a way through indices and names. Two documents are the same if they have the same at
every position; objects are finite maps in this, and of fields with one name the last one counts.

Results:

* `same_array`, `same_object`: documents are the same if their parts are.
* `last?_ofList`, `same_ofFields`: setting fields one after the other keeps what counts.
* `sameDocument_of_same`: the texts of documents that are the same say the same.
-/

namespace Courier.Json

namespace Document

/-! ## Positions -/

/-- A step from a document to one of its parts. -/
inductive Place where
  | item (index : Nat)
  | field (name : String)

/-- The value under a name: of fields with one name the last counts. -/
def last? {α : Type} (name : String) : List (String × α) → Option α
  | [] => none
  | (other, value) :: rest => (last? name rest).or (if name = other then some value else none)

/-- The part at a place. -/
def part? : Document → Place → Option Document
  | .array items, .item index => items[index]?
  | .object fields, .field name => last? name fields
  | _, _ => none

/-- The part at the end of a way. -/
def at? (d : Document) : List Place → Option Document
  | [] => some d
  | place :: path => (d.part? place).bind (·.at? path)

/-- What a part is apart from its own parts. -/
inductive Shape where
  | word (token : Word)
  | string (text : String)
  | array (length : Nat)
  | object

/-- The shape of a document. -/
def shape : Document → Shape
  | .word token => .word token
  | .string text => .string text
  | .array items => .array items.length
  | .object _ => .object

/-- Two documents have the same at every position. -/
def Same (d e : Document) : Prop :=
  ∀ path, (d.at? path).map shape = (e.at? path).map shape

@[refl] theorem Same.refl (d : Document) : Same d d :=
  fun _ => rfl

theorem Same.symm {d e : Document} (h : Same d e) : Same e d :=
  fun path => (h path).symm

theorem Same.trans {d e f : Document} (h : Same d e) (h' : Same e f) : Same d f :=
  fun path => (h path).trans (h' path)

theorem map_shape_bind_at? {x y : Option Document} (h : Option.Rel Same x y) (path : List Place) :
    (x.bind (·.at? path)).map shape = (y.bind (·.at? path)).map shape := by
  cases h with
  | some h => exact h path
  | none => rfl

/-- Documents with the same shape and the same parts are the same. -/
theorem same_of_parts {d e : Document} (hshape : d.shape = e.shape)
    (hparts : ∀ place, Option.Rel Same (d.part? place) (e.part? place)) : Same d e
  | [] => congrArg some hshape
  | place :: path => map_shape_bind_at? (hparts place) path

theorem rel_getElem? {as bs : List Document} (h : List.Forall₂ Same as bs) (index : Nat) :
    Option.Rel Same as[index]? bs[index]? := by
  induction h generalizing index with
  | nil => exact .none
  | cons h _ ih =>
    cases index with
    | zero => exact .some h
    | succ index => exact ih index

theorem same_array {as bs : List Document} (h : List.Forall₂ Same as bs) :
    Same (.array as) (.array bs) := by
  refine same_of_parts (congrArg Shape.array h.length_eq) fun place => ?_
  cases place with
  | item index => exact rel_getElem? h index
  | field name => exact .none

/-- Objects are the same if they are as finite maps. -/
theorem same_object {as bs : List (String × Document)}
    (h : ∀ name, Option.Rel Same (last? name as) (last? name bs)) :
    Same (.object as) (.object bs) := by
  refine same_of_parts rfl fun place => ?_
  cases place with
  | item index => exact .none
  | field name => exact h name

/-- Two fields have one name, and the same value. -/
def SameField (a b : String × Document) : Prop :=
  a.1 = b.1 ∧ Same a.2 b.2

theorem rel_or {x y x' y' : Option Document} (h : Option.Rel Same x y)
    (h' : Option.Rel Same x' y') : Option.Rel Same (x.or x') (y.or y') := by
  cases h with
  | some h => exact .some h
  | none => exact h'

theorem rel_refl (x : Option Document) : Option.Rel Same x x := by
  cases x with
  | some d => exact .some (.refl d)
  | none => exact .none

theorem rel_last? {as bs : List (String × Document)} (h : List.Forall₂ SameField as bs)
    (name : String) : Option.Rel Same (last? name as) (last? name bs) := by
  induction h with
  | nil => exact .none
  | @cons a b as bs h _ ih =>
    obtain ⟨m, a⟩ := a
    obtain ⟨n, b⟩ := b
    obtain ⟨rfl, hs⟩ : m = n ∧ Same a b := h
    refine rel_or ih ?_
    split
    · exact .some hs
    · exact .none

theorem same_object_of_forall₂ {as bs : List (String × Document)}
    (h : List.Forall₂ SameField as bs) : Same (.object as) (.object bs) :=
  same_object (rel_last? h)

/-! ### Their parts -/

theorem eq_word_of_same {token : Word} {e : Document} (h : Same (.word token) e) :
    e = .word token := by
  have hshape := Option.some.inj (h [])
  cases e <;> cases hshape
  rfl

theorem eq_string_of_same {text : String} {e : Document} (h : Same (.string text) e) :
    e = .string text := by
  have hshape := Option.some.inj (h [])
  cases e <;> cases hshape
  rfl

/-- Parts of what is the same are the same. -/
theorem rel_part? {d e : Document} (h : Same d e) (place : Place) :
    Option.Rel Same (d.part? place) (e.part? place) := by
  have hpath (path : List Place) : ((d.part? place).bind (·.at? path)).map shape =
      ((e.part? place).bind (·.at? path)).map shape := h (place :: path)
  cases hd : d.part? place with
  | none =>
    cases he : e.part? place with
    | none => exact .none
    | some part =>
      have hnil := hpath []
      rw [hd, he] at hnil
      cases hnil
  | some part =>
    cases he : e.part? place with
    | none =>
      have hnil := hpath []
      rw [hd, he] at hnil
      cases hnil
    | some other =>
      refine .some fun path => ?_
      rw [hd, he] at hpath
      exact hpath path

/-- What is the same as an array is an array of items that are the same. -/
theorem exists_array_of_same {as : List Document} {e : Document} (h : Same (.array as) e) :
    ∃ bs, e = .array bs ∧ List.Forall₂ Same as bs := by
  have hshape := Option.some.inj (h [])
  cases e with
  | array bs =>
    refine ⟨bs, rfl, List.forall₂_iff_get.mpr ⟨Shape.array.inj hshape, fun i ha hb => ?_⟩⟩
    have hpart : Option.Rel Same as[i]? bs[i]? := rel_part? h (.item i)
    rw [List.getElem?_eq_getElem ha, List.getElem?_eq_getElem hb] at hpart
    cases hpart with
    | some hs => exact hs
  | _ => cases hshape

/-- What is the same as an object is an object that is the same as a finite map. -/
theorem exists_object_of_same {as : List (String × Document)} {e : Document}
    (h : Same (.object as) e) :
    ∃ bs, e = .object bs ∧ ∀ name, Option.Rel Same (last? name as) (last? name bs) := by
  have hshape := Option.some.inj (h [])
  cases e with
  | object bs => exact ⟨bs, rfl, fun name => rel_part? h (.field name)⟩
  | _ => cases hshape

/-! ## Fields that are set -/

section

variable {α β : Type} {name : String} {fields : List (String × α)}

theorem get?_foldl_set (name : String) (fields : List (String × α)) (done : Fields α) :
    Fields.get? name (fields.foldl (fun done field => done.set field.1 field.2) done) =
      (last? name fields).or (Fields.get? name done) := by
  induction fields generalizing done with
  | nil => rfl
  | cons field rest ih =>
    obtain ⟨other, value⟩ := field
    rw [List.foldl_cons, ih, last?, Option.or_assoc]
    by_cases h : name = other
    · rw [h, Fields.get?_set, if_pos rfl, Option.some_or]
    · rw [Fields.get?_set_ne h, if_neg h, Option.none_or]

/-- Of fields that are set one after the other the last one of a name is there. -/
theorem get?_ofList (name : String) (fields : List (String × α)) :
    Fields.get? name (Fields.ofList fields) = last? name fields :=
  (get?_foldl_set name fields []).trans Option.or_none

/-- Setting fields one after the other keeps what counts. -/
theorem last?_ofList (name : String) (fields : List (String × α)) :
    last? name (Fields.ofList fields) = last? name fields := by
  rw [← get?_ofList name (Fields.ofList fields),
    Fields.ofList_of_isAscending (Fields.isAscending_ofList fields), get?_ofList]

end

theorem last?_ofFields (name : String) (fields : List (String × Json)) :
    last? name (ofFields fields) = (last? name fields).map ofJson := by
  induction fields with
  | nil => rfl
  | cons field rest ih =>
    obtain ⟨other, value⟩ := field
    rw [ofFields, last?, last?, ih]
    by_cases h : name = other <;> cases last? name rest <;> simp [h]

/-- The object that fields are set in is the same as that of all of them. -/
theorem same_ofFields (fields : List (String × Json)) :
    Same (.object (ofFields fields)) (ofJson (Json.ofFields fields)) := by
  refine same_object fun name => ?_
  rw [last?_ofFields, last?_ofFields, last?_ofList]
  exact rel_refl _

end Document

/-! ## Texts -/

/-- Two texts are JSON texts and say the same: whatever documents they are of, these are the same
at every position. -/
structure SameDocument (a b : List Char) : Prop where
  left : ∃ d : Document, d.text = a
  right : ∃ d : Document, d.text = b
  same (d e : Document) : d.text = a → e.text = b → d.Same e

theorem sameDocument_of_same {d e : Document} (h : d.Same e) : SameDocument d.text e.text where
  left := ⟨d, rfl⟩
  right := ⟨e, rfl⟩
  same d' e' hd he := by
    rwa [Document.text_injective hd, Document.text_injective he]

end Courier.Json
