import Courier.Url.Ipv6
import Mathlib

/-!
# What an IPv6 address is written with

Each colon of an address stands before a piece or is one of the two that stand for zeros, and there
are eight pieces.

Results:

* `Fits.of_readPieces`: there is room for as many pieces as there are colons.
* `parse?_written`: **an address is written with digits, colons and dots, with eight colons at
  most.**
-/

namespace Courier.Url.Ipv6

open Courier.Text

variable {p q : Pieces} {text digits left : List Char} {limit : Nat} {c : Char}

/-- A character of an address. -/
def IsWritten (c : Char) : Prop :=
  (hexDigit? c).isSome = true ∨ c = ':' ∨ c = '.'

/-- What is taken off the front are digits. -/
theorem takeHex_spec (limit : Nat) (text : List Char) :
    (takeHex limit text).1 ++ (takeHex limit text).2 = text ∧
      ∀ c ∈ (takeHex limit text).1, (hexDigit? c).isSome = true := by
  fun_induction takeHex limit text with
  | case1 => exact ⟨rfl, fun _ hm => absurd hm List.not_mem_nil⟩
  | case2 => exact ⟨rfl, fun _ hm => absurd hm List.not_mem_nil⟩
  | case3 limit c rest hc digits left heq ih =>
    rw [heq] at ih
    exact ⟨congrArg (c :: ·) ih.1, List.forall_mem_cons.mpr ⟨hc, ih.2⟩⟩
  | case4 => exact ⟨rfl, fun _ hm => absurd hm List.not_mem_nil⟩

theorem eq_of_takeHex (h : takeHex limit text = (digits, left)) :
    text = digits ++ left ∧ (∀ c ∈ digits, IsWritten c) ∧ digits.count ':' = 0 := by
  obtain ⟨he, hd⟩ := takeHex_spec limit text
  rw [h] at he hd
  refine ⟨he.symm, fun c hc => .inl (hd c hc), List.count_eq_zero.mpr fun hm => ?_⟩
  exact absurd (hd _ hm) (by decide)

/-! ## Embedded addresses -/

theorem mem_fields (mark : Char) (h : c ∈ text) :
    c = mark ∨ ∃ part ∈ fields mark text, c ∈ part := by
  induction text with
  | nil => exact absurd h List.not_mem_nil
  | cons first rest ih =>
    unfold fields
    by_cases hf : first = mark
    · rw [if_pos hf]
      rcases List.mem_cons.mp h with rfl | h
      · exact .inl hf
      · refine (ih h).imp_right fun hpart => ?_
        obtain ⟨part, hp, hc⟩ := hpart
        exact ⟨part, List.mem_cons_of_mem _ hp, hc⟩
    · rw [if_neg hf]
      cases hr : fields mark rest with
      | nil => exact absurd hr (fields_ne_nil mark rest)
      | cons part others =>
        rw [hr] at ih
        rcases List.mem_cons.mp h with rfl | h
        · exact .inr ⟨_, List.mem_cons_self, List.mem_cons_self⟩
        · refine (ih h).imp_right fun hpart => ?_
          obtain ⟨found, hp, hc⟩ := hpart
          rcases List.mem_cons.mp hp with rfl | hp
          · exact ⟨_, List.mem_cons_self, List.mem_cons_of_mem _ hc⟩
          · exact ⟨found, List.mem_cons_of_mem _ hp, hc⟩

theorem isSome_of_byte? {n : Nat} (h : byte? digits = some n) :
    ∀ c ∈ digits, (hexDigit? c).isSome = true := by
  have hall : digits.all (fun c => '0' ≤ c && c ≤ '9') = true := by
    unfold byte? at h
    split at h
    · exact absurd h nofun
    · exact absurd h nofun
    · simp only at h
      split at h
      · next ht =>
        simp only [Bool.and_eq_true] at ht
        exact ht.1.1
      · exact absurd h nofun
  intro c hc
  have hd := List.all_eq_true.mp hall c hc
  simp only [Bool.and_eq_true, decide_eq_true_eq] at hd
  simp [hexDigit?, hd]

theorem exists_of_mapM {α β : Type} {f : α → Option β} {items : List α} {found : List β}
    (h : items.mapM f = some found) : ∀ item ∈ items, ∃ x, f item = some x := by
  induction items generalizing found with
  | nil => exact nofun
  | cons item rest ih =>
    rw [List.mapM_cons] at h
    obtain ⟨x, hx, h⟩ := Option.bind_eq_some_iff.mp h
    obtain ⟨others, ho, -⟩ := Option.bind_eq_some_iff.mp h
    exact List.forall_mem_cons.mpr ⟨⟨x, hx⟩, ih ho⟩

theorem embedded?_written {two : List Nat} (h : embedded? text = some two) :
    (∀ c ∈ text, IsWritten c) ∧ text.count ':' = 0 := by
  have hall : ∀ c ∈ text, (hexDigit? c).isSome = true ∨ c = '.' := by
    intro c hc
    unfold embedded? at h
    split at h
    · next hm =>
      rcases mem_fields '.' hc with hdot | ⟨part, hp, hc⟩
      · exact .inr hdot
      · obtain ⟨n, hn⟩ := exists_of_mapM hm part hp
        exact .inl (isSome_of_byte? hn c hc)
    · exact absurd h nofun
  refine ⟨fun c hc => (hall c hc).imp_right .inr, List.count_eq_zero.mpr fun hm => ?_⟩
  rcases hall _ hm with hx | hx <;> exact absurd hx (by decide)

/-! ## Pieces -/

/-- A text can be read behind pieces: there is room for as many more as there are colons in it, and
once the zeros are left out, each colon stands before a piece. -/
structure Fits (p : Pieces) (text : List Char) : Prop where
  written : ∀ c ∈ text, IsWritten c
  colons : p.values.length + text.count ':' ≤ 8
  behind (hg : p.gap.isSome = true) (ht : text ≠ []) : p.values.length + text.count ':' < 8

/-- What begins with a piece fits if there is room for that, and what follows its colon fits. -/
theorem Fits.of_no_colon (hp : p.values.length < 8) (hw : ∀ c ∈ text, IsWritten c)
    (hc : text.count ':' = 0) : Fits p text :=
  ⟨hw, by omega, fun _ _ => by omega⟩

theorem Fits.of_readPieces (h : readPieces p text = some q) (hp : p.values.length ≤ 8) :
    Fits p text := by
  fun_induction readPieces p text with
  | case1 p => exact ⟨nofun, hp, fun _ hn => absurd rfl hn⟩
  | case2 => exact absurd h nofun
  | case3 p rest hg ih =>
    obtain ⟨hlen, hgap⟩ := not_or.mp hg
    obtain ⟨hw, hc, -⟩ := ih h (by simp; omega)
    simp only [List.length_append, List.length_singleton] at hc
    refine ⟨List.forall_mem_cons.mpr ⟨.inr (.inl rfl), hw⟩, ?_, fun hs => absurd hs hgap⟩
    rw [List.count_cons_self]
    omega
  | case4 => exact absurd h nofun
  | case5 => exact absurd h nofun
  | case6 p c rest hc hlen digits _ ht =>
    obtain ⟨he, hd, hz⟩ := eq_of_takeHex ht
    rw [List.append_nil] at he
    exact he ▸ .of_no_colon (by omega) hd hz
  | case7 p c rest hc hlen digits d left _ ht ih =>
    obtain ⟨he, hd, hz⟩ := eq_of_takeHex ht
    obtain ⟨hw, hcolons, hbehind⟩ := ih h (by simp; omega)
    simp only [List.length_append, List.length_singleton] at hcolons hbehind
    have hcount : (digits ++ ':' :: d :: left).count ':' = (d :: left).count ':' + 1 := by
      rw [List.count_append, hz, List.count_cons_self, Nat.zero_add]
    rw [he]
    refine ⟨List.forall_mem_append.mpr ⟨hd, List.forall_mem_cons.mpr ⟨.inr (.inl rfl), hw⟩⟩, ?_, ?_⟩
    · rw [hcount]
      omega
    · intro hg _
      have hb := hbehind hg (List.cons_ne_nil d left)
      rw [hcount]
      omega
  | case8 => exact absurd h nofun
  | case9 p c rest hc hlen _ _ _ _ _ =>
    obtain ⟨two, he, -⟩ := Option.map_eq_some_iff.mp h
    obtain ⟨hw, hz⟩ := embedded?_written he
    exact .of_no_colon (by omega) hw hz
  | case10 => exact absurd h nofun

/-- **What an address is written with.** -/
theorem parse?_written {pieces : List Nat} (h : parse? text = some pieces) :
    (∀ c ∈ text, IsWritten c) ∧ text.count ':' ≤ 8 := by
  unfold parse? at h
  split at h
  · exact absurd h nofun
  · exact absurd h nofun
  · next rest =>
    obtain ⟨q, hq, -⟩ := Option.bind_eq_some_iff.mp h
    obtain ⟨hw, hc, hb⟩ := Fits.of_readPieces hq (by decide)
    have hcolon : IsWritten ':' := .inr (.inl rfl)
    refine ⟨List.forall_mem_cons.mpr ⟨hcolon, List.forall_mem_cons.mpr ⟨hcolon, hw⟩⟩, ?_⟩
    rw [List.count_cons_self, List.count_cons_self]
    by_cases hr : rest = []
    · simp [hr]
    · have hb : 1 + rest.count ':' < 8 := hb rfl hr
      omega
  · exact absurd h nofun
  · obtain ⟨q, hq, -⟩ := Option.bind_eq_some_iff.mp h
    obtain ⟨hw, hc, -⟩ := Fits.of_readPieces hq (Nat.zero_le 8)
    exact ⟨hw, by simpa using hc⟩

end Courier.Url.Ipv6
