import Mathlib.Data.List.TakeWhile

/-!
# Splitting texts by a test

Results:

* `takeWhile_append_of_stop`, `stop_of_dropWhile`: a test splits a text where it first fails, and
  only there.
* `takeWhile_append_of_behind`: what is put behind a text does not matter once the test has failed.
* `append_inj_of_stop`: so there is one way to split a text there.
-/

namespace Courier.Text

variable {p : Char → Bool} {text front rest : List Char}

/-- A text is split behind the characters that a test holds for. -/
theorem takeWhile_append_of_stop
    (hf : ∀ c ∈ front, p c = true) (hr : ∀ c ∈ rest.head?, p c = false) :
    (front ++ rest).takeWhile p = front ∧ (front ++ rest).dropWhile p = rest := by
  rw [List.takeWhile_append_of_pos hf, List.dropWhile_append_of_pos hf]
  cases rest with
  | nil => exact ⟨List.append_nil front, rfl⟩
  | cons c rest =>
    have hc : ¬p c = true := by simp [hr c rfl]
    rw [List.takeWhile_cons_of_neg hc, List.dropWhile_cons_of_neg hc]
    exact ⟨List.append_nil front, rfl⟩

/-- What a test holds for does not begin what is left behind it. -/
theorem stop_of_dropWhile :
    ∀ c ∈ (text.dropWhile p).head?, p c = false := fun c hc => by
  have h := List.head?_dropWhile_not p text
  rw [Option.mem_def.mp hc] at h
  simpa using h

/-- A text that goes on is split where it was, if the test fails there or where it goes on. -/
theorem takeWhile_append_of_behind {more : List Char}
    (h : ∀ c ∈ (text.dropWhile p ++ more).head?, p c = false) :
    (text ++ more).takeWhile p = text.takeWhile p ∧
      (text ++ more).dropWhile p = text.dropWhile p ++ more := by
  have hf : ∀ c ∈ text.takeWhile p, p c = true := fun c hc => List.mem_takeWhile_imp hc
  have hsplit := takeWhile_append_of_stop hf h
  rwa [← List.append_assoc, List.takeWhile_append_dropWhile] at hsplit

/-- There is one way to split a text where a test first fails. -/
theorem append_inj_of_stop {other left : List Char} (hf : ∀ c ∈ front, p c = true)
    (ho : ∀ c ∈ other, p c = true) (hr : ∀ c ∈ rest.head?, p c = false)
    (hl : ∀ c ∈ left.head?, p c = false) (h : front ++ rest = other ++ left) :
    front = other ∧ rest = left := by
  obtain ⟨htake, hdrop⟩ := takeWhile_append_of_stop hf hr
  obtain ⟨htake', hdrop'⟩ := takeWhile_append_of_stop ho hl
  exact ⟨htake.symm.trans (h ▸ htake'), hdrop.symm.trans (h ▸ hdrop')⟩

end Courier.Text
