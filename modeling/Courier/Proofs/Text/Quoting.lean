import Courier.Proofs.Text.Splitting
import Courier.Proofs.Text.Tables
import Courier.Text.Quoted

/-!
# Quoted texts

Results:

* `readChar_escape`: how a character stands in a quoted text says which character it is and where
  it ends, whatever stands behind it.
* `quote_append_inj`: so a quoted text says where it ends, and no two texts are quoted alike.
* `not_isControl_of_mem_quote`: nothing in a quoted text moves on to another line or steers what
  shows it.
-/

namespace Courier.Text.Quoted

variable {c d : Char} {text other rest left : List Char}

/-! ## Hexadecimal numerals -/

theorem hexDigit?_digitChar : ∀ n < 16, hexDigit? (Nat.digitChar n) = some n := by
  decide

/-- The hexadecimal numeral of a number has that value, and only digits in it. -/
theorem hexValue_toDigits (n : Nat) :
    hexValue (Nat.toDigits 16 n) = n ∧ ∀ c ∈ Nat.toDigits 16 n, ∃ k < 16, c = Nat.digitChar k := by
  induction n using Nat.strongRecOn with
  | ind n ih =>
    by_cases hlt : n < 16
    · rw [Nat.toDigits_of_lt_base hlt]
      refine ⟨?_, List.forall_mem_singleton.mpr ⟨n, hlt, rfl⟩⟩
      simp [hexValue, hexDigit?_digitChar n hlt]
    · obtain ⟨hvalue, hdigits⟩ := ih (n / 16) (by omega)
      have hmod : n % 16 < 16 := Nat.mod_lt n (by decide)
      rw [Nat.toDigits_of_base_le (by decide) (by omega)]
      refine ⟨?_, List.forall_mem_append.mpr
        ⟨hdigits, List.forall_mem_singleton.mpr ⟨n % 16, hmod, rfl⟩⟩⟩
      unfold hexValue at hvalue ⊢
      rw [List.foldl_append, hvalue, List.foldl_cons, List.foldl_nil, hexDigit?_digitChar _ hmod,
        Option.getD_some]
      exact Nat.div_add_mod n 16

/-! ## One character -/

/-- The character that a quoted text begins with, and what stands behind it. -/
def readChar : List Char → Option (Char × List Char)
  | '\\' :: '0' :: rest => some ('\x00', rest)
  | '\\' :: 't' :: rest => some ('\t', rest)
  | '\\' :: 'r' :: rest => some ('\r', rest)
  | '\\' :: 'n' :: rest => some ('\n', rest)
  | '\\' :: 'u' :: '{' :: rest =>
    some (Char.ofNat (hexValue (rest.takeWhile (· ≠ '}'))), (rest.dropWhile (· ≠ '}')).drop 1)
  | '\\' :: c :: rest => some (c, rest)
  | c :: rest => some (c, rest)
  | [] => none

theorem readChar_byNumber (c : Char) (rest : List Char) :
    readChar (byNumber c ++ rest) = some (c, rest) := by
  obtain ⟨hvalue, hdigits⟩ := hexValue_toDigits c.toNat
  have hbrace : ∀ k < 16, Nat.digitChar k ≠ '}' := by decide
  have hplain : ∀ d ∈ Nat.toDigits 16 c.toNat, (decide (d ≠ '}')) = true := fun d hd => by
    obtain ⟨k, hk, rfl⟩ := hdigits d hd
    exact decide_eq_true (hbrace k hk)
  have hstop : ∀ d ∈ ('}' :: rest).head?, (decide (d ≠ '}')) = false := by
    rintro d ⟨⟩
    rfl
  obtain ⟨htake, hdrop⟩ := takeWhile_append_of_stop hplain hstop
  have hread : readChar (byNumber c ++ rest) =
      some (Char.ofNat (hexValue ((Nat.toDigits 16 c.toNat ++ '}' :: rest).takeWhile (· ≠ '}'))),
        ((Nat.toDigits 16 c.toNat ++ '}' :: rest).dropWhile (· ≠ '}')).drop 1) := by
    simp only [byNumber, List.append_assoc, List.cons_append, List.nil_append, readChar]
  rw [hread, htake, hdrop, hvalue, Char.ofNat_toNat]
  rfl

/-- What stands for a character is read back as it. -/
theorem readChar_escape (c : Char) (rest : List Char) :
    readChar (escape c ++ rest) = some (c, rest) := by
  unfold escape
  split
  · next h => rw [h]; rfl
  split
  · next h => rw [h]; rfl
  split
  · next h => rw [h]; rfl
  split
  · next h => rw [h]; rfl
  split
  · next h => rw [h]; rfl
  split
  · next h => rw [h]; rfl
  split
  · exact readChar_byNumber c rest
  · next hslash _ _ =>
    unfold readChar
    split <;> simp_all

/-- A character says where it ends, and no two stand alike. -/
theorem escape_append_inj (h : escape c ++ rest = escape d ++ left) : c = d ∧ rest = left := by
  have hread := congrArg readChar h
  rw [readChar_escape, readChar_escape] at hread
  exact Prod.mk.inj (Option.some.inj hread)

/-- No character stands there as a bare quote. -/
theorem escape_append_ne_quote : escape c ++ rest ≠ '"' :: left := fun h => by
  have hread := congrArg readChar h
  rw [readChar_escape] at hread
  obtain ⟨rfl, -⟩ := Prod.mk.inj (Option.some.inj hread)
  cases h

/-! ## Texts -/

theorem flatMap_escape_append_inj
    (h : text.flatMap escape ++ '"' :: rest = other.flatMap escape ++ '"' :: left) :
    text = other ∧ rest = left := by
  induction text generalizing other with
  | nil =>
    cases other with
    | nil => exact ⟨rfl, (List.cons.inj h).2⟩
    | cons d other =>
      rw [List.flatMap_cons, List.append_assoc] at h
      exact absurd h.symm escape_append_ne_quote
  | cons c text ih =>
    rw [List.flatMap_cons, List.append_assoc] at h
    cases other with
    | nil => exact absurd h escape_append_ne_quote
    | cons d other =>
      rw [List.flatMap_cons, List.append_assoc] at h
      obtain ⟨rfl, hbehind⟩ := escape_append_inj h
      obtain ⟨rfl, hrest⟩ := ih hbehind
      exact ⟨rfl, hrest⟩

/-- A quoted text says where it ends, and no two texts are quoted alike. -/
theorem quote_append_inj (h : quote text ++ rest = quote other ++ left) :
    text = other ∧ rest = left := by
  simp only [quote, List.cons_append, List.append_assoc, List.nil_append] at h
  exact flatMap_escape_append_inj (List.cons.inj h).2

/-! ## No controls -/

/-- Controls are shown by number. -/
theorem isHidden_of_isControl (h : IsControl c) : isHidden c = true := by
  by_cases hc : 0x7F < c.toNat
  · simp [isHidden, hc, unprintable_of_isControl h (Nat.le_of_lt hc)]
  · simp only [isHidden, Bool.or_eq_true, decide_eq_true_eq]
    unfold IsControl at h
    omega

theorem not_isControl_of_mem_byNumber (h : d ∈ byNumber c) : ¬IsControl d := by
  have hdigit : ∀ k < 16, isAscii (Nat.digitChar k) = true := by decide
  refine not_isControl_of_isAscii ?_
  rw [byNumber, List.append_assoc, List.mem_append, List.mem_append] at h
  rcases h with h | h | h
  · exact List.all_eq_true.mp (rfl : ['\\', 'u', '{'].all isAscii = true) d h
  · obtain ⟨k, hk, rfl⟩ := (hexValue_toDigits c.toNat).2 d h
    exact hdigit k hk
  · exact List.all_eq_true.mp (rfl : ['}'].all isAscii = true) d h

/-- A character stands for itself, or behind a backslash as a mark or as a number. -/
theorem escape_cases (c : Char) :
    (∃ mark, isAscii mark = true ∧ escape c = ['\\', mark]) ∨
      escape c = byNumber c ∨ isHidden c = false ∧ escape c = [c] := by
  have mark (m : Char) (hm : isAscii m = true) :
      (∃ mark, isAscii mark = true ∧ ['\\', m] = ['\\', mark]) ∨
        ['\\', m] = byNumber c ∨ isHidden c = false ∧ ['\\', m] = [c] :=
    .inl ⟨m, hm, rfl⟩
  unfold escape
  split
  · exact mark '0' rfl
  split
  · exact mark 't' rfl
  split
  · exact mark 'r' rfl
  split
  · exact mark 'n' rfl
  split
  · exact mark '\\' rfl
  split
  · exact mark '"' rfl
  split
  · exact .inr (.inl rfl)
  · next hplain => exact .inr (.inr ⟨Bool.eq_false_iff.mpr hplain, rfl⟩)

theorem not_isControl_of_mem_escape (h : d ∈ escape c) : ¬IsControl d := by
  rcases escape_cases c with ⟨mark, hmark, he⟩ | he | ⟨hplain, he⟩
  · rcases List.mem_pair.mp (he ▸ h) with rfl | rfl
    · exact not_isControl_of_isAscii rfl
    · exact not_isControl_of_isAscii hmark
  · exact not_isControl_of_mem_byNumber (he ▸ h)
  · obtain rfl := List.mem_singleton.mp (he ▸ h)
    exact fun hc => Bool.eq_false_iff.mp hplain (isHidden_of_isControl hc)

theorem not_isControl_of_mem_quote (h : c ∈ quote text) : ¬IsControl c := by
  have hquote : ¬IsControl '"' := not_isControl_of_isAscii rfl
  rw [quote, List.mem_append, List.mem_cons, List.mem_singleton, List.mem_flatMap] at h
  rcases h with (rfl | ⟨d, -, hd⟩) | rfl
  · exact hquote
  · exact not_isControl_of_mem_escape hd
  · exact hquote

end Courier.Text.Quoted
