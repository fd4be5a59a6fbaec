import Courier.Duration
import Courier.Proofs.Decimal.Characters
import Courier.Proofs.Text.Splitting
import Courier.Proofs.Text.Tables

/-!
# The texts of durations

Results:

* `decimalValue_fraction`: a fraction from which the zeros at the end were dropped still says which
  part it was, since the number of its places is known.
* `sign_inj`: the sign of a unit says which unit it is.
* `text_injective`: no two durations have the same text, at the borders between units as well: the
  sign tells the unit, the point tells the whole units from the part, and both parts are told apart
  as numerals.
-/

namespace Courier.Duration

open Courier.Decimal Courier.Text

variable {d other : Duration} {c : Char} {places part : Nat}

/-! ## Fractions -/

/-- What is dropped at the end of a text is as many times the same character. -/
theorem exists_dropEnd_append (text : List Char) (c : Char) :
    ∃ n, (text.reverse.dropWhile (· = c)).reverse ++ List.replicate n c = text := by
  have hall : ∀ b ∈ text.reverse.takeWhile (· = c), b = c := fun b hb => by
    simpa using List.mem_takeWhile_imp hb
  refine ⟨(text.reverse.takeWhile (· = c)).length, ?_⟩
  calc
    _ = (text.reverse.dropWhile (· = c)).reverse ++ (text.reverse.takeWhile (· = c)).reverse := by
      rw [← List.reverse_replicate, ← List.eq_replicate_of_mem hall]
    _ = text := by
      rw [← List.reverse_append, List.takeWhile_append_dropWhile, List.reverse_reverse]

/-- Zeros in front do not count. -/
theorem decimalValue_zeros_append (n : Nat) (text : List Char) :
    decimalValue (zeros n ++ text) = decimalValue text := by
  induction n with
  | zero => rfl
  | succ n ih => exact ih

/-- The zeros at the end put back, a fraction is the part that it was made of. -/
theorem decimalValue_fraction (h : part < Nat.pow 10 places) :
    decimalValue (fraction places part ++ zeros (places - (fraction places part).length)) =
      part := by
  rcases Nat.eq_zero_or_pos places with rfl | hpos
  · obtain rfl : part = 0 := Nat.lt_one_iff.mp h
    rfl
  · have hfits : (naturalText part).length ≤ places :=
      (Nat.length_toDigits_le_iff (by decide) hpos).mpr h
    obtain ⟨n, hn⟩ := exists_dropEnd_append
      (zeros (places - (naturalText part).length) ++ naturalText part) '0'
    change fraction places part ++ zeros n = _ at hn
    have hlength := congrArg List.length hn
    simp only [zeros, List.length_append, List.length_replicate] at hlength
    rw [show places - (fraction places part).length = n by omega, hn, decimalValue_zeros_append,
      decimalValue_naturalText]

theorem fraction_inj {left : Nat} (h : part < Nat.pow 10 places) (hl : left < Nat.pow 10 places)
    (he : fraction places part = fraction places left) : part = left := by
  rw [← decimalValue_fraction h, he, decimalValue_fraction hl]

theorem isDigit_of_mem_fraction (h : c ∈ fraction places part) : isDigit c = true := by
  have hmem : c ∈ zeros (places - (naturalText part).length) ++ naturalText part :=
    List.mem_reverse.mp ((List.dropWhile_sublist _).subset (List.mem_reverse.mp h))
  rcases List.mem_append.mp hmem with hc | hc
  · exact isDigit_of_mem_zeros hc
  · exact isDigit_of_mem_naturalText hc

/-! ## Units -/

/-- The units a duration may be shown in. -/
def units : List Scale :=
  scales ++ [⟨0, "ns"⟩]

theorem scale_mem_units (d : Duration) : d.scale ∈ units := by
  unfold scale units
  cases hf : scales.find? fun s => Nat.pow 10 s.power ≤ d.nanoseconds with
  | none => exact List.mem_append_right _ (List.mem_singleton.mpr rfl)
  | some s => exact List.mem_append_left _ (List.mem_of_find?_eq_some hf)

/-- The sign of a unit says which unit it is. -/
theorem power_eq_of_sign_eq : ∀ s ∈ units, ∀ t ∈ units,
    s.sign.toList = t.sign.toList → s.power = t.power := by
  simp [units, scales]

/-- A character of the sign of a unit. -/
def isSign (c : Char) : Bool :=
  c = 'n' || c = 'µ' || c = 'm' || c = 's'

theorem isSign_of_mem_sign : ∀ s ∈ units, ∀ c ∈ s.sign.toList, isSign c = true := by
  simp [units, scales, isSign]

/-! ## Durations -/

/-- The point and the fraction, if there is one. -/
def pointed (part : List Char) : List Char :=
  if part.isEmpty then [] else '.' :: part

theorem pointed_inj {part left : List Char} (h : pointed part = pointed left) : part = left := by
  cases part <;> cases left <;> simp_all [pointed]

theorem text_eq (d : Duration) :
    d.text = naturalText (d.nanoseconds / Nat.pow 10 d.scale.power) ++
      pointed (fraction d.scale.power (d.nanoseconds % Nat.pow 10 d.scale.power)) ++
        d.scale.sign.toList := rfl

/-- A digit or the point: what stands before the sign of a unit. -/
def isCount (c : Char) : Bool :=
  isDigit c || c = '.'

theorem isCount_of_mem_pointed (h : c ∈ pointed (fraction places part)) : isCount c = true := by
  unfold pointed at h
  split at h
  · cases h
  · rcases List.mem_cons.mp h with rfl | h
    · rfl
    · simp [isCount, isDigit_of_mem_fraction h]

theorem isCount_of_mem_count {whole : Nat}
    (h : c ∈ naturalText whole ++ pointed (fraction places part)) : isCount c = true := by
  rcases List.mem_append.mp h with h | h
  · simp [isCount, isDigit_of_mem_naturalText h]
  · exact isCount_of_mem_pointed h

/-- No sign begins with a digit or a point. -/
theorem stop_of_sign : ∀ s ∈ units, ∀ c ∈ s.sign.toList.head?, isCount c = false := by
  simp [units, scales, isCount, isDigit]

/-- No digit follows the whole units. -/
theorem stop_of_pointed (part : List Char) : ∀ c ∈ (pointed part).head?, isDigit c = false := by
  unfold pointed
  split
  · simp
  · simp [isDigit]

theorem text_injective : Function.Injective text := fun d other h => by
  rw [text_eq, text_eq] at h
  obtain ⟨hcount, hsign⟩ := append_inj_of_stop (fun c => isCount_of_mem_count)
    (fun c => isCount_of_mem_count) (stop_of_sign _ (scale_mem_units d))
    (stop_of_sign _ (scale_mem_units other)) h
  have hpower := power_eq_of_sign_eq _ (scale_mem_units d) _ (scale_mem_units other) hsign
  rw [hpower] at hcount
  obtain ⟨hwhole, hpart⟩ := append_inj_of_stop (fun c => isDigit_of_mem_naturalText)
    (fun c => isDigit_of_mem_naturalText) (stop_of_pointed _) (stop_of_pointed _) hcount
  have hunit : 0 < Nat.pow 10 other.scale.power := Nat.pow_pos (by decide)
  have hdiv : d.nanoseconds / Nat.pow 10 other.scale.power =
      other.nanoseconds / Nat.pow 10 other.scale.power := by
    simpa [decimalValue_naturalText] using congrArg decimalValue hwhole
  have hmod := fraction_inj (Nat.mod_lt _ hunit) (Nat.mod_lt _ hunit) (pointed_inj hpart)
  have hnanos : d.nanoseconds = other.nanoseconds := by
    rw [← Nat.div_add_mod d.nanoseconds (Nat.pow 10 other.scale.power), hdiv, hmod,
      Nat.div_add_mod]
  cases d
  cases other
  exact congrArg Duration.mk hnanos

/-- A character of the text of a duration. -/
def isTime (c : Char) : Bool :=
  isCount c || isSign c

theorem isTime_of_mem_text (h : c ∈ d.text) : isTime c = true := by
  rw [text_eq] at h
  rcases List.mem_append.mp h with h | h
  · simp [isTime, isCount_of_mem_count h]
  · simp [isTime, isSign_of_mem_sign _ (scale_mem_units d) c h]

theorem not_isControl_of_mem_text (h : c ∈ d.text) : ¬IsControl c := by
  have htime := isTime_of_mem_text h
  simp only [isTime, isCount, isSign, isDigit, Bool.or_eq_true, Bool.and_eq_true,
    decide_eq_true_eq, Char.le_def, UInt32.le_iff_toNat_le] at htime
  rcases htime with (⟨hlow, hhigh⟩ | rfl) | ((rfl | rfl) | rfl) | rfl
  · change 0x30 ≤ c.toNat at hlow
    change c.toNat ≤ 0x39 at hhigh
    unfold IsControl
    omega
  · exact not_isControl_of_isAscii rfl
  · exact not_isControl_of_isAscii rfl
  · unfold IsControl
    decide
  · exact not_isControl_of_isAscii rfl
  · exact not_isControl_of_isAscii rfl

/-- The text of a duration ends where something stands that is in none. -/
theorem text_append_inj {rest left : List Char} (hr : ∀ c ∈ rest.head?, isTime c = false)
    (hl : ∀ c ∈ left.head?, isTime c = false) (h : d.text ++ rest = other.text ++ left) :
    d = other ∧ rest = left := by
  obtain ⟨htext, hrest⟩ := append_inj_of_stop (fun c => isTime_of_mem_text)
    (fun c => isTime_of_mem_text) hr hl h
  exact ⟨text_injective htext, hrest⟩

end Courier.Duration
