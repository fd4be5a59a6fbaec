import Courier.Proofs.Json.Grammar
import Courier.Proofs.Json.Proper

/-!
# Number tokens

What is read as a number is a number token, up to where it ends. Digits that fit 64 bits are read as
their own value.

Results:

* `exists_of_readNumber` — **what is read is a number token**, and if it is the numeral of an
  integer its value is that integer.
* `readNumber_naturalText` — and a numeral is read, whatever stands behind it that is not part of a
  number.
-/

namespace Courier.Json

open Courier.Decimal Courier.Text

variable {text rest left : List Char} {value : Json} {negative : Bool} {digits limit number : Nat}
  {exponent : Int} {c : Char}

/-! ## Digits -/

theorem takeDigits_split (limit number : Nat) (text : List Char) :
    ∃ taken, text = taken ++ (takeDigits limit number text).2.2 ∧
      taken.length = (takeDigits limit number text).2.1 ∧ ∀ c ∈ taken, isDigit c = true := by
  induction text generalizing number with
  | nil => exact ⟨[], rfl, rfl, nofun⟩
  | cons c rest ih =>
    unfold takeDigits
    dsimp only
    split
    · next hc =>
      obtain ⟨taken, ht, hl, hd⟩ := ih (number * 10 + (c.toNat - '0'.toNat))
      exact ⟨c :: taken, congrArg (c :: ·) ht, congrArg (· + 1) hl,
        List.forall_mem_cons.mpr ⟨hc.1, hd⟩⟩
    · exact ⟨[], rfl, rfl, nofun⟩

section

variable {total count : Nat} (h : takeDigits limit number text = (total, count, left))

include h

/-- What stands behind all digits stands behind those that do not count. -/
theorem dropWhile_of_takeDigits : left.dropWhile isDigit = text.dropWhile isDigit := by
  obtain ⟨taken, ht, _, hd⟩ := takeDigits_split limit number text
  rw [h] at ht
  rw [ht, List.dropWhile_append_of_pos hd]

theorem isRun_of_takeDigits (hn : count ≠ 0 ∨ left.takeWhile isDigit ≠ []) :
    IsRun (text.takeWhile isDigit) := by
  obtain ⟨taken, ht, hl, hd⟩ := takeDigits_split limit number text
  rw [h] at ht hl
  refine ⟨fun he => ?_, fun c hc => List.mem_takeWhile_imp hc⟩
  rw [ht, List.takeWhile_append_of_pos hd] at he
  obtain ⟨htaken, hleft⟩ := List.append_eq_nil_iff.mp he
  rcases hn with hn | hn
  · exact hn (hl.symm.trans (List.length_eq_zero_iff.mpr htaken))
  · exact hn hleft

end

/-- No digit stands there. -/
def NoDigit (rest : List Char) : Prop :=
  ∀ c ∈ rest.head?, isDigit c = false

theorem dropWhile_of_noDigit (h : NoDigit rest) :
    rest.takeWhile isDigit = [] ∧ rest.dropWhile isDigit = rest := by
  have hnone : ∀ c ∈ ([] : List Char), isDigit c = true := nofun
  exact takeWhile_append_of_stop hnone h

theorem le_foldl (digits : List Char) (number : Nat) :
    number ≤ digits.foldl (fun n c => 10 * n + (c.toNat - '0'.toNat)) number := by
  induction digits generalizing number with
  | nil => exact Nat.le_refl number
  | cons c rest ih => exact Nat.le_trans (by omega) (ih (10 * number + (c.toNat - '0'.toNat)))

/-- All digits count if their value is within the limit. -/
theorem takeDigits_of_le {run : List Char} (hd : ∀ c ∈ run, isDigit c = true) (hr : NoDigit rest)
    (hl : run.foldl (fun n c => 10 * n + (c.toNat - '0'.toNat)) number ≤ limit) :
    takeDigits limit number (run ++ rest) =
      (run.foldl (fun n c => 10 * n + (c.toNat - '0'.toNat)) number, run.length, rest) := by
  induction run generalizing number with
  | nil =>
    cases rest with
    | nil => rfl
    | cons c rest =>
      have hc : isDigit c = false := hr c rfl
      simp [takeDigits, hc]
  | cons c run ih =>
    obtain ⟨hc, hd⟩ := List.forall_mem_cons.mp hd
    rw [List.foldl_cons] at hl ⊢
    have hnext : number * 10 + (c.toNat - '0'.toNat) ≤ limit :=
      Nat.mul_comm number 10 ▸ Nat.le_trans (le_foldl run _) hl
    rw [Nat.mul_comm 10 number] at hl ⊢
    simp only [List.cons_append, takeDigits, hc, hnext, and_self, if_true, ih hd hl,
      List.length_cons]

/-! ## Fractions and exponents -/

theorem eq_of_finishFraction
    (h : finishFraction negative digits exponent text = .ok (value, rest)) : text = rest := by
  unfold finishFraction at h
  split at h
  · cases h
    rfl
  · cases h

/-- What is read behind the letter of an exponent is a sign, or none, and digits. -/
theorem exists_of_readExponent
    (h : readExponent negative digits exponent text = .ok (value, rest)) :
    ∃ sign run, (sign = [] ∨ sign = ['+'] ∨ sign = ['-']) ∧ IsRun run ∧
      text = sign ++ run ++ rest := by
  unfold readExponent at h
  split at h
  next down body hbody =>
  obtain ⟨sign, hs, ht⟩ : ∃ sign, (sign = [] ∨ sign = ['+'] ∨ sign = ['-']) ∧
      text = sign ++ body := by
    split at hbody
    · cases hbody
      exact ⟨['+'], .inr (.inl rfl), rfl⟩
    · cases hbody
      exact ⟨['-'], .inr (.inr rfl), rfl⟩
    · cases hbody
      exact ⟨[], .inl rfl, rfl⟩
  suffices hrun : ∃ run, IsRun run ∧ body = run ++ rest by
    obtain ⟨run, hr, rfl⟩ := hrun
    exact ⟨sign, run, hs, hr, by rw [ht, List.append_assoc]⟩
  split at h
  · cases h
  · cases h
  · next shift count left _ hc htake =>
    refine ⟨body.takeWhile isDigit, isRun_of_takeDigits htake (.inl hc), ?_⟩
    have hdrop := dropWhile_of_takeDigits htake
    have hsplit := List.takeWhile_append_dropWhile (p := isDigit) (l := body)
    split at h
    · next he =>
      have hstop : left.dropWhile isDigit = left := by
        have hleft := List.takeWhile_append_dropWhile (p := isDigit) (l := left)
        rwa [List.isEmpty_iff.mp he, List.nil_append] at hleft
      rw [← eq_of_finishFraction h, ← hstop, hdrop, hsplit]
    · split at h
      · cases h
      · cases h
        rw [hdrop, hsplit]

theorem isExponent_of_readExponent {letter : Char} (hl : letter = 'e' ∨ letter = 'E')
    (h : readExponent negative digits exponent text = .ok (value, rest)) :
    ∃ token, IsExponent token ∧ token ≠ [] ∧ letter :: text = token ++ rest := by
  obtain ⟨sign, run, hs, hr, rfl⟩ := exists_of_readExponent h
  exact ⟨letter :: (sign ++ run), .some hl hs hr, List.cons_ne_nil _ _, rfl⟩

/-- What is read behind a point is digits, and an exponent or none. -/
theorem exists_of_readFraction
    (h : readFraction negative digits exponent text = .ok (value, rest)) :
    ∃ run token, IsRun run ∧ IsExponent token ∧ text = run ++ (token ++ rest) := by
  unfold readFraction at h
  split at h
  next total count left htake =>
  split at h
  · cases h
  · cases h
  · next count left _ _ _ hno _ =>
    have hr : IsRun (text.takeWhile isDigit) := by
      refine isRun_of_takeDigits htake ?_
      by_cases hz : count = 0
      · exact .inr (hno hz)
      · exact .inl hz
    refine ⟨text.takeWhile isDigit, ?_⟩
    rw [dropWhile_of_takeDigits htake] at h
    have hsplit := List.takeWhile_append_dropWhile (p := isDigit) (l := text)
    split at h
    · next after he =>
      obtain ⟨token, hx, _, hy⟩ := isExponent_of_readExponent (.inl rfl) h
      exact ⟨token, hr, hx, by rw [← hy, ← he, hsplit]⟩
    · next after he =>
      obtain ⟨token, hx, _, hy⟩ := isExponent_of_readExponent (.inr rfl) h
      exact ⟨token, hr, hx, by rw [← hy, ← he, hsplit]⟩
    · next after _ _ =>
      exact ⟨[], hr, .none, by rw [List.nil_append, ← eq_of_finishFraction h, hsplit]⟩

/-! ## Numbers -/

theorem takeDigits_naturalText {n : Nat} (hn : n ≤ limit) (hr : NoDigit rest) :
    takeDigits limit 0 (naturalText n ++ rest) = (n, (naturalText n).length, rest) := by
  have hv : (naturalText n).foldl (fun n c => 10 * n + (c.toNat - '0'.toNat)) 0 = n :=
    decimalValue_naturalText n
  rw [takeDigits_of_le (fun c => isDigit_of_mem_naturalText) hr (hv.symm ▸ hn), hv]

/-- Behind its whole numeral a number may have a fraction and an exponent. If it has none, and its
numeral is that of a natural number that fits, its value is a whole number. -/
theorem exists_of_readWhole (h : readNumber.readWhole negative text = .ok (value, rest)) :
    ∃ fraction token, IsFraction fraction ∧ IsExponent token ∧
      text.dropWhile isDigit = fraction ++ (token ++ rest) ∧
      ∀ n ≤ Nat.pow 2 64 - 1, text.takeWhile isDigit = naturalText n → fraction = [] → token = [] →
        value = wholeNumber negative n := by
  unfold readNumber.readWhole at h
  split at h
  next total count left htake =>
  rw [dropWhile_of_takeDigits htake] at h
  split at h
  · next after he =>
    obtain ⟨run, token, hr, hx, ht⟩ := exists_of_readFraction h
    exact ⟨'.' :: run, token, .some hr, hx, by rw [he, ht]; rfl, nofun⟩
  · next after he =>
    obtain ⟨token, hx, hne, ht⟩ := isExponent_of_readExponent (.inl rfl) h
    exact ⟨[], token, .none, hx, by rw [he, ht]; rfl, fun _ _ _ _ h => absurd h hne⟩
  · next after he =>
    obtain ⟨token, hx, hne, ht⟩ := isExponent_of_readExponent (.inr rfl) h
    exact ⟨[], token, .none, hx, by rw [he, ht]; rfl, fun _ _ _ _ h => absurd h hne⟩
  · refine ⟨[], [], .none, .none, ?_, fun n hn hw _ _ => ?_⟩
    · dsimp only at h
      split at h
      · cases h
        rfl
      · exact eq_of_finishFraction h
    · -- All digits count, so none is left over.
      have hstop : NoDigit (text.dropWhile isDigit) := stop_of_dropWhile
      have htext : text = naturalText n ++ text.dropWhile isDigit := by
        rw [← hw, List.takeWhile_append_dropWhile]
      rw [htext, takeDigits_naturalText hn hstop] at htake
      obtain ⟨rfl, _, rfl⟩ : n = total ∧ _ = count ∧ text.dropWhile isDigit = left := by
        simpa using htake
      simp only [(dropWhile_of_noDigit hstop).1, List.length_nil, if_true] at h
      cases h
      rfl

/-- **What is read from the first digit of a number on** is the rest of a number token. If it is the
numeral of a natural number that fits, its value is a whole number. -/
theorem exists_of_readNumber (h : readNumber negative text = .ok (value, rest)) :
    ∃ whole fraction token, IsWholeNumeral whole ∧ IsFraction fraction ∧ IsExponent token ∧
      text = whole ++ (fraction ++ (token ++ rest)) ∧
      ∀ n ≤ Nat.pow 2 64 - 1, whole = naturalText n → fraction = [] → token = [] →
        value = wholeNumber negative n := by
  suffices hn : IsWholeNumeral (text.takeWhile isDigit) ∧
      readNumber.readWhole negative text = .ok (value, rest) by
    obtain ⟨fraction, token, hf, hx, ht, hv⟩ := exists_of_readWhole hn.2
    refine ⟨_, fraction, token, hn.1, hf, hx, ?_, hv⟩
    rw [← ht, List.takeWhile_append_dropWhile]
  unfold readNumber at h
  split at h
  · cases h
  · split at h
    · cases h
    · next hd =>
      refine ⟨?_, h⟩
      rw [List.takeWhile_cons_of_pos rfl, List.takeWhile_cons_of_neg hd]
      exact .zero
  · next c more hz =>
    split at h
    · next hc =>
      refine ⟨?_, h⟩
      rw [List.takeWhile_cons_of_pos hc]
      by_cases he : c = '0'
      · subst he
        cases more with
        | nil => exact .zero
        | cons d more => exact absurd rfl (hz d more rfl)
      · exact .digits hc he fun d hd => List.mem_takeWhile_imp hd
    · cases h

/-! ## Numerals of integers -/

/-- A numeral begins with no zero, unless it is that of zero. -/
theorem exists_naturalText_eq_cons {n : Nat} (h : n ≠ 0) :
    ∃ first more, naturalText n = first :: more ∧ first ≠ '0' := by
  induction n using Nat.strongRecOn with
  | ind n ih =>
    by_cases hlt : n < 10
    · refine ⟨Nat.digitChar n, [], Nat.toDigits_of_lt_base hlt, ?_⟩
      have hdigit : ∀ m < 10, m ≠ 0 → Nat.digitChar m ≠ '0' := by decide
      exact hdigit n hlt h
    · obtain ⟨first, more, he, hz⟩ := ih (n / 10) (by omega) (by omega)
      refine ⟨first, more ++ [Nat.digitChar (n % 10)], ?_, hz⟩
      have hsplit : naturalText n = naturalText (n / 10) ++ [Nat.digitChar (n % 10)] :=
        Nat.toDigits_of_base_le (by decide) (by omega)
      rw [hsplit, he, List.cons_append]

theorem isWholeNumeral_naturalText (n : Nat) : IsWholeNumeral (naturalText n) := by
  by_cases h : n = 0
  · subst h
    exact .zero
  · obtain ⟨first, more, he, hz⟩ := exists_naturalText_eq_cons h
    have hd : ∀ c ∈ first :: more, isDigit c = true :=
      he ▸ fun c => isDigit_of_mem_naturalText
    obtain ⟨hf, hr⟩ := List.forall_mem_cons.mp hd
    exact he ▸ .digits hf hz hr

theorem isNumber_integerText (i : Int) : IsNumber (integerText i) := by
  have hw := isWholeNumeral_naturalText i.natAbs
  have hn {sign : List Char} (hs : sign = [] ∨ sign = ['-']) :
      IsNumber (sign ++ naturalText i.natAbs) := by
    have h := IsNumber.mk hs hw .none .none
    rwa [List.append_nil, List.append_nil] at h
  unfold integerText
  split
  · exact hn (.inr rfl)
  · exact hn (.inl rfl)

theorem isToken_integer (i : Int) : IsToken (Word.integer i).letters :=
  .number (isNumber_integerText i)

/-- Nothing stands there that goes on with a numeral. -/
def EndsNumeral (rest : List Char) : Prop :=
  ∀ c ∈ rest.head?, isDigit c = false ∧ c ≠ '.' ∧ c ≠ 'e' ∧ c ≠ 'E'

theorem EndsNumeral.noDigit (h : EndsNumeral rest) : NoDigit rest :=
  fun c hc => (h c hc).1

theorem readNumber_of_isWholeNumeral {whole : List Char} (hw : IsWholeNumeral whole)
    (hr : NoDigit rest) :
    readNumber negative (whole ++ rest) = readNumber.readWhole negative (whole ++ rest) := by
  cases hw with
  | zero =>
    cases rest with
    | nil => rfl
    | cons d rest =>
      have hd : isDigit d = false := hr d rfl
      simp [readNumber, hd]
  | @digits first more hf hz _ =>
    unfold readNumber
    split
    · next h => cases h
    · next h => exact absurd (List.head_eq_of_cons_eq h) hz
    · next h =>
      obtain rfl := List.head_eq_of_cons_eq h
      rw [if_pos hf, h]

/-- **A numeral is read**, whatever stands behind it that does not go on with it. -/
theorem readNumber_naturalText {n : Nat} (hn : n ≤ Nat.pow 2 64 - 1) (hr : EndsNumeral rest) :
    readNumber negative (naturalText n ++ rest) = .ok (wholeNumber negative n, rest) := by
  rw [readNumber_of_isWholeNumeral (isWholeNumeral_naturalText n) hr.noDigit]
  obtain ⟨htake, hdrop⟩ := dropWhile_of_noDigit hr.noDigit
  unfold readNumber.readWhole
  rw [takeDigits_naturalText hn hr.noDigit]
  simp only [htake, hdrop, List.length_nil]
  split
  · exact absurd rfl (hr _ rfl).2.1
  · exact absurd rfl (hr _ rfl).2.2.1
  · exact absurd rfl (hr _ rfl).2.2.2
  · rfl

theorem wholeNumber_of_nonneg {i : Int} (h : 0 ≤ i) : wholeNumber false i.natAbs = .integer i :=
  congrArg Json.integer (Int.natAbs_of_nonneg h)

theorem wholeNumber_of_neg {i : Int} (h : i < 0) (hl : least ≤ i) :
    wholeNumber true i.natAbs = .integer i := by
  have hi : -(i.natAbs : Int) = i := by omega
  have hz : ¬(i.natAbs = 0 ∨ i < least) := by omega
  unfold wholeNumber
  rw [if_neg (by decide), hi, if_neg hz]

theorem natAbs_le {i : Int} (hl : least ≤ i) (hg : i ≤ greatest) :
    i.natAbs ≤ Nat.pow 2 64 - 1 := by
  have hleast : least = -9223372036854775808 := rfl
  have hgreatest : greatest = 18446744073709551615 := rfl
  have hbound : Nat.pow 2 64 - 1 = 18446744073709551615 := rfl
  omega

/-- An integer is written in digits and a minus sign. -/
theorem isDigit_of_mem_integerText {i : Int} (h : c ∈ integerText i) :
    isDigit c = true ∨ c = '-' := by
  unfold integerText at h
  split at h
  · rcases List.mem_cons.mp h with rfl | h
    · exact .inr rfl
    · exact .inl (isDigit_of_mem_naturalText h)
  · exact .inl (isDigit_of_mem_naturalText h)

/-- A number token that is the numeral of an integer is a sign and the numeral of a natural
number. -/
theorem eq_of_integerText {sign whole fraction token : List Char} {i : Int}
    (hs : sign = [] ∨ sign = ['-']) (hw : IsWholeNumeral whole) (hf : IsFraction fraction)
    (hx : IsExponent token) (he : sign ++ (whole ++ (fraction ++ token)) = integerText i) :
    fraction = [] ∧ token = [] ∧ whole = naturalText i.natAbs ∧ (sign = ['-'] ↔ i < 0) := by
  have hchars : ∀ c ∈ sign ++ (whole ++ (fraction ++ token)), isDigit c = true ∨ c = '-' :=
    he ▸ fun c => isDigit_of_mem_integerText
  simp only [List.forall_mem_append] at hchars
  obtain ⟨_, _, hfraction, htoken⟩ := hchars
  have hfraction : fraction = [] := by
    cases hf with
    | none => rfl
    | some => exact absurd (hfraction _ List.mem_cons_self) (by decide)
  have htoken : token = [] := by
    cases hx with
    | none => rfl
    | some hl =>
      have hc := htoken _ List.mem_cons_self
      rcases hl with rfl | rfl <;> exact absurd hc (by decide)
  subst hfraction htoken
  rw [List.append_nil, List.append_nil] at he
  obtain ⟨first, more, rfl⟩ := List.exists_cons_of_ne_nil hw.ne_nil
  have hfirst : isDigit first = true := hw.forall_isDigit first List.mem_cons_self
  unfold integerText at he
  refine ⟨rfl, rfl, ?_⟩
  rcases hs with rfl | rfl
  · split at he
    · rw [List.nil_append] at he
      rw [List.head_eq_of_cons_eq he] at hfirst
      exact absurd hfirst (by decide)
    · next hi => exact ⟨he, iff_of_false (List.cons_ne_nil _ _).symm hi⟩
  · split at he
    · next hi => exact ⟨List.tail_eq_of_cons_eq he, iff_of_true rfl hi⟩
    · have hm : '-' ∈ ['-'] ++ first :: more := List.mem_cons_self
      rw [he] at hm
      exact absurd (isDigit_of_mem_naturalText hm) (by decide)

end Courier.Json
