import Courier.Text.Utf8
import Mathlib

/-!
# Texts survive their encoding

Results:

* `mem_encode_of_lt` — a byte of ASCII in an encoded text is a character of ASCII of that text: no
  character hides one.
* `decode?_encode`, `decodeLossy_encode` — **what is decoded of an encoded text is the text.**
* `encode_lt` — texts are in the order of their bytes.
-/

namespace Courier.Text.Utf8

variable {c d : Char} {text more : List Char} {b : UInt8}

theorem encode_append (text more : List Char) :
    encode (text ++ more) = encode text ++ encode more := List.flatMap_append

theorem encode_cons (c : Char) (text : List Char) :
    encode (c :: text) = encodeChar c ++ encode text := List.flatMap_cons

theorem toNat_toUInt8 {n : Nat} (h : n < 0x100) : n.toUInt8.toNat = n :=
  UInt8.toNat_ofNat_of_lt' h

/-! ## Bytes of ASCII -/

/-- A character of ASCII is its own byte, and any other has none of ASCII. -/
theorem mem_encodeChar_of_lt (hb : b ∈ encodeChar c) (hl : b.toNat < 0x80) :
    b.toNat = c.toNat := by
  have hbound : ∀ {m : Nat}, 0x80 ≤ m → m < 0x100 → ¬m.toUInt8.toNat < 0x80 := by
    intro m hm hs
    rw [toNat_toUInt8 hs]
    omega
  have hv : c.toNat < 0xD800 ∨ 0xDFFF < c.toNat ∧ c.toNat < 0x110000 := c.valid
  unfold encodeChar at hb
  simp only at hb
  generalize c.toNat = n at hv hb ⊢
  by_cases h1 : n < 0x80
  · rw [if_pos h1] at hb
    rw [List.mem_singleton.mp hb, toNat_toUInt8 (by omega)]
  · -- Every byte of a longer encoding is at least 0x80.
    refine absurd hl ?_
    rw [if_neg h1] at hb
    by_cases h2 : n < 0x800
    · rw [if_pos h2] at hb
      simp only [List.mem_cons, List.not_mem_nil, or_false] at hb
      rcases hb with rfl | rfl <;> exact hbound (by omega) (by omega)
    · rw [if_neg h2] at hb
      by_cases h3 : n < 0x10000
      · rw [if_pos h3] at hb
        simp only [List.mem_cons, List.not_mem_nil, or_false] at hb
        rcases hb with rfl | rfl | rfl <;> exact hbound (by omega) (by omega)
      · rw [if_neg h3] at hb
        simp only [List.mem_cons, List.not_mem_nil, or_false] at hb
        rcases hb with rfl | rfl | rfl | rfl <;> exact hbound (by omega) (by omega)

theorem mem_encode_of_lt (hb : b ∈ encode text) (hl : b.toNat < 0x80) :
    ∃ c ∈ text, b.toNat = c.toNat := by
  obtain ⟨c, hc, hb⟩ := List.mem_flatMap.mp hb
  exact ⟨c, hc, mem_encodeChar_of_lt hb hl⟩

/-! ## Decoding -/

variable {bits low high k q : Nat} {seen : List UInt8}

/-- The last byte of a character that has begun. -/
theorem decodeFrom_last (hk : k < 0x40) (hl : low ≤ 0x80 + k) (hh : 0x80 + k ≤ high)
    (rest : List UInt8) :
    decodeFrom (some ⟨bits, low, high, 0, seen⟩) ((0x80 + k).toUInt8 :: rest) =
      .char (Char.ofNat (bits * 0x40 + k)) :: decodeFrom none rest := by
  have hn : (0x80 + k).toUInt8.toNat = 0x80 + k := toNat_toUInt8 (by omega)
  rw [decodeFrom]
  simp only [hn, hl, hh, and_self, if_true, Nat.add_sub_cancel_left]

/-- Any byte before the last. -/
theorem decodeFrom_more (hk : k < 0x40) (hl : low ≤ 0x80 + k) (hh : 0x80 + k ≤ high) (after : Nat)
    (rest : List UInt8) :
    decodeFrom (some ⟨bits, low, high, after + 1, seen⟩) ((0x80 + k).toUInt8 :: rest) =
      decodeFrom (some ⟨bits * 0x40 + k, 0x80, 0xBF, after, (0x80 + k).toUInt8 :: seen⟩) rest := by
  have hn : (0x80 + k).toUInt8.toNat = 0x80 + k := toNat_toUInt8 (by omega)
  rw [decodeFrom]
  simp only [hn, hl, hh, and_self, if_true, Nat.add_sub_cancel_left]

theorem begin?_two (hl : 2 ≤ q) (hh : q < 0x20) :
    begin? (0xC0 + q).toUInt8 = .inr ⟨q, 0x80, 0xBF, 0, [(0xC0 + q).toUInt8]⟩ := by
  have hn : (0xC0 + q).toUInt8.toNat = 0xC0 + q := toNat_toUInt8 (by omega)
  unfold begin?
  simp only [hn]
  rw [if_neg (by omega), if_neg (by omega), if_pos (by omega), Nat.add_sub_cancel_left]

theorem begin?_three (hh : q < 0x10) :
    begin? (0xE0 + q).toUInt8 =
      .inr ⟨q, if q = 0 then 0xA0 else 0x80, if q = 0xD then 0x9F else 0xBF, 1,
        [(0xE0 + q).toUInt8]⟩ := by
  have hn : (0xE0 + q).toUInt8.toNat = 0xE0 + q := toNat_toUInt8 (by omega)
  unfold begin?
  simp only [hn]
  rw [if_neg (by omega), if_neg (by omega), if_neg (by omega)]
  by_cases h0 : q = 0
  · subst h0
    rfl
  · by_cases hd : q = 0xD
    · subst hd
      rfl
    · rw [if_neg (by omega), if_neg (by omega), if_pos (by omega), if_neg h0, if_neg hd,
        Nat.add_sub_cancel_left]

theorem begin?_four (hh : q ≤ 4) :
    begin? (0xF0 + q).toUInt8 =
      .inr ⟨q, if q = 0 then 0x90 else 0x80, if q = 4 then 0x8F else 0xBF, 2,
        [(0xF0 + q).toUInt8]⟩ := by
  interval_cases q <;> rfl

theorem decodeFrom_none_inr {begun : Begun} (h : begin? b = .inr begun) (rest : List UInt8) :
    decodeFrom none (b :: rest) = decodeFrom (some begun) rest := by
  rw [decodeFrom, h]

/-- **A character is decoded from its bytes**, whatever follows. -/
theorem decodeFrom_encodeChar (c : Char) (rest : List UInt8) :
    decodeFrom none (encodeChar c ++ rest) = .char c :: decodeFrom none rest := by
  have hv : c.toNat < 0xD800 ∨ 0xDFFF < c.toNat ∧ c.toNat < 0x110000 := c.valid
  have hc : Char.ofNat c.toNat = c := Char.ofNat_toNat c
  unfold encodeChar
  simp only
  generalize c.toNat = n at hv hc ⊢
  by_cases h1 : n < 0x80
  · have hn : n.toUInt8.toNat = n := toNat_toUInt8 (by omega)
    have hb : begin? n.toUInt8 = .inl (.char (Char.ofNat n)) := by
      unfold begin?
      simp only [hn, h1, if_true]
    rw [if_pos h1, List.singleton_append, decodeFrom, hb, hc]
  · rw [if_neg h1]
    have hk : n % 0x40 < 0x40 := Nat.mod_lt n (by decide)
    have hk' : n / 0x40 % 0x40 < 0x40 := Nat.mod_lt _ (by decide)
    by_cases h2 : n < 0x800
    · have hb := begin?_two (q := n / 0x40) (by omega) (by omega)
      rw [if_pos h2, List.cons_append, decodeFrom_none_inr hb, List.cons_append,
        decodeFrom_last hk (by omega) (by omega), List.nil_append]
      rw [show n / 0x40 * 0x40 + n % 0x40 = n by omega, hc]
    · rw [if_neg h2]
      by_cases h3 : n < 0x10000
      · have hb := begin?_three (q := n / 0x1000) (by omega)
        rw [if_pos h3, List.cons_append, decodeFrom_none_inr hb, List.cons_append,
          decodeFrom_more hk' (by split <;> omega) (by split <;> omega), List.cons_append,
          decodeFrom_last hk (by omega) (by omega), List.nil_append]
        rw [show (n / 0x1000 * 0x40 + n / 0x40 % 0x40) * 0x40 + n % 0x40 = n by omega, hc]
      · have hk'' : n / 0x1000 % 0x40 < 0x40 := Nat.mod_lt _ (by decide)
        have hb := begin?_four (q := n / 0x40000) (by omega)
        rw [if_neg h3, List.cons_append, decodeFrom_none_inr hb, List.cons_append,
          decodeFrom_more hk'' (by split <;> omega) (by split <;> omega), List.cons_append,
          decodeFrom_more hk' (by omega) (by omega), List.cons_append,
          decodeFrom_last hk (by omega) (by omega), List.nil_append]
        rw [show ((n / 0x40000 * 0x40 + n / 0x1000 % 0x40) * 0x40 + n / 0x40 % 0x40) * 0x40 +
          n % 0x40 = n by omega, hc]

theorem decode_encode (text : List Char) : decode (encode text) = text.map .char := by
  unfold decode
  induction text with
  | nil => rfl
  | cons c rest ih => rw [encode_cons, decodeFrom_encodeChar, ih, List.map_cons]

/-- **What is decoded of an encoded text is the text.** -/
theorem decodeLossy_encode (text : List Char) : decodeLossy (encode text) = text := by
  unfold decodeLossy
  rw [decode_encode, List.map_map]
  exact List.map_id text

/-- An encoded text is well formed. -/
theorem decode?_encode (text : List Char) : decode? (encode text) = some text := by
  unfold decode?
  rw [decode_encode]
  induction text with
  | nil => rfl
  | cons c rest ih => rw [List.map_cons, characters?, ih, Option.map_some]

/-! ## The order of texts -/

section

variable {a b : Nat} {r s : List UInt8}

theorem cons_lt_cons_of_lt (h : a < b) (hb : b < 0x100) :
    a.toUInt8 :: r < b.toUInt8 :: s := by
  refine List.cons_lt_cons_iff.mpr (.inl (UInt8.lt_iff_toNat_lt.mpr ?_))
  rw [toNat_toUInt8 (h.trans hb), toNat_toUInt8 hb]
  exact h

/-- Of bytes that do not fall the next ones decide if these are equal. -/
theorem cons_lt_cons_of_le (h : a ≤ b) (hb : b < 0x100) (hn : a = b → r < s) :
    a.toUInt8 :: r < b.toUInt8 :: s := by
  rcases Nat.lt_or_eq_of_le h with h | rfl
  · exact cons_lt_cons_of_lt h hb
  · exact List.cons_lt_cons_iff.mpr (.inr ⟨rfl, hn rfl⟩)

end

/-- **Characters are in the order of their bytes**, whatever follows. -/
theorem encodeChar_append_lt (h : c < d) (r s : List UInt8) :
    encodeChar c ++ r < encodeChar d ++ s := by
  have hlt : c.toNat < d.toNat := h
  have hd : d.toNat < 0x110000 := by
    have hv : d.toNat < 0xD800 ∨ 0xDFFF < d.toNat ∧ d.toNat < 0x110000 := d.valid
    omega
  unfold encodeChar
  simp only
  generalize c.toNat = m at hlt ⊢
  generalize d.toNat = n at hlt hd ⊢
  -- Either the second is longer, which its first byte says, or both have as many digits.
  by_cases h1 : m < 0x80
  · rw [if_pos h1]
    split_ifs <;> exact cons_lt_cons_of_lt (by omega) (by omega)
  rw [if_neg h1, if_neg (fun hn : n < 0x80 => h1 (hlt.trans hn))]
  by_cases h2 : m < 0x800
  · rw [if_pos h2]
    split_ifs
    · exact cons_lt_cons_of_le (by omega) (by omega) fun _ =>
        cons_lt_cons_of_lt (by omega) (by omega)
    all_goals exact cons_lt_cons_of_lt (by omega) (by omega)
  rw [if_neg h2, if_neg (fun hn : n < 0x800 => h2 (hlt.trans hn))]
  by_cases h3 : m < 0x10000
  · rw [if_pos h3]
    split_ifs
    · exact cons_lt_cons_of_le (by omega) (by omega) fun _ =>
        cons_lt_cons_of_le (by omega) (by omega) fun _ =>
          cons_lt_cons_of_lt (by omega) (by omega)
    · exact cons_lt_cons_of_lt (by omega) (by omega)
  rw [if_neg h3, if_neg (fun hn : n < 0x10000 => h3 (hlt.trans hn))]
  exact cons_lt_cons_of_le (by omega) (by omega) fun _ =>
    cons_lt_cons_of_le (by omega) (by omega) fun _ =>
      cons_lt_cons_of_le (by omega) (by omega) fun _ =>
        cons_lt_cons_of_lt (by omega) (by omega)

theorem encodeChar_ne_nil (c : Char) : encodeChar c ≠ [] := by
  unfold encodeChar
  simp only
  split_ifs <;> exact List.cons_ne_nil _ _

/-- **Texts are in the order of their bytes.** -/
theorem encode_lt (h : text < more) : encode text < encode more := by
  induction h with
  | @nil c rest =>
    rw [encode_cons]
    cases he : encodeChar c with
    | nil => exact absurd he (encodeChar_ne_nil c)
    | cons b bytes => exact .nil
  | rel hlt =>
    rw [encode_cons, encode_cons]
    exact encodeChar_append_lt hlt _ _
  | cons _ ih =>
    rw [encode_cons, encode_cons]
    exact List.append_left_lt ih

end Courier.Text.Utf8
