import Courier.Proofs.Delivery.Requests
import Courier.Proofs.Text.Encoding

/-!
# Requests on the wire

A request is sent as a line with its method and target, a line for each header, an empty line and
the body. Who reads that reads the same headers and the same body, as long as no header breaks out
of its line (`IsField`).

Results:

* `takeLine_encode` — a line is read up to its end.
* `headerOf_encode` — the line of a header is read as that header.
* `takeHeaders_encode` — **what is read of headers and of a body is these headers and this body**.
* `Request.reads_of_isField` — so it is with a request.
-/

namespace Courier.Http

open Courier.Text Courier.Text.Utf8

variable {text value : List Char} {name : String}

/-! ## Lines -/

theorem takeLine_of_not_mem {line : Bytes} (hl : 0x0A ∉ line) (hr : 0x0D ∉ line) (rest : Bytes) :
    takeLine (line ++ 0x0D :: 0x0A :: rest) = .ok (line, rest) := by
  induction line with
  | nil => rfl
  | cons b line ih =>
    have hbl : b ≠ 0x0A := fun h => hl (h ▸ List.mem_cons_self)
    have hbr : b ≠ 0x0D := fun h => hr (h ▸ List.mem_cons_self)
    rw [List.cons_append, takeLine.eq_def]
    simp only [if_neg hbl, if_neg hbr,
      ih (fun h => hl (List.mem_cons_of_mem _ h)) fun h => hr (List.mem_cons_of_mem _ h)]
    rfl

/-- A character of ASCII that is not in a text is none of its bytes. -/
theorem not_mem_encode {c : Char} (hc : c.toNat < 0x80) (h : c ∉ text) :
    c.toNat.toUInt8 ∉ encode text := by
  intro hb
  have hn : c.toNat.toUInt8.toNat = c.toNat := toNat_toUInt8 (by omega)
  obtain ⟨d, hd, he⟩ := mem_encode_of_lt hb (by omega)
  rw [hn] at he
  exact h (Char.toNat_inj.mp he ▸ hd)

/-- **A line is read up to its end.** -/
theorem takeLine_encode (hl : '\n' ∉ text) (hr : '\r' ∉ text) (rest : List Char) :
    takeLine (encode (text ++ "\r\n".toList ++ rest)) = .ok (encode text, encode rest) := by
  rw [encode_append, encode_append, List.append_assoc]
  exact takeLine_of_not_mem (not_mem_encode (by decide) hl) (not_mem_encode (by decide) hr) _

/-! ## Headers -/

/-- A character of a header's name: a small letter, or a dash. -/
def isNameChar (c : Char) : Bool :=
  ('a' ≤ c && c ≤ 'z') || c = '-'

/-- A header that stays in its line: a name, and a value without controls that is trimmed. -/
structure IsField (field : String × List Char) : Prop where
  name : field.1.toList.all isNameChar = true
  nonempty : field.1.toList ≠ []
  value : isHeaderValue field.2 = true
  trimmed : trimValue field.2 = field.2

/-- The line of a header. -/
def fieldLine (field : String × List Char) : List Char :=
  field.1.toList ++ ": ".toList ++ field.2

/-- A character of a name is a byte that may stand in one, and is read as it is. -/
theorem byte_of_isNameChar {c : Char} (h : isNameChar c = true) :
    c.toNat < 0x80 ∧ isNameByte c.toNat.toUInt8 = true ∧
      (byteChar c.toNat.toUInt8).toLower = c := by
  have hc : c.toNat < 0x80 := by
    simp only [isNameChar, Bool.or_eq_true, Bool.and_eq_true, decide_eq_true_eq] at h
    rcases h with ⟨_, h⟩ | rfl
    · exact Nat.lt_of_le_of_lt h (by decide)
    · decide
  have hall : ∀ n : Fin 0x80, isNameChar (Char.ofNat n) = true →
      isNameByte n.1.toUInt8 = true ∧ (byteChar n.1.toUInt8).toLower = Char.ofNat n := by
    decide +kernel
  have hn := hall ⟨c.toNat, hc⟩
  rw [Char.ofNat_toNat] at hn
  exact ⟨hc, hn h⟩

/-- The bytes of a name. -/
theorem encode_name (h : text.all isNameChar = true) :
    (∀ b ∈ encode text, isNameByte b = true) ∧
      (encode text).map (fun b => (byteChar b).toLower) = text := by
  induction text with
  | nil => exact ⟨nofun, rfl⟩
  | cons c text ih =>
    obtain ⟨hc, ht⟩ := Bool.and_eq_true_iff.mp h
    obtain ⟨hn, hm⟩ := ih ht
    obtain ⟨hlt, hbyte, hlower⟩ := byte_of_isNameChar hc
    have he : encode (c :: text) = c.toNat.toUInt8 :: encode text := by
      rw [encode_cons, encodeChar]
      simp only [if_pos hlt, List.singleton_append]
    rw [he]
    refine ⟨fun b hb => ?_, by rw [List.map_cons, hlower, hm]⟩
    rcases List.mem_cons.mp hb with rfl | hb
    · exact hbyte
    · exact hn b hb

theorem isValueByte_iff {b : UInt8} :
    isValueByte b = true ↔ b.toNat = 0x09 ∨ 0x20 ≤ b.toNat ∧ b.toNat ≠ 0x7F := by
  simp [isValueByte, UInt8.le_iff_toNat_le, ← UInt8.toNat_inj]

/-- A text may be a header's value if none of its characters is a control but the tab. -/
theorem isHeaderValue_iff : isHeaderValue value = true ↔
    ∀ c ∈ value, c.toNat = 0x09 ∨ 0x20 ≤ c.toNat ∧ c.toNat ≠ 0x7F := by
  simp [isHeaderValue, Char.le_def, UInt32.le_iff_toNat_le, ← Char.toNat_inj]

/-- The bytes of a value. -/
theorem encode_value (h : isHeaderValue value = true) :
    (encode value).all isValueByte = true := by
  refine List.all_eq_true.mpr fun b hb => isValueByte_iff.mpr ?_
  by_cases hl : b.toNat < 0x80
  · obtain ⟨c, hc, he⟩ := mem_encode_of_lt hb hl
    rw [he]
    exact isHeaderValue_iff.mp h c hc
  · exact .inr (by omega)

theorem headerOf_encode {field : String × List Char} (h : IsField field) :
    headerOf (encode (fieldLine field)) = .ok (field.1.toList, field.2) := by
  obtain ⟨hname, hnonempty, hvalue, htrimmed⟩ := h
  obtain ⟨hbytes, hread⟩ := encode_name hname
  have hsplit : encode (fieldLine field) =
      encode field.1.toList ++ 0x3A :: encode (' ' :: field.2) := by
    rw [fieldLine, List.append_assoc, encode_append]
    rfl
  have htake : (encode (fieldLine field)).takeWhile isNameByte = encode field.1.toList := by
    rw [hsplit, List.takeWhile_append_of_pos hbytes]
    exact List.append_nil _
  have hdrop : (encode (fieldLine field)).dropWhile isNameByte =
      0x3A :: encode (' ' :: field.2) := by
    rw [hsplit, List.dropWhile_append_of_pos hbytes]
    rfl
  have hblank : (encode (' ' :: field.2)).all isValueByte = true :=
    Bool.and_eq_true_iff.mpr ⟨rfl, encode_value hvalue⟩
  have hvalue : (((decodeLossy (encode (' ' :: field.2))).dropWhile isBlank).reverse.dropWhile
      isBlank).reverse = field.2 := by
    rw [decodeLossy_encode]
    exact htrimmed
  have hne : encode field.1.toList ≠ [] := by
    intro he
    rw [he] at hread
    exact hnonempty hread.symm
  unfold headerOf
  simp only [htake, hdrop, if_neg hne, hblank, Bool.true_eq_false, if_false]
  exact congrArg Except.ok (Prod.ext hread hvalue)

/-- The line of a header has no control but the tab. -/
theorem not_mem_fieldLine {field : String × List Char} (h : IsField field) {c : Char}
    (hc : c.toNat < 0x20) (ht : c.toNat ≠ 0x09) : c ∉ fieldLine field := by
  intro hm
  simp only [fieldLine, List.mem_append] at hm
  rcases hm with (hm | hm) | hm
  · have hn := List.all_eq_true.mp h.name c hm
    simp only [isNameChar, Bool.or_eq_true, Bool.and_eq_true, decide_eq_true_eq] at hn
    rcases hn with ⟨hn, _⟩ | rfl
    · have hn : 0x61 ≤ c.toNat := hn
      omega
    · exact absurd hc (by decide)
  · rcases List.mem_cons.mp hm with rfl | hm
    · exact absurd hc (by decide)
    · rw [List.mem_singleton.mp hm] at hc
      exact absurd hc (by decide)
  · rcases isHeaderValue_iff.mp h.value c hm with he | ⟨hl, _⟩
    · exact ht he
    · omega

theorem encode_fieldLine_ne_nil (field : String × List Char) : encode (fieldLine field) ≠ [] := by
  intro he
  have hm : ':'.toNat.toUInt8 ∈ encode (fieldLine field) := by
    rw [fieldLine, List.append_assoc, encode_append]
    exact List.mem_append_right _ List.mem_cons_self
  rw [he] at hm
  exact absurd hm List.not_mem_nil

/-- **What is read of headers and of a body is just these headers and this body.** -/
theorem takeHeaders_encode {fields : List (String × List Char)} (h : ∀ f ∈ fields, IsField f)
    {lines : Nat} (hl : fields.length < lines) (body : List Char) :
    takeHeaders lines (encode (fields.flatMap (fun f => fieldLine f ++ "\r\n".toList) ++
      "\r\n".toList ++ body)) =
      .ok (fields.map fun f => (f.1.toList, f.2), encode body) := by
  induction fields generalizing lines with
  | nil =>
    obtain ⟨lines, rfl⟩ := Nat.exists_eq_succ_of_ne_zero (Nat.ne_of_gt hl)
    have ht : takeLine (encode ("\r\n".toList ++ body)) = .ok ([], encode body) :=
      takeLine_encode List.not_mem_nil List.not_mem_nil body
    unfold takeHeaders
    rw [List.flatMap_nil, List.nil_append, ht]
    rfl
  | cons f rest ih =>
    obtain ⟨lines, rfl⟩ := Nat.exists_eq_succ_of_ne_zero (Nat.ne_of_gt (Nat.zero_lt_of_lt hl))
    have hf := h f List.mem_cons_self
    have hr := ih (fun other ho => h other (List.mem_cons_of_mem _ ho)) (Nat.lt_of_succ_lt_succ hl)
    have hlf := not_mem_fieldLine hf (c := '\n') (by decide) (by decide)
    have hcr := not_mem_fieldLine hf (c := '\r') (by decide) (by decide)
    have hsplit : (f :: rest).flatMap (fun f => fieldLine f ++ "\r\n".toList) ++
        "\r\n".toList ++ body = fieldLine f ++ "\r\n".toList ++
          (rest.flatMap (fun f => fieldLine f ++ "\r\n".toList) ++ "\r\n".toList ++ body) := by
      simp only [List.flatMap_cons, List.append_assoc]
    rw [hsplit, takeHeaders, takeLine_encode hlf hcr]
    simp only [bind, Except.bind, if_neg (encode_fieldLine_ne_nil f), headerOf_encode hf, hr]
    rfl

/-- A request is read as it was written: its first line, its headers and its body. -/
def Request.Reads (r : Request) : Prop :=
  ∃ rest, takeLine r.bytes =
      .ok (encode (r.method.toList ++ ' ' :: r.target ++ " HTTP/1.1".toList), rest) ∧
    takeHeaders (r.headers.length + 1) rest =
      .ok (r.headers.map fun f => (f.1.toList, f.2), encode r.body)

/-- **A request whose headers stay in their lines is read as it was written**, if its method and its
target do so too. -/
theorem Request.reads_of_isField {r : Request} (hf : ∀ f ∈ r.headers, IsField f)
    (hl : '\n' ∉ r.method.toList ++ r.target) (hr : '\r' ∉ r.method.toList ++ r.target) :
    r.Reads := by
  have hline : ∀ c : Char, c.toNat < 0x20 → c ∉ r.method.toList ++ r.target →
      c ∉ r.method.toList ++ ' ' :: r.target ++ " HTTP/1.1".toList := by
    intro c hc hn hm
    rcases List.mem_append.mp hm with hm | hm
    · rcases List.mem_append.mp hm with hm | hm
      · exact hn (List.mem_append_left _ hm)
      · rcases List.mem_cons.mp hm with rfl | hm
        · exact absurd hc (by decide)
        · exact hn (List.mem_append_right _ hm)
    · have hall : " HTTP/1.1".toList.all (0x20 ≤ ·.toNat) = true := rfl
      have hc' := List.all_eq_true.mp hall c hm
      simp only [decide_eq_true_eq] at hc'
      omega
  have hbytes : r.bytes = encode (r.method.toList ++ ' ' :: r.target ++ " HTTP/1.1".toList ++
      "\r\n".toList ++ (r.headers.flatMap (fun f => fieldLine f ++ "\r\n".toList) ++
        "\r\n".toList ++ r.body)) := by
    unfold Request.bytes
    rw [show " HTTP/1.1\r\n".toList = " HTTP/1.1".toList ++ "\r\n".toList from rfl]
    simp only [fieldLine, List.append_assoc]
  refine ⟨_, ?_, takeHeaders_encode hf (Nat.lt_succ_self _) r.body⟩
  rw [hbytes]
  exact takeLine_encode (hline _ (by decide) hl) (hline _ (by decide) hr) _

end Courier.Http
