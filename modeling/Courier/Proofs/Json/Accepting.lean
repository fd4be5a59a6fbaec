import Courier.Proofs.Json.Reading

/-!
# Every document is read

What is read stands there; here is the converse, for documents whose numbers are integers that are
kept whole. There is a rule for every way in which a text may begin, as the grammar has it.

Results:

* `finds_of_spellsString` — a string is read as the characters that it spells.
* `exists_parse` — **every text is read that denotes such a document**, unless that is too deep.
-/

namespace Courier.Json

open Courier.Decimal Courier.Text

variable {text inner rest left mid : List Char} {k : Nat} {item : Reader Json} {c : Char}
  {value : Json}

/-! ## Strings -/

/-- Four digits are read, whatever stands behind them. -/
theorem readHex_of_areDigits {a b c d : Char} (hd : areDigits 16 [a, b, c, d] = true)
    (rest : List Char) : Finds readHex (a :: b :: c :: d :: rest) (hexValue [a, b, c, d]) rest :=
  ⟨_, if_pos hd, rfl, rfl⟩

theorem finds_number {a b c d : Char} (hd : areDigits 16 [a, b, c, d] = true)
    (hh : ¬IsHigh (hexValue [a, b, c, d])) (hl : ¬IsLow (hexValue [a, b, c, d]))
    (rest : List Char) :
    Finds readNumbered (a :: b :: c :: d :: rest) (Char.ofNat (hexValue [a, b, c, d])) rest := by
  obtain ⟨hex, hhex, hv, hr⟩ := readHex_of_areDigits hd rest
  rw [← hv] at hh hl ⊢
  refine ⟨hex.map Char.ofNat, ?_, rfl, hr⟩
  unfold readNumbered
  rw [hhex]
  exact (if_neg hl).trans (if_neg hh)

theorem finds_low {a b c d : Char} (high : Nat) (hd : areDigits 16 [a, b, c, d] = true)
    (hl : IsLow (hexValue [a, b, c, d])) (rest : List Char) :
    Finds (readLowSurrogate high) ('\\' :: 'u' :: a :: b :: c :: d :: rest)
      (pairSurrogates high (hexValue [a, b, c, d])) rest := by
  obtain ⟨hex, hhex, hv, hr⟩ := readHex_of_areDigits hd rest
  rw [← hv] at hl ⊢
  refine ⟨((hex.map (pairSurrogates high)).behind 'u').behind '\\', ?_, ?_, hr⟩
  · unfold readLowSurrogate
    simp only [hhex]
    exact if_pos hl
  · simp only [Found.behind, Found.within, Found.map]

theorem finds_pair {a b c d e f g h : Char} (hd : areDigits 16 [a, b, c, d] = true)
    (hh : IsHigh (hexValue [a, b, c, d])) (hd' : areDigits 16 [e, f, g, h] = true)
    (hl : IsLow (hexValue [e, f, g, h])) (rest : List Char) :
    Finds readNumbered (a :: b :: c :: d :: '\\' :: 'u' :: e :: f :: g :: h :: rest)
      (pairSurrogates (hexValue [a, b, c, d]) (hexValue [e, f, g, h])) rest := by
  obtain ⟨hex, hhex, hv, hr⟩ :=
    readHex_of_areDigits hd ('\\' :: 'u' :: e :: f :: g :: h :: rest)
  rw [← hv] at hh ⊢
  obtain ⟨low, hlow, hw, hs⟩ : Finds (readLowSurrogate hex.value) hex.rest
      (pairSurrogates hex.value (hexValue [e, f, g, h])) rest := by
    rw [hr]
    exact finds_low hex.value hd' hl rest
  refine ⟨hex.andThen low, ?_, hw, hs⟩
  have hn : ¬(0xDC00 ≤ hex.value ∧ hex.value ≤ 0xDFFF) := fun hn =>
    absurd (Nat.le_trans hn.1 hh.2) (by decide)
  unfold readNumbered
  rw [hhex]
  refine (if_neg hn).trans ((if_pos hh).trans ?_)
  rw [hlow]

/-- An escape is read as the character that it stands for, -/
theorem finds_of_spellsEscape (h : SpellsEscape text c rest) : Finds readEscape text c rest := by
  have hnumbered {inner : List Char} (hn : Finds readNumbered inner c rest) :
      Finds readEscape ('u' :: inner) c rest := by
    obtain ⟨found, hf, hv, hr⟩ := hn
    refine ⟨found.behind 'u', ?_, hv, hr⟩
    simp only [readEscape, hf]
  cases h with
  | mark hm =>
    unfold marked? at hm
    split at hm
    all_goals cases hm
    all_goals exact ⟨_, rfl, rfl, rfl⟩
  | number hd hh hl => exact hnumbered (finds_number hd hh hl rest)
  | pair hd hh hd' hl => exact hnumbered (finds_pair hd hh hd' hl rest)

/-- **and a string as the characters that it spells**, with whatever escapes. -/
theorem finds_of_spellsString {string : List Char} (h : SpellsString text string rest) :
    Finds readString text string rest := by
  induction h with
  | close rest => exact finds_escaped [] rest
  | plain hq hs hc _ ih =>
    obtain ⟨found, hf, rfl, rfl⟩ := ih
    refine ⟨(found.map (_ :: ·)).behind _, ?_, rfl, rfl⟩
    rw [readString, if_neg hq, if_neg hs, if_neg hc, hf]
  | escape he _ ih => exact finds_behind_escape (finds_of_spellsEscape he) ih

/-! ## Words -/

/-- A word or a number is read by its own reader. -/
theorem finds_of_checked {result : Except Fault (Json × List Char)}
    (hread : readValue k text = checked result) (h : result = .ok (value, rest))
    (hlt : rest.length < text.length) : Finds (readValue k) text value rest := by
  subst h
  exact ⟨⟨value, rest, hlt⟩, hread.trans (dif_pos hlt), rfl, rfl⟩

theorem length_lt_of_token {letters : List Char} (hn : letters ≠ [])
    (hs : skipBlanks text = letters ++ rest) : rest.length < text.length := by
  refine Nat.lt_of_lt_of_le ?_ (hs ▸ skipBlanks_length_le text)
  have hpos := List.length_pos_of_ne_nil hn
  rw [List.length_append]
  omega

theorem readWord_append (word : Json) (letters rest : List Char) :
    readWord word letters (letters ++ rest) = .ok (word, rest) := by
  induction letters with
  | nil => rfl
  | cons letter letters ih => exact (if_pos rfl).trans ih

theorem readValue_of_null (k : Nat) (hs : skipBlanks text = 'n' :: inner) :
    readValue k text = checked (readWord .null ['u', 'l', 'l'] inner) := by
  grind [readValue]

theorem readValue_of_true (k : Nat) (hs : skipBlanks text = 't' :: inner) :
    readValue k text = checked (readWord (.bool true) ['r', 'u', 'e'] inner) := by
  grind [readValue]

theorem readValue_of_false (k : Nat) (hs : skipBlanks text = 'f' :: inner) :
    readValue k text = checked (readWord (.bool false) ['a', 'l', 's', 'e'] inner) := by
  grind [readValue]

theorem finds_null (k : Nat) (hs : skipBlanks text = Word.null.letters ++ rest) :
    Finds (readValue k) text .null rest :=
  finds_of_checked (readValue_of_null k hs) (readWord_append _ _ rest)
    (length_lt_of_token Word.null.ne_nil hs)

theorem finds_bool (k : Nat) (b : Bool) (hs : skipBlanks text = (Word.bool b).letters ++ rest) :
    Finds (readValue k) text (.bool b) rest := by
  have hlt := length_lt_of_token (Word.bool b).ne_nil hs
  cases b with
  | true => exact finds_of_checked (readValue_of_true k hs) (readWord_append _ _ rest) hlt
  | false => exact finds_of_checked (readValue_of_false k hs) (readWord_append _ _ rest) hlt

theorem finds_string (k : Nat) {string : List Char} (hq : skipBlanks text = '"' :: inner)
    (h : Finds readString inner string rest) :
    Finds (readValue k) text (.string (String.ofList string)) rest := by
  obtain ⟨token, htoken, rfl, rfl⟩ := h
  unfold Finds
  rw [readValue]
  split
  · next hn => cases hq.symm.trans hn
  · next d more hd =>
    obtain ⟨rfl, rfl⟩ := List.cons.inj (hq.symm.trans hd)
    simp only [htoken]
    exact ⟨_, rfl, rfl, rfl⟩

/-! ## Numbers -/

theorem endsNumeral_of_ends (h : Ends rest) : EndsNumeral rest := fun c hc => by
  rcases h c hc with hb | hp
  · refine ⟨Bool.eq_false_iff.mpr fun hd => ?_, ?_⟩
    · rw [isBlank_of_isDigit hd] at hb
      cases hb
    · refine ⟨?_, ?_, ?_⟩ <;> rintro rfl <;> exact absurd hb (by decide)
  · refine ⟨Bool.eq_false_iff.mpr fun hd => ?_, ?_⟩
    · rw [isPunctuation_of_isDigit hd] at hp
      cases hp
    · refine ⟨?_, ?_, ?_⟩ <;> rintro rfl <;> exact absurd hp (by decide)

theorem readValue_of_digit (k : Nat) (hs : skipBlanks text = c :: inner) (hc : isDigit c = true) :
    readValue k text = checked (readNumber false (c :: inner)) := by
  have hne {d : Char} (hd : isDigit d = false) : c ≠ d := by
    rintro rfl
    rw [hc] at hd
    cases hd
  have hn : c ≠ 'n' := hne rfl
  have ht : c ≠ 't' := hne rfl
  have hf : c ≠ 'f' := hne rfl
  have hminus : c ≠ '-' := hne rfl
  grind [readValue]

theorem readValue_of_minus (k : Nat) (hs : skipBlanks text = '-' :: inner) :
    readValue k text = checked (readNumber true inner) := by
  grind [readValue]

theorem finds_integer (k : Nat) {i : Int} (hl : least ≤ i) (hg : i ≤ greatest)
    (hs : skipBlanks text = integerText i ++ rest) (hr : EndsNumeral rest) :
    Finds (readValue k) text (.integer i) rest := by
  have hlt := length_lt_of_token (integerText_ne_nil i) hs
  have hread (negative : Bool) : readNumber negative (naturalText i.natAbs ++ rest) =
      .ok (wholeNumber negative i.natAbs, rest) := readNumber_naturalText (natAbs_le hl hg) hr
  unfold integerText at hs
  split at hs
  · next hi =>
    have hnumber := hread true
    rw [wholeNumber_of_neg hi hl] at hnumber
    exact finds_of_checked (readValue_of_minus k hs) hnumber hlt
  · next hi =>
    obtain ⟨first, more, hcons⟩ := List.exists_cons_of_ne_nil (naturalText_ne_nil i.natAbs)
    have hfirst : isDigit first = true :=
      isDigit_of_mem_naturalText (hcons ▸ List.mem_cons_self)
    have hnumber := hread false
    rw [wholeNumber_of_nonneg (Int.not_lt.mp hi)] at hnumber
    rw [hcons] at hnumber hs
    exact finds_of_checked (readValue_of_digit k hs hfirst) hnumber hlt

/-! ## Containers -/

section

variable {items : List Json} {first : Json}

/-- Where a value is found there is something, and that closes no array. -/
theorem starts_of_finds (h : Finds (readValue k) text value rest) :
    (∃ c left, skipBlanks text = c :: left) ∧ ∀ left, skipBlanks text ≠ ']' :: left := by
  obtain ⟨found, hf, _, _⟩ := h
  obtain ⟨d, hd, _⟩ := reads_readValue k hf
  refine ⟨?_, fun left => hd.not_closing (.inl rfl)⟩
  unfold readValue at hf
  split at hf
  · cases hf
  · next hc => exact ⟨_, _, hc⟩

theorem finds_items_nil (hc : skipBlanks text = ']' :: rest) :
    Finds (readItems item) text [] rest := by
  unfold Finds
  rw [readItems]
  split
  · next hn => cases hc.symm.trans hn
  · next hd =>
    obtain ⟨rfl, rfl⟩ := List.cons.inj (hc.symm.trans hd)
    exact ⟨_, if_pos rfl, rfl, rfl⟩

theorem finds_items_cons (hc : skipBlanks text = ',' :: inner)
    (hf : Finds (readValue k) inner first mid)
    (hr : Finds (readItems (readValue k)) mid items rest) :
    Finds (readItems (readValue k)) text (first :: items) rest := by
  obtain ⟨⟨c, left, hs⟩, hclose⟩ := starts_of_finds hf
  obtain ⟨found, hf, rfl, rfl⟩ := hf
  obtain ⟨more, hr, rfl, rfl⟩ := hr
  unfold Finds
  rw [readItems]
  split
  · next hn => cases hc.symm.trans hn
  · next hd =>
    obtain ⟨rfl, rfl⟩ := List.cons.inj (hc.symm.trans hd)
    rw [if_neg (by decide), if_pos rfl]
    split
    · next hn => cases hs.symm.trans hn
    · next hn => exact absurd hn (hclose _)
    · rw [hf]
      simp only [hr]
      exact ⟨_, rfl, rfl, rfl⟩

/-- What stands behind an opening bracket are the items of an array, -/
theorem finds_array (ho : skipBlanks text = '[' :: inner)
    (h : Finds (readArray (readValue k)) inner items rest) :
    Finds (readValue (k + 1)) text (.array items) rest := by
  obtain ⟨found, hf, rfl, rfl⟩ := h
  unfold Finds
  rw [readValue]
  split
  · next hn => cases ho.symm.trans hn
  · next hd =>
    obtain ⟨rfl, rfl⟩ := List.cons.inj (ho.symm.trans hd)
    simp only [hf]
    exact ⟨_, rfl, rfl, rfl⟩

theorem finds_array_nil (k : Nat) (ho : skipBlanks text = '[' :: inner)
    (hc : skipBlanks inner = ']' :: rest) : Finds (readValue (k + 1)) text (.array []) rest := by
  refine finds_array ho ?_
  unfold Finds readArray
  split
  · next hn => cases hc.symm.trans hn
  · next hd =>
    obtain ⟨rfl, rfl⟩ := List.cons.inj (hc.symm.trans hd)
    exact ⟨_, if_pos rfl, rfl, rfl⟩

theorem finds_array_cons (ho : skipBlanks text = '[' :: inner)
    (hf : Finds (readValue k) inner first mid)
    (hr : Finds (readItems (readValue k)) mid items rest) :
    Finds (readValue (k + 1)) text (.array (first :: items)) rest := by
  obtain ⟨⟨c, left, hs⟩, hclose⟩ := starts_of_finds hf
  obtain ⟨found, hf, rfl, rfl⟩ := hf
  obtain ⟨more, hr, rfl, rfl⟩ := hr
  refine finds_array ho ⟨found.andThen (more.map (found.value :: ·)), ?_, rfl, rfl⟩
  unfold readArray
  split
  · next hn => cases hs.symm.trans hn
  · next d after hd =>
    have hne : d ≠ ']' := fun he => hclose after (he ▸ hd)
    rw [if_neg hne, hf]
    simp only [hr]

end

section

variable {fields : List (String × Json)} {name behind : List Char}

theorem finds_field (hn : Finds readString text name behind)
    (hc : skipBlanks behind = ':' :: inner) (h : Finds item inner value rest) :
    Finds (readField item) text (String.ofList name, value) rest := by
  obtain ⟨token, htoken, rfl, rfl⟩ := hn
  obtain ⟨found, hf, rfl, rfl⟩ := h
  unfold Finds readField
  rw [htoken]
  dsimp only
  split
  · next hn => cases hc.symm.trans hn
  · next hd =>
    obtain ⟨rfl, rfl⟩ := List.cons.inj (hc.symm.trans hd)
    rw [if_pos rfl, hf]
    exact ⟨_, rfl, rfl, rfl⟩

theorem finds_fields_nil (hc : skipBlanks text = '}' :: rest) :
    Finds (readFields item) text [] rest := by
  unfold Finds
  rw [readFields]
  split
  · next hn => cases hc.symm.trans hn
  · next hd =>
    obtain ⟨rfl, rfl⟩ := List.cons.inj (hc.symm.trans hd)
    exact ⟨_, if_pos rfl, rfl, rfl⟩

theorem finds_fields_cons {field : String × Json} (hc : skipBlanks text = ',' :: left)
    (hq : skipBlanks left = '"' :: inner) (hf : Finds (readField item) inner field mid)
    (hr : Finds (readFields item) mid fields rest) :
    Finds (readFields item) text (field :: fields) rest := by
  obtain ⟨found, hf, rfl, rfl⟩ := hf
  obtain ⟨more, hr, rfl, rfl⟩ := hr
  unfold Finds
  rw [readFields]
  split
  · next hn => cases hc.symm.trans hn
  · next hd =>
    obtain ⟨rfl, rfl⟩ := List.cons.inj (hc.symm.trans hd)
    rw [if_neg (by decide), if_pos rfl]
    split
    · next hn => cases hq.symm.trans hn
    · next he =>
      obtain ⟨rfl, rfl⟩ := List.cons.inj (hq.symm.trans he)
      rw [if_pos rfl, hf]
      simp only [hr]
      exact ⟨_, rfl, rfl, rfl⟩

/-- and behind an opening brace the fields of an object. -/
theorem finds_object (ho : skipBlanks text = '{' :: inner)
    (h : Finds (readObject (readValue k)) inner fields rest) :
    Finds (readValue (k + 1)) text (ofFields fields) rest := by
  obtain ⟨found, hf, rfl, rfl⟩ := h
  unfold Finds
  rw [readValue]
  split
  · next hn => cases ho.symm.trans hn
  · next hd =>
    obtain ⟨rfl, rfl⟩ := List.cons.inj (ho.symm.trans hd)
    simp only [hf]
    exact ⟨_, rfl, rfl, rfl⟩

theorem finds_object_nil (k : Nat) (ho : skipBlanks text = '{' :: inner)
    (hc : skipBlanks inner = '}' :: rest) :
    Finds (readValue (k + 1)) text (.object []) rest := by
  suffices h : Finds (readObject (readValue k)) inner [] rest from finds_object ho h
  unfold Finds readObject
  split
  · next hn => cases hc.symm.trans hn
  · next hd =>
    obtain ⟨rfl, rfl⟩ := List.cons.inj (hc.symm.trans hd)
    exact ⟨_, if_pos rfl, rfl, rfl⟩

theorem finds_object_cons {field : String × Json} (ho : skipBlanks text = '{' :: left)
    (hq : skipBlanks left = '"' :: inner) (hf : Finds (readField (readValue k)) inner field mid)
    (hr : Finds (readFields (readValue k)) mid fields rest) :
    Finds (readValue (k + 1)) text (ofFields (field :: fields)) rest := by
  obtain ⟨found, hf, rfl, rfl⟩ := hf
  obtain ⟨more, hr, rfl, rfl⟩ := hr
  refine finds_object ho ?_
  unfold Finds readObject
  split
  · next hn => cases hq.symm.trans hn
  · next hd =>
    obtain ⟨rfl, rfl⟩ := List.cons.inj (hq.symm.trans hd)
    rw [if_neg (by decide), if_pos rfl, hf]
    simp only [hr]
    exact ⟨_, rfl, rfl, rfl⟩

end

/-! ## Documents -/

theorem exists_finds_word {token : Word} (ht : IsToken token.letters)
    (hs : skipBlanks text = token.letters ++ rest) (hr : Ends rest)
    (hw : (Document.word token).IsWhole) (k : Nat) : ∃ v, Finds (readValue k) text v rest := by
  generalize hl : token.letters = letters at ht hs
  cases ht with
  | null => exact ⟨_, finds_null k hs⟩
  | bool b => exact ⟨_, finds_bool k b hs⟩
  | number hn =>
    obtain ⟨i, hleast, hgreatest, rfl⟩ := hw (hl ▸ hn)
    subst hl
    exact ⟨_, finds_integer k hleast hgreatest hs (endsNumeral_of_ends hr)⟩

mutual

/-- **Every document is read** whose numbers are integers that are kept whole, unless it is too
deep. -/
theorem exists_finds {text rest : List Char} {d : Document} {k : Nat} (h : Spells text d rest)
    (hr : Ends rest) (hw : d.IsWhole) (hd : d.depth ≤ k) :
    ∃ v, Finds (readValue k) text v rest := by
  cases h with
  | word ht hs => exact exists_finds_word ht hs hr hw k
  | string hq hs => exact ⟨_, finds_string k hq (finds_of_spellsString hs)⟩
  | noItems ho hc =>
    obtain ⟨k, rfl⟩ := Nat.exists_eq_add_of_lt hd
    exact ⟨_, finds_array_nil _ ho hc⟩
  | items ho hi hs =>
    obtain ⟨k, rfl⟩ := Nat.exists_eq_add_of_lt hd
    obtain ⟨hfirst, hrest⟩ := Nat.max_le.mp (Nat.le_of_succ_le_succ hd)
    obtain ⟨v, hv⟩ := exists_finds hi hs.ends hw.1 hfirst
    obtain ⟨vs, hvs⟩ := exists_finds_items hs hw.2 hrest
    exact ⟨_, finds_array_cons ho hv hvs⟩
  | noFields ho hc =>
    obtain ⟨k, rfl⟩ := Nat.exists_eq_add_of_lt hd
    exact ⟨_, finds_object_nil _ ho hc⟩
  | fields ho hn hi hs =>
    obtain ⟨k, rfl⟩ := Nat.exists_eq_add_of_lt hd
    obtain ⟨hfirst, hrest⟩ := Nat.max_le.mp (Nat.le_of_succ_le_succ hd)
    obtain ⟨v, hv⟩ := exists_finds hi hs.ends hw.1 hfirst
    obtain ⟨vs, hvs⟩ := exists_finds_fields hs hw.2 hrest
    obtain ⟨hq, hname, hc⟩ := hn
    exact ⟨_, finds_object_cons ho hq (finds_field (finds_of_spellsString hname) hc hv) hvs⟩

theorem exists_finds_items {text rest : List Char} {ds : List Document} {k : Nat}
    (h : SpellsItems text ds rest) (hw : Document.AreWhole ds)
    (hd : Document.itemsDepth ds ≤ k) : ∃ vs, Finds (readItems (readValue k)) text vs rest := by
  cases h with
  | close hc => exact ⟨_, finds_items_nil hc⟩
  | next hc hi hs =>
    obtain ⟨hfirst, hrest⟩ := Nat.max_le.mp hd
    obtain ⟨v, hv⟩ := exists_finds hi hs.ends hw.1 hfirst
    obtain ⟨vs, hvs⟩ := exists_finds_items hs hw.2 hrest
    exact ⟨_, finds_items_cons hc hv hvs⟩

theorem exists_finds_fields {text rest : List Char} {ds : List (String × Document)} {k : Nat}
    (h : SpellsFields text ds rest) (hw : Document.FieldsAreWhole ds)
    (hd : Document.fieldsDepth ds ≤ k) : ∃ vs, Finds (readFields (readValue k)) text vs rest := by
  cases h with
  | close hc => exact ⟨_, finds_fields_nil hc⟩
  | next hc hn hi hs =>
    obtain ⟨hfirst, hrest⟩ := Nat.max_le.mp hd
    obtain ⟨v, hv⟩ := exists_finds hi hs.ends hw.1 hfirst
    obtain ⟨vs, hvs⟩ := exists_finds_fields hs hw.2 hrest
    obtain ⟨hq, hname, hcolon⟩ := hn
    exact ⟨_, finds_fields_cons hc hq (finds_field (finds_of_spellsString hname) hcolon hv) hvs⟩

end

theorem parse_of_finds (h : Finds (readValue maxDepth) text value rest)
    (hend : skipBlanks rest = []) : parse text = .ok value := by
  obtain ⟨found, hf, hv, rfl⟩ := h
  unfold parse
  rw [hf]
  dsimp only
  rw [hend]
  exact congrArg Except.ok hv

/-- **Every text is read that denotes such a document.** -/
theorem exists_parse {d : Document} (h : Denotes text d) (hw : d.IsWhole)
    (hd : d.depth ≤ maxDepth) : ∃ v, parse text = .ok v := by
  obtain ⟨rest, hs, hend⟩ := h
  obtain ⟨v, hv⟩ := exists_finds hs (ends_of_end hend) hw hd
  exact ⟨v, parse_of_finds hv hend⟩

end Courier.Json
