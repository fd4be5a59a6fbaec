import Courier.Proofs.Json.Numbers
import Courier.Proofs.Json.Whole

/-!
# What is read stands there

Where a value is read, a document stands, as the grammar has it. If the numbers in the document are
integers that are kept whole, the value is what it says: its text is that of the same document, with
the fields of every object in order, of those with one name the last.

Results:

* `spells_of_readString` — what is read as a string stands there as one.
* `exists_of_parse` — **a text that is read denotes a document, and its value is what that means.**
-/

namespace Courier.Json

open Courier.Decimal Courier.Text

variable {text rest left : List Char} {k : Nat}

/-! ## Strings -/

/-- Four digits are read as their number, -/
theorem exists_of_readHex {found : Found Nat text} (h : readHex text = .ok found) :
    ∃ a b c d, areDigits 16 [a, b, c, d] = true ∧ text = a :: b :: c :: d :: found.rest ∧
      found.value = hexValue [a, b, c, d] := by
  unfold readHex at h
  split at h
  · split at h
    · next hd =>
      cases h
      exact ⟨_, _, _, _, hd, rfl, rfl⟩
    · cases h
  · split at h <;> cases h

/-- a second surrogate as the character that it makes with the first, -/
theorem exists_of_readLowSurrogate {high : Nat} {found : Found Char text}
    (h : readLowSurrogate high text = .ok found) :
    ∃ a b c d, areDigits 16 [a, b, c, d] = true ∧ IsLow (hexValue [a, b, c, d]) ∧
      text = '\\' :: 'u' :: a :: b :: c :: d :: found.rest ∧
      found.value = pairSurrogates high (hexValue [a, b, c, d]) := by
  unfold readLowSurrogate at h
  split at h
  · cases h
  · cases h
  · split at h
    · cases h
    · next hex hhex =>
      obtain ⟨a, b, c, d, hd, ht, hv⟩ := exists_of_readHex hhex
      split at h
      · next hl =>
        obtain rfl := Except.ok.inj h
        rw [hv] at hl
        refine ⟨a, b, c, d, hd, hl, congrArg ('\\' :: 'u' :: ·) ht, ?_⟩
        simp only [Found.behind, Found.within, Found.map, hv]
      · cases h
  · cases h
  · cases h

/-- and both are escapes. -/
theorem spells_of_readNumbered {found : Found Char text} (h : readNumbered text = .ok found) :
    SpellsEscape ('u' :: text) found.value found.rest := by
  unfold readNumbered at h
  split at h
  · cases h
  · next hex hhex =>
    obtain ⟨a, b, c, d, hd, ht, hv⟩ := exists_of_readHex hhex
    split at h
    · cases h
    · next hl =>
      split at h
      · next hh =>
        split at h
        · cases h
        · next low hlow =>
          obtain ⟨a', b', c', d', hd', hl', ht', hv'⟩ := exists_of_readLowSurrogate hlow
          cases h
          rw [hv] at hh hv'
          have hp := SpellsEscape.pair hd hh hd' hl' low.rest
          rwa [← ht', ← ht, ← hv'] at hp
      · next hh =>
        cases h
        rw [hv] at hh hl
        have hn := SpellsEscape.number hd hh hl hex.rest
        rwa [← ht, ← hv] at hn

theorem spells_of_readEscape {found : Found Char text} (h : readEscape text = .ok found) :
    SpellsEscape text found.value found.rest := by
  unfold readEscape at h
  split at h
  · cases h
  iterate 8
    · cases h
      exact .mark rfl _
  · split at h
    · cases h
    · next hnumbered =>
      cases h
      exact spells_of_readNumbered hnumbered
  · cases h

/-- **What is read as a string stands there as one.** -/
theorem spells_of_readString {found : Found (List Char) text} (h : readString text = .ok found) :
    SpellsString text found.value found.rest := by
  fun_induction readString text with
  | case2 =>
    cases h
    exact .close _
  | case5 rest escaped hescaped more hmore _ ih =>
    cases h
    exact .escape (spells_of_readEscape hescaped) (ih hmore)
  | case8 c rest hq hs hc more hmore ih =>
    cases h
    exact .plain hq hs hc (ih hmore)
  | _ => cases h

/-! ## Containers -/

/-- What is read stands there, as a document that means it. -/
def Reads (k : Nat) (item : Reader Json) : Prop :=
  ∀ {text : List Char} {found : Found Json text}, item text = .ok found →
    ∃ d, Spells text d found.rest ∧ Means k d found.value

variable {item : Reader Json}

/-- The items behind the first one stand there with the commas before them. -/
theorem exists_of_readItems (hi : Reads k item) {found : Found (List Json) text}
    (h : readItems item text = .ok found) :
    ∃ ds, SpellsItems text ds found.rest ∧ List.Forall₂ (Means k) ds found.value := by
  fun_induction readItems item text with
  | case2 x rest hclose =>
    cases h
    exact ⟨[], .close hclose, .nil⟩
  | case7 x rest first hfirst more hmore _ _ hcomma _ _ ih =>
    cases h
    obtain ⟨d, hd, hm⟩ := hi hfirst
    obtain ⟨ds, hds, hms⟩ := ih hmore
    exact ⟨d :: ds, .next hcomma hd hds, .cons hm hms⟩
  | _ => cases h

/-- An array is read from behind the bracket that opens it. -/
theorem exists_of_readArray (hi : Reads k item) {found : Found (List Json) text}
    (h : readArray item text = .ok found) (hopen : skipBlanks left = '[' :: text) :
    ∃ ds, Spells left (.array ds) found.rest ∧ List.Forall₂ (Means k) ds found.value := by
  unfold readArray at h
  split at h
  · cases h
  · next c rest hc =>
    split at h
    · next he =>
      cases h
      exact ⟨[], .noItems hopen (he ▸ hc), .nil⟩
    · split at h
      · cases h
      · next hfirst =>
        split at h
        · cases h
        · next hmore =>
          cases h
          obtain ⟨d, hd, hm⟩ := hi hfirst
          obtain ⟨ds, hds, hms⟩ := exists_of_readItems hi hmore
          exact ⟨d :: ds, .items hopen hd hds, .cons hm hms⟩

/-- A field is read from behind the quote that opens its name. -/
theorem exists_of_readField (hi : Reads k item) {found : Found (String × Json) text}
    (h : readField item text = .ok found) (hopen : skipBlanks left = '"' :: text) :
    ∃ behind d, SpellsName left found.value.1 behind ∧ Spells behind d found.rest ∧
      Means k d found.value.2 := by
  unfold readField at h
  split at h
  · cases h
  · next hname =>
    split at h
    · cases h
    · next c rest hc =>
      split at h
      · next he =>
        split at h
        · cases h
        · next hvalue =>
          cases h
          obtain ⟨d, hd, hm⟩ := hi hvalue
          exact ⟨rest, d, .mk hopen (spells_of_readString hname) (he ▸ hc), hd, hm⟩
      · cases h

/-- The fields behind the first one stand there with the commas before them. -/
theorem exists_of_readFields (hi : Reads k item) {found : Found (List (String × Json)) text}
    (h : readFields item text = .ok found) :
    ∃ ds, SpellsFields text ds found.rest ∧ List.Forall₂ (FieldMeans k) ds found.value := by
  fun_induction readFields item text with
  | case2 x rest hclose =>
    cases h
    exact ⟨[], .close hclose, .nil⟩
  | case6 x rest left first hfirst more hmore hcomma _ _ hquote _ ih =>
    cases h
    obtain ⟨behind, d, hn, hd, hm⟩ := exists_of_readField hi hfirst hquote
    obtain ⟨ds, hds, hms⟩ := ih hmore
    exact ⟨(first.value.1, d) :: ds, .next hcomma hn hd hds, .cons ⟨rfl, hm⟩ hms⟩
  | _ => cases h

/-- An object is read from behind the brace that opens it. -/
theorem exists_of_readObject (hi : Reads k item) {found : Found (List (String × Json)) text}
    (h : readObject item text = .ok found) (hopen : skipBlanks left = '{' :: text) :
    ∃ ds, Spells left (.object ds) found.rest ∧ List.Forall₂ (FieldMeans k) ds found.value := by
  unfold readObject at h
  split at h
  · cases h
  · next c rest hc =>
    split at h
    · next he =>
      cases h
      exact ⟨[], .noFields hopen (he ▸ hc), .nil⟩
    · split at h
      · next hq =>
        split at h
        · cases h
        · next first hfirst =>
          split at h
          · cases h
          · next hmore =>
            cases h
            obtain ⟨behind, d, hn, hd, hm⟩ := exists_of_readField hi hfirst (hq ▸ hc)
            obtain ⟨ds, hds, hms⟩ := exists_of_readFields hi hmore
            exact ⟨(first.value.1, d) :: ds, .fields hopen hn hd hds, .cons ⟨rfl, hm⟩ hms⟩
      · cases h

/-! ## Words and numbers -/

theorem append_of_readWord {word value : Json} {letters : List Char}
    (h : readWord word letters text = .ok (value, left)) : text = letters ++ left := by
  induction letters generalizing text with
  | nil =>
    cases h
    rfl
  | cons letter letters ih =>
    cases text with
    | nil => cases h
    | cons c rest =>
      unfold readWord at h
      split at h
      · next hc => rw [hc, ih h, List.cons_append]
      · cases h

/-- Null and a truth value are read from their token. -/
theorem exists_of_word {token : Word} {word value : Json} {c : Char} {letters : List Char}
    (ht : IsToken token.letters) (hl : token.letters = c :: letters)
    (h : readWord word letters text = .ok (value, rest)) (hc : skipBlanks left = c :: text)
    (hd : Document.ofJson word = .word token) (hdepth : word.depth = 0) (hw : word.IsWhole) :
    ∃ d, Spells left d rest ∧ Means k d value := by
  obtain rfl := eq_of_readWord h
  refine ⟨.word token, .word ht ?_, fun _ => ⟨hdepth ▸ Nat.zero_le k, hw, hd ▸ .refl _⟩⟩
  rw [hc, append_of_readWord h, hl, List.cons_append]

theorem isPunctuation_of_isDigit {c : Char} (h : isDigit c = true) : isPunctuation c = false :=
  isPunctuation_of_isNumeral (isNumeral_of_isDigit h)

/-- The token of a number, as a word. -/
def IsNumber.word {letters : List Char} (h : IsNumber letters) : Word where
  letters
  ne_nil := by
    obtain ⟨_, hw, _, _⟩ := h
    simp [hw.ne_nil]
  plain := h.forall (fun _ => isPunctuation_of_isDigit) (by decide)

/-- A number is read from its token. If that is the numeral of an integer that is kept whole, the
integer is its value. -/
theorem exists_of_number {sign : List Char} (hs : sign = [] ∨ sign = ['-']) {value : Json}
    (h : readNumber (!sign.isEmpty) text = .ok (value, rest))
    (hsign : skipBlanks left = sign ++ text) : ∃ d, Spells left d rest ∧ Means k d value := by
  obtain ⟨whole, fraction, token, hw, hf, hx, ht, hv⟩ := exists_of_readNumber h
  have hn : IsNumber (sign ++ (whole ++ (fraction ++ token))) := .mk hs hw hf hx
  refine ⟨.word hn.word, .word (.number hn) ?_, fun hwhole => ?_⟩
  · rw [hsign, ht]
    simp [IsNumber.word]
  · obtain ⟨i, hl, hg, hi⟩ := hwhole hn
    obtain ⟨rfl, rfl, rfl, hneg⟩ := eq_of_integerText hs hw hf hx (congrArg Word.letters hi)
    have hvalue : value = .integer i := by
      rw [hv _ (natAbs_le hl hg) rfl rfl rfl]
      rcases hs with rfl | rfl
      · exact wholeNumber_of_nonneg (Int.not_lt.mp fun hlt =>
          List.cons_ne_nil _ _ (hneg.mpr hlt).symm)
      · exact wholeNumber_of_neg (hneg.mp rfl) hl
    rw [hi, hvalue]
    exact ⟨Nat.zero_le k, trivial, .refl _⟩

/-! ## Values -/

/-- What a reader of values finds stands there, by recursion on how deep containers may still stand
in one another. -/
theorem reads_readValue (k : Nat) : Reads k (readValue k) := by
  intro text found h
  unfold readValue at h
  split at h
  · cases h
  next c rest hc =>
  dsimp only at h
  split_ifs at h with hn ht hf hminus hdigit hquote hbracket hbrace
  · exact exists_of_word .null rfl (eq_of_checked h) (hn ▸ hc) rfl rfl trivial
  · exact exists_of_word (.bool true) rfl (eq_of_checked h) (ht ▸ hc) rfl rfl trivial
  · exact exists_of_word (.bool false) rfl (eq_of_checked h) (hf ▸ hc) rfl rfl trivial
  · exact exists_of_number (.inr rfl) (eq_of_checked h) (hminus ▸ hc)
  · exact exists_of_number (.inl rfl) (eq_of_checked h) hc
  · split at h
    · cases h
    · next hstring =>
      cases h
      rw [hquote] at hc
      exact ⟨_, .string hc (spells_of_readString hstring),
        fun _ => ⟨Nat.zero_le k, trivial, .refl _⟩⟩
  · cases k with
    | zero => cases h
    | succ k =>
      dsimp only at h
      split at h
      · cases h
      · next harray =>
        cases h
        rw [hbracket] at hc
        obtain ⟨ds, hds, hm⟩ := exists_of_readArray (reads_readValue k) harray hc
        exact ⟨.array ds, hds, means_array hm⟩
  · cases k with
    | zero => cases h
    | succ k =>
      dsimp only at h
      split at h
      · cases h
      · next hobject =>
        cases h
        rw [hbrace] at hc
        obtain ⟨ds, hds, hm⟩ := exists_of_readObject (reads_readValue k) hobject hc
        exact ⟨.object ds, hds, means_object hm⟩
  · cases h

/-- **A text that is read denotes a document.** If the numbers in it are integers that are kept
whole, the value that is read is that document. -/
theorem exists_of_parse {value : Json} (h : parse text = .ok value) :
    ∃ d, Denotes text d ∧ Means maxDepth d value := by
  unfold parse at h
  split at h
  · cases h
  · next found hfound =>
    split at h
    · next hend =>
      cases h
      obtain ⟨d, hd, hm⟩ := reads_readValue maxDepth hfound
      exact ⟨d, ⟨found.rest, hd, hend⟩, hm⟩
    · cases h

/-- The value of a text is what any document means that the text denotes. -/
theorem means_of_denotes {value : Json} {d : Document} (h : parse text = .ok value)
    (hd : Denotes text d) : Means maxDepth d value := by
  obtain ⟨e, he, hm⟩ := exists_of_parse h
  exact denotes_unique he hd ▸ hm

end Courier.Json
