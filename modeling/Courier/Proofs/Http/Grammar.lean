import Courier.Http.Client
import Courier.Proofs.Results
import Courier.Proofs.Text.Splitting
import Mathlib

/-!
# What the client takes for a URI

The authority of a URI is read one character after the other, and what was seen of it is a function
of the text so far. What the reader takes can therefore be said of the text: which characters may
follow what stands before them, and what has to hold at the end.

Results:

* `splitAuthority_eq_ok_iff`: what is read as an authority (`IsAuthority`).
* `exists_readTarget_iff`: what is read as a path with a query (`IsTarget`).
* `exists_refusal?_iff`: **what the client takes for a URI that it can ask for** (`IsAbsolute`).
-/

namespace Courier.Http.Uri

open Courier.Text

/-! ## Authorities -/

variable {text front authority rest : List Char} {c : Char} {seen : Seen}

/-- Behind these the colons and percent signs of an authority are counted anew. -/
def isSeam (c : Char) : Bool :=
  c = '@' || c = ']'

/-- The text behind the last seam. -/
def tail (text : List Char) : List Char :=
  text.rtakeWhile (!isSeam ·)

theorem tail_append_of_seam (front : List Char) (h : isSeam c = true) : tail (front ++ [c]) = [] :=
  List.rtakeWhile_concat_neg _ _ _ (by simp [h])

theorem tail_append (front : List Char) (h : isSeam c = false) :
    tail (front ++ [c]) = tail front ++ [c] :=
  List.rtakeWhile_concat_pos _ _ _ (by simp [h])

/-- A character that may stand in an authority for something else than itself. -/
def isMark (c : Char) : Bool :=
  c = ':' || c = '[' || c = ']' || c = '@' || c = '%'

/-- A character may follow the front of an authority. -/
structure MayFollow (front : List Char) (c : Char) : Prop where
  known : isAuthorityChar c = true ∨ isMark c = true
  colon (h : c = ':') : (tail front).count ':' < 8
  opening (h : c = '[') : '%' ∉ tail front ∧ '[' ∉ front
  closing (h : c = ']') : '[' ∈ front ∧ ']' ∉ front

/-- What is an authority, the empty one included. -/
structure IsAuthority (text : List Char) : Prop where
  follow (front : List Char) (c : Char) (h : front ++ [c] <+: text) : MayFollow front c
  brackets : '[' ∈ text ↔ ']' ∈ text
  colons : (tail text).count ':' ≤ 1
  percent : '%' ∉ tail text
  last : text.getLast? ≠ some '@'

/-- What is seen of a text. -/
def Seen.of (text : List Char) : Seen :=
  ⟨(tail text).count ':', '[' ∈ text, ']' ∈ text, '%' ∈ tail text, text.getLast? = some '@'⟩

theorem isMark_iff : isMark c = true ↔ c = ':' ∨ c = '[' ∨ c = ']' ∨ c = '@' ∨ c = '%' := by
  simp only [isMark, Bool.or_eq_true, decide_eq_true_eq, or_assoc]

theorem mayFollow_colon_iff : MayFollow front ':' ↔ (tail front).count ':' < 8 :=
  ⟨fun h => h.colon rfl, fun h => ⟨.inr rfl, fun _ => h, nofun, nofun⟩⟩

theorem mayFollow_opening_iff : MayFollow front '[' ↔ '%' ∉ tail front ∧ '[' ∉ front :=
  ⟨fun h => h.opening rfl, fun h => ⟨.inr rfl, nofun, fun _ => h, nofun⟩⟩

theorem mayFollow_closing_iff : MayFollow front ']' ↔ '[' ∈ front ∧ ']' ∉ front :=
  ⟨fun h => h.closing rfl, fun h => ⟨.inr rfl, nofun, nofun, fun _ => h⟩⟩

theorem mayFollow_at : MayFollow front '@' :=
  ⟨.inr rfl, nofun, nofun, nofun⟩

theorem mayFollow_percent : MayFollow front '%' :=
  ⟨.inr rfl, nofun, nofun, nofun⟩

theorem mayFollow_iff_of_not_isMark (h : isMark c = false) :
    MayFollow front c ↔ isAuthorityChar c = true := by
  have hn : c ≠ ':' ∧ c ≠ '[' ∧ c ≠ ']' := by
    refine ⟨?_, ?_, ?_⟩ <;> rintro rfl <;> exact absurd h (by decide)
  exact ⟨fun hf => hf.known.resolve_right (by simp [h]),
    fun hc => ⟨.inl hc, fun he => absurd he hn.1, fun he => absurd he hn.2.1,
      fun he => absurd he hn.2.2⟩⟩

/-- What is seen of a text with one more character. -/
theorem of_append (front : List Char) (c : Char) : Seen.of (front ++ [c]) =
    ⟨if isSeam c then 0 else (tail front).count ':' + if c = ':' then 1 else 0,
      '[' ∈ front ∨ '[' = c, ']' ∈ front ∨ ']' = c, isSeam c = false ∧ ('%' ∈ tail front ∨ '%' = c),
      c = '@'⟩ := by
  cases hs : isSeam c with
  | true => simp [Seen.of, tail_append_of_seam front hs]
  | false => simp [Seen.of, tail_append front hs, List.count_append, List.count_singleton]

/-- What one more character does to what was seen. -/
theorem next_eq_ok_iff :
    (Seen.of front).next c = .ok seen ↔ MayFollow front c ∧ Seen.of (front ++ [c]) = seen := by
  rw [of_append]
  by_cases hm : isMark c = true
  · rcases isMark_iff.mp hm with rfl | rfl | rfl | rfl | rfl
    · rw [mayFollow_colon_iff, ← not_le]
      simp [Seen.next, Seen.of, isSeam, ite_error_eq_ok_iff]
    · rw [mayFollow_opening_iff, ← not_or]
      simp [Seen.next, Seen.of, isSeam, ite_error_eq_ok_iff]
    · rw [mayFollow_closing_iff]
      simp [Seen.next, Seen.of, isSeam, ite_error_eq_ok_iff]
    · simp [Seen.next, Seen.of, isSeam, mayFollow_at]
    · simp [Seen.next, Seen.of, isSeam, mayFollow_percent]
  · rw [mayFollow_iff_of_not_isMark (by simpa using hm)]
    simp only [isMark_iff, not_or] at hm
    obtain ⟨h1, h2, h3, h4, h5⟩ := hm
    cases ha : isAuthorityChar c with
    | true =>
      simp [Seen.next, Seen.of, isSeam, h1, h2, h3, h4, h5, ha, Ne.symm h2, Ne.symm h3, Ne.symm h5]
    | false => simp [Seen.next, h1, h2, h3, h4, h5, ha]

/-- What was seen of a text that is read to its end. -/
theorem foldlM_eq_ok_iff : text.foldlM Seen.next ⟨0, false, false, false, false⟩ = .ok seen ↔
    (∀ front c, front ++ [c] <+: text → MayFollow front c) ∧ Seen.of text = seen := by
  -- From the end, since what was seen is told of the text before a character.
  induction text using List.reverseRecOn generalizing seen with
  | nil =>
    have hn : ∀ (front : List Char) (c : Char), ¬front ++ [c] <+: [] := by simp
    exact ⟨fun h => ⟨fun front c h => absurd h (hn front c), Except.ok.inj h⟩,
      fun h => congrArg Except.ok h.2⟩
  | append_singleton text last ih =>
    have hfollow : (∀ front c, front ++ [c] <+: text ++ [last] → MayFollow front c) ↔
        (∀ front c, front ++ [c] <+: text → MayFollow front c) ∧ MayFollow text last := by
      constructor
      · intro h
        exact ⟨fun front c hp => h front c (hp.trans (List.prefix_append _ _)),
          h text last (List.prefix_refl _)⟩
      · rintro ⟨ht, hl⟩ front c hp
        rcases List.prefix_concat_iff.mp hp with he | hp
        · obtain ⟨rfl, rfl⟩ := List.append_singleton_inj.mp he
          exact hl
        · exact ht front c hp
    rw [List.foldlM_append, bind_eq_ok_iff, hfollow]
    constructor
    · rintro ⟨before, hb, hs⟩
      obtain ⟨hf, rfl⟩ := ih.mp hb
      rw [List.foldlM_cons, bind_eq_ok_iff] at hs
      obtain ⟨after, ha, hs⟩ := hs
      obtain ⟨hl, rfl⟩ := next_eq_ok_iff.mp ha
      exact ⟨⟨hf, hl⟩, Except.ok.inj hs⟩
    · rintro ⟨⟨hf, hl⟩, rfl⟩
      refine ⟨_, ih.mpr ⟨hf, rfl⟩, ?_⟩
      rw [List.foldlM_cons, bind_eq_ok_iff]
      exact ⟨_, next_eq_ok_iff.mpr ⟨hl, rfl⟩, rfl⟩

theorem isWhole_iff : seen.isWhole = true ↔ seen.opened = seen.closed ∧ seen.colons ≤ 1 ∧
    seen.percent = false ∧ seen.endsInAt = false := by
  simp [Seen.isWhole, and_assoc, and_comm (a := seen.percent = false)]

/-- What was seen decides whether a text that is read to its end is an authority. -/
theorem isAuthority_iff : IsAuthority text ↔
    (∀ front c, front ++ [c] <+: text → MayFollow front c) ∧ (Seen.of text).isWhole = true := by
  have hw : (Seen.of text).isWhole = true ↔ ('[' ∈ text ↔ ']' ∈ text) ∧
      (tail text).count ':' ≤ 1 ∧ '%' ∉ tail text ∧ text.getLast? ≠ some '@' := by
    rw [isWhole_iff]
    simp only [Seen.of, decide_eq_decide, decide_eq_false_iff_not, ne_eq]
  rw [hw]
  exact ⟨fun h => ⟨h.follow, h.brackets, h.colons, h.percent, h.last⟩,
    fun ⟨hf, hb, hc, hp, hl⟩ => ⟨hf, hb, hc, hp, hl⟩⟩

theorem IsAuthority.known (h : IsAuthority text) :
    ∀ c ∈ text, isAuthorityChar c = true ∨ isMark c = true := by
  intro c hc
  obtain ⟨front, back, rfl⟩ := List.append_of_mem hc
  exact (h.follow front c ⟨back, by simp⟩).known

/-- No character of an authority ends one. -/
theorem IsAuthority.not_endsAuthority (h : IsAuthority text) :
    ∀ c ∈ text, endsAuthority c = false := by
  intro c hc
  refine Bool.eq_false_iff.mpr fun he => ?_
  simp only [endsAuthority, Bool.or_eq_true, decide_eq_true_eq, or_assoc] at he
  rcases he with rfl | rfl | rfl <;> exact absurd (h.known _ hc) (by decide)

/-- **What is read as an authority**, and what is left behind it. -/
theorem splitAuthority_eq_ok_iff : splitAuthority text = .ok (authority, rest) ↔
    text = authority ++ rest ∧ IsAuthority authority ∧
      ∀ c ∈ rest.head?, endsAuthority c = true := by
  unfold splitAuthority
  constructor
  · intro h
    simp only at h
    split at h
    · exact absurd h nofun
    · next seen hs =>
      split at h
      · next hw =>
        cases h
        obtain ⟨hf, rfl⟩ := foldlM_eq_ok_iff.mp hs
        refine ⟨(List.takeWhile_append_dropWhile ..).symm, isAuthority_iff.mpr ⟨hf, hw⟩, ?_⟩
        intro c hc
        simpa using stop_of_dropWhile c hc
      · exact absurd h nofun
  · rintro ⟨rfl, ha, hr⟩
    obtain ⟨ht, hd⟩ : (authority ++ rest).takeWhile (!endsAuthority ·) = authority ∧
        (authority ++ rest).dropWhile (!endsAuthority ·) = rest :=
      takeWhile_append_of_stop (fun c hc => by simp [ha.not_endsAuthority c hc])
        fun c hc => by simp [hr c hc]
    obtain ⟨hf, hw⟩ := isAuthority_iff.mp ha
    simp only [ht, hd, foldlM_eq_ok_iff.mpr ⟨hf, rfl⟩, hw, if_true]

/-! ## Targets -/

/-- There may be a fragment and nothing else. -/
def IsFragment (text : List Char) : Prop :=
  ∀ c ∈ text.head?, c = '#'

/-- There is a query, and there may be a fragment behind it. -/
def IsQuery (text : List Char) : Prop :=
  ∃ query fragment, text = query ++ fragment ∧ (∀ c ∈ query, isQueryChar c = true) ∧
    IsFragment fragment

/-- There is a path, and there may be a query behind its mark, and a fragment. -/
def IsTarget (text : List Char) : Prop :=
  ∃ path rest, text = path ++ rest ∧ (∀ c ∈ path, isPathChar c = true) ∧
    (IsFragment rest ∨ ∃ query, rest = '?' :: query ∧ IsQuery query)

theorem exists_readQuery_iff : (∃ query, readQuery text = .ok query) ↔ IsQuery text := by
  unfold readQuery
  constructor
  · rintro ⟨query, h⟩
    simp only at h
    split at h
    · next hq =>
      refine ⟨text.takeWhile (· ≠ '#'), text.dropWhile (· ≠ '#'), ?_, List.all_eq_true.mp hq, ?_⟩
      · exact (List.takeWhile_append_dropWhile ..).symm
      · intro c hc
        simpa using stop_of_dropWhile c hc
    · exact absurd h nofun
  · rintro ⟨query, fragment, rfl, hq, hf⟩
    have hn : ∀ c ∈ query, decide (c ≠ '#') = true := by
      intro c hc
      refine decide_eq_true fun he => ?_
      exact absurd (he ▸ hq c hc) (by decide)
    obtain ⟨ht, -⟩ : (query ++ fragment).takeWhile (· ≠ '#') = query ∧ _ :=
      takeWhile_append_of_stop hn fun c hc => by simp [hf c hc]
    exact ⟨query, by simp only [ht, List.all_eq_true.mpr hq, if_true]⟩

theorem isTarget_of_isFragment (h : IsFragment text) : IsTarget text :=
  ⟨[], text, rfl, nofun, .inl h⟩

theorem isTarget_query_iff : IsTarget ('?' :: text) ↔ IsQuery text := by
  constructor
  · rintro ⟨path, rest, he, hp, hr⟩
    cases path with
    | nil =>
      obtain rfl : '?' :: text = rest := he
      rcases hr with hf | ⟨query, hq, h⟩
      · exact absurd (hf '?' rfl) (by decide)
      · exact (List.cons.inj hq).2 ▸ h
    | cons c path =>
      obtain rfl : '?' = c := (List.cons.inj he).1
      exact absurd (hp '?' List.mem_cons_self) (by decide)
  · exact fun h => ⟨[], _, rfl, nofun, .inr ⟨text, rfl, h⟩⟩

theorem isTarget_cons_iff (hh : c ≠ '#') (hq : c ≠ '?') :
    IsTarget (c :: text) ↔ isPathChar c = true ∧ IsTarget text := by
  constructor
  · rintro ⟨path, rest, he, hp, hr⟩
    cases path with
    | nil =>
      obtain rfl : c :: text = rest := he
      rcases hr with hf | ⟨query, he, -⟩
      · exact absurd (hf c rfl) hh
      · exact absurd (List.cons.inj he).1 hq
    | cons first path =>
      obtain ⟨rfl, rfl⟩ := List.cons.inj he
      obtain ⟨hc, hp⟩ := List.forall_mem_cons.mp hp
      exact ⟨hc, path, rest, rfl, hp, hr⟩
  · rintro ⟨hc, path, rest, rfl, hp, hr⟩
    exact ⟨c :: path, rest, rfl, List.forall_mem_cons.mpr ⟨hc, hp⟩, hr⟩

/-- **What is read as a path with a query.** -/
theorem exists_readTarget_iff : (∃ target, readTarget text = .ok target) ↔ IsTarget text := by
  induction text with
  | nil =>
    refine ⟨fun _ => isTarget_of_isFragment fun c hc => ?_, fun _ => ⟨[], rfl⟩⟩
    cases hc
  | cons c rest ih =>
    unfold readTarget
    by_cases hh : c = '#'
    · rw [if_pos hh]
      refine ⟨fun _ => isTarget_of_isFragment fun d hd => ?_, fun _ => ⟨[], rfl⟩⟩
      exact (Option.some.inj hd).symm.trans hh
    · rw [if_neg hh]
      by_cases hq : c = '?'
      · subst hq
        simp only [if_true, map_eq_ok_iff, isTarget_query_iff, ← exists_readQuery_iff]
        constructor
        · rintro ⟨_, query, h, _⟩
          exact ⟨query, h⟩
        · rintro ⟨query, h⟩
          exact ⟨_, query, h, rfl⟩
      · rw [if_neg hq, isTarget_cons_iff hh hq, ← ih]
        cases isPathChar c with
        | true =>
          simp only [if_true, map_eq_ok_iff, true_and]
          constructor
          · rintro ⟨_, target, h, _⟩
            exact ⟨target, h⟩
          · rintro ⟨target, h⟩
            exact ⟨_, target, h, rfl⟩
        | false => simp

/-! ## URIs -/

/-- The parts of a URI that has a scheme. -/
structure Parts where
  scheme : List Char
  authority : List Char
  target : List Char

/-- The parts put together. -/
def Parts.joined (p : Parts) : List Char :=
  p.scheme ++ ':' :: '/' :: '/' :: (p.authority ++ p.target)

/-- Each part is one that the client takes. -/
structure Parts.IsWhole (p : Parts) : Prop where
  scheme : ∀ c ∈ p.scheme, isSchemeChar c = true
  length : p.scheme.length ≤ 64
  authority : IsAuthority p.authority
  named : p.authority ≠ []
  target : IsTarget p.target
  stop : ∀ c ∈ p.target.head?, endsAuthority c = true

/-- What the client takes for a URI that it can ask for. -/
def IsAbsolute (text : List Char) : Prop :=
  Utf8.size text ≤ 65534 ∧ ∃ p : Parts, p.IsWhole ∧ text = p.joined

theorem exists_splitScheme_iff : (∃ scheme, splitScheme text = .ok (some scheme, rest)) ↔
    ∃ name, text = name ++ ':' :: '/' :: '/' :: rest ∧ (∀ c ∈ name, isSchemeChar c = true) ∧
      name.length ≤ 64 := by
  have hlength {name : List Char} {web : String} (h : name.map Char.toLower = web.toList) :
      name.length = web.toList.length := by
    rw [← h, List.length_map]
  unfold splitScheme
  constructor
  · rintro ⟨scheme, h⟩
    simp only at h
    split at h
    · next rest' hd =>
      have hrest : rest' = rest ∧ (text.takeWhile isSchemeChar).length ≤ 64 := by
        split at h
        · next hl =>
          cases h
          refine ⟨rfl, ?_⟩
          rcases hl with hl | hl
          · rw [hlength hl]
            decide
          · rw [hlength hl]
            decide
        · split at h
          · exact absurd h nofun
          · next hn =>
            cases h
            exact ⟨rfl, by omega⟩
      obtain ⟨rfl, hlen⟩ := hrest
      refine ⟨text.takeWhile isSchemeChar, ?_, fun c hc => List.mem_takeWhile_imp hc, hlen⟩
      rw [← hd, List.takeWhile_append_dropWhile]
    · exact absurd h nofun
  · rintro ⟨name, rfl, hn, hl⟩
    obtain ⟨ht, hd⟩ : (name ++ ':' :: '/' :: '/' :: rest).takeWhile isSchemeChar = name ∧
        (name ++ ':' :: '/' :: '/' :: rest).dropWhile isSchemeChar = ':' :: '/' :: '/' :: rest :=
      takeWhile_append_of_stop hn fun c hc => by
        obtain rfl := Option.some.inj hc
        decide
    simp only [ht, hd]
    split
    · exact ⟨_, rfl⟩
    · rw [if_neg (by omega)]
      exact ⟨_, rfl⟩

/-- What is read as a URI with a scheme. -/
theorem exists_parse_iff : (∃ uri, parse text = .ok uri ∧ uri.scheme.isSome = true) ↔
    IsAbsolute text := by
  unfold parse
  constructor
  · rintro ⟨uri, h, hs⟩
    obtain ⟨hl, h⟩ := ite_error_eq_ok_iff.mp h
    obtain ⟨-, h⟩ := ite_error_eq_ok_iff.mp h
    obtain ⟨⟨scheme, rest⟩, hscheme, hrest⟩ := bind_eq_ok_iff.mp h
    obtain ⟨⟨authority, target⟩, hauthority, htarget⟩ := bind_eq_ok_iff.mp hrest
    obtain ⟨rfl, ha, hstop⟩ := splitAuthority_eq_ok_iff.mp hauthority
    cases scheme with
    | none =>
      simp only at htarget
      split at htarget
      · cases htarget
        exact absurd hs nofun
      · exact absurd htarget nofun
    | some scheme =>
      obtain ⟨hn, htarget⟩ := ite_error_eq_ok_iff.mp htarget
      obtain ⟨found, ht, -⟩ := bind_eq_ok_iff.mp htarget
      obtain ⟨name, rfl, hname, hlen⟩ := exists_splitScheme_iff.mp ⟨scheme, hscheme⟩
      refine ⟨by omega, ⟨name, authority, target⟩, ?_, rfl⟩
      exact ⟨hname, hlen, ha, hn, exists_readTarget_iff.mp ⟨found, ht⟩, hstop⟩
  · rintro ⟨hl, p, hp, rfl⟩
    obtain ⟨scheme, hscheme⟩ := exists_splitScheme_iff.mpr ⟨p.scheme, rfl, hp.scheme, hp.length⟩
    obtain ⟨target, ht⟩ := exists_readTarget_iff.mpr hp.target
    refine ⟨⟨some scheme, p.authority, absolute target⟩, ?_, rfl⟩
    rw [ite_error_eq_ok_iff, ite_error_eq_ok_iff]
    refine ⟨by omega, by simp [Parts.joined], bind_eq_ok_iff.mpr ⟨_, hscheme, ?_⟩⟩
    refine bind_eq_ok_iff.mpr ⟨_, splitAuthority_eq_ok_iff.mpr ⟨rfl, hp.authority, hp.stop⟩, ?_⟩
    refine ite_error_eq_ok_iff.mpr ⟨hp.named, ?_⟩
    exact bind_eq_ok_iff.mpr ⟨target, ht, rfl⟩

/-- **What the client takes for a URI that it can ask for.** -/
theorem exists_refusal?_iff : (∃ uri, refusal? text none = .ok uri) ↔ IsAbsolute text := by
  rw [← exists_parse_iff]
  unfold refusal?
  cases parse text with
  | error fault => exact ⟨nofun, nofun⟩
  | ok uri =>
    cases hs : uri.scheme with
    | none => simp [hs]
    | some scheme => simp [hs]

end Courier.Http.Uri
