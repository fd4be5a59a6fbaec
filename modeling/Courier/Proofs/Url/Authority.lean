import Courier.Endpoint.Target
import Courier.Proofs.Results
import Courier.Proofs.Url.Address

/-!
# What a URL of the web says of its authority

A text that is a URL of the web and has nothing in it to trim or to leave out says what its scheme
is and where its authority begins. The authority names a host, and a port at most.

Results:

* `exists_readAuthority`: what a URL of the web is read as.
* `exists_host_port`: **what stands behind the user information** (`IsHost`, `IsPort`).
-/

namespace Courier.Url

open Courier.Text

variable {text host port name rest : List Char} {scheme : List Char} {url : Url}

/-! ## Hosts and ports -/

/-- The digits of a port behind their colon, or nothing. -/
def IsPort (text : List Char) : Prop :=
  text = [] ∨ ∃ digits, text = ':' :: digits ∧ ∀ c ∈ digits, isDigit c = true

theorem IsPort.not_mem_opening (h : IsPort text) : '[' ∉ text := by
  rcases h with rfl | ⟨digits, rfl, hd⟩
  · exact List.not_mem_nil
  · refine List.not_mem_cons_of_ne_of_not_mem (by decide) fun hm => ?_
    exact absurd (hd _ hm) (by decide)

/-- An address in brackets, or a text without a colon if there are no brackets in it. -/
structure IsHost (text : List Char) : Prop where
  named : text ≠ []
  bracketed {inner : List Char} (h : text = '[' :: inner) :
    ∃ address, inner = address ++ [']'] ∧ (∀ c ∈ address, Ipv6.IsWritten c) ∧
      address.count ':' ≤ 8
  colons (h : '[' ∉ text) : ':' ∉ text

theorem splitHost_spec (inBrackets : Bool) (text : List Char) :
    (splitHost inBrackets text).1 ++ (splitHost inBrackets text).2 = text ∧
      ∀ c ∈ (splitHost inBrackets text).2.head?, c = ':' := by
  fun_induction splitHost inBrackets text with
  | case1 => exact ⟨rfl, nofun⟩
  | case2 => exact ⟨rfl, by simp_all⟩
  | case3 inBrackets c rest _ next host left hs ih =>
    rw [hs] at ih
    exact ⟨congrArg (c :: ·) ih.1, ih.2⟩

/-- Without brackets the first colon ends the host. -/
theorem not_mem_splitHost (text : List Char) (h : '[' ∉ text) :
    ':' ∉ (splitHost false text).1 := by
  induction text with
  | nil => exact List.not_mem_nil
  | cons c rest ih =>
    obtain ⟨hc, hr⟩ : '[' ≠ c ∧ '[' ∉ rest := by simpa using h
    unfold splitHost
    by_cases hcolon : c = ':'
    · simp [hcolon]
    · have hn : (if c = '[' then true else if c = ']' then false else false) = false := by
        simp [Ne.symm hc]
      simp only [hcolon, hn, false_and, if_false]
      exact List.not_mem_cons_of_ne_of_not_mem (Ne.symm hcolon) (ih hr)

/-- What is parsed as an address in brackets is one. -/
theorem exists_address {inner : List Char} {parsed : Host}
    (h : Host.parse ('[' :: inner) = .ok parsed) :
    ∃ address, inner = address ++ [']'] ∧ (∀ c ∈ address, Ipv6.IsWritten c) ∧
      address.count ':' ≤ 8 := by
  unfold Host.parse Host.bracketed? at h
  simp only at h
  split at h
  · next hl =>
    split at h
    · next pieces hp =>
      obtain ⟨hw, hc⟩ := Ipv6.parse?_written hp
      exact ⟨inner.dropLast, (List.dropLast_append_getLast? _ hl).symm, hw, hc⟩
    · exact absurd h nofun
  · exact absurd h nofun

theorem isPort_of_readPort {digits : List Char} {found : Option Nat}
    (h : readPort scheme digits = .ok found) (hb : '\\' ∉ digits) : IsPort (':' :: digits) := by
  have ht : digits.takeWhile (· ≠ '\\') = digits :=
    List.takeWhile_eq_self_iff.mpr fun c hc => decide_eq_true fun he => hb (he ▸ hc)
  unfold readPort at h
  simp only [ht] at h
  split at h
  · next hd => exact .inr ⟨digits, rfl, List.all_eq_true.mp hd⟩
  · exact absurd h nofun

/-! ## Authorities -/

/-- What stands behind the last `@` of an authority. -/
theorem splitUserInfo_snd (authority : List Char) :
    (splitUserInfo authority).2 = authority.rtakeWhile (· ≠ '@') := by
  unfold splitUserInfo
  simp only
  split
  · next h => exact ((List.rtakeWhile_suffix _ authority).eq_of_length h).symm
  · rfl

/-- No backslash stands in the authority of a URL of the web. -/
theorem not_mem_rtakeWhile (text : List Char) :
    '\\' ∉ (text.takeWhile (!endsAuthority .web ·)).rtakeWhile (· ≠ '@') := by
  intro hb
  have hm := (List.rtakeWhile_suffix _ _).subset hb
  exact absurd (List.mem_takeWhile_imp hm) (by decide)

/-- **What stands behind the user information** of an authority: a host, and a port at most. -/
theorem exists_host_port (h : readAuthority scheme .web text = .ok url) :
    ∃ host port, (text.takeWhile (!endsAuthority .web ·)).rtakeWhile (· ≠ '@') = host ++ port ∧
      IsHost host ∧ IsPort port := by
  unfold readAuthority at h
  simp only at h
  -- A port ends at a backslash, but none comes as far as the port.
  have hback := not_mem_rtakeWhile text
  rw [← splitUserInfo_snd] at hback ⊢
  generalize (splitUserInfo (text.takeWhile (!endsAuthority .web ·))).2 = hostAndPort at h hback ⊢
  obtain ⟨-, h⟩ := ite_error_eq_ok_iff.mp h
  obtain ⟨hn, h⟩ := ite_error_eq_ok_iff.mp h
  rw [if_neg (by decide)] at h
  obtain ⟨parsed, hparse, h⟩ := bind_eq_ok_iff.mp h
  obtain ⟨hsplit, hcolon⟩ := splitHost_spec false hostAndPort
  have hfirst := not_mem_splitHost hostAndPort
  generalize splitHost false hostAndPort = parts at h hn hparse hsplit hcolon hfirst
  obtain ⟨host, port⟩ := parts
  have hport : IsPort port := by
    cases port with
    | nil => exact .inl rfl
    | cons mark digits =>
      obtain rfl : mark = ':' := hcolon mark rfl
      obtain ⟨-, h⟩ := ite_error_eq_ok_iff.mp h
      obtain ⟨found, hf, -⟩ := bind_eq_ok_iff.mp h
      refine isPort_of_readPort hf fun hb => hback ?_
      rw [← hsplit]
      exact List.mem_append_right _ (List.mem_cons_of_mem _ hb)
  refine ⟨host, port, hsplit.symm, ⟨by simpa using hn, ?_, fun hb => hfirst ?_⟩, hport⟩
  · rintro inner rfl
    exact exists_address hparse
  · rw [← hsplit]
    refine fun hm => (List.mem_append.mp hm).elim hb fun hm => ?_
    exact hport.not_mem_opening hm

/-! ## URLs -/

theorem scheme_of_readAuthority {kind : SchemeKind} (h : readAuthority scheme kind text = .ok url) :
    url.scheme = String.ofList scheme := by
  unfold readAuthority at h
  simp only at h
  obtain ⟨-, h⟩ := ite_error_eq_ok_iff.mp h
  obtain ⟨-, h⟩ := ite_error_eq_ok_iff.mp h
  -- The host is parsed in one of two ways, and what follows is the same.
  split at h
  all_goals
    obtain ⟨host, -, h⟩ := bind_eq_ok_iff.mp h
    split at h
    · obtain ⟨-, h⟩ := ite_error_eq_ok_iff.mp h
      cases h
      rfl
    · obtain ⟨-, h⟩ := ite_error_eq_ok_iff.mp h
      obtain ⟨port, -, h⟩ := bind_eq_ok_iff.mp h
      cases h
      rfl

theorem scheme_of_readFile (h : readFile scheme text = .ok url) :
    url.scheme = String.ofList scheme := by
  unfold readFile at h
  simp only at h
  split at h
  · split at h
    · split at h
      · cases h
        rfl
      · obtain ⟨host, -, h⟩ := bind_eq_ok_iff.mp h
        cases h
        rfl
    · cases h
      rfl
  · cases h
    rfl

/-- What a URL is read as. -/
theorem exists_scheme (h : parse text = .ok url) :
    ∃ scheme rest, scheme? (clean text) = some (scheme, rest) ∧
      url.scheme = String.ofList scheme ∧ (SchemeKind.of scheme = .web →
        readAuthority scheme .web (rest.dropWhile fun c => c = '/' || c = '\\') = .ok url) := by
  unfold parse at h
  split at h
  · exact absurd h nofun
  · next scheme rest hs =>
    refine ⟨scheme, rest, hs, ?_⟩
    split at h
    · next hk => exact ⟨scheme_of_readFile h, fun hw => absurd (hk.symm.trans hw) nofun⟩
    · exact ⟨scheme_of_readAuthority h, fun _ => h⟩
    · next hk =>
      refine ⟨?_, fun hw => absurd (hk.symm.trans hw) nofun⟩
      split at h
      · exact scheme_of_readAuthority h
      · cases h
        rfl

theorem exists_of_scheme? (h : scheme? text = some (scheme, rest)) :
    ∃ name, text = name ++ ':' :: rest ∧ (∀ c ∈ name, isSchemeChar c = true) ∧
      scheme = name.map Char.toLower := by
  unfold scheme? at h
  simp only at h
  split at h
  · next first more rest' hname hrest =>
    split at h
    · cases h
      refine ⟨text.takeWhile isSchemeChar, ?_, fun c hc => List.mem_takeWhile_imp hc, rfl⟩
      rw [← hrest, List.takeWhile_append_dropWhile]
    · exact absurd h nofun
  · exact absurd h nofun

/-- Nothing is set aside of a text without blanks and controls. -/
theorem clean_of_visible (h : ∀ c ∈ text, '!' ≤ c) : clean text = text := by
  have hpad : ∀ c ∈ text, isPadding c = false := fun c hc =>
    decide_eq_false (not_le.mpr (lt_of_lt_of_le (by decide : ' ' < '!') (h c hc)))
  have hskip : ∀ c ∈ text, (!isSkipped c) = true := by
    intro c hc
    have hv := h c hc
    rw [Bool.not_eq_true', Bool.eq_false_iff]
    intro hs
    simp only [isSkipped, Bool.or_eq_true, decide_eq_true_eq] at hs
    rcases hs with (rfl | rfl) | rfl <;> exact absurd hv (by decide)
  have hdrop {l : List Char} (hl : ∀ c ∈ l, isPadding c = false) : l.dropWhile isPadding = l :=
    List.dropWhile_eq_self_iff.mpr fun hn => by simp [hl _ (List.getElem_mem hn)]
  unfold clean
  rw [hdrop hpad, hdrop (by simpa using hpad), List.reverse_reverse]
  exact List.filter_eq_self.mpr hskip

/-- **What a URL of the web is read as.** -/
theorem exists_readAuthority {joined : List Char} (h : checkTarget text = .ok joined) :
    joined = text ∧ ∃ scheme rest url, scheme? (clean text) = some (scheme, rest) ∧
      (scheme = "http".toList ∨ scheme = "https".toList) ∧
      readAuthority scheme .web (rest.dropWhile fun c => c = '/' || c = '\\') = .ok url := by
  unfold checkTarget at h
  split at h
  · exact absurd h nofun
  · next url hp =>
    split at h
    · next hw =>
      cases h
      obtain ⟨scheme, rest, hs, hurl, hread⟩ := exists_scheme hp
      rw [hurl] at hw
      have hweb : scheme = "http".toList ∨ scheme = "https".toList := by
        refine hw.imp (fun he => ?_) fun he => ?_ <;> rw [← he, String.toList_ofList]
      refine ⟨rfl, scheme, rest, url, hs, hweb, hread ?_⟩
      rcases hweb with rfl | rfl <;> decide
    · exact absurd h nofun

end Courier.Url
