import Courier.Proofs.Http.Grammar
import Courier.Proofs.Url.Authority

/-!
# Where a valid URL is one that the client takes

A URL of the web is found valid by other rules than those of the client, but both agree on what is
plainly spelled: a scheme before `://`, user information and a host in the characters that stand for
themselves, or an address in brackets, and a path and a query in theirs.

Results:

* `Follows.of_known`, `Follows.append`: what may follow the front of an authority.
* `isAuthority_of_name`, `isAuthority_of_address`: how an authority is put together.
* `isAbsolute_of_isPlain`: **a valid URL that is plainly spelled is taken by the client**.
-/

namespace Courier.Http.Uri

open Courier.Text

variable {text base more front : List Char} {c : Char}

/-! ## Following -/

/-- Each character of a text may follow what is before it, if the text follows a base. -/
def Follows (base text : List Char) : Prop :=
  ∀ front c, front ++ [c] <+: text → MayFollow (base ++ front) c

theorem Follows.append (h : Follows base text) (hm : Follows (base ++ text) more) :
    Follows base (text ++ more) := by
  intro front c hp
  rcases List.prefix_or_prefix_of_prefix hp (List.prefix_append text more) with hp' | ht
  · exact h front c hp'
  · rcases List.prefix_concat_iff.mp ht with rfl | ⟨rest, rfl⟩
    · exact h front c (List.prefix_refl _)
    · rw [List.append_assoc, List.prefix_append_right_inj] at hp
      rw [← List.append_assoc]
      exact hm rest c hp

theorem Follows.cons (h : MayFollow base c) (hm : Follows (base ++ [c]) text) :
    Follows base (c :: text) := by
  have hc : Follows base [c] := by
    intro front d hp
    rw [← List.nil_append [c]] at hp
    rcases List.prefix_concat_iff.mp hp with he | hp
    · obtain ⟨rfl, rfl⟩ := List.append_singleton_inj.mp he
      rwa [List.append_nil]
    · simp at hp
  exact hc.append hm

theorem tail_append_of_no_seam (h : ∀ c ∈ text, isSeam c = false) :
    tail (base ++ text) = tail base ++ text := by
  induction text using List.reverseRecOn with
  | nil => rw [List.append_nil, List.append_nil]
  | append_singleton text c ih =>
    have hc := h c (List.mem_append_right _ List.mem_cons_self)
    rw [← List.append_assoc, tail_append _ hc, ih fun d hd => h d (List.mem_append_left _ hd),
      List.append_assoc]

/-- A seam may only leave colons behind. -/
theorem count_tail_append_le (base text : List Char) :
    (tail (base ++ text)).count ':' ≤ (tail base).count ':' + text.count ':' := by
  induction text using List.reverseRecOn with
  | nil => simp
  | append_singleton text c ih =>
    rw [← List.append_assoc, List.count_append]
    cases hs : isSeam c with
    | true =>
      rw [tail_append_of_seam _ hs]
      exact Nat.zero_le _
    | false =>
      rw [tail_append _ hs, List.count_append]
      omega

/-- Characters that open and close nothing may follow anything if there are few colons. -/
theorem Follows.of_known
    (hk : ∀ c ∈ text, isAuthorityChar c = true ∨ c = ':' ∨ c = '@' ∨ c = '%')
    (hc : (tail base).count ':' + text.count ':' ≤ 8) : Follows base text := by
  intro front c hp
  have hm : c ∈ text := hp.subset (List.mem_append_right _ List.mem_cons_self)
  have hbracket : c ≠ '[' ∧ c ≠ ']' := by
    constructor <;> rintro rfl <;> exact absurd (hk _ hm) (by decide)
  refine ⟨?_, ?_, fun h => absurd h hbracket.1, fun h => absurd h hbracket.2⟩
  · refine (hk c hm).imp_right fun h => isMark_iff.mpr ?_
    tauto
  · rintro rfl
    have hcount := hp.sublist.count_le ':'
    rw [List.count_append, List.count_singleton_self] at hcount
    have htail := count_tail_append_le base front
    omega

/-! ## Authorities -/

/-- What stands behind the last seam decides how an authority may end. -/
theorem isAuthority_of_tail (hf : Follows [] (base ++ text))
    (hb : '[' ∈ base ++ text ↔ ']' ∈ base ++ text) (ht : tail base = [])
    (hk : ∀ c ∈ text, isAuthorityChar c = true ∨ c = ':') (hc : text.count ':' ≤ 1)
    (hl : text = [] → base.getLast? ≠ some '@') : IsAuthority (base ++ text) := by
  have htail : tail (base ++ text) = text := by
    rw [tail_append_of_no_seam, ht, List.nil_append]
    intro c hm
    refine Bool.eq_false_iff.mpr fun hs => ?_
    simp only [isSeam, Bool.or_eq_true, decide_eq_true_eq] at hs
    rcases hs with rfl | rfl <;> exact absurd (hk _ hm) (by decide)
  refine ⟨hf, hb, by rwa [htail], ?_, fun he => ?_⟩
  · rw [htail]
    exact fun hm => absurd (hk _ hm) (by decide)
  by_cases hn : text = []
  · subst hn
    rw [List.append_nil] at he
    exact hl rfl he
  · rw [List.getLast?_append_of_ne_nil _ hn] at he
    exact absurd (hk _ (List.mem_of_getLast? he)) (by decide)

theorem count_port_le (h : Url.IsPort text) : text.count ':' ≤ 1 := by
  rcases h with rfl | ⟨digits, rfl, hd⟩
  · exact Nat.zero_le 1
  · have hz : digits.count ':' = 0 := List.count_eq_zero.mpr fun hm => absurd (hd _ hm) (by decide)
    rw [List.count_cons_self, hz]

theorem known_of_isPort (h : Url.IsPort text) : ∀ c ∈ text, isAuthorityChar c = true ∨ c = ':' := by
  rcases h with rfl | ⟨digits, rfl, hd⟩
  · exact nofun
  · refine List.forall_mem_cons.mpr ⟨.inr rfl, fun c hc => .inl ?_⟩
    simp [isAuthorityChar, isAlphanumeric, hd c hc]

theorem known_of_isWritten (h : Url.Ipv6.IsWritten c) : isAuthorityChar c = true ∨ c = ':' := by
  rcases h with h | rfl | rfl
  · left
    have hf : c ≤ 'f' → c ≤ 'z' := fun h => h.trans (by decide)
    have hF : c ≤ 'F' → c ≤ 'Z' := fun h => h.trans (by decide)
    simp only [hexDigit?] at h
    split at h
    · next hd => simp [isAuthorityChar, isAlphanumeric, isDigit, hd]
    · split at h
      · next hd => simp [isAuthorityChar, isAlphanumeric, hd.1, hf hd.2]
      · split at h
        · next hd => simp [isAuthorityChar, isAlphanumeric, hd.1, hF hd.2]
        · cases h
  · exact .inr rfl
  · exact .inl (by decide)

/-- User information with its mark, if there is any. -/
structure IsUserInfo (text : List Char) : Prop where
  known : ∀ c ∈ text, isAuthorityChar c = true ∨ c = ':' ∨ c = '@' ∨ c = '%'
  last : text = [] ∨ text.getLast? = some '@'
  colons : text.count ':' ≤ 8

theorem IsUserInfo.tail (h : IsUserInfo text) : tail text = [] := by
  rcases h.last with rfl | hl
  · rfl
  · obtain ⟨front, rfl⟩ := List.getLast?_eq_some_iff.mp hl
    exact tail_append_of_seam front rfl

theorem IsUserInfo.not_mem (h : IsUserInfo text) : '[' ∉ text ∧ ']' ∉ text :=
  ⟨fun hm => absurd (h.known _ hm) (by decide), fun hm => absurd (h.known _ hm) (by decide)⟩

theorem IsUserInfo.follows (h : IsUserInfo text) : Follows [] text :=
  .of_known h.known (by simpa [Uri.tail] using h.colons)

variable {userInfo host port : List Char}

/-- A name with its port makes an authority. -/
theorem isAuthority_of_name (hu : IsUserInfo userInfo) (hn : text ≠ [])
    (hk : ∀ c ∈ text, isAuthorityChar c = true ∨ c = ':') (hc : text.count ':' ≤ 1) :
    IsAuthority (userInfo ++ text) := by
  have hfollow : Follows userInfo text := by
    refine .of_known (fun c hm => (hk c hm).imp_right .inl) ?_
    rw [hu.tail]
    exact Nat.le_trans (by simpa using hc) (by decide : 1 ≤ 8)
  have hbrackets : '[' ∉ userInfo ++ text ∧ ']' ∉ userInfo ++ text := by
    refine ⟨fun hm => ?_, fun hm => ?_⟩
    · exact (List.mem_append.mp hm).elim hu.not_mem.1 fun hm => absurd (hk _ hm) (by decide)
    · exact (List.mem_append.mp hm).elim hu.not_mem.2 fun hm => absurd (hk _ hm) (by decide)
  exact isAuthority_of_tail (hu.follows.append hfollow)
    ⟨fun h => absurd h hbrackets.1, fun h => absurd h hbrackets.2⟩ hu.tail hk hc
    fun h => absurd h hn

/-- So does an address in brackets. -/
theorem isAuthority_of_address {address : List Char} (hu : IsUserInfo userInfo)
    (hw : ∀ c ∈ address, Url.Ipv6.IsWritten c) (hc : address.count ':' ≤ 8) (hp : Url.IsPort port) :
    IsAuthority (userInfo ++ '[' :: (address ++ ']' :: port)) := by
  have hk : ∀ c ∈ address, isAuthorityChar c = true ∨ c = ':' := fun c hm =>
    known_of_isWritten (hw c hm)
  have hclosed : ']' ∉ userInfo ++ '[' :: address := by
    intro hm
    rcases List.mem_append.mp hm with hm | hm
    · exact hu.not_mem.2 hm
    · rcases List.mem_cons.mp hm with hm | hm
      · exact absurd hm (by decide)
      · exact absurd (hk _ hm) (by decide)
  have hseam : tail (userInfo ++ '[' :: address ++ [']']) = [] := tail_append_of_seam _ rfl
  have hopening : MayFollow userInfo '[' :=
    mayFollow_opening_iff.mpr ⟨by simp [hu.tail], hu.not_mem.1⟩
  have haddress : Follows (userInfo ++ ['[']) address := by
    refine .of_known (fun c hm => (hk c hm).imp_right .inl) ?_
    rw [tail_append _ rfl, hu.tail]
    simpa using hc
  have hclosing : MayFollow (userInfo ++ '[' :: address) ']' :=
    mayFollow_closing_iff.mpr ⟨by simp, hclosed⟩
  have hport : Follows (userInfo ++ '[' :: address ++ [']']) port := by
    refine .of_known (fun c hm => (known_of_isPort hp c hm).imp_right .inl) ?_
    rw [hseam]
    exact Nat.le_trans (by simpa using count_port_le hp) (by decide : 1 ≤ 8)
  have hfollow : Follows [] (userInfo ++ '[' :: (address ++ ']' :: port)) := by
    refine hu.follows.append (.cons hopening (haddress.append (.cons ?_ ?_)))
    · simpa using hclosing
    · simpa using hport
  -- The bracket that closes is the last seam, so that only the port counts for the end.
  have htext : userInfo ++ '[' :: (address ++ ']' :: port) =
      userInfo ++ '[' :: address ++ [']'] ++ port := by simp
  rw [htext] at hfollow ⊢
  refine isAuthority_of_tail hfollow ?_ hseam (known_of_isPort hp) (count_port_le hp) fun _ => ?_
  · simp
  · rw [List.getLast?_concat]
    decide

/-- The scheme, the user information with its mark, the host with its port, and the rest. -/
structure Spelling where
  scheme : List Char
  userInfo : List Char
  host : List Char
  target : List Char

/-- The parts put together. -/
def Spelling.joined (s : Spelling) : List Char :=
  s.scheme ++ ':' :: '/' :: '/' :: (s.userInfo ++ s.host ++ s.target)

/-- Each part is spelled with characters that the client takes there, and nothing is to be trimmed
or left out. -/
structure Spelling.IsPlain (s : Spelling) : Prop where
  scheme : ':' ∉ s.scheme
  userInfo : IsUserInfo s.userInfo
  named : s.host ≠ []
  host : ∀ c ∈ s.host, isAuthorityChar c = true ∨ c = ':' ∨ c = '[' ∨ c = ']'
  brackets : s.host.head? = some '[' ∨ '[' ∉ s.host ∧ ']' ∉ s.host
  target : IsTarget s.target
  stop : ∀ c ∈ s.target.head?, endsAuthority c = true
  visible : ∀ c ∈ s.joined, '!' ≤ c
  length : Utf8.size s.joined ≤ 65534

variable {s : Spelling}

/-- There is one place where a mark first stands. -/
theorem eq_of_first {mark : Char} {front front' rest rest' : List Char}
    (h : front ++ mark :: rest = front' ++ mark :: rest') (hf : mark ∉ front)
    (hf' : mark ∉ front') : front = front' ∧ rest = rest' := by
  have hsplit (front rest : List Char) (hf : mark ∉ front) :
      (front ++ mark :: rest).takeWhile (· ≠ mark) = front ∧
        (front ++ mark :: rest).dropWhile (· ≠ mark) = mark :: rest :=
    takeWhile_append_of_stop (fun c hc => decide_eq_true fun he => hf (he ▸ hc))
      fun c hc => by simpa using (Option.some.inj hc).symm
  obtain ⟨hl, hl'⟩ := hsplit front rest hf
  obtain ⟨hr, hr'⟩ := hsplit front' rest' hf'
  rw [h] at hl hl'
  exact ⟨hl.symm.trans hr, (List.cons.inj (hl'.symm.trans hr')).2⟩

/-- The text behind the last of some characters. -/
theorem rtakeWhile_append_of_stop {p : Char → Bool} {front rest : List Char}
    (hr : ∀ c ∈ rest, p c = true) (hf : ∀ c ∈ front.getLast?, p c = false) :
    (front ++ rest).rtakeWhile p = rest := by
  have hstop : (rest.reverse ++ front.reverse).takeWhile p = rest.reverse :=
    (takeWhile_append_of_stop (by simpa using hr) (by simpa using hf)).1
  unfold List.rtakeWhile
  rw [List.reverse_append, hstop, List.reverse_reverse]

/-- Nothing of an authority that is plainly spelled ends one. -/
theorem Spelling.IsPlain.not_endsAuthority (hs : s.IsPlain) :
    ∀ c ∈ s.userInfo ++ s.host, Url.endsAuthority .web c = false := by
  intro c hm
  refine Bool.eq_false_iff.mpr fun he => ?_
  have hc : c = '/' ∨ c = '?' ∨ c = '#' ∨ c = '\\' := by
    simpa [Url.endsAuthority, or_assoc] using he
  rcases List.mem_append.mp hm with hm | hm
  · have hk := hs.userInfo.known c hm
    rcases hc with rfl | rfl | rfl | rfl <;> exact absurd hk (by decide)
  · have hk := hs.host c hm
    rcases hc with rfl | rfl | rfl | rfl <;> exact absurd hk (by decide)

/-- What stands between the slashes and the rest is the authority. -/
theorem Spelling.IsPlain.takeWhile (hs : s.IsPlain) :
    (('/' :: '/' :: (s.userInfo ++ s.host ++ s.target)).dropWhile fun c =>
      c = '/' || c = '\\').takeWhile (!Url.endsAuthority .web ·) = s.userInfo ++ s.host := by
  have hends := hs.not_endsAuthority
  have hslashes : ∀ c ∈ ['/', '/'], (decide (c = '/') || decide (c = '\\')) = true := by simp
  have hfirst : ∀ c ∈ (s.userInfo ++ s.host ++ s.target).head?,
      (decide (c = '/') || decide (c = '\\')) = false := by
    intro c hc
    rw [List.head?_append_of_ne_nil _ (by simp [hs.named])] at hc
    have hn := hends c (List.mem_of_head? hc)
    simp only [Url.endsAuthority, Bool.or_eq_false_iff] at hn
    simpa [hn.1.1.1] using hn.2
  have hdrop : ('/' :: '/' :: (s.userInfo ++ s.host ++ s.target)).dropWhile
      (fun c => c = '/' || c = '\\') = s.userInfo ++ s.host ++ s.target :=
    (takeWhile_append_of_stop hslashes hfirst).2
  have hstop : ∀ c ∈ s.target.head?, (!Url.endsAuthority .web c) = false := by
    intro c hc
    have he := hs.stop c hc
    simp only [endsAuthority, Bool.or_eq_true, decide_eq_true_eq] at he
    rcases he with (rfl | rfl) | rfl <;> decide
  rw [hdrop]
  exact (takeWhile_append_of_stop (fun c hc => by simp [hends c hc]) hstop).1

/-- What stands behind the user information is the host with its port. -/
theorem Spelling.IsPlain.rtakeWhile (hs : s.IsPlain) :
    (s.userInfo ++ s.host).rtakeWhile (· ≠ '@') = s.host := by
  refine rtakeWhile_append_of_stop (fun c hm => decide_eq_true ?_) fun c hc => ?_
  · rintro rfl
    exact absurd (hs.host _ hm) (by decide)
  · rcases hs.userInfo.last with he | hl
    · simp [he] at hc
    · obtain rfl := Option.some.inj (hl.symm.trans hc)
      decide

theorem isSchemeChar_of_url (h : Url.isSchemeChar c = true) : isSchemeChar c = true := by
  simp only [Url.isSchemeChar, Url.isLetter, Bool.or_eq_true] at h
  simp only [isSchemeChar, isAlphanumeric, Bool.or_eq_true]
  tauto

/-- The scheme, the host and the port of a valid URL that is plainly spelled. -/
theorem Spelling.IsPlain.exists_host_port (hs : s.IsPlain) {url : List Char}
    (h : checkTarget s.joined = .ok url) :
    (∀ c ∈ s.scheme, isSchemeChar c = true) ∧ s.scheme.length ≤ 64 ∧
      ∃ host port, s.host = host ++ port ∧ Url.IsHost host ∧ Url.IsPort port := by
  -- Nothing is trimmed, so the scheme that was found valid is the one that is written.
  obtain ⟨-, scheme, rest, found, hscheme, hweb, hread⟩ := Url.exists_readAuthority h
  rw [Url.clean_of_visible hs.visible] at hscheme
  obtain ⟨name, he, hname, rfl⟩ := Url.exists_of_scheme? hscheme
  have hcolon : ':' ∉ name := fun hm => absurd (hname _ hm) (by decide)
  obtain ⟨rfl, rfl⟩ := eq_of_first he hs.scheme hcolon
  refine ⟨fun c hm => isSchemeChar_of_url (hname c hm), ?_, ?_⟩
  · rw [← List.length_map (f := Char.toLower)]
    rcases hweb with hw | hw <;> rw [hw] <;> decide
  · obtain ⟨host, port, hsplit, hhost, hport⟩ := Url.exists_host_port hread
    rw [hs.takeWhile, hs.rtakeWhile] at hsplit
    exact ⟨host, port, hsplit, hhost, hport⟩

theorem Spelling.IsPlain.isAuthority (hs : s.IsPlain) {url : List Char}
    (h : checkTarget s.joined = .ok url) : IsAuthority (s.userInfo ++ s.host) := by
  obtain ⟨-, -, host, port, he, hhost, hport⟩ := hs.exists_host_port h
  rcases hs.brackets with hb | ⟨hopen, hclose⟩
  · obtain ⟨inner, rfl⟩ : ∃ inner, host = '[' :: inner := by
      cases host with
      | nil => exact absurd rfl hhost.named
      | cons c inner =>
        rw [he] at hb
        exact ⟨inner, congrArg (· :: inner) (Option.some.inj hb)⟩
    obtain ⟨address, rfl, hw, hc⟩ := hhost.bracketed rfl
    have ha := isAuthority_of_address hs.userInfo hw hc hport
    simpa [he] using ha
  · refine isAuthority_of_name hs.userInfo hs.named (fun c hm => ?_) ?_
    · rcases hs.host c hm with hk | hk | rfl | rfl
      · exact .inl hk
      · exact .inr hk
      · exact absurd hm hopen
      · exact absurd hm hclose
    · rw [he] at hopen ⊢
      have hz : host.count ':' = 0 := List.count_eq_zero.mpr <|
        hhost.colons fun hm => hopen (List.mem_append_left _ hm)
      rw [List.count_append, hz, Nat.zero_add]
      exact count_port_le hport

/-- **A valid URL that is plainly spelled is taken by the client.** -/
theorem isAbsolute_of_isPlain {url : List Char} (h : checkTarget s.joined = .ok url)
    (hs : s.IsPlain) : IsAbsolute s.joined := by
  obtain ⟨hscheme, hlength, -⟩ := hs.exists_host_port h
  refine ⟨hs.length, ⟨s.scheme, s.userInfo ++ s.host, s.target⟩, ?_, rfl⟩
  exact ⟨hscheme, hlength, hs.isAuthority h, by simp [hs.named], hs.target, hs.stop⟩

example : IsAbsolute "http://u@[::1]/a?b".toList := by
  have h : checkTarget (Spelling.joined ⟨"http".toList, ['u', '@'], ['[', ':', ':', '1', ']'],
      ['/', 'a', '?', 'b']⟩) = .ok "http://u@[::1]/a?b".toList := by cbv
  have huser : IsUserInfo ['u', '@'] :=
    ⟨List.forall_iff_forall_mem.mp (by decide), by decide, by decide⟩
  have hquery : IsQuery ['b'] :=
    ⟨['b'], [], rfl, List.forall_iff_forall_mem.mp (by decide), nofun⟩
  have htarget : IsTarget ['/', 'a', '?', 'b'] :=
    ⟨['/', 'a'], ['?', 'b'], rfl, List.forall_iff_forall_mem.mp (by decide), .inr ⟨_, rfl, hquery⟩⟩
  exact isAbsolute_of_isPlain h ⟨by decide, huser, by decide,
    List.forall_iff_forall_mem.mp (by decide), by decide, htarget, by simp [endsAuthority],
    List.forall_iff_forall_mem.mp (by decide), by decide⟩

end Courier.Http.Uri
