import Courier.Proofs.Text.Splitting
import Courier.Proofs.Url.Authority

/-!
# A path leaves the authority alone

A base URL that is a URL of the web on its own has all of its authority in it. What stands behind
it is read as part of the authority only up to the next slash, question mark, number sign or
backslash, and a path that begins with a slash ends it at once. Nor does it matter that one slash
goes where a base and a path meet: a base that ends with a slash has ended its authority with that
slash or before it, since a URL of the web without a host is none.

Results:

* `clean_append`: what is set aside of a text and of what stands behind it.
* `parse_append`: what stands behind a URL of the web stands behind what that is read as.
* `targetUrl_of_slash`: **a path that begins with a slash keeps the scheme, the user information,
  the host and the port of the base URL**, and what is joined is a URL.
-/

namespace Courier

namespace Url

open Courier.Text

variable {p : Char → Bool} {base text more rest : List Char} {scheme : List Char} {url : Url}
  {c : Char}

/-! ## Cleaning -/

/-- What is left behind a test ends as the text does, if the test does not hold for its end. -/
theorem getLast?_dropWhile (h : text.getLast? = some c) (hc : p c = false) :
    (text.dropWhile p).getLast? = some c := by
  obtain ⟨front, rfl⟩ := List.getLast?_eq_some_iff.mp h
  rw [List.dropWhile_append]
  split <;> simp [hc]

/-- A test from the end of a text does not come past a character that it does not hold for. -/
theorem rdropWhile_append (h : text.getLast? = some c) (hc : p c = false) (more : List Char) :
    (text ++ more).rdropWhile p = text ++ more.rdropWhile p := by
  induction more using List.reverseRecOn with
  | nil =>
    obtain ⟨front, rfl⟩ := List.getLast?_eq_some_iff.mp h
    simp [hc]
  | append_singleton more d ih =>
    rw [← List.append_assoc, List.rdropWhile_concat, List.rdropWhile_concat, ih]
    split <;> simp

/-- What is left of what stands behind a text: the padding at its end goes, and what is skipped. -/
def cleanEnd (more : List Char) : List Char :=
  (more.rdropWhile isPadding).filter (!isSkipped ·)

/-- A slash stays where it is. -/
theorem cleanEnd_slash (more : List Char) : cleanEnd ('/' :: more) = '/' :: cleanEnd more := by
  have hs : (['/'] ++ more).rdropWhile isPadding = ['/'] ++ more.rdropWhile isPadding :=
    rdropWhile_append rfl (by decide) more
  rw [cleanEnd, ← List.singleton_append, hs, List.filter_append]
  rfl

/-- Of a text that does not end with padding nothing is set aside at its end. -/
theorem clean_of_getLast? (h : base.getLast? = some c) (hc : isPadding c = false) :
    clean base = (base.dropWhile isPadding).filter (!isSkipped ·) := by
  have hself := rdropWhile_append (getLast?_dropWhile h hc) hc []
  simp only [List.append_nil, List.rdropWhile_nil] at hself
  exact congrArg (List.filter (!isSkipped ·)) hself

/-- **Nor when it goes on.** -/
theorem clean_append (h : base.getLast? = some c) (hc : isPadding c = false) (more : List Char) :
    clean (base ++ more) = clean base ++ cleanEnd more := by
  have hlast := getLast?_dropWhile h hc
  have hdrop : (base ++ more).dropWhile isPadding = base.dropWhile isPadding ++ more := by
    rw [List.dropWhile_append, if_neg]
    intro hn
    rw [List.isEmpty_iff.mp hn] at hlast
    cases hlast
  have hend : (base.dropWhile isPadding ++ more).rdropWhile isPadding = _ :=
    rdropWhile_append hlast hc more
  rw [clean_of_getLast? h hc, cleanEnd, ← List.filter_append, ← hend, ← hdrop]
  rfl

/-- A slash at the end stays there. -/
theorem getLast?_clean (h : base.getLast? = some '/') : (clean base).getLast? = some '/' := by
  obtain ⟨front, hf⟩ := List.getLast?_eq_some_iff.mp (getLast?_dropWhile (p := isPadding) h rfl)
  rw [clean_of_getLast? h rfl, hf, List.filter_append]
  simp [isSkipped]

/-! ## Authorities -/

/-- What an authority is read as does not depend on what follows it. -/
theorem readAuthority_of_takeWhile {text' : List Char}
    (h : readAuthority scheme .web text = .ok url)
    (ha : text'.takeWhile (!endsAuthority .web ·) = text.takeWhile (!endsAuthority .web ·)) :
    readAuthority scheme .web text' =
      .ok { url with rest := text'.dropWhile (!endsAuthority .web ·) } := by
  unfold readAuthority at h ⊢
  simp only [ha] at h ⊢
  generalize splitUserInfo (text.takeWhile (!endsAuthority .web ·)) = parts at h ⊢
  obtain ⟨user?, hostAndPort⟩ := parts
  simp only at h ⊢
  obtain ⟨-, h⟩ := ite_error_eq_ok_iff.mp h
  obtain ⟨hn, h⟩ := ite_error_eq_ok_iff.mp h
  -- There is a host, so that it does not matter whether anything follows.
  have hhost : hostAndPort ≠ [] := by
    rintro rfl
    exact hn ⟨rfl, trivial⟩
  rw [if_neg (fun hs => hhost hs.2.1), if_neg hn]
  rw [if_neg (by decide)] at h ⊢
  obtain ⟨host, hparse, h⟩ := bind_eq_ok_iff.mp h
  refine bind_eq_ok_iff.mpr ⟨host, hparse, ?_⟩
  cases hport : (splitHost false hostAndPort).2 with
  | nil =>
    rw [hport] at h
    obtain ⟨hu, h⟩ := ite_error_eq_ok_iff.mp h
    cases h
    exact if_neg hu
  | cons mark digits =>
    rw [hport] at h
    obtain ⟨hh, h⟩ := ite_error_eq_ok_iff.mp h
    obtain ⟨port, hd, h⟩ := bind_eq_ok_iff.mp h
    cases h
    exact (if_neg hh).trans (bind_eq_ok_iff.mpr ⟨port, hd, rfl⟩)

theorem rest_of_readAuthority (h : readAuthority scheme .web text = .ok url) :
    url.rest = text.dropWhile (!endsAuthority .web ·) := by
  have hself := readAuthority_of_takeWhile h rfl
  rw [h] at hself
  exact congrArg Url.rest (Except.ok.inj hself)

theorem ne_nil_of_readAuthority (h : readAuthority scheme .web text = .ok url) : text ≠ [] := by
  rintro rfl
  exact absurd h nofun

/-- An authority that has ended, or is ended by what follows, is read as it was. -/
theorem readAuthority_append (h : readAuthority scheme .web text = .ok url)
    (hm : text.getLast? = some '/' ∨ more.head? = some '/') :
    readAuthority scheme .web (text ++ more) = .ok { url with rest := url.rest ++ more } := by
  have hstop : ∀ c ∈ (text.dropWhile (!endsAuthority .web ·) ++ more).head?,
      (!endsAuthority .web c) = false := by
    cases hd : text.dropWhile (!endsAuthority .web ·) with
    | nil =>
      intro c hc
      rcases hm with hm | hm
      · have hlast := getLast?_dropWhile (p := (!endsAuthority .web ·)) hm rfl
        rw [hd] at hlast
        cases hlast
      · cases hc.symm.trans hm
        rfl
    | cons first others =>
      have hfirst : ∀ c ∈ (text.dropWhile (!endsAuthority .web ·)).head?,
          (!endsAuthority .web c) = false := stop_of_dropWhile
      rw [hd] at hfirst
      exact hfirst
  obtain ⟨htake, hdrop⟩ := takeWhile_append_of_behind hstop
  rw [readAuthority_of_takeWhile h htake, hdrop, rest_of_readAuthority h]

/-! ## URLs -/

theorem scheme?_append (h : scheme? text = some (scheme, rest)) (more : List Char) :
    scheme? (text ++ more) = some (scheme, rest ++ more) := by
  unfold scheme? at h ⊢
  simp only at h ⊢
  split at h
  · next first others rest' hname hrest =>
    obtain ⟨hletter, h⟩ := Option.ite_none_right_eq_some.mp h
    cases h
    have hstop : ∀ c ∈ (text.dropWhile isSchemeChar ++ more).head?, isSchemeChar c = false := by
      rw [hrest]
      rintro c ⟨⟩
      rfl
    obtain ⟨htake, hdrop⟩ := takeWhile_append_of_behind hstop
    rw [htake, hdrop, hname, hrest]
    exact if_pos hletter
  · exact absurd h nofun

/-- **What stands behind a URL of the web stands behind what that is read as**, if a slash keeps it
away from the authority. -/
theorem parse_append (h : parse base = .ok url) (hw : url.scheme = "http" ∨ url.scheme = "https")
    (hb : base.getLast? = some c) (hc : isPadding c = false)
    (hm : c = '/' ∨ more.head? = some '/') :
    parse (base ++ more) = .ok { url with rest := url.rest ++ cleanEnd more } := by
  obtain ⟨scheme, rest, hs, hurl, hread⟩ := exists_scheme h
  have hweb : SchemeKind.of scheme = .web := by
    unfold SchemeKind.of
    rw [← hurl]
    rcases hw with hw | hw <;> rw [hw] <;> rfl
  have hread := hread hweb
  obtain ⟨name, hname, -, -⟩ := exists_of_scheme? hs
  -- Behind the slashes before it there is an authority, which the base ends with or behind.
  have hne := ne_nil_of_readAuthority hread
  have hsuffix : rest.dropWhile (fun c => c = '/' || c = '\\') <:+ clean base := by
    rw [hname]
    exact (List.dropWhile_suffix _).trans ⟨name ++ [':'], by simp⟩
  have hend : (rest.dropWhile fun c => c = '/' || c = '\\').getLast? = some '/' ∨
      (cleanEnd more).head? = some '/' := by
    rcases hm with rfl | hm
    · obtain ⟨front, hf⟩ := hsuffix
      refine .inl ?_
      rw [← getLast?_clean hb, ← hf, List.getLast?_append_of_ne_nil _ hne]
    · obtain ⟨others, rfl⟩ := List.head?_eq_some_iff.mp hm
      rw [cleanEnd_slash]
      exact .inr rfl
  have hdrop : (rest ++ cleanEnd more).dropWhile (fun c => c = '/' || c = '\\') =
      rest.dropWhile (fun c => c = '/' || c = '\\') ++ cleanEnd more := by
    refine (takeWhile_append_of_behind ?_).2
    rw [List.head?_append_of_ne_nil _ hne]
    exact stop_of_dropWhile
  unfold parse
  rw [clean_append hb hc, scheme?_append hs]
  simp only [hweb, hdrop]
  exact readAuthority_append hread hend

end Url

/-! ## Endpoints -/

open Url

/-- Two URLs have the same scheme, user information, host and port. -/
structure Url.SameSite (a b : Url) : Prop where
  scheme : a.scheme = b.scheme
  userInfo : a.userInfo = b.userInfo
  host : a.host = b.host
  port : a.port = b.port

/-- Two texts are joined by putting the second behind the first, less its slash if the first ends
with one. -/
theorem exists_join (base : List Char) {path : List Char} (h : path.head? = some '/') :
    ∃ more, join base path = base ++ more ∧
      (base.getLast? = some '/' ∨ more.head? = some '/') := by
  obtain ⟨rest, rfl⟩ := List.head?_eq_some_iff.mp h
  by_cases hb : base.getLast? = some '/'
  · exact ⟨rest, if_pos hb, .inl hb⟩
  · exact ⟨'/' :: rest, if_neg hb, .inr rfl⟩

/-- **A path that begins with a slash leads to no other authority**, whatever follows the slash: if
the base URL is a URL of the web on its own and does not end with a blank or a control, the endpoint
has a URL, with the scheme, the user information, the host and the port of the base URL. -/
theorem targetUrl_of_slash {e : Endpoint} {url : Url} (h : parse e.baseUrl.toList = .ok url)
    (hw : url.scheme = "http" ∨ url.scheme = "https")
    (hb : ∀ c ∈ e.baseUrl.toList.getLast?, isPadding c = false)
    (hp : e.path.toList.head? = some '/') :
    ∃ joined url', e.targetUrl = .ok joined ∧ parse joined = .ok url' ∧ SameSite url url' := by
  have hne : e.baseUrl.toList ≠ [] := fun hn => by
    rw [hn] at h
    exact absurd h nofun
  obtain ⟨c, hc⟩ := Option.ne_none_iff_exists'.mp (mt List.getLast?_eq_none_iff.mp hne)
  obtain ⟨more, hj, hm⟩ := exists_join e.baseUrl.toList hp
  have hseam : c = '/' ∨ more.head? = some '/' :=
    hm.imp_left fun hl => Option.some.inj (hc.symm.trans hl)
  have hparse := parse_append h hw hc (hb c hc) hseam
  rw [← hj] at hparse
  refine ⟨_, _, ?_, hparse, ⟨rfl, rfl, rfl, rfl⟩⟩
  have hpath : e.path.toList ≠ [] := fun hn => by
    rw [hn] at hp
    cases hp
  unfold Endpoint.targetUrl Courier.targetUrl
  rw [if_neg hne, if_neg hpath, checkTarget, hparse]
  exact if_pos hw

/-- An address with a user and a port, and a path that looks like another authority. -/
theorem targetUrl_of_slashes :
    let e := Endpoint.of "http://a:b@[::1]:81/" "//c@[::2]:82\\..\t# "
    let url : Url := ⟨"http", "a:b".toList, some (.ipv6 [0, 0, 0, 0, 0, 0, 0, 1]), some 81, ['/']⟩
    parse e.baseUrl.toList = .ok url ∧ (url.scheme = "http" ∨ url.scheme = "https") ∧
      (∀ c ∈ e.baseUrl.toList.getLast?, isPadding c = false) ∧ e.path.toList.head? = some '/' ∧
      ∃ joined url', e.targetUrl = .ok joined ∧ parse joined = .ok url' ∧ SameSite url url' := by
  intro e url
  have hparse : parse e.baseUrl.toList = .ok url := by cbv
  have hlast : e.baseUrl.toList.getLast? = some '/' := by cbv
  have hb : ∀ c ∈ e.baseUrl.toList.getLast?, isPadding c = false := by
    rw [hlast]
    rintro c ⟨⟩
    rfl
  have hpath : e.path.toList.head? = some '/' := by cbv
  exact ⟨hparse, .inl rfl, hb, hpath, targetUrl_of_slash hparse (.inl rfl) hb hpath⟩

end Courier
