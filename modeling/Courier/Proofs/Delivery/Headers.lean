import Courier.Proofs.Decimal.Characters
import Courier.Proofs.Delivery.Wire
import Courier.Proofs.Http.Grammar

/-!
# The headers of a POST

Neither the URL nor the token nor the body can add a header to a POST, take one away, or break out
of its line.

Results:

* `isClean_of_parse` — nothing in a URI that is read breaks out of where it is written.
* `isField_of_mem_headersOf` — the headers of a request stay in their lines.
* `isPost_post` — **a POST has its body, its headers and no others** (`Request.IsPost`).
* `posts_of_deliver`, `exists_refused_of_unfit` — so has each that a delivery sends, and with a
  token that may not stand in a header it is refused.
-/

namespace Courier.Http

open Courier.Text Courier.Text.Utf8 Courier.Decimal

variable {text authority rest target : List Char} {uri : Uri} {c : Char}

/-! ## The characters of URIs -/

/-- A character of ASCII that is seen. -/
def IsVisible (c : Char) : Prop :=
  0x21 ≤ c.toNat ∧ c.toNat ≤ 0x7E

instance : DecidablePred IsVisible := fun _ => inferInstanceAs (Decidable (_ ∧ _))

/-- A URI whose authority is seen and whose target has no blanks and controls of ASCII. -/
structure Uri.IsClean (uri : Uri) : Prop where
  authority : ∀ c ∈ uri.authority, IsVisible c
  target : ∀ c ∈ uri.target, 0x21 ≤ c.toNat

theorem isVisible_of_isAuthorityChar (h : Uri.isAuthorityChar c = true) : IsVisible c := by
  have hc : c.toNat < 0x80 := by
    simp only [Uri.isAuthorityChar, Uri.isAlphanumeric, isDigit, Bool.or_eq_true,
      Bool.and_eq_true, decide_eq_true_eq, List.contains_iff_mem] at h
    rcases h with ((⟨_, h⟩ | ⟨_, h⟩) | ⟨_, h⟩) | h
    · exact Nat.lt_of_le_of_lt h (by decide)
    · exact Nat.lt_of_le_of_lt h (by decide)
    · exact Nat.lt_of_le_of_lt h (by decide)
    · have hall : ['!', '$', '&', '\'', '(', ')', '*', '+', ',', '-', '.', ';', '=', '_', '~'].all
          (·.toNat < 0x80) = true := rfl
      exact of_decide_eq_true (List.all_eq_true.mp hall c h)
  have hall : ∀ n : Fin 0x80, Uri.isAuthorityChar (Char.ofNat n) = true →
      0x21 ≤ n.1 ∧ n.1 ≤ 0x7E := by
    decide +kernel
  have hn := hall ⟨c.toNat, hc⟩
  rw [Char.ofNat_toNat] at hn
  exact hn h

theorem isVisible_of_isMark (h : Uri.isMark c = true) : IsVisible c := by
  rcases Uri.isMark_iff.mp h with rfl | rfl | rfl | rfl | rfl <;> decide

theorem isVisible_of_splitAuthority (h : Uri.splitAuthority text = .ok (authority, rest)) :
    ∀ c ∈ authority, IsVisible c := by
  obtain ⟨-, ha, -⟩ := Uri.splitAuthority_eq_ok_iff.mp h
  exact fun c hc => (ha.known c hc).elim isVisible_of_isAuthorityChar isVisible_of_isMark

/-- A character that may stand in a path or a query is no blank and no control of ASCII. -/
theorem le_of_isPathChar (h : Uri.isPathChar c = true) : 0x21 ≤ c.toNat :=
  of_decide_eq_true (Bool.and_eq_true_iff.mp h).1

theorem le_of_isQueryChar (h : Uri.isQueryChar c = true) : 0x21 ≤ c.toNat :=
  of_decide_eq_true (Bool.and_eq_true_iff.mp h).1

theorem le_of_readQuery (h : Uri.readQuery text = .ok target) : ∀ c ∈ target, 0x21 ≤ c.toNat := by
  unfold Uri.readQuery at h
  simp only at h
  split at h
  · rename_i hall
    cases h
    exact fun c hc => le_of_isQueryChar (List.all_eq_true.mp hall c hc)
  · exact absurd h nofun

theorem le_of_readTarget (h : Uri.readTarget text = .ok target) :
    ∀ c ∈ target, 0x21 ≤ c.toNat := by
  induction text generalizing target with
  | nil =>
    cases h
    exact nofun
  | cons first rest ih =>
    unfold Uri.readTarget at h
    split at h
    · cases h
      exact nofun
    · split at h
      · obtain ⟨query, hq, rfl⟩ := map_eq_ok_iff.mp h
        exact List.forall_mem_cons.mpr ⟨by decide, le_of_readQuery hq⟩
      · split at h
        · rename_i hpath
          obtain ⟨more, hm, rfl⟩ := map_eq_ok_iff.mp h
          exact List.forall_mem_cons.mpr ⟨le_of_isPathChar hpath, ih hm⟩
        · cases h

theorem le_of_absolute (h : ∀ c ∈ target, 0x21 ≤ c.toNat) :
    ∀ c ∈ Uri.absolute target, 0x21 ≤ c.toNat := by
  unfold Uri.absolute
  split
  · exact h
  · exact List.forall_mem_cons.mpr ⟨by decide, h⟩

/-- **Nothing in a URI that is read breaks out of where it is written.** -/
theorem isClean_of_parse (h : Uri.parse text = .ok uri) : uri.IsClean := by
  unfold Uri.parse at h
  split at h
  · exact absurd h nofun
  · split at h
    · exact absurd h nofun
    · obtain ⟨⟨scheme, rest⟩, _, h⟩ := bind_eq_ok_iff.mp h
      obtain ⟨⟨authority, rest'⟩, ha, h⟩ := bind_eq_ok_iff.mp h
      have hv := isVisible_of_splitAuthority ha
      cases scheme with
      | none =>
        simp only at h
        split at h
        · cases h
          exact ⟨hv, nofun⟩
        · exact absurd h nofun
      | some scheme =>
        simp only at h
        split at h
        · exact absurd h nofun
        · obtain ⟨target, ht, h⟩ := bind_eq_ok_iff.mp h
          cases h
          exact ⟨hv, le_of_absolute (le_of_readTarget ht)⟩

/-! ## Headers stay in their lines -/

variable {value : List Char} {name : String} {token : Option (List Char)} {body : List Char}

theorem isBlank_eq_false_of_isVisible (h : IsVisible c) : isBlank c = false := by
  refine Bool.eq_false_iff.mpr fun hb => ?_
  simp only [isBlank, Bool.or_eq_true, decide_eq_true_eq] at hb
  rcases hb with rfl | rfl
  · exact absurd h.1 (by decide)
  · exact absurd h.1 (by decide)

/-- A value without blanks is trimmed. -/
theorem trimValue_of_isVisible (h : ∀ c ∈ value, IsVisible c) : trimValue value = value := by
  have hd : value.dropWhile isBlank = value := by
    cases value with
    | nil => rfl
    | cons first rest =>
      have hf := isBlank_eq_false_of_isVisible (h first List.mem_cons_self)
      exact List.dropWhile_cons_of_neg (by simp [hf])
  rw [trimValue_eq, hd, List.rdropWhile_eq_self_iff]
  intro hne hb
  have hl := isBlank_eq_false_of_isVisible (h _ (List.getLast_mem hne))
  exact absurd (hl.symm.trans hb) nofun

/-- A value that is trimmed is trimmed once and for all. -/
theorem trimValue_trimValue (value : List Char) :
    trimValue (trimValue value) = trimValue value := by
  have hd : (trimValue value).dropWhile isBlank = trimValue value := by
    rw [trimValue_eq]
    have hh := List.head?_dropWhile_not isBlank value
    cases hu : (value.dropWhile isBlank).rdropWhile isBlank with
    | nil => rfl
    | cons first rest =>
      obtain ⟨more, hm⟩ := List.rdropWhile_prefix isBlank (l := value.dropWhile isBlank)
      rw [hu] at hm
      rw [← hm] at hh
      exact List.dropWhile_cons_of_neg (ne_true_of_eq_false hh)
  rw [trimValue_eq, hd]
  exact List.rdropWhile_idempotent _ _

theorem isHeaderValue_of_isVisible (h : ∀ c ∈ value, IsVisible c) : isHeaderValue value = true := by
  refine isHeaderValue_iff.mpr fun c hc => .inr ?_
  have hv := h c hc
  unfold IsVisible at hv
  omega

theorem isVisible_of_mem_naturalText {n : Nat} (h : c ∈ naturalText n) : IsVisible c := by
  have hd : c.isDigit = true := Nat.isDigit_of_mem_toDigits (by decide) (by decide) h
  simp only [Char.isDigit, ge_iff_le, Bool.and_eq_true, decide_eq_true_eq,
    UInt32.le_iff_toNat_le] at hd
  obtain ⟨hl, hh⟩ := hd
  exact ⟨Nat.le_trans (by decide) hl, Nat.le_trans hh (by decide)⟩

theorem isField_of_isVisible (hn : name.toList.all isNameChar = true) (he : name.toList ≠ [])
    (h : ∀ c ∈ value, IsVisible c) : IsField (name, value) :=
  ⟨hn, he, isHeaderValue_of_isVisible h, trimValue_of_isVisible h⟩

theorem mem_of_mem_hostName (h : c ∈ uri.hostName) : c ∈ uri.authority ∨ c = '[' ∨ c = ']' := by
  have hback (hm : c ∈ (uri.authority.reverse.takeWhile (· ≠ '@')).reverse) :
      c ∈ uri.authority :=
    List.mem_reverse.mp ((List.takeWhile_sublist _).subset (List.mem_reverse.mp hm))
  unfold Uri.hostName at h
  split at h
  · rename_i address ha
    rw [ha] at hback
    rcases List.mem_append.mp h with h | h
    · rcases List.mem_cons.mp h with rfl | h
      · exact .inr (.inl rfl)
      · exact .inl (hback (List.mem_cons_of_mem _ ((List.takeWhile_sublist _).subset h)))
    · exact .inr (.inr (List.mem_singleton.mp h))
  · exact .inl (hback ((List.takeWhile_sublist _).subset h))

theorem mem_of_mem_port {digits : List Char} (hp : uri.port? = some digits) (h : c ∈ digits) :
    c ∈ uri.authority := by
  unfold Uri.port? at hp
  simp only at hp
  split at hp
  · cases hp
    exact List.mem_reverse.mp ((List.takeWhile_sublist _).subset (List.mem_reverse.mp h))
  · exact absurd hp nofun

/-- A host is made of what stands in the authority, of brackets and of a colon. -/
theorem isVisible_of_mem_host (hu : uri.IsClean) (h : c ∈ uri.host) : IsVisible c := by
  have hname (hm : c ∈ uri.hostName) : IsVisible c := by
    rcases mem_of_mem_hostName hm with hm | rfl | rfl
    · exact hu.authority c hm
    · decide
    · decide
  unfold Uri.host at h
  split at h
  · rename_i digits _ hp _
    split at h
    · exact hname h
    · rcases List.mem_append.mp h with h | h
      · exact hname h
      · rcases List.mem_cons.mp h with rfl | h
        · decide
        · exact hu.authority c (mem_of_mem_port hp h)
  · exact hname h

/-- **The headers of a request stay in their lines**, if the credentials may stand in one. -/
theorem isField_of_mem_headersOf {credentials : Option (List Char)} {length : Option Nat}
    (hu : uri.IsClean) (hc : ∀ value, credentials = some value → isHeaderValue value = true) :
    ∀ f ∈ headersOf uri credentials length, IsField f := by
  have hfixed : ∀ {name value : String}, name.toList.all isNameChar = true → name.toList ≠ [] →
      value.toList.all (IsVisible ·) = true → IsField (name, value.toList) := by
    intro name value hn he hv
    exact isField_of_isVisible hn he fun c hc => of_decide_eq_true (List.all_eq_true.mp hv c hc)
  unfold headersOf
  intro f hf
  simp only [List.mem_append] at hf
  rcases hf with ((hf | hf) | hf) | hf
  · simp only [List.mem_cons, List.not_mem_nil, or_false] at hf
    rcases hf with rfl | rfl
    · exact hfixed rfl nofun rfl
    · exact hfixed rfl nofun rfl
  · cases credentials with
    | none => exact absurd hf List.not_mem_nil
    | some value =>
      rw [List.mem_singleton.mp hf]
      have hn : "authorization".toList.all isNameChar = true := rfl
      have he : "authorization".toList ≠ [] := nofun
      refine ⟨hn, he, ?_, trimValue_trimValue value⟩
      have hv := isHeaderValue_iff.mp (hc value rfl)
      exact isHeaderValue_iff.mpr fun c hm => hv c (mem_of_mem_trimValue hm)
  · cases length with
    | none => exact absurd hf List.not_mem_nil
    | some n =>
      rw [List.mem_singleton.mp hf]
      exact isField_of_isVisible rfl nofun fun c hm => isVisible_of_mem_naturalText hm
  · simp only [List.mem_cons, List.not_mem_nil, or_false] at hf
    rcases hf with rfl | rfl | rfl
    · exact hfixed rfl nofun rfl
    · exact isField_of_isVisible rfl nofun fun c hm => isVisible_of_mem_host hu hm
    · exact hfixed rfl nofun rfl

/-! ## What a POST is -/

/-- A POST with a body, and with the header of a token if there is one. -/
structure Request.IsPost (token : Option (List Char)) (body : List Char) (r : Request) : Prop where
  method : r.method = "POST"
  /-- It has these headers, each once, and no others. -/
  names : r.headers.map (·.1) = ["accept", "accept-encoding"] ++
    (if token.isSome then ["authorization"] else []) ++
    ["content-length", "content-type", "host", "user-agent"]
  contentType : r.values "content-type" = ["application/json".toList]
  length : ∃ digits, r.values "content-length" = [digits] ∧ digits.all isDigit = true ∧
    decimalValue digits = (encode body).length
  /-- The token is there as it is, but for blanks at its end. -/
  authorization : ∀ text, token = some text → ∃ value blanks,
    r.values "authorization" = [value] ∧ value ++ blanks = "Bearer ".toList ++ text ∧
      ∀ b ∈ blanks, isBlank b = true
  body : r.body = body
  /-- No blank ends the target early, -/
  target : ∀ c ∈ r.target, 0x21 ≤ c.toNat
  /-- and on the wire all this is read as it was written. -/
  reads : r.Reads

theorem credentials_of_no_userInfo (hn : uri.userInfo? = none) (token : Option (List Char)) :
    credentials uri token = token.map bearerValue := by
  cases token with
  | none => simp only [credentials, hn, Option.map_none]
  | some text => rfl

/-- **A POST has its body, its headers and no others.** -/
theorem isPost_post (hu : uri.IsClean) (hn : uri.userInfo? = none)
    (ht : ∀ text, token = some text → isHeaderValue (bearerValue text) = true) :
    (post uri token body).IsPost token body := by
  have hc := credentials_of_no_userInfo hn token
  have hh : (post uri token body).headers =
      headersOf uri (token.map bearerValue) (some (size body)) := by
    rw [headers_post, hc]
  have hfields : ∀ f ∈ (post uri token body).headers, IsField f := by
    rw [hh]
    refine isField_of_mem_headersOf hu fun value hv => ?_
    obtain ⟨text, htext, rfl⟩ := Option.map_eq_some_iff.mp hv
    exact ht text htext
  -- The first line ends where it should.
  have hctl : ∀ c : Char, c.toNat < 0x20 → c ∉ "POST".toList ++ uri.target := by
    intro c hc hm
    rcases List.mem_append.mp hm with hm | hm
    · have hall : "POST".toList.all (0x20 ≤ ·.toNat) = true := rfl
      exact absurd (of_decide_eq_true (List.all_eq_true.mp hall c hm)) (Nat.not_le.mpr hc)
    · have hl := hu.target c hm
      omega
  refine ⟨rfl, ?_, ?_, ⟨naturalText (size body), ?_, ?_, decimalValue_naturalText _⟩, ?_, rfl,
    hu.target, Request.reads_of_isField hfields (hctl _ (by decide)) (hctl _ (by decide))⟩
  · rw [hh]
    cases token <;> rfl
  · unfold Request.values
    rw [hh]
    cases token <;> rfl
  · unfold Request.values
    rw [hh]
    cases token <;> rfl
  · exact List.all_eq_true.mpr fun c hm => isDigit_of_mem_naturalText hm
  · rintro text rfl
    refine ⟨_, (' ' :: text).rtakeWhile isBlank, values_authorization _ hh, ?_,
      fun b hb => List.mem_rtakeWhile_imp hb⟩
    show trimValue (bearerValue text) ++ _ = _
    rw [trimValue_bearer, List.append_assoc, List.rdropWhile_append_rtakeWhile]
    rfl

/-! ## Deliveries -/

variable {net : Network} {timeouts : Timeouts} {url : List Char}

/-- A token that is fit to be sent may stand in a header. -/
theorem isHeaderValue_of_refusal? (h : refusal? url token = .ok uri) :
    ∀ text, token = some text → isHeaderValue (bearerValue text) = true := by
  rintro text rfl
  unfold refusal? at h
  split at h
  · exact absurd h nofun
  · split at h
    · exact absurd h nofun
    · rename_i hv
      simpa using hv

/-- **Every POST of a delivery has its body and its headers and no others.** -/
theorem posts_of_deliver (hn : ∀ uri, Uri.parse url = .ok uri → uri.userInfo? = none)
    (net : Network) (timeouts : Timeouts) (token : Option (List Char)) (body : List Char) :
    ∃ more, (deliver net timeouts url token body).2.requests = net.requests ++ more ∧
      ∀ r ∈ more, r.method = "POST" → r.IsPost token body := by
  cases hs : refusal? url token with
  | error cause =>
    rw [deliver_of_refused hs]
    exact ⟨[], (List.append_nil _).symm, nofun⟩
  | ok uri =>
    have hp := parse_of_refusal? hs
    obtain ⟨gets, hg, hd⟩ := exists_sent net timeouts uri
    rcases hd token body hs with h | h
    · exact ⟨[], by rw [h, List.append_nil], nofun⟩
    · refine ⟨_, h, fun r hr hm => ?_⟩
      rcases List.mem_cons.mp hr with rfl | hr
      · exact isPost_post (isClean_of_parse hp) (hn uri hp) (isHeaderValue_of_refusal? hs)
      · have hget := (hg.isBare r hr).method
        rw [hm] at hget
        exact absurd hget (by decide)

/-- **A token that may not stand in a header is refused**, whatever the URL. -/
theorem exists_refused_of_unfit {text : List Char} (ht : isHeaderValue (bearerValue text) = false)
    (url : List Char) : ∃ cause, refusal? url (some text) = .error cause := by
  cases hs : refusal? url (some text) with
  | error cause => exact ⟨cause, rfl⟩
  | ok uri =>
    have hv := isHeaderValue_of_refusal? hs text rfl
    exact absurd (ht.symm.trans hv) nofun

end Courier.Http
