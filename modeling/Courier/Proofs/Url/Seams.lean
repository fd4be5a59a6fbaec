import Courier.Endpoint.Target
import Mathlib

/-!
# Where a base and a path meet

The text that a base and a path are joined to is their concatenation, less one slash if two of them
meet. Of runs of slashes no more than that one goes, and nothing else is changed. The joined text is
the one that is validated and the one that is given back, so that it does not matter with which of
the two parts, or with both, a slash between them was written.

Results:

* `Joined`: the joined text, in the two ways in which it comes about.
* `targetUrl_of_joined`: what becomes of two parts depends on it alone.
* `targetUrl_joins`: **the three spellings of a slash between two parts mean the same**, and a URL
  is never normalized.
-/

namespace Courier

variable {base path text : List Char} {e : Endpoint}

/-! ## The joined text -/

/-- A base and a path in one text. -/
inductive Joined : List Char → List Char → List Char → Prop
  /-- If two slashes meet one of them goes, -/
  | collapsed (front rest : List Char) :
    Joined (front ++ ['/']) ('/' :: rest) (front ++ '/' :: rest)
  /-- and otherwise nothing does. -/
  | whole {base path : List Char} (h : ¬(base.getLast? = some '/' ∧ path.head? = some '/')) :
    Joined base path (base ++ path)

/-- There is one joined text. -/
theorem Joined.eq_join (h : Joined base path text) : text = join base path := by
  cases h with
  | collapsed front rest =>
    have hb : (front ++ ['/']).getLast? = some '/' := List.getLast?_concat
    rw [join, if_pos hb, List.append_assoc, List.singleton_append]
  | whole h =>
    unfold join
    split
    · exact (if_neg fun hb => h ⟨hb, rfl⟩).symm
    · rfl

theorem joined_join (base path : List Char) : Joined base path (join base path) := by
  by_cases h : base.getLast? = some '/' ∧ path.head? = some '/'
  · obtain ⟨front, rfl⟩ := List.getLast?_eq_some_iff.mp h.1
    obtain ⟨rest, rfl⟩ := List.head?_eq_some_iff.mp h.2
    exact (Joined.collapsed front rest).eq_join ▸ .collapsed front rest
  · exact (Joined.whole h).eq_join ▸ .whole h

theorem joined_iff : Joined base path text ↔ text = join base path :=
  ⟨Joined.eq_join, fun h => h ▸ joined_join base path⟩

/-! ## Its URL -/

/-- A text is a URL of the web. -/
def Url.IsOfWeb (text : List Char) : Prop :=
  ∃ url, Url.parse text = .ok url ∧ (url.scheme = "http" ∨ url.scheme = "https")

/-- The text that is validated is the one that is given back. -/
theorem checkTarget_eq_ok_iff {joined : List Char} :
    checkTarget joined = .ok text ↔ text = joined ∧ Url.IsOfWeb joined := by
  unfold checkTarget Url.IsOfWeb
  cases Url.parse joined with
  | error cause => simp
  | ok url =>
    dsimp only
    split
    · next hw =>
      exact ⟨fun h => ⟨(Except.ok.inj h).symm, url, rfl, hw⟩, fun h => h.1 ▸ rfl⟩
    · next hw =>
      refine ⟨nofun, fun ⟨_, _, hu, h⟩ => ?_⟩
      cases hu
      exact absurd h hw

/-- What becomes of two parts that are not empty depends on the joined text alone. -/
theorem targetUrl_of_joined (hb : base ≠ []) (hp : path ≠ []) (h : Joined base path text) :
    targetUrl base path = checkTarget text := by
  rw [targetUrl, if_neg hb, if_neg hp, h.eq_join]

/-- Two parts are a URL iff neither is empty and the joined text is a URL of the web. -/
theorem targetUrl_eq_ok_iff : targetUrl base path = .ok text ↔
    base ≠ [] ∧ path ≠ [] ∧ Joined base path text ∧ Url.IsOfWeb text := by
  by_cases hb : base = []
  · simp [targetUrl, hb]
  by_cases hp : path = []
  · simp [targetUrl, hb, hp]
  rw [targetUrl_of_joined hb hp (joined_join base path), checkTarget_eq_ok_iff, joined_iff]
  constructor
  · rintro ⟨rfl, hw⟩
    exact ⟨hb, hp, rfl, hw⟩
  · rintro ⟨-, -, rfl, hw⟩
    exact ⟨rfl, hw⟩

/-! ## Endpoints -/

/-- The endpoint has these two parts. -/
def Endpoint.HasParts (e : Endpoint) (base path : List Char) : Prop :=
  e.baseUrl.toList = base ∧ e.path.toList = path

theorem Endpoint.HasParts.targetUrl (h : e.HasParts base path) :
    e.targetUrl = Courier.targetUrl base path := by
  rw [Endpoint.targetUrl, h.1, h.2]

/-- The three spellings of a slash between two parts have one joined text. -/
theorem joined_spellings (hb : base.getLast? ≠ some '/') (hp : path.head? ≠ some '/') :
    Joined base ('/' :: path) (base ++ '/' :: path) ∧
      Joined (base ++ ['/']) path (base ++ '/' :: path) ∧
        Joined (base ++ ['/']) ('/' :: path) (base ++ '/' :: path) := by
  refine ⟨.whole fun h => hb h.1, ?_, .collapsed base path⟩
  have h : Joined (base ++ ['/']) path (base ++ ['/'] ++ path) := .whole fun h => hp h.2
  rwa [List.append_assoc, List.singleton_append] at h

/-- What the URL of an endpoint is made of. -/
structure Endpoint.Joins (e : Endpoint) : Prop where
  /-- An endpoint has a URL iff neither part is empty and the joined text is a URL of the web; the
  URL is that text as it stands. -/
  ok_iff (text : List Char) : e.targetUrl = .ok text ↔ e.baseUrl.toList ≠ [] ∧ e.path.toList ≠ [] ∧
    Joined e.baseUrl.toList e.path.toList text ∧ Url.IsOfWeb text
  /-- Whoever has the same joined text, and no empty part either, has the same URL, or none for the
  same reason. -/
  alone (other : Endpoint) (text : List Char) (hb : e.baseUrl.toList ≠ []) (hp : e.path.toList ≠ [])
    (hb' : other.baseUrl.toList ≠ []) (hp' : other.path.toList ≠ [])
    (h : Joined e.baseUrl.toList e.path.toList text)
    (h' : Joined other.baseUrl.toList other.path.toList text) : e.targetUrl = other.targetUrl
  /-- A slash between two parts may stand at the front of the second, at the end of the first, or in
  both places. -/
  spelled (base path : List Char) (second third : Endpoint) (hb : base ≠ [])
    (hbs : base.getLast? ≠ some '/') (hp : path ≠ []) (hps : path.head? ≠ some '/')
    (h : e.HasParts base ('/' :: path)) (h₂ : second.HasParts (base ++ ['/']) path)
    (h₃ : third.HasParts (base ++ ['/']) ('/' :: path)) :
    e.targetUrl = second.targetUrl ∧ e.targetUrl = third.targetUrl ∧
      ∀ text, e.targetUrl = .ok text → text = base ++ '/' :: path

/-- **The URL of an endpoint is the joined text of its parts**, however a slash between them is
spelled. -/
theorem Endpoint.targetUrl_joins (e : Endpoint) : e.Joins where
  ok_iff _ := targetUrl_eq_ok_iff
  alone _ _ hb hp hb' hp' h h' :=
    (targetUrl_of_joined hb hp h).trans (targetUrl_of_joined hb' hp' h').symm
  spelled base path second third hb hbs hp hps h h₂ h₃ := by
    obtain ⟨j, j₂, j₃⟩ := joined_spellings hbs hps
    have hslash : base ++ ['/'] ≠ [] := List.concat_ne_nil _ _
    have ht := h.targetUrl.trans (targetUrl_of_joined hb (List.cons_ne_nil _ _) j)
    have ht₂ := h₂.targetUrl.trans (targetUrl_of_joined hslash hp j₂)
    have ht₃ := h₃.targetUrl.trans (targetUrl_of_joined hslash (List.cons_ne_nil _ _) j₃)
    exact ⟨ht.trans ht₂.symm, ht.trans ht₃.symm,
      fun _ hok => (checkTarget_eq_ok_iff.mp (ht.symm.trans hok)).1⟩

/-- The slashes at the end of a path stay, and so does a letter that is not of ASCII. -/
theorem targetUrl_joins_of_slashes :
    let base := "http://[::1]/é".toList
    let path := "x//".toList
    let e := Endpoint.of "http://[::1]/é" "/x//"
    let second := Endpoint.of "http://[::1]/é/" "x//"
    let third := Endpoint.of "http://[::1]/é/" "/x//"
    base ≠ [] ∧ base.getLast? ≠ some '/' ∧ path ≠ [] ∧ path.head? ≠ some '/' ∧
      e.HasParts base ('/' :: path) ∧ second.HasParts (base ++ ['/']) path ∧
      third.HasParts (base ++ ['/']) ('/' :: path) ∧
      e.targetUrl = second.targetUrl ∧ e.targetUrl = third.targetUrl ∧
      e.targetUrl = .ok "http://[::1]/é/x//".toList := by
  intro base path e second third
  have hb : base ≠ [] := by simp [base]
  have hbs : base.getLast? ≠ some '/' := by simp [base]
  have hp : path ≠ [] := by simp [path]
  have hps : path.head? ≠ some '/' := by simp [path]
  have h : e.HasParts base ('/' :: path) := ⟨rfl, by decide⟩
  have h₂ : second.HasParts (base ++ ['/']) path := ⟨by decide, rfl⟩
  have h₃ : third.HasParts (base ++ ['/']) ('/' :: path) := ⟨by decide, by decide⟩
  obtain ⟨same₂, same₃, -⟩ :=
    (Endpoint.targetUrl_joins e).spelled base path second third hb hbs hp hps h h₂ h₃
  have hok : e.targetUrl = .ok "http://[::1]/é/x//".toList := by cbv
  exact ⟨hb, hbs, hp, hps, h, h₂, h₃, same₂, same₃, hok⟩

end Courier
