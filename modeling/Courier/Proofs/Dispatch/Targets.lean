import Courier.Proofs.Dispatch.Posts
import Courier.Proofs.Http.Plain

/-!
# Valid URLs that the client does not take

An endpoint's URL is found valid as a URL of the web, and its text is then left to the client, which
takes it for a URI or not. Where it does not, the endpoint is as good as one without a URL, but
nobody is told so before each single delivery fails as if there was no response.

Results:

* `refusal?_of_fit`: a token that may stand in a header makes no difference.
* `fails_of_isRefused`: what becomes of results if the client refuses the URL (`Fails`).
* `judged_of_targetUrl`: **when a valid URL is one that the client takes** (`Judged`).
-/

namespace Courier

open Courier.Http Courier.Dispatch

variable {e : Endpoint} {url : List Char} {token : Option (List Char)}

/-- A token that may stand in a header makes no difference to what the client refuses. -/
theorem refusal?_of_fit (ht : ∀ text, token = some text → isHeaderValue (bearerValue text) = true) :
    refusal? url token = refusal? url none := by
  have hany : (token.map bearerValue).any (!isHeaderValue ·) = false := by
    cases token with
    | none => rfl
    | some text => simp [ht text rfl]
  simp only [refusal?, hany, Option.map_none, Option.any_none]

/-- A URL that the client does not take is refused with every token. -/
theorem exists_refused_of_not_isAbsolute (h : ¬Uri.IsAbsolute url) (token : Option (List Char)) :
    ∃ cause, refusal? url token = .error cause := by
  cases hs : refusal? url token with
  | error cause => exact ⟨cause, rfl⟩
  | ok uri =>
    refine absurd (Uri.exists_refusal?_iff.mp ⟨uri, ?_⟩) h
    rw [← refusal?_of_fit (isHeaderValue_of_refusal? hs), hs]

/-- The URL of an endpoint is itself a URL of the web. -/
theorem checkTarget_of_targetUrl (hu : e.targetUrl = .ok url) : checkTarget url = .ok url := by
  unfold Endpoint.targetUrl targetUrl at hu
  obtain ⟨-, hu⟩ := ite_error_eq_ok_iff.mp hu
  obtain ⟨-, hu⟩ := ite_error_eq_ok_iff.mp hu
  obtain ⟨rfl, -⟩ := Url.exists_readAuthority hu
  exact hu

/-- The token of an endpoint that is not unfit may stand in a header. -/
theorem Endpoint.isHeaderValue_bearer (h : ¬e.IsUnfit) :
    ∀ text, e.bearer.map String.toList = some text → isHeaderValue (bearerValue text) = true := by
  intro text ht
  obtain ⟨token, hb, rfl⟩ := Option.map_eq_some_iff.mp ht
  by_contra hn
  exact h ⟨token, hb, by simpa using hn⟩

/-- Nothing that is sent to an endpoint arrives, for a reason that is always the same. -/
structure Endpoint.Fails (e : Endpoint) (url : List Char) (cause : TransportError) : Prop where
  /-- A result that is sent fails, and nothing is sent but an event to the log. -/
  sent (net : Network) {payload : Payload} {body : List Char} (hb : payload.text = .ok body) :
    trySend net e payload = ⟨.returned (.error (.noResponse cause)), net,
      [.ofResult url body (.error (.noResponse cause))]⟩
  /-- A dispatcher starts as if nothing was wrong. -/
  started (options : Options) : ∃ d, Dispatcher.start e options = .ok d
  /-- Whatever happens to it, its worker sends nothing, and all that it delivers fails. -/
  ran {options : Options} {d : Dispatcher} {threads : Nat} {net : Network}
    {labels : List Label} {w : Wired} (hd : Dispatcher.start e options = .ok d)
    (hr : (Wired.mk (.new d threads) net).run? e labels = some w) :
    w.network = net ∧ w.usage.dispatcher.phase.hasPanicked = false ∧
      ∀ t ∈ w.usage.told, t.2 = .error (.noResponse cause)

theorem fails_of_isRefused {cause : TransportError} (hu : e.targetUrl = .ok url)
    (hs : e.IsRefused url cause) : e.Fails url cause where
  sent net _ _ hb := trySend_of_refused hu hb hs net
  started options := by
    simp only [Dispatcher.start, hu]
    exact ⟨_, rfl⟩
  ran hd hr := by
    obtain ⟨url', hu', rfl⟩ := Dispatcher.eq_of_start hd
    obtain rfl := Except.ok.inj (hu.symm.trans hu')
    obtain ⟨hnet, hall⟩ := course_of_refused hs (course_of_run? hr rfl)
    exact ⟨hnet, hasPanicked_of_refused hs hr rfl, hall⟩

/-- What the client makes of the URL of an endpoint, which was found valid. -/
structure Endpoint.Judged (e : Endpoint) (url : List Char) : Prop where
  /-- Unless the token is to blame, the client comes to ask for the URL iff that is absolute by the
  rules of URIs. -/
  taken_iff (ht : ¬e.IsUnfit) :
    (∃ uri, refusal? url (e.bearer.map String.toList) = .ok uri) ↔ Uri.IsAbsolute url
  /-- It is if it is plainly spelled. -/
  plain {s : Uri.Spelling} (hs : s.IsPlain) (hj : s.joined = url) : Uri.IsAbsolute url
  /-- If it is not, nothing that is sent to the endpoint arrives. -/
  refused (h : ¬Uri.IsAbsolute url) : ∃ cause, e.Fails url cause

/-- **When a valid URL is one that the client takes.** Being a URL of the web is not enough: it has
to be absolute by the client's own rules, which a URL that is plainly spelled is. If it is not,
sending a result fails without a response, and so does all that a dispatcher delivers, which starts
nevertheless. -/
theorem judged_of_targetUrl (hu : e.targetUrl = .ok url) : e.Judged url where
  taken_iff ht := by
    rw [refusal?_of_fit (Endpoint.isHeaderValue_bearer ht)]
    exact Uri.exists_refusal?_iff
  plain := by
    rintro s hs rfl
    exact Uri.isAbsolute_of_isPlain (checkTarget_of_targetUrl hu) hs
  refused h := by
    obtain ⟨cause, hs⟩ := exists_refused_of_not_isAbsolute h (e.bearer.map String.toList)
    exact ⟨cause, fails_of_isRefused hu hs⟩

/-! ## A blank in a path -/

theorem targetUrl_blank :
    (Endpoint.of "http://[::]" "/a b").targetUrl = .ok "http://[::]/a b".toList := by
  cbv

theorem refusal?_blank : refusal? "http://[::]/a b".toList none =
    .error (.malformed "invalid uri character") := by
  cbv

/-- A path with a blank makes a URL of the web, which the client does not take. -/
theorem judged_of_blank :
    (Endpoint.of "http://[::]" "/a b").targetUrl = .ok "http://[::]/a b".toList ∧
      ¬Uri.IsAbsolute "http://[::]/a b".toList ∧
        ∃ cause, (Endpoint.of "http://[::]" "/a b").Fails "http://[::]/a b".toList cause := by
  have hn : ¬Uri.IsAbsolute "http://[::]/a b".toList := by
    rw [← Uri.exists_refusal?_iff, refusal?_blank]
    exact nofun
  exact ⟨targetUrl_blank, hn, (judged_of_targetUrl targetUrl_blank).refused hn⟩

/-- Sending a result to it comes to no response, where every request would succeed. -/
theorem trySend_to_blank :
    (Endpoint.of "http://[::]" "/a b").targetUrl = .ok "http://[::]/a b".toList ∧
      (trySend ⟨fun _ => .collector, [], true, [], .start⟩ (Endpoint.of "http://[::]" "/a b")
        (.bool true)).ending =
          .returned (.error (.noResponse (.malformed "invalid uri character"))) := by
  refine ⟨targetUrl_blank, ?_⟩
  rw [trySend_of_refused targetUrl_blank rfl refusal?_blank]

end Courier
