import Courier.Dispatch.Script
import Mathlib

/-!
# What a success says of the POST

The client looks at the status of the last reply. That is the reply to the POST unless this was a
redirect that the client follows.

Results:

* `exchange_eq_replied_iff` — the last response of an exchange stands at the end of its redirects
  (`Concludes`), in no more steps than the client follows.
* `trySend_ok_iff` — **a delivery is a success iff the POST was answered with 200, or with a
  redirect that led to 200**: only in the second case a success is more than the POST's own reply
  says, and every other reply to the POST is a failure.
* `trySend_ok_of_redirect` — the second case comes about.
-/

namespace Courier.Http

/-! ## Chains of redirects -/

/-- A request leads to a last response, one that is no redirect, over so many redirects at most. -/
inductive Concludes : Nat → Network → Uri → Request → Response → Network → Prop where
  | here {redirects : Nat} {net after : Network} {uri : Uri} {request : Request} {last : Response}
      (ha : ask net uri request = (.replied last, after)) (hr : last.isRedirect = false) :
    Concludes redirects net uri request last after
  | sentOn {redirects : Nat} {net between after : Network} {uri next : Uri} {request : Request}
      {response last : Response} {location : List Char}
      (ha : ask net uri request = (.replied response, between)) (hr : response.isRedirect = true)
      (hk : ¬(response.keepsMethod = true ∧ request.method = "POST"))
      (hl : response.header? "location" = some location) (hn : resolve uri location = .ok next)
      (hg : Concludes redirects between next (follow next) last after) :
    Concludes (redirects + 1) net uri request last after

/-- A request leads to a last response with status 200, over so many redirects at most. -/
def Arrives (redirects : Nat) (net : Network) (uri : Uri) (request : Request) : Prop :=
  ∃ last after, Concludes redirects net uri request last after ∧ last.status = 200

variable {net after : Network} {uri : Uri} {request : Request} {response : Response}
  {redirects : Nat}

/-- What the collector replies at once is the reply, if it is one. -/
theorem ask_of_read (hc : net.route uri.host = .collector) (hs : uri.scheme ≠ some "https".toList)
    (hw : request.isWritable = true) (hh : net.nextReply.held = false)
    (hr : Response.read net.nextReply.bytes = .ok response) :
    ask net uri request = (.replied response, net.receive request) := by
  have ha : net.answer = .replied response := by
    unfold Network.answer
    simp only [hh, hr, Bool.false_and, Bool.false_eq_true, if_false]
  unfold ask
  simp only [hc, hw, ha, if_neg hs, Bool.not_true, Bool.false_eq_true, if_false]

theorem isRedirect_of_status_ok (h : response.status = 200) : response.isRedirect = false := by
  simp [Response.isRedirect, h]

/-- An exchange ends with the first reply if that is no redirect. -/
theorem exchange_of_final (ha : ask net uri request = (.replied response, after))
    (hr : response.isRedirect = false) :
    exchange net uri request redirects = (.replied response, after) := by
  unfold exchange
  rw [ha]
  simp [hr]

/-- An exchange goes on where a redirect leads. -/
theorem exchange_of_sentOn {location : List Char} {next : Uri}
    (ha : ask net uri request = (.replied response, after)) (hr : response.isRedirect = true)
    (hk : ¬(response.keepsMethod = true ∧ request.method = "POST"))
    (hl : response.header? "location" = some location) (hn : resolve uri location = .ok next) :
    exchange net uri request (redirects + 1) = exchange after next (follow next) redirects := by
  rw [exchange, ha]
  simp only [hr, hl, hn, Bool.not_true, Bool.false_eq_true, if_false]
  rw [if_neg (by simpa using hk)]

/-- There are no other ways to a last reply. -/
theorem exchange_cases {last : Response} {final : Network}
    (h : exchange net uri request redirects = (.replied last, final)) :
    (ask net uri request = (.replied last, final) ∧ last.isRedirect = false) ∨
      ∃ response after location next fewer, redirects = fewer + 1 ∧
        ask net uri request = (.replied response, after) ∧ response.isRedirect = true ∧
        ¬(response.keepsMethod = true ∧ request.method = "POST") ∧
        response.header? "location" = some location ∧ resolve uri location = .ok next ∧
        exchange after next (follow next) fewer = (.replied last, final) := by
  unfold exchange at h
  split at h
  · rename_i response after ha
    cases hr : response.isRedirect with
    | false =>
      rw [hr] at h
      cases h
      exact .inl ⟨ha, hr⟩
    | true =>
      rw [hr] at h
      by_cases hk : response.keepsMethod = true ∧ request.method = "POST"
      · simp [hk] at h
      · simp only [Bool.not_true, Bool.false_eq_true, if_false] at h
        rw [if_neg (by simpa using hk)] at h
        split at h
        · simp at h
        · rename_i location hl
          split at h
          · simp at h
          · rename_i fewer
            split at h
            · simp at h
            · rename_i next hn
              exact .inr ⟨response, after, location, next, fewer, rfl, ha, hr, hk, hl, hn, h⟩
  · rename_i hn _
    cases h
    exact absurd rfl (hn last)

/-- **An exchange ends with a response iff redirects lead to it and it is no redirect itself.** -/
theorem exchange_eq_replied_iff {last : Response} {final : Network} :
    exchange net uri request redirects = (.replied last, final) ↔
      Concludes redirects net uri request last final := by
  constructor
  · intro h
    induction redirects generalizing net uri request with
    | zero =>
      rcases exchange_cases h with ⟨ha, hr⟩ | ⟨_, _, _, _, fewer, hf, _⟩
      · exact .here ha hr
      · exact absurd hf nofun
    | succ redirects ih =>
      rcases exchange_cases h with ⟨ha, hr⟩ | ⟨_, _, _, _, fewer, hf, ha, hr, hk, hl, hn, hx⟩
      · exact .here ha hr
      · cases hf
        exact .sentOn ha hr hk hl hn (ih hx)
  · intro h
    induction h with
    | here ha hr => exact exchange_of_final ha hr
    | sentOn ha hr hk hl hn _ ih => exact (exchange_of_sentOn ha hr hk hl hn).trans ih

/-- So it ends with status 200 iff redirects lead to such a response. -/
theorem exchange_ok_iff : (∃ last final,
    exchange net uri request redirects = (.replied last, final) ∧ last.status = 200) ↔
      Arrives redirects net uri request := by
  simp only [exchange_eq_replied_iff, Arrives]

/-! ## Deliveries -/

/-- A delivery comes to send its POST, and this is the reply to it. -/
structure PostReply (net : Network) (timeouts : Timeouts) (url : List Char)
    (token : Option (List Char)) (body : List Char) (uri : Uri) (response : Response)
    (after : Network) : Prop where
  sendable : refusal? url token = .ok uri
  timed : isBeyondClock net.clock timeouts.total = false ∧ timeouts.total.nanoseconds ≠ 0 ∧
    isBeyondClock net.clock timeouts.connect = false
  replied : ask net uri (post uri token body) = (.replied response, after)

/-- The reply to a POST is a redirect that the client follows, and the requests that come of it
lead to status 200. -/
structure SentOn (uri : Uri) (response : Response) (after : Network) : Prop where
  isRedirect : response.isRedirect = true
  changesMethod : response.keepsMethod = false
  arrives : ∃ location next, response.header? "location" = some location ∧
    resolve uri location = .ok next ∧ Arrives (maxRedirects - 1) after next (follow next)

variable {timeouts : Timeouts} {url body : List Char} {token : Option (List Char)}

/-- A POST leads to status 200 with its own reply or over a redirect. -/
theorem arrives_post_iff : Arrives maxRedirects net uri (post uri token body) ↔
    ∃ response after, ask net uri (post uri token body) = (.replied response, after) ∧
      (response.status = 200 ∨ SentOn uri response after) := by
  constructor
  · rintro ⟨last, final, hc, hs⟩
    cases hc with
    | here ha hr => exact ⟨_, _, ha, .inl hs⟩
    | sentOn ha hr hk hl hn hg =>
      refine ⟨_, _, ha, .inr ⟨hr, ?_, _, _, hl, hn, last, final, hg, hs⟩⟩
      exact Bool.eq_false_iff.mpr fun h => hk ⟨h, rfl⟩
  · rintro ⟨response, after, ha, hs | ⟨hr, hm, location, next, hl, hn, last, final, hg, hs⟩⟩
    · exact ⟨response, after, .here ha (isRedirect_of_status_ok hs), hs⟩
    · refine ⟨last, final, .sentOn ha hr (fun hk => ?_) hl hn hg, hs⟩
      rw [hm] at hk
      exact absurd hk.1 nofun

theorem attempt_ok_iff {result : Exchange} :
    result.attempt = .finished (.ok ()) ↔
      ∃ response, result = .replied response ∧ response.status = 200 := by
  cases result with
  | waiting => simp [Exchange.attempt]
  | failed cause => simp [Exchange.attempt]
  | replied response =>
    by_cases hs : response.status = 200
    · simp [Exchange.attempt, hs]
    · simp [Exchange.attempt, hs]

/-- A delivery that comes to send its POST ends as the exchange does. -/
theorem deliver_of_timed (hs : refusal? url token = .ok uri)
    (ht : isBeyondClock net.clock timeouts.total = false ∧ timeouts.total.nanoseconds ≠ 0 ∧
      isBeyondClock net.clock timeouts.connect = false) :
    (deliver net timeouts url token body).1 =
      (exchange net uri (post uri token body) maxRedirects).1.attempt := by
  unfold deliver
  rw [hs]
  simp [ht]

/-- A delivery that is a success has come to send its POST. -/
theorem timed_of_deliver_ok (h : (deliver net timeouts url token body).1 = .finished (.ok ())) :
    ∃ uri, refusal? url token = .ok uri ∧ isBeyondClock net.clock timeouts.total = false ∧
      timeouts.total.nanoseconds ≠ 0 ∧ isBeyondClock net.clock timeouts.connect = false := by
  unfold deliver at h
  cases hs : refusal? url token with
  | error cause => simp [hs] at h
  | ok uri =>
    refine ⟨uri, rfl, ?_⟩
    simp only [hs] at h
    by_cases ht : isBeyondClock net.clock timeouts.total = true
    · simp [ht] at h
    · by_cases hz : timeouts.total.nanoseconds = 0
      · simp [ht, hz] at h
      · by_cases hc : isBeyondClock net.clock timeouts.connect = true
        · simp [ht, hz, hc] at h
        · exact ⟨Bool.eq_false_iff.mpr ht, hz, Bool.eq_false_iff.mpr hc⟩

/-- **A delivery is a success iff its POST is answered with 200, or with a redirect that leads to
such a reply.** -/
theorem deliver_ok_iff : (deliver net timeouts url token body).1 = .finished (.ok ()) ↔
    ∃ uri response after, PostReply net timeouts url token body uri response after ∧
      (response.status = 200 ∨ SentOn uri response after) := by
  constructor
  · intro h
    obtain ⟨uri, hs, ht⟩ := timed_of_deliver_ok h
    rw [deliver_of_timed hs ht] at h
    obtain ⟨last, hx, hl⟩ := attempt_ok_iff.mp h
    obtain ⟨response, after, ha, ho⟩ :=
      arrives_post_iff.mp (exchange_ok_iff.mp ⟨last, _, Prod.ext hx rfl, hl⟩)
    exact ⟨uri, response, after, ⟨hs, ht, ha⟩, ho⟩
  · rintro ⟨uri, response, after, hp, ho⟩
    obtain ⟨last, final, hx, hl⟩ :=
      exchange_ok_iff.mpr (arrives_post_iff.mpr ⟨response, after, hp.replied, ho⟩)
    rw [deliver_of_timed hp.sendable hp.timed, hx]
    exact attempt_ok_iff.mpr ⟨last, rfl, hl⟩

/-- There is one reply to the POST of a delivery. -/
theorem PostReply.unique {uri' : Uri} {response' : Response} {after' : Network}
    (h : PostReply net timeouts url token body uri response after)
    (h' : PostReply net timeouts url token body uri' response' after') :
    uri = uri' ∧ response = response' ∧ after = after' := by
  have hu : uri = uri' := Except.ok.inj (h.sendable.symm.trans h'.sendable)
  subst hu
  have hr := h.replied.symm.trans h'.replied
  simp only [Prod.mk.injEq, Exchange.replied.injEq] at hr
  exact ⟨rfl, hr⟩

theorem SentOn.status_ne (h : SentOn uri response after) : response.status ≠ 200 := by
  intro hs
  have hr := h.isRedirect
  rw [isRedirect_of_status_ok hs] at hr
  exact absurd hr nofun

/-- The caller of a delivery that comes to send its POST is told how that ended. -/
theorem PostReply.returned (h : PostReply net timeouts url token body uri response after) :
    ∃ result, (deliver net timeouts url token body).1.ending = .returned result := by
  rw [deliver_of_timed h.sendable h.timed]
  cases (exchange net uri (post uri token body) maxRedirects).1 with
  | waiting => exact ⟨_, rfl⟩
  | failed cause => exact ⟨_, rfl⟩
  | replied last =>
    by_cases hs : last.status = 200
    · exact ⟨.ok (), by simp [Exchange.attempt, Attempt.ending, hs]⟩
    · exact ⟨.error (.refused last.status (String.ofList last.text)),
        by simp [Exchange.attempt, Attempt.ending, hs]⟩

end Courier.Http

namespace Courier

open Courier.Http Courier.Dispatcher

/-- Sending a result comes to send its POST, and this is the reply to it. -/
def Posted (net : Network) (e : Endpoint) (payload : Payload) (uri : Uri) (response : Response)
    (after : Network) : Prop :=
  ∃ url body, e.targetUrl = .ok url ∧ payload.text = .ok body ∧
    PostReply net e.timeouts url (e.bearer.map String.toList) body uri response after

variable {net after after' : Network} {e : Endpoint} {payload : Payload} {url body : List Char}
  {uri uri' : Uri} {response response' : Response}

theorem Posted.unique (h : Posted net e payload uri response after)
    (h' : Posted net e payload uri' response' after') :
    uri = uri' ∧ response = response' ∧ after = after' := by
  obtain ⟨url, body, hu, hb, hp⟩ := h
  obtain ⟨url', body', hu', hb', hp'⟩ := h'
  obtain rfl := Except.ok.inj (hu.symm.trans hu')
  obtain rfl := Except.ok.inj (hb.symm.trans hb')
  exact hp.unique hp'

theorem ending_ok_iff {attempt : Attempt} :
    attempt.ending = .returned (.ok ()) ↔ attempt = .finished (.ok ()) := by
  cases attempt <;> simp [Attempt.ending]

/-- Sending a result that has a text to an endpoint that has a URL is a delivery. -/
theorem trySend_ending (hu : e.targetUrl = .ok url) (hb : payload.text = .ok body) :
    (trySend net e payload).ending =
      (deliver net e.timeouts url (e.bearer.map String.toList) body).1.ending := by
  simp only [trySend, hu, hb]

/-- Sending is a success iff the POST is answered with 200, or with a redirect that leads there. -/
theorem ending_trySend_ok_iff : (trySend net e payload).ending = .returned (.ok ()) ↔
    ∃ uri response after, Posted net e payload uri response after ∧
      (response.status = 200 ∨ SentOn uri response after) := by
  constructor
  · intro h
    cases hu : e.targetUrl with
    | error cause => simp [trySend, hu] at h
    | ok url =>
      cases hb : payload.text with
      | error cause => simp [trySend, hu, hb] at h
      | ok body =>
        rw [trySend_ending hu hb, ending_ok_iff] at h
        obtain ⟨uri, response, after, hp, ho⟩ := deliver_ok_iff.mp h
        exact ⟨uri, response, after, ⟨url, body, hu, hb, hp⟩, ho⟩
  · rintro ⟨uri, response, after, ⟨url, body, hu, hb, hp⟩, ho⟩
    rw [trySend_ending hu hb, ending_ok_iff]
    exact deliver_ok_iff.mpr ⟨uri, response, after, hp, ho⟩

/-- A call that says whether it was a success says so of the call that says why not. -/
theorem ending_send_true_iff : (send net e payload).ending = .returned true ↔
    (trySend net e payload).ending = .returned (.ok ()) := by
  show (trySend net e payload).ending.isOk = .returned true ↔ _
  cases (trySend net e payload).ending with
  | panicked message => simp [Ending.isOk]
  | returned result =>
    cases result with
    | ok _ => simp [Ending.isOk, Except.isOk, Except.toBool]
    | error failure => simp [Ending.isOk, Except.isOk, Except.toBool]

/-- A worker at a delivery counts it as delivered iff the delivery is a success. -/
theorem delivered_advance_iff {d : Dispatcher} (hp : d.phase = .delivering body) :
    (Dispatch.advance e (d, net)).1.stats.delivered = d.stats.delivered + 1 ↔
      (deliver net e.timeouts d.url (e.bearer.map String.toList) body).1 =
        .finished (.ok ()) := by
  unfold Dispatch.advance
  simp only [hp]
  cases deliver net e.timeouts d.url (e.bearer.map String.toList) body with
  | mk attempt after =>
    cases attempt with
    | waiting => simp
    | panicked message => simp [complete, finish, count, cut]
    | finished result =>
      cases result with
      | ok _ => simp [complete, finish, count, cut, Stats.record]
      | error failure => simp [complete, finish, count, cut, Stats.record]

/-- **What a success says of the POST.** For every endpoint, every result and every network,
whatever the collector replies:

* sending is a success iff the reply to the POST has status 200, or is a redirect that is followed
  and leads to such a reply;
* any other reply to the POST is a failure;
* the short form takes the same for a success, and so does the worker of a dispatcher;
* so a success means that the POST was answered with 200, and the other way round, unless the POST
  was answered with a redirect that leads to 200. -/
theorem trySend_ok_iff (net : Network) (e : Endpoint) (payload : Payload) :
    ((trySend net e payload).ending = .returned (.ok ()) ↔
      ∃ uri response after, Posted net e payload uri response after ∧
        (response.status = 200 ∨ SentOn uri response after)) ∧
    (∀ uri response after, Posted net e payload uri response after →
      response.status ≠ 200 → ¬SentOn uri response after →
        ∃ failure, (trySend net e payload).ending = .returned (.error failure)) ∧
    ((send net e payload).ending = .returned true ↔
      (trySend net e payload).ending = .returned (.ok ())) ∧
    (∀ (d : Dispatcher) (body : List Char), d.phase = .delivering body →
      ((Dispatch.advance e (d, net)).1.stats.delivered = d.stats.delivered + 1 ↔
        ∃ uri response after,
          PostReply net e.timeouts d.url (e.bearer.map String.toList) body uri response after ∧
            (response.status = 200 ∨ SentOn uri response after))) ∧
    (((trySend net e payload).ending = .returned (.ok ()) ↔
      ∃ uri response after, Posted net e payload uri response after ∧ response.status = 200) ↔
      ¬∃ uri response after, Posted net e payload uri response after ∧
        SentOn uri response after) := by
  refine ⟨ending_trySend_ok_iff, ?_, ending_send_true_iff, ?_, ?_⟩
  · rintro uri response after ⟨url, body, hu, hb, hp⟩ hs hn
    obtain ⟨result, hr⟩ := hp.returned
    rw [← trySend_ending hu hb] at hr
    cases result with
    | error failure => exact ⟨failure, hr⟩
    | ok _ =>
      obtain ⟨_, _, _, hp', ho⟩ := ending_trySend_ok_iff.mp hr
      obtain ⟨rfl, rfl, rfl⟩ := Posted.unique ⟨url, body, hu, hb, hp⟩ hp'
      exact (ho.elim hs hn).elim
  · intro d body hp
    rw [delivered_advance_iff hp]
    exact deliver_ok_iff
  · constructor
    · rintro hclaim ⟨uri, response, after, hp, hn⟩
      have hsucc := ending_trySend_ok_iff.mpr ⟨uri, response, after, hp, .inr hn⟩
      obtain ⟨_, _, _, hp', hs⟩ := hclaim.mp hsucc
      obtain ⟨rfl, rfl, rfl⟩ := hp.unique hp'
      exact hn.status_ne hs
    · intro hn
      rw [ending_trySend_ok_iff]
      constructor
      · rintro ⟨uri, response, after, hp, hs | ho⟩
        · exact ⟨uri, response, after, hp, hs⟩
        · exact absurd ⟨uri, response, after, hp, ho⟩ hn
      · rintro ⟨uri, response, after, hp, hs⟩
        exact ⟨uri, response, after, hp, .inl hs⟩

/-- A network whose collector answers the first request with a redirect and the next ones with
200. -/
def redirecting : Network :=
  ⟨fun _ => .collector, [⟨ascii "HTTP/1.1 302 Found\r\nLocation: /next\r\n\r\n", false⟩,
    Network.success], false, [], .start⟩

/-- The POST is answered with 302, the GET that follows with 200: a success that the POST's own
reply does not tell. -/
theorem trySend_ok_of_redirect :
    (trySend redirecting (.of "http://[::]" "/") (.bool true)).ending = .returned (.ok ()) ∧
      (∃ uri response after,
        Posted redirecting (.of "http://[::]" "/") (.bool true) uri response after ∧
          response.status = 302) ∧
      ¬∃ uri response after,
        Posted redirecting (.of "http://[::]" "/") (.bool true) uri response after ∧
          response.status = 200 := by
  have hmoved : Response.read (ascii "HTTP/1.1 302 Found\r\nLocation: /next\r\n\r\n") =
      .ok ⟨302, [("location".toList, "/next".toList)], []⟩ := by cbv
  have hfine : Response.read Network.success.bytes =
      .ok ⟨200, [("content-length".toList, "0".toList)], []⟩ := rfl
  let uri : Uri := ⟨some "http".toList, "[::]".toList, "/".toList⟩
  have hurl : (Endpoint.of "http://[::]" "/").targetUrl = .ok "http://[::]/".toList := by cbv
  have huri : refusal? "http://[::]/".toList none = .ok uri := by cbv
  have hnext : resolve uri "/next".toList = .ok ⟨some "http".toList, "[::]".toList,
      "/next".toList⟩ := by cbv
  have hasked : Http.ask redirecting uri (post uri none "true".toList) = (.replied _, _) :=
    ask_of_read rfl (by decide) (isWritable_post_none _ _) rfl hmoved
  have hposted : Posted redirecting (.of "http://[::]" "/") (.bool true) _ _ _ :=
    ⟨_, "true".toList, hurl, rfl, huri, by decide, hasked⟩
  refine ⟨ending_trySend_ok_iff.mpr ⟨_, _, _, hposted, .inr ⟨rfl, rfl, ?_⟩⟩, ?_, ?_⟩
  · exact ⟨_, _, rfl, hnext, _, _,
      .here (ask_of_read rfl (by decide) (isWritable_follow _) rfl hfine) rfl, rfl⟩
  · exact ⟨_, _, _, hposted, rfl⟩
  · rintro ⟨uri, response, after, hp, hs⟩
    obtain ⟨-, hr, -⟩ := hposted.unique hp
    rw [← hr] at hs
    exact absurd hs (by decide)

end Courier
