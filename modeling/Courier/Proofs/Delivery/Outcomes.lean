import Courier.Proofs.Delivery.Redirects
import Courier.Proofs.Delivery.Requests
import Courier.Proofs.Payload.Writing

/-!
# What comes of sending

Sending a result ends in one of five ways, and what decides is looked at in this order: the URL of
the endpoint, the text of the result, and the last response that the client comes to, if it comes
to one. The log tells of the last three only, and only then anything is sent.

Results:

* `deliver_of_answered`, `deliver_of_unanswered`: what a delivery makes of it.
* `trySend_classified`: **the five ways in which sending ends** (`Classified`).
-/

namespace Courier.Http

variable {net after : Network} {uri : Uri} {request : Request} {last : Response} {redirects : Nat}
  {timeouts : Timeouts} {url body : List Char} {token : Option (List Char)}

/-- A delivery comes to send its POST, and ends with this last response. -/
def Answered (net : Network) (timeouts : Timeouts) (url : List Char) (token : Option (List Char))
    (body : List Char) (last : Response) (after : Network) : Prop :=
  ∃ uri, refusal? url token = .ok uri ∧ timeouts.total.nanoseconds ≠ 0 ∧
    Concludes maxRedirects net uri (post uri token body) last after

/-- There is one last response. -/
theorem Answered.unique {last' : Response} {after' : Network}
    (h : Answered net timeouts url token body last after)
    (h' : Answered net timeouts url token body last' after') : last = last' ∧ after = after' := by
  obtain ⟨uri, hs, _, hc⟩ := h
  obtain ⟨uri', hs', _, hc'⟩ := h'
  obtain rfl := Except.ok.inj (hs.symm.trans hs')
  have hx := (exchange_eq_replied_iff.mpr hc).symm.trans (exchange_eq_replied_iff.mpr hc')
  simpa using hx

/-- What is replied to has arrived. -/
theorem eq_receive_of_ask (ha : ask net uri request = (.replied last, after)) :
    after = net.receive request := by
  rcases ask_cases net uri request with ⟨cause, hf⟩ | hf
  · rw [hf] at ha
    cases (Prod.mk.inj ha).1
  · rw [hf] at ha
    exact (Prod.mk.inj ha).2.symm

theorem Concludes.exists_requests (h : Concludes redirects net uri request last after) :
    ∃ gets, after.requests = net.requests ++ request :: gets := by
  induction h with
  | here ha hr =>
    obtain rfl := eq_receive_of_ask ha
    exact ⟨[], rfl⟩
  | @sentOn _ net between _ _ next request _ _ _ ha hr hk hl hn _ ih =>
    obtain rfl := eq_receive_of_ask ha
    obtain ⟨gets, hg⟩ := ih
    refine ⟨follow next :: gets, ?_⟩
    rw [hg]
    exact List.append_assoc net.requests [request] _

/-- A delivery that comes to a last response has sent its POST. -/
theorem Answered.requests_ne (h : Answered net timeouts url token body last after) :
    after.requests ≠ net.requests := by
  obtain ⟨uri, _, _, hc⟩ := h
  obtain ⟨gets, hg⟩ := hc.exists_requests
  rw [hg]
  exact fun he => List.cons_ne_nil _ _ (List.append_right_eq_self.mp he)

/-- A delivery that comes to a last response ends as its status says. -/
theorem deliver_of_answered (ho : timeouts.overflow net.clock = false)
    (h : Answered net timeouts url token body last after) :
    deliver net timeouts url token body = ((Exchange.replied last).attempt, after) := by
  obtain ⟨uri, hs, hz, hc⟩ := h
  exact deliver_of_exchange hs ho hz (exchange_eq_replied_iff.mpr hc)

/-- A delivery that comes to no last response tells its caller that there was none. -/
theorem deliver_of_unanswered (ho : timeouts.overflow net.clock = false)
    (h : ¬∃ last after, Answered net timeouts url token body last after) :
    ∃ cause, (deliver net timeouts url token body).1.ending =
      .returned (.error (.noResponse cause)) := by
  cases hs : refusal? url token with
  | error cause => exact ⟨cause, by simp only [deliver, hs, Attempt.ending]⟩
  | ok uri =>
    by_cases hz : timeouts.total.nanoseconds = 0
    · obtain ⟨ht, _⟩ : isBeyondClock net.clock timeouts.total = false ∧ _ := by
        simpa [Timeouts.overflow] using ho
      exact ⟨.outOfTime, by simp [deliver, hs, ht, hz, Attempt.ending]⟩
    · cases hx : exchange net uri (post uri token body) maxRedirects with
      | mk result after =>
        rw [deliver_of_exchange hs ho hz hx]
        cases result with
        | waiting => exact ⟨.outOfTime, rfl⟩
        | failed cause => exact ⟨cause, rfl⟩
        | replied last =>
          exact absurd ⟨last, after, uri, hs, hz, exchange_eq_replied_iff.mp hx⟩ h

/-- What the caller is told of a last response. -/
theorem ending_attempt_replied (last : Response) : (Exchange.replied last).attempt.ending =
    .returned (if last.status = 200 then .ok ()
      else .error (.refused last.status (String.ofList last.text))) := by
  by_cases hs : last.status = 200
  · simp [Exchange.attempt, hs, Attempt.ending]
  · simp [Exchange.attempt, hs, Attempt.ending]

end Courier.Http

namespace Courier

open Courier.Http Courier.Text

variable {net after : Network} {e : Endpoint} {payload : Payload} {url body : List Char}
  {last : Response} {result : Except Failure Unit}

/-- Sending a result comes to a delivery of a text to a URL. -/
structure Delivers (e : Endpoint) (payload : Payload) (url body : List Char) : Prop where
  target : e.targetUrl = .ok url
  written : payload.text = .ok body

/-- Sending a result ends with this last response of the client. -/
def Concluded (net : Network) (e : Endpoint) (payload : Payload) (last : Response) : Prop :=
  ∃ url body after, Delivers e payload url body ∧
    Answered net e.timeouts url (e.bearer.map String.toList) body last after

/-- What comes of sending a result. -/
structure Classified (net : Network) (e : Endpoint) (payload : Payload)
    (result : Except Failure Unit) : Prop where
  returned : (trySend net e payload).ending = .returned result
  /-- The endpoint is found invalid iff it has no URL. -/
  invalidEndpoint_iff : (∃ reason, result = .error (.invalidEndpoint reason)) ↔
    ∃ cause, e.targetUrl = .error cause
  /-- The result is found not serializable iff there is a URL, but something in the result cannot
  be written. -/
  unserializable_iff : (∃ cause, result = .error (.unserializable cause)) ↔
    (∃ url, e.targetUrl = .ok url) ∧ payload.Unwritable
  /-- It is a success iff the last response has status 200. -/
  ok_iff : result = .ok () ↔ ∃ last, Concluded net e payload last ∧ last.status = 200
  /-- It is refused iff the last response has another status, which is told with its text. -/
  refused_iff (status : Nat) (text : String) : result = .error (.refused status text) ↔
    ∃ last, Concluded net e payload last ∧ last.status = status ∧ status ≠ 200 ∧
      text = String.ofList last.text
  /-- A body that cannot be read, be it not whole, too large or badly packed, does not hide the
  status. -/
  unreadable {last : Response} (h : Concluded net e payload last) (hs : last.status ≠ 200)
    (hc : last.content? = none) : result = .error (.refused last.status "<unreadable body>")
  /-- There is no response iff the client is to deliver the result and comes to no last response. -/
  noResponse_iff : (∃ cause, result = .error (.noResponse cause)) ↔
    (∃ url body, Delivers e payload url body) ∧ ¬∃ last, Concluded net e payload last
  /-- There is no sixth way. -/
  noWorker (reason : String) : result ≠ .error (.noWorker reason)
  /-- Nothing is sent or told unless the client is to deliver the result. -/
  quiet (h : ¬∃ url body, Delivers e payload url body) :
    (trySend net e payload).network = net ∧ (trySend net e payload).log = []
  /-- Otherwise one event is told: that the result was forwarded, or why not. -/
  told {url body : List Char} (h : Delivers e payload url body) :
    ∃ event : Event, (trySend net e payload).log = [event] ∧
      (result = .ok () → event.level = .debug ∧ event.message = "result forwarded" ∧
        event.fields = [("url", String.ofList url), ("bytes", toString (Utf8.size body))]) ∧
      ∀ failure, result = .error failure → event.level = .warn ∧
        event.message = "failed to forward result" ∧
          event.fields = [("url", String.ofList url), ("error", failure.message)]
  /-- The short form says true iff it is a success, and does the same otherwise. -/
  sent : ((send net e payload).ending = .returned true ↔ result = .ok ()) ∧
    ((send net e payload).ending = .returned false ↔ result ≠ .ok ()) ∧
      (send net e payload).network = (trySend net e payload).network ∧
        (send net e payload).log = (trySend net e payload).log

/-- There is one text and one URL to deliver. -/
theorem Delivers.unique {url' body' : List Char} (h : Delivers e payload url body)
    (h' : Delivers e payload url' body') : url = url' ∧ body = body' :=
  ⟨Except.ok.inj (h.target.symm.trans h'.target), Except.ok.inj (h.written.symm.trans h'.written)⟩

theorem trySend_of_delivers (h : Delivers e payload url body) (net : Network) :
    trySend net e payload =
      let (attempt, after) := deliver net e.timeouts url (e.bearer.map String.toList) body
      ⟨attempt.ending, after, attempt.ending.log url body⟩ := by
  simp only [trySend, h.target, h.written]

/-- The short form says whether a call that returned was a success. -/
theorem sent_of_returned (h : (trySend net e payload).ending = .returned result) :
    ((send net e payload).ending = .returned true ↔ result = .ok ()) ∧
      ((send net e payload).ending = .returned false ↔ result ≠ .ok ()) ∧
        (send net e payload).network = (trySend net e payload).network ∧
          (send net e payload).log = (trySend net e payload).log := by
  have hs : (send net e payload).ending = .returned result.isOk := by
    show (trySend net e payload).ending.isOk = _
    rw [h]
    rfl
  rw [hs]
  cases result with
  | ok _ =>
    refine ⟨⟨fun _ => rfl, fun _ => rfl⟩, ⟨fun h => ?_, fun h => absurd rfl h⟩, rfl, rfl⟩
    cases h
  | error failure =>
    refine ⟨⟨fun h => ?_, fun h => ?_⟩, ⟨fun _ h => ?_, fun _ => rfl⟩, rfl, rfl⟩ <;> cases h

theorem trySend_of_invalid {cause : TargetError} (hu : e.targetUrl = .error cause) (net : Network)
    (payload : Payload) : trySend net e payload =
      ⟨.returned (.error (.invalidEndpoint cause.message)), net, []⟩ := by
  simp only [trySend, hu]

theorem trySend_of_unwritable {cause : Json.Report} (hu : e.targetUrl = .ok url)
    (hb : payload.text = .error cause) (net : Network) :
    trySend net e payload = ⟨.returned (.error (.unserializable cause)), net, []⟩ := by
  simp only [trySend, hu, hb]

/-- Without a URL the endpoint is found invalid. -/
theorem classified_of_invalid {cause : TargetError} (hu : e.targetUrl = .error cause)
    (net : Network) : Classified net e payload (.error (.invalidEndpoint cause.message)) := by
  have hd : ¬∃ url body, Delivers e payload url body := fun ⟨_, _, h⟩ =>
    absurd (hu.symm.trans h.target) nofun
  have hc (last : Response) : ¬Concluded net e payload last := fun ⟨url, body, _, h, _⟩ =>
    hd ⟨url, body, h⟩
  have ht := trySend_of_invalid hu net payload
  have hr : (trySend net e payload).ending = _ := congrArg Call.ending ht
  exact {
    returned := hr
    invalidEndpoint_iff := ⟨fun _ => ⟨cause, hu⟩, fun _ => ⟨_, rfl⟩⟩
    unserializable_iff := ⟨nofun, fun ⟨⟨_, h⟩, _⟩ => absurd (hu.symm.trans h) nofun⟩
    ok_iff := ⟨nofun, fun ⟨last, h, _⟩ => absurd h (hc last)⟩
    refused_iff := fun _ _ => ⟨nofun, fun ⟨last, h, _⟩ => absurd h (hc last)⟩
    unreadable := fun h => absurd h (hc _)
    noResponse_iff := ⟨nofun, fun ⟨h, _⟩ => absurd h hd⟩
    noWorker := nofun
    quiet := fun _ => ⟨congrArg Call.network ht, congrArg Call.log ht⟩
    told := fun h => absurd ⟨_, _, h⟩ hd
    sent := sent_of_returned hr }

/-- With a URL, but without a text, the result is found not serializable. -/
theorem classified_of_unwritable {cause : Json.Report} (hu : e.targetUrl = .ok url)
    (hb : payload.text = .error cause) (net : Network) :
    Classified net e payload (.error (.unserializable cause)) := by
  have hd : ¬∃ url body, Delivers e payload url body := fun ⟨_, _, h⟩ =>
    absurd (hb.symm.trans h.written) nofun
  have hc (last : Response) : ¬Concluded net e payload last := fun ⟨url, body, _, h, _⟩ =>
    hd ⟨url, body, h⟩
  have hw : payload.Unwritable := (Payload.exists_text_error_iff payload).mp ⟨cause, hb⟩
  have ht := trySend_of_unwritable hu hb net
  have hr : (trySend net e payload).ending = _ := congrArg Call.ending ht
  exact {
    returned := hr
    invalidEndpoint_iff := ⟨nofun, fun ⟨_, h⟩ => absurd (hu.symm.trans h) nofun⟩
    unserializable_iff := ⟨fun _ => ⟨⟨url, hu⟩, hw⟩, fun _ => ⟨_, rfl⟩⟩
    ok_iff := ⟨nofun, fun ⟨last, h, _⟩ => absurd h (hc last)⟩
    refused_iff := fun _ _ => ⟨nofun, fun ⟨last, h, _⟩ => absurd h (hc last)⟩
    unreadable := fun h => absurd h (hc _)
    noResponse_iff := ⟨nofun, fun ⟨h, _⟩ => absurd h hd⟩
    noWorker := nofun
    quiet := fun _ => ⟨congrArg Call.network ht, congrArg Call.log ht⟩
    told := fun h => absurd ⟨_, _, h⟩ hd
    sent := sent_of_returned hr }

/-- What is told of a delivery that returned: an event at DEBUG with the number of bytes, or one at
WARN with the failure. -/
theorem told_of_delivers (hr : (trySend net e payload).ending = .returned result)
    (hd : Delivers e payload url body) :
    ∃ event : Event, (trySend net e payload).log = [event] ∧
      (result = .ok () → event.level = .debug ∧ event.message = "result forwarded" ∧
        event.fields = [("url", String.ofList url), ("bytes", toString (Utf8.size body))]) ∧
      ∀ failure, result = .error failure → event.level = .warn ∧
        event.message = "failed to forward result" ∧
          event.fields = [("url", String.ofList url), ("error", failure.message)] := by
  refine ⟨.ofResult url body result, ?_, ?_, ?_⟩
  · rw [trySend_ending hd.target hd.written] at hr
    rw [trySend_of_delivers hd]
    show Ending.log url body _ = _
    rw [hr]
    rfl
  · rintro rfl
    exact ⟨rfl, rfl, rfl⟩
  · rintro failure rfl
    exact ⟨rfl, rfl, rfl⟩

/-- A result that has a text has nothing in it that cannot be written. -/
theorem Delivers.not_unwritable (hd : Delivers e payload url body) : ¬payload.Unwritable := by
  intro hw
  obtain ⟨cause, hb⟩ := (Payload.exists_text_error_iff payload).mpr hw
  exact absurd (hb.symm.trans hd.written) nofun

theorem Delivers.not_invalid (hd : Delivers e payload url body) :
    ¬∃ cause, e.targetUrl = .error cause := fun ⟨_, hu⟩ =>
  absurd (hu.symm.trans hd.target) nofun

/-- One last response ends sending. -/
theorem Concluded.unique {last' : Response} (h : Concluded net e payload last)
    (h' : Concluded net e payload last') : last = last' := by
  obtain ⟨url, body, after, hd, ha⟩ := h
  obtain ⟨url', body', after', hd', ha'⟩ := h'
  obtain ⟨rfl, rfl⟩ := hd.unique hd'
  exact (ha.unique ha').1

/-- The status of the last response tells whether it is a success. -/
theorem returned_of_concluded (ho : e.timeouts.overflow net.clock = false)
    (h : Concluded net e payload last) : (trySend net e payload).ending =
      .returned (if last.status = 200 then .ok ()
        else .error (.refused last.status (String.ofList last.text))) := by
  obtain ⟨url, body, after, hd, ha⟩ := h
  rw [trySend_ending hd.target hd.written, deliver_of_answered ho ha, ending_attempt_replied]

/-- A last response with status 200 is a success. -/
theorem classified_of_status_ok (ho : e.timeouts.overflow net.clock = false)
    (h : Concluded net e payload last) (hs : last.status = 200) :
    Classified net e payload (.ok ()) := by
  obtain ⟨url, body, after, hd, ha⟩ := id h
  have hr := returned_of_concluded ho h
  rw [if_pos hs] at hr
  exact {
    returned := hr
    invalidEndpoint_iff := ⟨nofun, fun hu => absurd hu hd.not_invalid⟩
    unserializable_iff := ⟨nofun, fun ⟨_, hw⟩ => absurd hw hd.not_unwritable⟩
    ok_iff := ⟨fun _ => ⟨last, h, hs⟩, fun _ => rfl⟩
    refused_iff := fun _ _ => ⟨nofun, fun ⟨_, h', hn, hne, _⟩ =>
      absurd (hn.symm.trans (h'.unique h ▸ hs)) hne⟩
    unreadable := fun h' hn => absurd (h'.unique h ▸ hs) hn
    noResponse_iff := ⟨nofun, fun ⟨_, hn⟩ => absurd ⟨last, h⟩ hn⟩
    noWorker := nofun
    quiet := fun hn => absurd ⟨url, body, hd⟩ hn
    told := told_of_delivers hr
    sent := sent_of_returned hr }

/-- One with another status is a refusal. -/
theorem classified_of_refused (ho : e.timeouts.overflow net.clock = false)
    (h : Concluded net e payload last) (hs : last.status ≠ 200) :
    Classified net e payload (.error (.refused last.status (String.ofList last.text))) := by
  obtain ⟨url, body, after, hd, ha⟩ := id h
  have hr := returned_of_concluded ho h
  rw [if_neg hs] at hr
  exact {
    returned := hr
    invalidEndpoint_iff := ⟨nofun, fun hu => absurd hu hd.not_invalid⟩
    unserializable_iff := ⟨nofun, fun ⟨_, hw⟩ => absurd hw hd.not_unwritable⟩
    ok_iff := ⟨nofun, fun ⟨_, h', hn⟩ => absurd (h.unique h' ▸ hn) hs⟩
    refused_iff := fun status text => by
      constructor
      · intro he
        cases he
        exact ⟨last, h, rfl, hs, rfl⟩
      · rintro ⟨other, h', rfl, -, rfl⟩
        rw [h'.unique h]
    unreadable := fun h' _ hc => by
      obtain rfl := h'.unique h
      simp only [Response.text, hc]
      rfl
    noResponse_iff := ⟨nofun, fun ⟨_, hn⟩ => absurd ⟨last, h⟩ hn⟩
    noWorker := nofun
    quiet := fun hn => absurd ⟨url, body, hd⟩ hn
    told := told_of_delivers hr
    sent := sent_of_returned hr }

/-- Without a last response there is none to tell of. -/
theorem classified_of_unanswered (ho : e.timeouts.overflow net.clock = false)
    (hd : Delivers e payload url body) (h : ¬∃ last, Concluded net e payload last) :
    ∃ cause, Classified net e payload (.error (.noResponse cause)) := by
  have hn : ¬∃ last after,
      Answered net e.timeouts url (e.bearer.map String.toList) body last after :=
    fun ⟨last, after, ha⟩ => h ⟨last, url, body, after, hd, ha⟩
  obtain ⟨cause, hr⟩ := deliver_of_unanswered ho hn
  rw [← trySend_ending hd.target hd.written] at hr
  exact ⟨cause, {
    returned := hr
    invalidEndpoint_iff := ⟨nofun, fun hu => absurd hu hd.not_invalid⟩
    unserializable_iff := ⟨nofun, fun ⟨_, hw⟩ => absurd hw hd.not_unwritable⟩
    ok_iff := ⟨nofun, fun ⟨last, hl, _⟩ => absurd ⟨last, hl⟩ h⟩
    refused_iff := fun _ _ => ⟨nofun, fun ⟨last, hl, _⟩ => absurd ⟨last, hl⟩ h⟩
    unreadable := fun hl => absurd ⟨_, hl⟩ h
    noResponse_iff := ⟨fun _ => ⟨⟨url, body, hd⟩, h⟩, fun _ => ⟨cause, rfl⟩⟩
    noWorker := nofun
    quiet := fun hn => absurd ⟨url, body, hd⟩ hn
    told := told_of_delivers hr
    sent := sent_of_returned hr }⟩

/-- **What comes of sending.** For every endpoint whose timeouts the clock can count to, every
result and every network, whatever the collector replies, sending returns, in one of the five ways
that `Classified` tells apart, and with what it sends and tells then. -/
theorem trySend_classified (net : Network) (payload : Payload)
    (ho : e.timeouts.overflow net.clock = false) : ∃ result, Classified net e payload result := by
  cases hu : e.targetUrl with
  | error cause => exact ⟨_, classified_of_invalid hu net⟩
  | ok url =>
    cases hb : payload.text with
    | error cause => exact ⟨_, classified_of_unwritable hu hb net⟩
    | ok body =>
      by_cases hc : ∃ last, Concluded net e payload last
      · obtain ⟨last, h⟩ := hc
        by_cases hs : last.status = 200
        · exact ⟨_, classified_of_status_ok ho h hs⟩
        · exact ⟨_, classified_of_refused ho h hs⟩
      · obtain ⟨cause, h⟩ := classified_of_unanswered ho ⟨hu, hb⟩ hc
        exact ⟨_, h⟩

/-- A network whose collector sends the POST on and refuses what comes of it. -/
def turningAway : Network :=
  ⟨fun _ => .collector, [⟨ascii "HTTP/1.1 302 Found\r\nLocation: /next\r\n\r\n", false⟩,
    ⟨ascii "HTTP/1.1 404 Not Found\r\nContent-Length: 4\r\n\r\ngone", false⟩], false, [], .start⟩

/-- The POST is answered with 302, the GET that follows with 404: the failure has the status and the
text of the last response. -/
theorem trySend_classified_of_turningAway :
    (Endpoint.of "http://[::]" "/").timeouts.overflow turningAway.clock = false ∧
    ∃ result, Classified turningAway (.of "http://[::]" "/") (.bool true) result ∧
      result = .error (.refused 404 "gone") := by
  have ho : (Endpoint.of "http://[::]" "/").timeouts.overflow turningAway.clock = false := by
    decide
  obtain ⟨result, h⟩ := trySend_classified turningAway (.bool true) ho
  refine ⟨ho, result, h, (h.refused_iff 404 "gone").mpr ?_⟩
  have hmoved : Response.read (ascii "HTTP/1.1 302 Found\r\nLocation: /next\r\n\r\n") =
      .ok ⟨302, [("location".toList, "/next".toList)], []⟩ := by cbv
  have hgone : Response.read
      (ascii "HTTP/1.1 404 Not Found\r\nContent-Length: 4\r\n\r\ngone") =
      .ok ⟨404, [("content-length".toList, "4".toList)], ascii "gone"⟩ := rfl
  have hurl : (Endpoint.of "http://[::]" "/").targetUrl = .ok "http://[::]/".toList := by cbv
  let uri : Uri := ⟨some "http".toList, "[::]".toList, "/".toList⟩
  let next : Uri := ⟨some "http".toList, "[::]".toList, "/next".toList⟩
  have huri : refusal? "http://[::]/".toList none = .ok uri := by cbv
  have hnext : resolve uri "/next".toList = .ok next := by cbv
  have hasked : Http.ask turningAway uri (post uri none "true".toList) = (.replied _, _) :=
    ask_of_read rfl (by decide) (isWritable_post_none _ _) rfl hmoved
  have hfollowed : Http.ask (turningAway.receive (post uri none "true".toList)) next (follow next) =
      (.replied _, _) := ask_of_read rfl (by decide) (isWritable_follow _) rfl hgone
  have hlast : Concludes maxRedirects turningAway uri (post uri none "true".toList) _ _ :=
    .sentOn hasked rfl (fun hk => absurd hk.1 (by decide)) rfl hnext (.here hfollowed rfl)
  exact ⟨_, ⟨_, _, _, ⟨hurl, rfl⟩, uri, huri, by decide, hlast⟩, rfl, by decide, rfl⟩

end Courier
