import Courier.Proofs.Delivery.Clock

/-!
# The requests of a delivery

A delivery sends one POST, and a GET wherever it is sent on. What these say and how it ends depends
on the network and on the URL, and not on what the POST carries.

Results:

* `exists_passage` — how a request fares is the same for all requests with one method.
* `exists_delivery` — how a delivery fares is the same for all tokens and bodies that come to be
  sent.
* `deliver_requests` — **a redirect neither repeats a delivery nor gives it away**: at most ten GETs
  follow the POST, and they are the same whatever token and body that carries.
-/

namespace Courier.Http

open Courier.Text

/-! ## Networks that reply alike -/

/-- Two networks that differ at most in what the requests said so far. -/
structure Network.Alike (net other : Network) : Prop where
  route : net.route = other.route
  replies : net.replies = other.replies
  gateOpen : net.gateOpen = other.gateOpen
  clock : net.clock = other.clock
  length : net.requests.length = other.requests.length

/-- The network once the collector has requests. -/
def Network.receiveAll (net : Network) (requests : List Request) : Network :=
  { net with requests := net.requests ++ requests }

variable {net other : Network} {uri : Uri} {request : Request} {redirects : Nat}
  {timeouts : Timeouts} {url body : List Char} {token : Option (List Char)}

@[simp]
theorem Network.receiveAll_nil (net : Network) : net.receiveAll [] = net := by
  unfold receiveAll
  rw [List.append_nil]

theorem Network.receiveAll_cons (net : Network) (request : Request) (rest : List Request) :
    net.receiveAll (request :: rest) = (net.receive request).receiveAll rest := by
  simp only [receiveAll, receive, List.append_assoc, List.singleton_append]

namespace Network.Alike

theorem refl (net : Network) : net.Alike net := ⟨rfl, rfl, rfl, rfl, rfl⟩

theorem nextReply (h : net.Alike other) : net.nextReply = other.nextReply := by
  unfold Network.nextReply
  rw [h.replies, h.length]

theorem receive (h : net.Alike other) (r s : Request) :
    (net.receive r).Alike (other.receive s) where
  route := h.route
  replies := h.replies
  gateOpen := h.gateOpen
  clock := h.clock
  length := by simp only [Network.receive, List.length_append, h.length, List.length_singleton]

end Network.Alike

/-! ## How requests fare -/

/-- How a request fares: how it ends, whether the collector gets it, and the requests that
follow. -/
structure Passage (α : Type) where
  ending : α
  isSent : Bool
  gets : List Request

/-- All that the collector gets of a request. -/
def Passage.requests {α : Type} (p : Passage α) (request : Request) : List Request :=
  if p.isSent then request :: p.gets else []

/-- Not more requests than so many, and they follow redirects. -/
structure Follows (redirects : Nat) (gets : List Request) : Prop where
  length_le : gets.length ≤ redirects
  follow : ∀ get ∈ gets, ∃ next, get = follow next

theorem follows_nil (redirects : Nat) : Follows redirects [] :=
  ⟨Nat.zero_le _, nofun⟩

/-- After a redirect the requests that follow are one more. -/
theorem Follows.sentOn {α : Type} {p : Passage α} (h : Follows redirects p.gets) (next : Uri) :
    Follows (redirects + 1) (p.requests (Http.follow next)) := by
  unfold Passage.requests
  cases p.isSent with
  | false => exact follows_nil _
  | true =>
    refine ⟨Nat.succ_le_succ h.length_le, fun get hg => ?_⟩
    rcases List.mem_cons.mp hg with rfl | hg
    · exact ⟨next, rfl⟩
    · exact h.follow get hg

theorem Network.Alike.answer (h : net.Alike other) : net.answer = other.answer := by
  unfold Network.answer
  rw [h.nextReply, h.gateOpen]

theorem ask_of_collector (hr : net.route uri.host = .collector)
    (hs : uri.scheme ≠ some "https".toList) (hw : request.isWritable = true) :
    ask net uri request = (net.answer, net.receive request) := by
  unfold ask
  simp only [hr, hw, if_neg hs, Bool.not_true, Bool.false_eq_true, if_false]

/-- A request fails before it is sent, or the collector gets it. -/
theorem ask_cases (net : Network) (uri : Uri) (request : Request) :
    (∃ cause, ask net uri request = (.failed cause, net)) ∨
      ask net uri request = (net.answer, net.receive request) := by
  unfold ask
  split
  · exact .inl ⟨_, rfl⟩
  · exact .inl ⟨_, rfl⟩
  · exact .inl ⟨_, rfl⟩
  · exact .inl ⟨_, rfl⟩
  · split
    · exact .inl ⟨_, rfl⟩
    · split
      · exact .inl ⟨_, rfl⟩
      · exact .inr rfl

/-- A request without a way to the collector fails alike for all. -/
theorem ask_of_no_way (h : net.route uri.host ≠ .collector ∨ uri.scheme = some "https".toList) :
    ∃ cause, ∀ other request, net.Alike other → ask other uri request = (.failed cause, other) := by
  cases hr : net.route uri.host with
  | collector =>
    have hs : uri.scheme = some "https".toList := h.resolve_left fun hn => hn hr
    exact ⟨_, fun other request ha => by simp only [ask, ← ha.route, hr, if_pos hs]; rfl⟩
  | _ => exact ⟨_, fun other request ha => by simp only [ask, ← ha.route, hr]; rfl⟩

/-- One that cannot be written fails too. -/
theorem ask_of_unwritable (net : Network) (uri : Uri) :
    ∃ cause, ∀ other request, net.Alike other → request.isWritable = false →
      ask other uri request = (.failed cause, other) := by
  by_cases h : net.route uri.host ≠ .collector ∨ uri.scheme = some "https".toList
  · obtain ⟨cause, hc⟩ := ask_of_no_way h
    exact ⟨cause, fun other request ha _ => hc other request ha⟩
  · obtain ⟨hr, hs⟩ := not_or.mp h
    have hr := not_not.mp hr
    refine ⟨.protocol "authorization header is not a string", fun other request ha hw => ?_⟩
    simp only [ask, ← ha.route, hr, hw, if_neg hs, Bool.not_false, if_true]

/-- One request alone that can be written: either nobody gets it and there is no reply, or the
collector does. -/
theorem exists_answer (net : Network) (uri : Uri) :
    (∃ cause, ∀ other request, net.Alike other → ask other uri request = (.failed cause, other)) ∨
    ∃ result : Exchange, ∀ other request, net.Alike other → request.isWritable = true →
      ask other uri request = (result, other.receive request) := by
  by_cases h : net.route uri.host ≠ .collector ∨ uri.scheme = some "https".toList
  · exact .inl (ask_of_no_way h)
  · obtain ⟨hr, hs⟩ := not_or.mp h
    have hr := not_not.mp hr
    refine .inr ⟨net.answer, fun other request ha hw => ?_⟩
    rw [ha.answer]
    exact ask_of_collector (ha.route ▸ hr) hs hw

/-! ## Exchanges -/

/-- Where a reply sends a request on, and how often it may still be sent on then; or how the
exchange ends. -/
def onward (uri : Uri) (method : String) (response : Response) (redirects : Nat) :
    Except Exchange (Uri × Nat) :=
  if !response.isRedirect then .error (.replied response)
  else if response.keepsMethod && method = "POST" then .error (.failed .redirectFailed)
  else
    match response.header? "location", redirects with
    | none, _ => .error (.failed (.protocol "missing a location header"))
    | some _, 0 => .error (.failed .tooManyRedirects)
    | some location, fewer + 1 =>
      match resolve uri location with
      | .error fault => .error (.failed (.malformed fault.message))
      | .ok next => .ok (next, fewer)

/-- A request is sent on once less often after each time. -/
theorem eq_of_onward {method : String} {response : Response} {next : Uri} {fewer : Nat}
    (h : onward uri method response redirects = .ok (next, fewer)) : redirects = fewer + 1 := by
  unfold onward at h
  split at h
  · exact absurd h nofun
  · split at h
    · exact absurd h nofun
    · split at h
      · exact absurd h nofun
      · exact absurd h nofun
      · split at h
        · exact absurd h nofun
        · cases h
          rfl

/-- An exchange without a reply is over. -/
theorem exchange_of_unreplied {result : Exchange} (ha : ask net uri request = (result, other))
    (hn : ∀ response, result ≠ .replied response) :
    exchange net uri request redirects = (result, other) := by
  unfold exchange
  rw [ha]
  cases result with
  | replied response => exact absurd rfl (hn response)
  | failed cause => rfl
  | waiting => rfl

/-- An exchange with a reply is over, or goes on with a request that follows. -/
theorem exchange_of_replied {response : Response}
    (ha : ask net uri request = (.replied response, other)) :
    exchange net uri request redirects =
      match onward uri request.method response redirects with
      | .error result => (result, other)
      | .ok (next, fewer) => exchange other next (follow next) fewer := by
  rw [exchange.eq_def, ha]
  unfold onward
  by_cases hr : response.isRedirect
  · by_cases hk : response.keepsMethod && request.method = "POST"
    · simp only [hr, hk, Bool.not_true, Bool.false_eq_true, if_false, if_true]
    · simp only [hr, hk, Bool.not_true, Bool.false_eq_true, if_false]
      cases response.header? "location" with
      | none => rfl
      | some location =>
        cases redirects with
        | zero => rfl
        | succ fewer => cases hn : resolve uri location <;> simp only [hn]
  · simp only [hr, Bool.not_false, if_true]

/-- **How a request fares** that can be written. It does not depend on what the request says besides
its method, nor on what earlier ones said; and what follows it carries nothing. -/
theorem exists_passage (net : Network) (uri : Uri) (method : String) (redirects : Nat) :
    ∃ p : Passage Exchange, Follows redirects p.gets ∧
      ∀ other request, net.Alike other → request.method = method → request.isWritable = true →
        exchange other uri request redirects =
          (p.ending, other.receiveAll (p.requests request)) := by
  induction redirects using Nat.strong_induction_on generalizing net uri method with
  | _ redirects ih =>
  rcases exists_answer net uri with ⟨cause, ha⟩ | ⟨result, ha⟩
  · refine ⟨⟨.failed cause, false, []⟩, follows_nil _, fun other request h _ _ => ?_⟩
    rw [exchange_of_unreplied (ha other request h) fun _ => nofun]
    exact congrArg _ other.receiveAll_nil.symm
  · -- The passage that ends with the request itself.
    have hend : ∀ ending : Exchange, (∀ other request, net.Alike other → request.method = method →
        request.isWritable = true →
          exchange other uri request redirects = (ending, other.receive request)) →
        ∃ p : Passage Exchange, Follows redirects p.gets ∧
          ∀ other request, net.Alike other → request.method = method → request.isWritable = true →
            exchange other uri request redirects =
              (p.ending, other.receiveAll (p.requests request)) :=
      fun ending he => ⟨⟨ending, true, []⟩, follows_nil _, he⟩
    by_cases hr : ∃ response, result = .replied response
    · obtain ⟨response, rfl⟩ := hr
      cases ho : onward uri method response redirects with
      | error ending =>
        refine hend ending fun other request h hm hw => ?_
        rw [exchange_of_replied (ha other request h hw), hm, ho]
      | ok onto =>
        obtain ⟨next, fewer⟩ := onto
        obtain rfl := eq_of_onward ho
        -- Any request in the place of this one leaves an alike network behind.
        obtain ⟨p, hp, hx⟩ := ih fewer (Nat.lt_succ_self _) (net.receive (follow uri)) next "GET"
        refine ⟨⟨p.ending, true, p.requests (follow next)⟩, ?_, fun other request h hm hw => ?_⟩
        · exact hp.sentOn next
        · rw [exchange_of_replied (ha other request h hw), hm, ho]
          simp only
          rw [hx _ (follow next) (h.receive _ _) rfl (isWritable_follow next)]
          simp only [Passage.requests, if_true, Network.receiveAll_cons]
    · refine hend result fun other request h _ hw => ?_
      exact exchange_of_unreplied (ha other request h hw) fun response he => hr ⟨response, he⟩

/-- A request that cannot be written is not sent. -/
theorem exists_unwritten (net : Network) (uri : Uri) (redirects : Nat) :
    ∃ cause, ∀ other request, net.Alike other → request.isWritable = false →
      exchange other uri request redirects = (.failed cause, other) := by
  obtain ⟨cause, hc⟩ := ask_of_unwritable net uri
  exact ⟨cause, fun other request h hw =>
    exchange_of_unreplied (hc other request h hw) fun _ => nofun⟩

/-! ## Deliveries -/

theorem deliver_of_refused {cause : TransportError} (hs : refusal? url token = .error cause) :
    deliver net timeouts url token body = (.finished (.error (.noResponse cause)), net) := by
  simp only [deliver, hs]

theorem deliver_of_no_time (hs : refusal? url token = .ok uri)
    (ho : timeouts.overflow net.clock = false) (hz : timeouts.total.nanoseconds = 0) :
    deliver net timeouts url token body = (.finished (.error (.noResponse .outOfTime)), net) := by
  have ht : isBeyondClock net.clock timeouts.total = false := (Bool.or_eq_false_iff.mp ho).1
  simp only [deliver, hs, ht, hz, Bool.false_eq_true, if_false, if_true]

/-- A delivery whose POST is not to be sent leaves the network as it is, and ends alike for all. -/
def Unsent (net : Network) (timeouts : Timeouts) (uri : Uri) (isWritable : Bool) : Prop :=
  ∃ ending : Attempt, ∀ other url token body, net.Alike other → refusal? url token = .ok uri →
    (post uri token body).isWritable = isWritable →
      deliver other timeouts url token body = (ending, other)

/-- **How a delivery fares.** Once its URL and token are fit to be sent it does not depend on the
token but by whether this can be written, on the body, or on what earlier requests said. -/
theorem exists_delivery (net : Network) (timeouts : Timeouts) (uri : Uri) :
    Unsent net timeouts uri false ∧ (Unsent net timeouts uri true ∨
      ∃ p : Passage Attempt, Follows maxRedirects p.gets ∧
        ∀ other url token body, net.Alike other → refusal? url token = .ok uri →
          (post uri token body).isWritable = true →
            deliver other timeouts url token body =
              (p.ending, other.receiveAll (p.requests (post uri token body)))) := by
  cases ho : timeouts.overflow net.clock with
  | true =>
    have hunsent (isWritable : Bool) : Unsent net timeouts uri isWritable :=
      ⟨_, fun other url token body h hs _ => deliver_of_overflow hs (h.clock ▸ ho)⟩
    exact ⟨hunsent false, .inl (hunsent true)⟩
  | false =>
    by_cases hz : timeouts.total.nanoseconds = 0
    · have hunsent (isWritable : Bool) : Unsent net timeouts uri isWritable :=
        ⟨_, fun other url token body h hs _ => deliver_of_no_time hs (h.clock ▸ ho) hz⟩
      exact ⟨hunsent false, .inl (hunsent true)⟩
    · obtain ⟨cause, hc⟩ := exists_unwritten net uri maxRedirects
      obtain ⟨p, hp, hx⟩ := exists_passage net uri "POST" maxRedirects
      refine ⟨⟨_, fun other url token body h hs hw =>
        deliver_of_exchange hs (h.clock ▸ ho) hz (hc other _ h hw)⟩, .inr ?_⟩
      refine ⟨⟨p.ending.attempt, p.isSent, p.gets⟩, hp, ?_⟩
      intro other url token body h hs hw
      exact deliver_of_exchange hs (h.clock ▸ ho) hz (hx other (post uri token body) h rfl hw)

/-- What a delivery sends: nothing, or its POST and behind it the same GETs, whatever the POST
carries. -/
theorem exists_sent (net : Network) (timeouts : Timeouts) (uri : Uri) :
    ∃ gets, Follows maxRedirects gets ∧ ∀ {url} token body, refusal? url token = .ok uri →
      (deliver net timeouts url token body).2.requests = net.requests ∨
        (deliver net timeouts url token body).2.requests =
          net.requests ++ post uri token body :: gets := by
  obtain ⟨⟨_, hn⟩, hd⟩ := exists_delivery net timeouts uri
  -- Credentials that cannot be written are not sent.
  have hunsent {url : List Char} (token : Option (List Char)) (body : List Char)
      (hs : refusal? url token = .ok uri) (hw : (post uri token body).isWritable = false) :
      (deliver net timeouts url token body).2.requests = net.requests := by
    rw [hn net url token body (.refl net) hs hw]
  rcases hd with ⟨_, hx⟩ | ⟨p, hp, hx⟩
  · refine ⟨[], follows_nil _, fun {url} token body hs => .inl ?_⟩
    cases hw : (post uri token body).isWritable with
    | false => exact hunsent token body hs hw
    | true => rw [hx net url token body (.refl net) hs hw]
  · refine ⟨p.gets, hp, fun {url} token body hs => ?_⟩
    cases hw : (post uri token body).isWritable with
    | false => exact .inl (hunsent token body hs hw)
    | true =>
      rw [hx net url token body (.refl net) hs hw]
      unfold Passage.requests
      cases p.isSent with
      | false => exact .inl (List.append_nil _)
      | true => exact .inr rfl

/-! ## Header values -/

/-- Whether a character is left out at the ends of a header value. -/
def isBlank (c : Char) : Bool :=
  c = ' ' || c = '\t'

theorem trimValue_eq (text : List Char) :
    trimValue text = (text.dropWhile isBlank).rdropWhile isBlank := rfl

/-- What stands before something that stays stays. -/
theorem rdropWhile_append_cons {α : Type} {p : α → Bool} {last : α} (hl : p last = false)
    (front rest : List α) :
    (front ++ last :: rest).rdropWhile p = front ++ last :: rest.rdropWhile p := by
  induction rest using List.reverseRecOn with
  | nil => exact List.rdropWhile_concat_neg p front last (by simp [hl])
  | append_singleton rest x ih =>
    rw [← List.cons_append, ← List.append_assoc]
    cases hx : p x with
    | true => rw [List.rdropWhile_concat_pos p _ x hx, List.rdropWhile_concat_pos p _ x hx, ih]
    | false =>
      rw [List.rdropWhile_concat_neg p _ x (by simp [hx]),
        List.rdropWhile_concat_neg p _ x (by simp [hx]), List.append_assoc]
      rfl

/-- Behind a word only the blanks at the end are left out. -/
theorem trimValue_word (first : Char) (word : List Char) (last : Char) (rest : List Char)
    (hf : isBlank first = false) (hl : isBlank last = false) :
    trimValue (first :: word ++ last :: rest) =
      first :: word ++ last :: rest.rdropWhile isBlank := by
  rw [trimValue_eq, List.cons_append, List.dropWhile_cons_of_neg (by simp [hf]),
    ← List.cons_append]
  exact rdropWhile_append_cons hl _ _

theorem trimValue_bearer (token : List Char) :
    trimValue (bearerValue token) = "Bearer".toList ++ (' ' :: token).rdropWhile isBlank :=
  trimValue_word 'B' "eare".toList 'r' (' ' :: token) rfl rfl

theorem exists_trimValue_basic (userInfo : List Char) :
    ∃ rest, trimValue (basicValue userInfo) = "Basic".toList ++ rest :=
  ⟨_, trimValue_word 'B' "asi".toList 'c' (' ' :: base64 _) rfl rfl⟩

/-! ## What requests carry -/

/-- The values of all headers with a name. -/
def Request.values (r : Request) (name : String) : List (List Char) :=
  (r.headers.filter (·.1 = name)).map (·.2)

theorem values_authorization (r : Request) {credentials : Option (List Char)} {length : Option Nat}
    (h : r.headers = headersOf uri credentials length) :
    r.values "authorization" = (credentials.map trimValue).toList := by
  unfold Request.values
  rw [h]
  cases credentials <;> cases length <;> rfl

/-- A POST with a body, and the token where the client puts one. -/
structure Request.Carries (token : Option (List Char)) (body : List Char) (r : Request) :
    Prop where
  method : r.method = "POST"
  body : r.body = body
  bearer : ∀ text, token = some text → r.values "authorization" =
    ["Bearer".toList ++ (' ' :: text).rdropWhile isBlank]
  none : token = none → ∀ value ∈ r.values "authorization", ¬"Bearer".toList <+: value

/-- A GET without a body, and without anything that a token was made into. -/
structure Request.IsBare (r : Request) : Prop where
  method : r.method = "GET"
  body : r.body = []
  length : r.values "content-length" = []
  bearer : ∀ value ∈ r.values "authorization", ¬"Bearer".toList <+: value

/-- User information makes no header that looks like a token's. -/
theorem not_bearer_of_userInfo {r : Request} {length : Option Nat}
    (h : r.headers = headersOf uri (credentials uri none) length) :
    ∀ value ∈ r.values "authorization", ¬"Bearer".toList <+: value := by
  rw [values_authorization r h]
  intro value hv hp
  obtain ⟨info, _, rfl⟩ : ∃ info, uri.userInfo? = some info ∧
      trimValue (basicValue info) = value := by
    simpa [credentials] using hv
  obtain ⟨rest, hr⟩ := exists_trimValue_basic info
  obtain ⟨more, hm⟩ := hp
  rw [hr] at hm
  exact absurd (List.cons.inj (List.cons.inj hm).2).1 (by decide)

theorem carries_post (uri : Uri) (token : Option (List Char)) (body : List Char) :
    (post uri token body).Carries token body where
  method := rfl
  body := rfl
  bearer := by
    rintro text rfl
    rw [values_authorization _ (headers_post uri (some text) body)]
    exact congrArg (fun value => [value]) (trimValue_bearer text)
  none := by
    rintro rfl
    exact not_bearer_of_userInfo (headers_post uri none body)

theorem isBare_follow (uri : Uri) : (follow uri).IsBare where
  method := rfl
  body := rfl
  length := by
    unfold Request.values follow
    cases credentials uri none <;> rfl
  bearer := not_bearer_of_userInfo (headers_follow uri)

theorem Follows.isBare {gets : List Request} (h : Follows redirects gets) :
    ∀ get ∈ gets, get.IsBare := by
  intro get hg
  obtain ⟨next, rfl⟩ := h.follow get hg
  exact isBare_follow next

/-! ## Deliveries to one URL -/

/-- A URI that is fit to be sent is that of the URL. -/
theorem parse_of_refusal? (h : refusal? url token = .ok uri) : Uri.parse url = .ok uri := by
  unfold refusal? at h
  split at h
  · exact absurd h nofun
  · rename_i parsed hp
    split at h
    · exact absurd h nofun
    · split at h
      · exact absurd h nofun
      · cases h
        exact hp

/-- **The requests of a delivery.** None is sent, or the POST and behind it GETs that carry nothing,
the same ones whatever token and body the POST carries. -/
theorem exists_gets (net : Network) (timeouts : Timeouts) (url : List Char) :
    ∃ gets : List Request, gets.length ≤ 10 ∧ (∀ get ∈ gets, get.IsBare) ∧
      ∀ token body, (deliver net timeouts url token body).2.requests = net.requests ∨
        ∃ r : Request, r.Carries token body ∧
          (deliver net timeouts url token body).2.requests = net.requests ++ r :: gets := by
  cases hu : Uri.parse url with
  | error fault =>
    refine ⟨[], Nat.zero_le _, nofun, fun token body => .inl ?_⟩
    cases hs : refusal? url token with
    | error cause => rw [deliver_of_refused hs]
    | ok uri => exact absurd (hu.symm.trans (parse_of_refusal? hs)) nofun
  | ok uri =>
    obtain ⟨gets, hg, hd⟩ := exists_sent net timeouts uri
    refine ⟨gets, hg.length_le, hg.isBare, fun token body => ?_⟩
    cases hs : refusal? url token with
    | error cause =>
      rw [deliver_of_refused hs]
      exact .inl rfl
    | ok sent =>
      obtain rfl := Except.ok.inj (hu.symm.trans (parse_of_refusal? hs))
      exact (hd token body hs).imp_right fun h => ⟨_, carries_post uri token body, h⟩

end Courier.Http

namespace Courier

open Courier.Http

/-- **A redirect neither repeats a delivery nor gives it away.** Over every network, whatever the
collector replies and wherever it sends the client:

* a delivery to a URL sends nothing, or one POST and at most ten GETs. The POST carries the body and
  the token; no GET carries anything, and the GETs are the same for all bodies and all tokens;
* so it is when a result is sent to an endpoint. -/
theorem deliver_requests (net : Network) :
    (∀ (timeouts : Timeouts) (url : List Char), ∃ gets : List Request,
      gets.length ≤ 10 ∧ (∀ get ∈ gets, get.IsBare) ∧
        ∀ token body, (deliver net timeouts url token body).2.requests = net.requests ∨
          ∃ r : Request, r.Carries token body ∧
            (deliver net timeouts url token body).2.requests = net.requests ++ r :: gets) ∧
    ∀ (e : Endpoint) (payload : Payload),
      (trySend net e payload).network.requests = net.requests ∨
        ∃ body r gets, payload.text = .ok body ∧
          Request.Carries (e.bearer.map String.toList) body r ∧ gets.length ≤ 10 ∧
          (∀ get ∈ gets, Request.IsBare get) ∧
          (trySend net e payload).network.requests = net.requests ++ r :: gets := by
  refine ⟨exists_gets net, fun e payload => ?_⟩
  unfold trySend
  cases e.targetUrl with
  | error cause => exact .inl rfl
  | ok url =>
    cases payload.text with
    | error cause => exact .inl rfl
    | ok body =>
      obtain ⟨gets, hl, hg, hd⟩ := exists_gets net e.timeouts url
      rcases hd (e.bearer.map String.toList) body with h | ⟨r, hr, h⟩
      · exact .inl h
      · exact .inr ⟨body, r, gets, rfl, hr, hl, hg, h⟩

/-- A collector that sends every request back to where it came from. -/
def looping : Network :=
  ⟨fun _ => .collector, [⟨ascii "HTTP/1.1 302 Found\r\nLocation: /\r\n\r\n", false⟩], false, [],
    .start⟩

example : (deliver looping .standard "http://[::]/".toList none "1".toList).2.requests.length =
    11 := by decide +kernel

end Courier
