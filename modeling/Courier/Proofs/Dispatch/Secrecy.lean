import Courier.Proofs.Delivery.Requests
import Courier.Proofs.Dispatch.Plays

/-!
# The token is kept secret

An endpoint's token goes into one header of its POSTs, and nothing else that is done with an
endpoint depends on it but by whether there is one.

Requests are looked at through a view. `Veils` says when it does not show the tokens of two
endpoints, and `Indistinct` says what that comes to: calls, interleavings and scripts do the same
with both.

Results:

* `Veils.deliver` — one delivery.
* `Veils.next?`, `Veils.step` — one step of an interleaving, one step of a script.
* `Veils.indistinct` — **what a view does not show cannot be told from anything else**.
* `indistinct_of_token` — **nothing depends on the token but through the bearer, and on its text but
  in the authorization header of a POST**.
-/

namespace Courier

open Courier.Http

/-! ## Views -/

/-- What one sees of a network who looks at its requests through a view. -/
def Http.Network.seen (view : Request → Request) (net : Network) : Network :=
  { net with requests := net.requests.map view }

/-- Something with a network behind it, as one sees it. -/
def seenWith {α : Type} (view : Request → Request) (p : α × Network) : α × Network :=
  (p.1, p.2.seen view)

/-- A call as one sees it. -/
def Call.seen {α : Type} (view : Request → Request) (call : Call α) : Call α :=
  { call with network := call.network.seen view }

/-- A dispatcher in use as one sees it. -/
def Dispatch.Wired.seen (view : Request → Request) (w : Wired) : Wired :=
  { w with network := w.network.seen view }

/-- What a script leaves behind as one sees it. -/
def Dispatch.Outcome.seen (view : Request → Request) (o : Outcome) : Outcome :=
  { o with requests := o.requests.map view }

/-- A request for one who does not look at the credentials of a POST. -/
def Http.Request.masked (r : Request) : Request :=
  if r.method = "POST" then
    { r with headers := r.headers.map fun header =>
        if header.1 = "authorization" then (header.1, []) else header }
  else r

open Dispatch

/-- Two endpoints that are the same but for their tokens, which are both fit to be sent or both not,
can both be written or both not, and which a view does not show. -/
structure Veils (view : Request → Request) (e e' : Endpoint) : Prop where
  baseUrl : e.baseUrl = e'.baseUrl
  path : e.path = e'.path
  timeouts : e.timeouts = e'.timeouts
  bearer : e.bearer.isSome = e'.bearer.isSome
  refusal : ∀ url,
    refusal? url (e.bearer.map String.toList) = refusal? url (e'.bearer.map String.toList)
  writable : ∀ uri body, (post uri (e.bearer.map String.toList) body).isWritable =
    (post uri (e'.bearer.map String.toList) body).isWritable
  post : ∀ uri body, view (post uri (e.bearer.map String.toList) body) =
    view (Http.post uri (e'.bearer.map String.toList) body)

/-- Two endpoints that nobody can tell apart who looks at requests through a view. -/
structure Indistinct (view : Request → Request) (e e' : Endpoint) : Prop where
  /-- They are shown alike. -/
  shown : e.line = e'.line ∧ e.block = e'.block
  /-- A dispatcher is the same for both, -/
  start : ∀ options, Dispatcher.start e options = Dispatcher.start e' options
  /-- results that are sent one after the other fare the same, -/
  trySendAll : ∀ net payloads, (trySendAll net e payloads).map (·.seen view) =
    (trySendAll net e' payloads).map (·.seen view)
  send : ∀ net payload, (send net e payload).seen view = (send net e' payload).seen view
  /-- the same can happen to a dispatcher in use, and the same comes of it, -/
  run? : ∀ w labels, (Wired.run? e w labels).map (·.seen view) =
    (Wired.run? e' w labels).map (·.seen view)
  /-- and so it is with scripts. -/
  run : ∀ net options script, (run net e options script).map (·.seen view) =
    (Dispatch.run net e' options script).map (·.seen view)

variable {view : Request → Request} {e e' : Endpoint} {net net' : Network}

/-! ## Deliveries -/

theorem alike_of_seen (h : net.seen view = net'.seen view) : net.Alike net' where
  route := congrArg (·.route) h
  replies := congrArg (·.replies) h
  gateOpen := congrArg (·.gateOpen) h
  clock := congrArg (·.clock) h
  length := by simpa [Network.seen] using congrArg (·.requests.length) h

/-- Networks that look the same still do so when each has got requests that look the same. -/
theorem seen_receiveAll {requests requests' : List Request} (h : net.seen view = net'.seen view)
    (hr : requests.map view = requests'.map view) :
    (net.receiveAll requests).seen view = (net'.receiveAll requests').seen view := by
  simp only [Network.seen, Network.mk.injEq] at h
  simp only [Network.seen, Network.receiveAll, List.map_append, h, hr]

/-- **A delivery fares the same with both tokens.** -/
theorem Veils.deliver (hv : Veils view e e') (hn : net.seen view = net'.seen view)
    (url body : List Char) :
    seenWith view (deliver net e.timeouts url (e.bearer.map String.toList) body) =
      seenWith view (Http.deliver net' e'.timeouts url (e'.bearer.map String.toList) body) := by
  rw [← hv.timeouts]
  cases hs : refusal? url (e.bearer.map String.toList) with
  | error cause =>
    rw [deliver_of_refused hs, deliver_of_refused (hv.refusal url ▸ hs)]
    exact congrArg (Prod.mk _) hn
  | ok uri =>
    have hs' := hv.refusal url ▸ hs
    have hw' := hv.writable uri body
    -- A POST that is not sent leaves both networks as they are.
    have hunsent {isWritable : Bool} (hu : Unsent net e.timeouts uri isWritable)
        (hw : (Http.post uri (e.bearer.map String.toList) body).isWritable = isWritable) :
        seenWith view (Http.deliver net e.timeouts url (e.bearer.map String.toList) body) =
          seenWith view (Http.deliver net' e.timeouts url (e'.bearer.map String.toList) body) := by
      obtain ⟨ending, hx⟩ := hu
      rw [hx net url _ body (.refl net) hs hw,
        hx net' url _ body (alike_of_seen hn) hs' (hw'.symm.trans hw)]
      exact congrArg (Prod.mk _) hn
    obtain ⟨hno, hyes⟩ := exists_delivery net e.timeouts uri
    cases hw : (Http.post uri (e.bearer.map String.toList) body).isWritable with
    | false => exact hunsent hno hw
    | true =>
      rcases hyes with hyes | ⟨p, _, hd⟩
      · exact hunsent hyes hw
      · rw [hd net url _ body (.refl net) hs hw,
          hd net' url _ body (alike_of_seen hn) hs' (hw'.symm.trans hw)]
        refine congrArg (Prod.mk _) (seen_receiveAll hn ?_)
        unfold Passage.requests
        cases p.isSent with
        | false => rfl
        | true => exact congrArg (· :: _) (hv.post uri body)

theorem Veils.targetUrl (hv : Veils view e e') : e.targetUrl = e'.targetUrl := by
  unfold Endpoint.targetUrl
  rw [hv.baseUrl, hv.path]

theorem Veils.trySend (hv : Veils view e e') (hn : net.seen view = net'.seen view)
    (payload : Payload) :
    (trySend net e payload).seen view = (Courier.trySend net' e' payload).seen view := by
  unfold Courier.trySend
  rw [← hv.targetUrl]
  cases e.targetUrl with
  | error cause => exact congrArg (Call.mk _ · _) hn
  | ok url =>
    cases payload.text with
    | error cause => exact congrArg (Call.mk _ · _) hn
    | ok body =>
      obtain ⟨ha, hs⟩ := Prod.mk.inj (hv.deliver hn url body)
      simp only [Call.seen, ha, hs]

theorem Veils.trySendAll (hv : Veils view e e') (hn : net.seen view = net'.seen view)
    (payloads : List Payload) : (trySendAll net e payloads).map (·.seen view) =
      (Courier.trySendAll net' e' payloads).map (·.seen view) := by
  induction payloads generalizing net net' with
  | nil => rfl
  | cons payload rest ih =>
    have ht := hv.trySend hn payload
    have hnext := ih (congrArg Call.network ht)
    simp only [Courier.trySendAll, List.map_cons, ht, hnext]

theorem Veils.send (hv : Veils view e e') (payload : Payload) :
    (send net e payload).seen view = (Courier.send net e' payload).seen view := by
  have ht : (Courier.trySend net e payload).seen view =
      (Courier.trySend net e' payload).seen view := hv.trySend rfl payload
  simp only [Call.seen, Call.mk.injEq] at ht
  simp only [Call.seen, Courier.send, ht]

/-! ## Interleavings -/

theorem Veils.symm (hv : Veils view e e') : Veils view e' e where
  baseUrl := hv.baseUrl.symm
  path := hv.path.symm
  timeouts := hv.timeouts.symm
  bearer := hv.bearer.symm
  refusal := fun url => (hv.refusal url).symm
  writable := fun uri body => (hv.writable uri body).symm
  post := fun uri body => (hv.post uri body).symm

variable {w w' x : Wired} {label : Label} {labels : List Label}

/-- **What can happen next can happen with both tokens, and comes to the same.** -/
theorem Veils.next? (hv : Veils view e e') (hw : w.seen view = w'.seen view)
    (h : w.next? e label = some x) :
    ∃ x', w'.next? e' label = some x' ∧ x.seen view = x'.seen view := by
  obtain ⟨u, net⟩ := w
  obtain ⟨u', net'⟩ := w'
  obtain ⟨rfl, hn⟩ := Wired.mk.inj hw
  obtain ⟨hu, ⟨hx, hf⟩ | ⟨body, attempt, hp, ha, rfl⟩⟩ := Wired.cases_of_next? h
  · refine ⟨_, Wired.next?_of_usage (w := ⟨u, net'⟩) hf hu, ?_⟩
    simp only [Wired.seen, hx, hn]
  · have hd := hv.deliver hn u.dispatcher.url body
    cases ha' : (Wired.mk u net').attempt e' body with
    | mk attempt' after' =>
      rw [show Http.deliver net _ _ _ body = _ from ha,
        show Http.deliver net' _ _ _ body = _ from ha'] at hd
      obtain ⟨rfl, hs⟩ := Prod.mk.inj hd
      refine ⟨_, Wired.next?_of_attempt (w := ⟨u, net'⟩) hp ha' hu, ?_⟩
      simp only [Wired.seen, hs]

theorem Veils.exists_run? (hv : Veils view e e') (hw : w.seen view = w'.seen view)
    (h : w.run? e labels = some x) :
    ∃ x', w'.run? e' labels = some x' ∧ x.seen view = x'.seen view := by
  induction labels generalizing w w' with
  | nil =>
    cases h
    exact ⟨w', rfl, hw⟩
  | cons label rest ih =>
    obtain ⟨y, hy, h⟩ := Option.bind_eq_some_iff.mp h
    obtain ⟨y', hy', hs⟩ := hv.next? hw hy
    obtain ⟨x', hx', hx⟩ := ih hs h
    exact ⟨x', Option.bind_eq_some_iff.mpr ⟨y', hy', hx'⟩, hx⟩

theorem Veils.run? (hv : Veils view e e') (w : Wired) (labels : List Label) :
    (w.run? e labels).map (·.seen view) = (w.run? e' labels).map (·.seen view) := by
  cases hx : w.run? e labels with
  | some x =>
    obtain ⟨x', hx', hs⟩ := hv.exists_run? rfl hx
    rw [hx']
    exact congrArg some hs
  | none =>
    cases hx' : w.run? e' labels with
    | none => rfl
    | some x' =>
      -- What can happen with the second token can happen with the first one too.
      obtain ⟨x, h, _⟩ := hv.symm.exists_run? rfl hx'
      exact absurd (hx.symm.trans h) nofun

/-! ## Workers in a script -/

variable {p p' : Pair}

/-- What a worker does next, it does with both tokens. -/
theorem Veils.advance (hv : Veils view e e') (hp : seenWith view p = seenWith view p') :
    seenWith view (advance e p) = seenWith view (Dispatch.advance e' p') := by
  obtain ⟨d, net⟩ := p
  obtain ⟨d', net'⟩ := p'
  obtain ⟨rfl, hn⟩ := Prod.mk.inj hp
  have hn : net.seen view = net'.seen view := hn
  unfold Dispatch.advance
  cases hphase : d.phase with
  | delivering body =>
    have hd := hv.deliver hn d.url body
    cases ha : Http.deliver net e.timeouts d.url (e.bearer.map String.toList) body with
    | mk attempt after =>
      cases ha' : Http.deliver net' e'.timeouts d.url (e'.bearer.map String.toList) body with
      | mk attempt' after' =>
        rw [ha, ha'] at hd
        obtain ⟨rfl, hs⟩ := Prod.mk.inj hd
        simp only [hphase, ha, ha']
        cases attempt with
        | waiting => exact congrArg (Prod.mk d) hn
        | _ => exact congrArg (Prod.mk _) hs
  | _ =>
    simp only [hphase]
    exact congrArg (Prod.mk _) hn

theorem Veils.advanceBy (hv : Veils view e e') (moves : Nat)
    (hp : seenWith view p = seenWith view p') :
    seenWith view (advanceBy e moves p) = seenWith view (Dispatch.advanceBy e' moves p') := by
  induction moves generalizing p p' with
  | zero => exact hp
  | succ moves ih => exact ih (hv.advance hp)

theorem Veils.settle (hv : Veils view e e') (hp : seenWith view p = seenWith view p') :
    seenWith view (settle e p) = seenWith view (Dispatch.settle e' p') := by
  have hd : p.1 = p'.1 := (Prod.mk.inj hp).1
  unfold Dispatch.settle
  rw [hd]
  exact hv.advanceBy _ hp

/-- The worker of one dispatcher gets as far as it can. -/
theorem Veils.settleOne (hv : Veils view e e') (hn : net.seen view = net'.seen view)
    (d : Dispatcher) :
    seenWith view (Dispatch.settle e (d, net)) = seenWith view (Dispatch.settle e' (d, net')) :=
  hv.settle (congrArg (Prod.mk d) hn)

variable {d : Dispatcher}

/-- A flush comes to the same. -/
theorem Veils.flush (hv : Veils view e e') (hn : net.seen view = net'.seen view) :
    (flush e (d, net)).1 = (Dispatch.flush e' (d, net')).1 ∧
      seenWith view (Dispatch.flush e (d, net)).2 =
        seenWith view (Dispatch.flush e' (d, net')).2 := by
  have hs := hv.settleOne hn d.issue.2
  cases hq : Dispatch.settle e (d.issue.2, net) with
  | mk before mid =>
    cases hq' : Dispatch.settle e' (d.issue.2, net') with
    | mk before' mid' =>
      rw [hq, hq'] at hs
      obtain ⟨rfl, hm⟩ := Prod.mk.inj hs
      have hm : mid.seen view = mid'.seen view := hm
      rcases offer_cases before (.marker d.tickets) with ⟨_, _, ho⟩ | ⟨refusal, hne, ho⟩
      · rw [(flush_of_offer hq).1 ho, (flush_of_offer hq').1 ho]
        have hl := hv.settleOne hm (before.accept (.marker d.tickets))
        exact ⟨congrArg (·.1.hasReached d.tickets) hl, hl⟩
      · rw [(flush_of_offer hq).2 hne ho, (flush_of_offer hq').2 hne ho]
        exact ⟨rfl, congrArg (Prod.mk _) hm⟩

/-- The collector has as many requests. -/
theorem Veils.received (hv : Veils view e e') (hn : net.seen view = net'.seen view) :
    received e (d, net) = Dispatch.received e' (d, net') := by
  unfold Dispatch.received
  cases hphase : d.phase with
  | delivering body =>
    simp only [hphase]
    exact (alike_of_seen (Prod.mk.inj (hv.deliver hn d.url body)).2).length
  | _ =>
    simp only [hphase]
    exact (alike_of_seen hn).length

/-! ## Scripts -/

/-- Two scenes that are the same but for their tokens and for what requests do not show. -/
inductive SameScene (view : Request → Request) (e e' : Endpoint) : Scene → Scene → Prop where
  | mk {net net' : Network} (hn : net.seen view = net'.seen view) (options : Options)
      (current : Option Dispatcher) (past : List Dispatcher) (effort : Nat) :
      SameScene view e e' ⟨e, options, net, current, past, effort⟩
        ⟨e', options, net', current, past, effort⟩

variable {s s' : Scene}

/-- Another dispatcher may be in use. -/
theorem SameScene.withCurrent (hs : SameScene view e e' s s') {d d' : Dispatcher} (hd : d = d') :
    SameScene view e e' { s with current := some d } { s' with current := some d' } := by
  obtain ⟨hn, options, current, past, effort⟩ := hs
  rw [hd]
  exact .mk hn _ _ _ _

/-- What becomes of dispatchers that were let go of, one by one, behind others. -/
def settlePast (e : Endpoint) (past : List Dispatcher) (others : List Dispatcher × Network) :
    List Dispatcher × Network :=
  past.foldl (fun (done, net) d =>
    let (d, net) := settle e (d, net)
    (done ++ [d.leave], net)) others

theorem Veils.settlePast (hv : Veils view e e') (past : List Dispatcher)
    {q q' : List Dispatcher × Network} (hq : seenWith view q = seenWith view q') :
    seenWith view (settlePast e past q) = seenWith view (Courier.settlePast e' past q') := by
  induction past generalizing q q' with
  | nil => exact hq
  | cons first rest ih =>
    obtain ⟨done, net⟩ := q
    obtain ⟨done', net'⟩ := q'
    obtain ⟨rfl, hn⟩ := Prod.mk.inj hq
    obtain ⟨hd, hm⟩ := Prod.mk.inj (hv.settleOne hn first)
    exact ih (Prod.ext (congrArg (fun d => done ++ [Dispatcher.leave d]) hd) hm)

theorem settleAll_eq (s : Scene) : s.settleAll =
    match s.current with
    | none => { s with
        past := (settlePast s.endpoint s.past ([], s.network)).1
        network := (settlePast s.endpoint s.past ([], s.network)).2
        effort := 0 }
    | some d => { s with
        past := (settlePast s.endpoint s.past ([], s.network)).1
        network := (settle s.endpoint (d, (settlePast s.endpoint s.past ([], s.network)).2)).2
        current := some (settle s.endpoint (d, (settlePast s.endpoint s.past ([], s.network)).2)).1
        effort := 0 } := rfl

theorem Veils.settleAll (hv : Veils view e e') (hs : SameScene view e e' s s') :
    SameScene view e e' s.settleAll s'.settleAll := by
  obtain ⟨hn, options, current, past, effort⟩ := hs
  rename_i net net'
  have hq : seenWith view (([] : List Dispatcher), net) = seenWith view ([], net') :=
    congrArg (Prod.mk _) hn
  have hp := hv.settlePast past hq
  rw [settleAll_eq, settleAll_eq]
  simp only
  cases hx : Courier.settlePast e past ([], net) with
  | mk done mid =>
    cases hx' : Courier.settlePast e' past ([], net') with
    | mk done' mid' =>
      rw [hx, hx'] at hp
      obtain ⟨rfl, hm⟩ := Prod.mk.inj hp
      cases current with
      | none => exact .mk hm _ _ _ _
      | some d =>
        obtain ⟨hd, hl⟩ := Prod.mk.inj (hv.settleOne hm d)
        simp only [hd]
        exact .mk hl _ _ _ _

/-- Submissions do nothing with the token or the network. -/
theorem SameScene.submitTimes (hs : SameScene view e e' s s') (payload : Payload) (times : Nat) :
    (s.submitTimes d payload times).1 = (s'.submitTimes d payload times).1 ∧
      SameScene view e e' (s.submitTimes d payload times).2 (s'.submitTimes d payload times).2 := by
  induction times generalizing s s' d with
  | zero =>
    obtain ⟨hn, options, current, past, effort⟩ := hs
    exact ⟨rfl, .mk hn _ _ _ _⟩
  | succ times ih =>
    obtain ⟨hn, options, current, past, effort⟩ := hs
    rename_i net net'
    let once := Scene.submitOnce ⟨e, options, net, current, past, effort⟩ d payload
    have hr := ih (d := once.2.1) (.mk hn options current past once.2.2)
    exact ⟨congrArg (once.1 :: ·) hr.1, hr.2⟩

theorem Veils.flushCurrent (hv : Veils view e e') (hs : SameScene view e e' s s')
    (d : Dispatcher) : (s.flushCurrent d).1 = (s'.flushCurrent d).1 ∧
      (s.flushCurrent d).2.1 = (s'.flushCurrent d).2.1 ∧
      SameScene view e e' (s.flushCurrent d).2.2 (s'.flushCurrent d).2.2 := by
  obtain ⟨hn, options, current, past, effort⟩ := hs
  obtain ⟨ho, hp⟩ := hv.flush (d := d) hn
  obtain ⟨hd, hm⟩ := Prod.mk.inj hp
  exact ⟨ho, hd, .mk hm _ _ _ _⟩

theorem Veils.dropCurrent (hv : Veils view e e') (hs : SameScene view e e' s s')
    (d : Dispatcher) : SameScene view e e' (s.dropCurrent d) (s'.dropCurrent d) := by
  have hf := hv.flushCurrent hs d
  unfold Scene.dropCurrent
  generalize s.flushCurrent d = after at hf ⊢
  generalize s'.flushCurrent d = after' at hf ⊢
  obtain ⟨ok, d, t⟩ := after
  obtain ⟨ok', d', t'⟩ := after'
  obtain ⟨ho, hd, ht⟩ := hf
  cases ho
  cases hd
  obtain ⟨hn, options, current, past, effort⟩ := ht
  exact .mk hn _ _ _ _

theorem Veils.dropAny (hv : Veils view e e') (hs : SameScene view e e' s s') :
    SameScene view e e' s.dropAny s'.dropAny := by
  obtain ⟨hn, options, current, past, effort⟩ := hs
  cases current with
  | none => exact .mk hn _ _ _ _
  | some d => exact hv.dropCurrent (.mk hn _ _ _ _) d

/-- A dispatcher is the same for both endpoints. -/
theorem Veils.start (hv : Veils view e e') (options : Options) :
    Dispatcher.start e options = Dispatcher.start e' options := by
  unfold Dispatcher.start
  rw [hv.targetUrl]

theorem Veils.restart (hv : Veils view e e') (hs : SameScene view e e' s s') :
    SameScene view e e' s.restart s'.restart := by
  have hd := hv.dropAny hs
  unfold Scene.restart
  generalize s.dropAny = t at hd ⊢
  generalize s'.dropAny = t' at hd ⊢
  obtain ⟨hn, options, current, past, effort⟩ := hd
  simp only [hv.start options]
  cases Dispatcher.start e' options with
  | ok d => exact .mk hn _ _ _ _
  | error failure => exact .mk hn _ _ _ _

/-- **A step of a script answers the same.** -/
theorem Veils.step (hv : Veils view e e') (hs : SameScene view e e' s s') (step : Dispatch.Step) :
    (s.step step).1 = (s'.step step).1 ∧
      SameScene view e e' (s.step step).2 (s'.step step).2 := by
  cases step with
  | awaitRequests =>
    have ht := hv.settleAll hs
    unfold Scene.step
    simp only
    generalize s.settleAll = t at ht ⊢
    generalize s'.settleAll = t' at ht ⊢
    obtain ⟨hn, options, current, past, effort⟩ := ht
    cases current with
    | none => exact ⟨congrArg Answer.received (alike_of_seen hn).length, .mk hn _ _ _ _⟩
    | some d => exact ⟨congrArg Answer.received (hv.received hn), .mk hn _ _ _ _⟩
  | awaitWorker =>
    have ht := hv.settleAll hs
    unfold Scene.step
    simp only
    generalize s.settleAll = t at ht ⊢
    generalize s'.settleAll = t' at ht ⊢
    obtain ⟨hn, options, current, past, effort⟩ := ht
    exact ⟨rfl, .mk hn _ _ _ _⟩
  | start => exact ⟨rfl, hv.restart hs⟩
  | release =>
    obtain ⟨hn, options, current, past, effort⟩ := hs
    exact ⟨rfl, .mk (by exact congrArg Network.release hn) _ _ _ _⟩
  | submit payload times =>
    obtain ⟨hn, options, current, past, effort⟩ := hs
    cases current with
    | none => exact ⟨rfl, .mk hn _ _ _ _⟩
    | some d =>
      have ht : SameScene view e e' _ _ := .mk hn options (some d) past effort
      obtain ⟨ho, hs⟩ := ht.submitTimes payload times
      exact ⟨congrArg Answer.queued ho, hs⟩
  | flush =>
    obtain ⟨hn, options, current, past, effort⟩ := hs
    cases current with
    | none => exact ⟨rfl, .mk hn _ _ _ _⟩
    | some d =>
      obtain ⟨ho, hd, ht⟩ := hv.flushCurrent (.mk hn options (some d) past effort) d
      exact ⟨congrArg Answer.flushed ho, ht.withCurrent hd⟩
  | stats =>
    obtain ⟨hn, options, current, past, effort⟩ := hs
    cases current with
    | none => exact ⟨rfl, .mk hn _ _ _ _⟩
    | some d => exact ⟨rfl, .mk hn _ _ _ _⟩
  | drop =>
    obtain ⟨hn, options, current, past, effort⟩ := hs
    cases current with
    | none => exact ⟨rfl, .mk hn _ _ _ _⟩
    | some d => exact ⟨rfl, hv.dropCurrent (.mk hn _ _ _ _) d⟩

theorem Veils.steps (hv : Veils view e e') (hs : SameScene view e e' s s')
    (script : List Dispatch.Step) : (s.steps script).1 = (s'.steps script).1 ∧
      SameScene view e e' (s.steps script).2 (s'.steps script).2 := by
  induction script generalizing s s' with
  | nil => exact ⟨rfl, hs⟩
  | cons first rest ih =>
    obtain ⟨ho, ht⟩ := hv.step hs first
    obtain ⟨hos, hr⟩ := ih ht
    exact ⟨congrArg₂ (· :: ·) ho hos, hr⟩

/-- The same is told, and the requests look the same. -/
theorem SameScene.told (hs : SameScene view e e' s s') :
    s.callerLog = s'.callerLog ∧ s.workerLog = s'.workerLog ∧
      s.network.requests.map view = s'.network.requests.map view := by
  obtain ⟨hn, options, current, past, effort⟩ := hs
  exact ⟨rfl, rfl, congrArg Network.requests hn⟩

theorem SameScene.release (hs : SameScene view e e' s s') :
    SameScene view e e' { s with network := s.network.release }
      { s' with network := s'.network.release } := by
  obtain ⟨hn, options, current, past, effort⟩ := hs
  exact .mk (by exact congrArg Network.release hn) _ _ _ _

/-- **A script leaves the same behind.** -/
theorem Veils.run (hv : Veils view e e') (net : Network) (options : Options)
    (script : List Dispatch.Step) : (run net e options script).map (·.seen view) =
      (Dispatch.run net e' options script).map (·.seen view) := by
  unfold Dispatch.run
  rw [← hv.start options]
  cases Dispatcher.start e options with
  | error failure => rfl
  | ok d =>
    have hfirst : SameScene view e e' ⟨e, options, net, some d, [], 0⟩
        ⟨e', options, net, some d, [], 0⟩ := .mk rfl _ _ _ _
    obtain ⟨ho, hs⟩ := hv.steps hfirst script
    obtain ⟨hc, _, _⟩ := hs.told
    obtain ⟨_, hw, hr⟩ := (hv.settleAll hs.release).told
    simp only [Except.map, Outcome.seen, ho, hc, hw, hr]

/-! ## What cannot be told -/

/-- An endpoint is shown the same with any token. -/
theorem Veils.shown (hv : Veils view e e') : e.shown = e'.shown := by
  have hb := hv.bearer
  unfold Endpoint.shown
  rw [hv.baseUrl, hv.path, hv.timeouts]
  cases he : e.bearer with
  | none =>
    rw [he] at hb
    rw [Option.not_isSome_iff_eq_none.mp (ne_true_of_eq_false hb.symm)]
  | some token =>
    rw [he] at hb
    obtain ⟨token', he'⟩ := Option.isSome_iff_exists.mp hb.symm
    rw [he']

/-- **What a view does not show cannot be told from anything else.** -/
theorem Veils.indistinct (hv : Veils view e e') : Indistinct view e e' where
  shown := by
    unfold Endpoint.line Endpoint.block
    rw [hv.shown]
    exact ⟨rfl, rfl⟩
  start := hv.start
  trySendAll := fun net payloads => hv.trySendAll rfl payloads
  send := fun net payload => hv.send payload
  run? := hv.run?
  run := hv.run

/-- Endpoints that have the same bearer and are the same otherwise. -/
theorem veils_of_bearer (view : Request → Request) (e : Endpoint) (token : Option String)
    (h : { e with authToken := token }.bearer = e.bearer) :
    Veils view e { e with authToken := token } where
  baseUrl := rfl
  path := rfl
  timeouts := rfl
  bearer := congrArg Option.isSome h.symm
  refusal := fun url => by rw [h]
  writable := fun uri body => by rw [h]
  post := fun uri body => by rw [h]

theorem bearer_withToken (e : Endpoint) {token : String} (h : token ≠ "") :
    (e.withToken token).bearer = some token := by
  simp [Endpoint.bearer, Endpoint.withToken, h]

/-- A token that may stand in a header is refused for no other reason than the URL's. -/
theorem refusal?_of_isHeaderValue {token : List Char}
    (h : isHeaderValue (bearerValue token) = true) (url : List Char) :
    refusal? url (some token) = refusal? url none := by
  simp only [refusal?, Option.map_some, Option.map_none, Option.any_some, Option.any_none, h,
    Bool.not_true]

/-- A POST can be written iff its token is a text of ASCII: the blanks at the end, which are left
out, can be written too. -/
theorem isWritable_post_some (uri : Uri) (token body : List Char) :
    (Http.post uri (some token) body).isWritable = (bearerValue token).all isPlainChar := by
  have hblanks : ((' ' :: token).rtakeWhile isBlank).all isPlainChar = true := by
    refine List.all_eq_true.mpr fun c hc => ?_
    have hb := List.mem_rtakeWhile_imp hc
    simp only [isBlank, Bool.or_eq_true, decide_eq_true_eq] at hb
    rcases hb with rfl | rfl <;> decide
  have hbearer : bearerValue token =
      "Bearer".toList ++ ((' ' :: token).rdropWhile isBlank ++
        (' ' :: token).rtakeWhile isBlank) := by
    rw [List.rdropWhile_append_rtakeWhile]
    rfl
  have hheader : (Http.post uri (some token) body).header "authorization" =
      "Bearer".toList ++ (' ' :: token).rdropWhile isBlank :=
    (header_authorization (headers_post uri (some token) body)).trans (trimValue_bearer token)
  unfold Request.isWritable
  rw [hheader, hbearer]
  simp only [List.all_append, hblanks, Bool.and_true]

/-- A POST does not show its token to one who does not look at the credentials. -/
theorem masked_post (uri : Uri) (token token' body : List Char) :
    (Http.post uri (some token) body).masked = (Http.post uri (some token') body).masked := rfl

theorem veils_of_isHeaderValue (e : Endpoint) {token token' : String} (ht : token ≠ "")
    (ht' : token' ≠ "") (hl : isHeaderValue (bearerValue token.toList) = true)
    (hl' : isHeaderValue (bearerValue token'.toList) = true)
    (hw : (bearerValue token.toList).all isPlainChar =
      (bearerValue token'.toList).all isPlainChar) :
    Veils Request.masked (e.withToken token) (e.withToken token') := by
  have hb := bearer_withToken e ht
  have hb' := bearer_withToken e ht'
  refine ⟨rfl, rfl, rfl, ?_, fun url => ?_, fun uri body => ?_, fun uri body => ?_⟩
  · rw [hb, hb']
    rfl
  · rw [hb, hb', Option.map_some, Option.map_some, refusal?_of_isHeaderValue hl,
      refusal?_of_isHeaderValue hl']
  · rw [hb, hb', Option.map_some, Option.map_some, isWritable_post_some, isWritable_post_some, hw]
  · rw [hb, hb']
    exact masked_post uri _ _ body

/-- **The token is kept secret.** For every endpoint, and whatever is done with it, over every
network, with whatever results, threads and scripts:

* all depends on the token only through the bearer that it makes;
* so an empty token is as good as none;
* and the texts of two tokens that are not empty and may stand in a header can be told from nothing
  but the credentials of POSTs, if both can be written or both cannot. -/
theorem indistinct_of_token (e : Endpoint) :
    (∀ token, { e with authToken := token }.bearer = e.bearer →
      Indistinct id e { e with authToken := token }) ∧
    Indistinct id { e with authToken := none } { e with authToken := some "" } ∧
    ∀ token token' : String, token ≠ "" → token' ≠ "" →
      isHeaderValue (bearerValue token.toList) = true →
      isHeaderValue (bearerValue token'.toList) = true →
      (bearerValue token.toList).all isPlainChar = (bearerValue token'.toList).all isPlainChar →
      Indistinct Request.masked (e.withToken token) (e.withToken token') := by
  refine ⟨fun token h => (veils_of_bearer id e token h).indistinct, ?_,
    fun token token' ht ht' hl hl' hw =>
      (veils_of_isHeaderValue e ht ht' hl hl' hw).indistinct⟩
  exact (veils_of_bearer id { e with authToken := none } (some "") rfl).indistinct

/-- Two tokens that make two different requests, which look the same to one who does not look at
their credentials. -/
theorem indistinct_of_two_tokens :
    "secret" ≠ "" ∧ "open" ≠ "" ∧ Indistinct Request.masked
      ((Endpoint.of "http://[::]" "/").withToken "secret")
      ((Endpoint.of "http://[::]" "/").withToken "open") ∧
    (trySend looping ((Endpoint.of "http://[::]" "/").withToken "secret")
        (.bool true)).network ≠
      (trySend looping ((Endpoint.of "http://[::]" "/").withToken "open")
        (.bool true)).network := by
  refine ⟨by decide, by decide, ?_, ?_⟩
  · exact (indistinct_of_token _).2.2 "secret" "open" (by decide) (by decide) (by decide)
      (by decide) (by decide)
  · intro h
    exact absurd (congrArg Network.requests h) (by decide +kernel)

end Courier
