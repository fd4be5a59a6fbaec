import Courier.Proofs.Delivery.Redirects
import Courier.Proofs.Dispatch.Course
import Courier.Proofs.Dispatch.OneCaller
import Courier.Proofs.Dispatch.Scripts
import Courier.Proofs.Payload.Values

/-!
# Queued results go the way of those that are sent directly

One caller submits JSON values and flushes. If every submission and the flush return true, nobody
can tell afterwards that the values were queued: however the caller and the worker interleaved, the
collector got what it would have got from sending the values one after the other.

Results:

* `asSent_of_flushed` — what the worker has delivered is what would have been sent.
* `run_submissions` — a script that submits and flushes is a run of one caller who does.
* `sent_of_flushed` — **the queued path refines the direct one**.
-/

namespace Courier.Dispatch

open Courier.Dispatcher

variable {e : Endpoint} {options : Options} {net : Http.Network} {labels : List Label}

variable {d : Dispatcher} {capacity : Nat} {flushTimeout : Duration} {w : Wired}

/-- A proper value is submitted with the text that it has when it is sent. -/
theorem prepare_ofJson {value : Json} (h : value.IsProper) :
    (prepare none (.ofJson value)).2 = some value.text := by
  unfold prepare
  rw [Payload.toJson_ofJson value h]

/-- If the bodies that were told are those that values were submitted with, they are the texts
that the values are sent with. -/
theorem texts_of_told {values : List Json} {told : List (List Char × Except Failure Unit)}
    (hv : ∀ value ∈ values, value.IsProper)
    (ht : told.map (fun t => some t.1) =
      (values.map Payload.ofJson).map fun p : Payload => (prepare none p).2) :
    (values.map Payload.ofJson).map Payload.text = told.map fun t => .ok t.1 := by
  have hbodies : told.map (·.1) = values.map Json.text := by
    apply (List.map_inj_right fun _ _ => Option.some.inj).mp
    rw [List.map_map, List.map_map]
    refine ht.trans (List.map_map.trans (List.map_congr_left fun value hm => ?_))
    exact prepare_ofJson (hv value hm)
  calc (values.map Payload.ofJson).map Payload.text
      = values.map fun value => .ok value.text := by
        rw [List.map_map]
        exact List.map_congr_left fun value _ => Payload.text_ofJson value
    _ = (told.map (·.1)).map .ok := by
        rw [hbodies, List.map_map]
        rfl
    _ = told.map fun t => .ok t.1 := List.map_map

/-- A network, a log and statistics are what comes of sending values one after the other. -/
structure AsSent (e : Endpoint) (net : Http.Network) (values : List Json)
    (after : Http.Network) (log : List Event) (stats : Stats) : Prop where
  network : after = networkAfter net (trySendAll net e (values.map Payload.ofJson))
  log : log = (trySendAll net e (values.map Payload.ofJson)).flatMap (·.log)
  stats : ∃ results : List (Except Failure Unit),
    (trySendAll net e (values.map Payload.ofJson)).map (·.ending) = results.map .returned ∧
      stats = ⟨results.countP (·.isOk), results.countP (!·.isOk), 0⟩

/-- What the worker has delivered is what would have been sent. -/
theorem asSent_of_flushed {values : List Json}
    (hd : Dispatcher.start e ⟨none, capacity, flushTimeout⟩ = .ok d)
    (hv : ∀ value ∈ values, value.IsProper)
    (hr : (Wired.mk (.new d 1) net).run? e labels = some w)
    (hf : w.usage.Flushed (values.map Payload.ofJson)) :
    AsSent e net values w.network w.usage.dispatcher.workerLog w.usage.dispatcher.stats := by
  obtain ⟨url, hu, rfl⟩ := eq_of_start hd
  have hurl : e.targetUrl = .ok w.usage.dispatcher.url := by
    rw [hu, (Wired.reaches_of_run? hr).url]
    rfl
  have hcourse := Wired.runsCourse_of_run? hr (Wired.runsCourse_new _ 1 rfl)
  obtain ⟨hend, hlog, hnet⟩ := trySendAll_of_course hcourse hurl (texts_of_told hv hf.told)
  refine ⟨hnet.symm, hf.workerLog.trans hlog.symm, w.usage.told.map (·.2), ?_, ?_⟩
  · rw [hend, List.map_map]
    rfl
  · rw [hf.stats, List.countP_map, List.countP_map]
    rfl

/-! ## Scripts -/

/-- A worker that has nothing to deliver leaves the network and its log as they are. -/
theorem advance_of_spent (net : Http.Network) (hp : d.phase.hand = [])
    (hq : bodies d.queue = []) :
    (advance e (d, net)).2 = net ∧ (advance e (d, net)).1.workerLog = d.workerLog ∧
      (advance e (d, net)).1.phase.hand = [] ∧ bodies (advance e (d, net)).1.queue = [] := by
  cases hphase : d.phase with
  | delivering body => simp [hphase] at hp
  | waiting =>
    cases hqueue : d.queue with
    | nil => simp [advance, take?, hphase, hqueue, bodies]
    | cons m rest =>
      cases m with
      | body text => simp [hqueue, bodies] at hq
      | marker ticket =>
        have hrest : bodies rest = [] := by simpa [hqueue, bodies] using hq
        simp [advance, take?, hphase, hqueue, Dispatcher.receive, hrest]
  | _ => simp_all [advance, take?, notify]

theorem settle_of_spent (pair : Pair) (hp : pair.1.phase.hand = [])
    (hq : bodies pair.1.queue = []) :
    (settle e pair).2 = pair.2 ∧ (settle e pair).1.workerLog = pair.1.workerLog := by
  unfold settle
  generalize 2 * pair.1.queue.length + 1 = moves
  induction moves generalizing pair with
  | zero => exact ⟨rfl, rfl⟩
  | succ moves ih =>
    obtain ⟨hnet, hlog, hp', hq'⟩ := advance_of_spent (e := e) pair.2 hp hq
    obtain ⟨hnet', hlog'⟩ := ih _ hp' hq'
    exact ⟨hnet'.trans hnet, hlog'.trans hlog⟩

namespace Scene

variable {s : Scene}

theorem steps_append (s : Scene) (first rest : List Step) :
    s.steps (first ++ rest) =
      ((s.steps first).1 ++ ((s.steps first).2.steps rest).1,
        ((s.steps first).2.steps rest).2) := by
  induction first generalizing s with
  | nil => rfl
  | cons step more ih =>
    simp only [List.cons_append, steps, ih]

/-- Submissions of a script, one after the other, are runs of the caller and the worker. -/
theorem plays_submissions (hc : s.current = some d) (payloads : List Payload) :
    ∃ returned d' effort,
      s.steps (payloads.map (Step.submit · 1)) =
        (returned.map fun ok => Answer.queued [ok], { s with current := some d', effort }) ∧
      ∀ n, Plays s.endpoint (payloads.map (Label.submit 0)) returned []
        ⟨(d, s.network), .idle, false, n⟩ ⟨(d', s.network), .idle, false, n + payloads.length⟩ := by
  induction payloads generalizing s d with
  | nil =>
    refine ⟨[], d, s.effort, ?_, fun n => (Works.refl _).plays _ _ _⟩
    rw [← hc]
    rfl
  | cons payload rest ih =>
    cases hs : s.submitOnce d payload with
    | mk ok more =>
      obtain ⟨after, effort⟩ := more
      have hstep : s.step (.submit payload 1) =
          (.queued [ok], { s with current := some after, effort }) := by
        simp only [step, hc, submitTimes, hs]
      have hafter : ((s.hurry d).1.submit payload) = (ok, after) := by
        simp only [submitOnce, Prod.mk.injEq] at hs
        exact Prod.ext hs.1 hs.2.1
      obtain ⟨returned, d', last, hrest, hplays⟩ :=
        ih (s := { s with current := some after, effort }) rfl
      refine ⟨ok :: returned, d', last, ?_, fun n => ?_⟩
      · simp only [List.map_cons, steps, hstep, hrest]
      · have hw := (works_hurry (e := s.endpoint) (s := s) d s.network).plays .idle false n
        have hp := plays_submit (e := s.endpoint) (s.hurry d).1 s.network payload n
        rw [hafter] at hp
        have hall := (hw.trans hp).trans (hplays (n + 1))
        rw [List.length_cons, Nat.add_comm rest.length 1, ← Nat.add_assoc]
        exact hall

end Scene

/-- What a script leaves behind that submits payloads and then flushes comes of a run of these
calls, and of what the worker did after the flush was over. -/
theorem run_submissions (hd : Dispatcher.start e options = .ok d) (payloads : List Payload)
    {outcome : Outcome}
    (hr : run net e options (payloads.map (Step.submit · 1) ++ [Step.flush, Step.stats]) =
      .ok outcome) :
    ∃ returned ticket inTime labels w, (Wired.mk (.new d 1) net).run? e labels = some w ∧
      labels.filter (·.isCall) = payloads.map (Label.submit 0) ++ [Label.flush 0] ∧
      w.usage.submissions.map (·.fate.returned) = returned ∧
      w.usage.ended = [(ticket, inTime)] ∧
      outcome.answers = (returned.map fun ok => Answer.queued [ok]) ++
        [Answer.flushed inTime, Answer.stats w.usage.dispatcher.stats] ∧
      outcome.workerLog = (settle e (w.usage.dispatcher, w.network.release)).1.workerLog ∧
      outcome.requests = (settle e (w.usage.dispatcher, w.network.release)).2.requests := by
  obtain ⟨returned, d', effort, hsteps, hplays⟩ :=
    Scene.plays_submissions (s := ⟨e, options, net, some d, [], 0⟩) rfl payloads
  have hwhole := (hplays 0).trans (plays_flush d' net (0 + payloads.length))
  obtain ⟨labels, w, hw, hcalls, hat, hreturned, hended⟩ :=
    hwhole ⟨.new d 1, net⟩ ⟨rfl, rfl, rfl, rfl⟩
  have hpair : (w.usage.dispatcher, w.network) = (Dispatch.flush e (d', net)).2 := hat.pair
  refine ⟨returned, d'.tickets, (Dispatch.flush e (d', net)).1, labels, w, hw, hcalls, ?_, hended,
    ?_⟩
  · rw [hreturned]
    exact List.append_nil _
  · have hd' : w.usage.dispatcher = (Dispatch.flush e (d', net)).2.1 := congrArg Prod.fst hpair
    have hnet : w.network = (Dispatch.flush e (d', net)).2.2 := congrArg Prod.snd hpair
    unfold run at hr
    rw [hd] at hr
    simp only [Scene.steps_append, hsteps, Scene.steps, Scene.step, Scene.flushCurrent,
      Scene.settleAll, Scene.workerLog, ← hd', ← hnet, Except.ok.injEq] at hr
    subst hr
    refine ⟨rfl, ?_, rfl⟩
    exact List.append_nil _

/-- **The queued path refines the direct one.** One caller submits JSON values, in order, to a
dispatcher without a hook, and flushes it; every submission and the flush return true. However the
worker came in between, and whatever the collector replied:

* the network is as it would be had each value been sent in order, so that the collector has the
  same requests, those that follow redirects among them;
* the worker told what sending them would have told;
* the statistics count the outcomes of sending them.

The same is true of what a script leaves behind that does this. Nothing is assumed of the timeouts:
if the clock cannot count to one, the worker panics and the flush does not return true. -/
theorem sent_of_flushed {values : List Json} (hv : ∀ value ∈ values, value.IsProper) :
    (∀ d labels w, Dispatcher.start e ⟨none, capacity, flushTimeout⟩ = .ok d →
      (Wired.mk (.new d 1) net).run? e labels = some w →
      labels.filter (·.isCall) =
        (values.map Payload.ofJson).map (Label.submit 0) ++ [Label.flush 0] →
      (∀ s ∈ w.usage.submissions, s.fate.returned = true) →
      (∃ ticket, (ticket, true) ∈ w.usage.ended) →
      AsSent e net values w.network w.usage.dispatcher.workerLog w.usage.dispatcher.stats) ∧
    ∀ outcome stats, run net e ⟨none, capacity, flushTimeout⟩
        ((values.map Payload.ofJson).map (Step.submit · 1) ++ [Step.flush, Step.stats]) =
          .ok outcome →
      outcome.answers = values.map (fun _ => Answer.queued [true]) ++
        [Answer.flushed true, Answer.stats stats] →
      ∃ after, AsSent e net values after outcome.workerLog stats ∧
        outcome.requests = after.requests := by
  constructor
  · intro d labels w hd hr hl hs hf
    exact asSent_of_flushed hd hv hr (flushed_of_run? hd hr hl hs hf)
  · intro outcome stats hr ha
    cases hd : Dispatcher.start e ⟨none, capacity, flushTimeout⟩ with
    | error failure => simp [run, hd] at hr
    | ok d =>
      obtain ⟨returned, ticket, inTime, labels, w, hw, hcalls, hreturned, hended, hanswers, hlog,
        hrequests⟩ := run_submissions hd _ hr
      obtain ⟨hqueued, hrest⟩ := List.append_inj' (hanswers.symm.trans ha) rfl
      simp only [List.cons.injEq, Answer.flushed.injEq, Answer.stats.injEq, and_true] at hrest
      obtain ⟨rfl, rfl⟩ := hrest
      have htrue : ∀ ok ∈ returned, ok = true := by
        intro ok hm
        have hq := hqueued ▸ List.mem_map.mpr ⟨ok, hm, rfl⟩
        obtain ⟨_, _, heq⟩ := List.mem_map.mp hq
        simpa using heq.symm
      have hs : ∀ s ∈ w.usage.submissions, s.fate.returned = true := fun s hm =>
        htrue _ (hreturned ▸ List.mem_map.mpr ⟨s, hm, rfl⟩)
      have hf : ∃ ticket, (ticket, true) ∈ w.usage.ended :=
        ⟨ticket, hended ▸ List.mem_singleton.mpr rfl⟩
      have hflushed := flushed_of_run? hd hw hcalls hs hf
      obtain ⟨hnet, htold⟩ := settle_of_spent (e := e)
        (w.usage.dispatcher, w.network.release) hflushed.spent.hand hflushed.spent.waiting
      rw [hlog, hrequests, htold, hnet]
      exact ⟨w.network, asSent_of_flushed hd hv hw hflushed, rfl⟩

open Courier.Http in
/-- A reply that sends the client on. -/
def moved : Reply := ⟨ascii "HTTP/1.1 302 Found\r\nLocation: /next\r\n\r\n", false⟩

open Courier.Http in
/-- A reply that refuses a request. -/
def missing : Reply := ⟨ascii "HTTP/1.1 404 Not Found\r\n\r\n", false⟩

/-- A network whose collector sends the first request on, accepts the next one, and refuses all
that come after that. -/
def bouncing : Http.Network :=
  ⟨fun _ => .collector, [moved, Http.Network.success, missing], false, [], .start⟩

open Courier.Http in
/-- What it does with two deliveries: the first comes to a success over a redirect. -/
theorem deliver_bouncing (first second : List Char) :
    ∃ mid after, deliver bouncing .standard "http://[::]/".toList none first =
        (.finished (.ok ()), mid) ∧
      deliver mid .standard "http://[::]/".toList none second =
        (.finished (.error (.refused 404 "")), after) ∧
      after.requests.map (·.method) = ["POST", "GET", "POST"] := by
  have hmoved : Response.read moved.bytes =
      .ok ⟨302, [("location".toList, "/next".toList)], []⟩ := by cbv
  have hfine : Response.read Network.success.bytes =
      .ok ⟨200, [("content-length".toList, "0".toList)], []⟩ := rfl
  have hmissing : Response.read missing.bytes = .ok ⟨404, [], []⟩ := by cbv
  let uri : Uri := ⟨some "http".toList, "[::]".toList, "/".toList⟩
  let next : Uri := ⟨some "http".toList, "[::]".toList, "/next".toList⟩
  have huri : refusal? "http://[::]/".toList none = .ok uri := refusal?_unspecified
  have hnext : resolve uri "/next".toList = .ok next := by cbv
  have hpost : Http.ask bouncing uri (post uri none first) = (.replied _, _) :=
    ask_of_read rfl (by decide) (isWritable_post_none _ _) rfl hmoved
  have hget : Http.ask (bouncing.receive (post uri none first)) next (follow next) =
      (.replied _, _) :=
    ask_of_read rfl (by decide) (isWritable_follow _) rfl hfine
  have hagain : Http.ask ((bouncing.receive (post uri none first)).receive (follow next)) uri
      (post uri none second) = (.replied _, _) :=
    ask_of_read rfl (by decide) (isWritable_post_none _ _) rfl hmissing
  have hfirst : exchange bouncing uri (post uri none first) maxRedirects = (.replied _, _) :=
    (exchange_of_sentOn hpost rfl (fun h => absurd h.1 (by decide)) rfl hnext).trans
      (exchange_of_final hget rfl)
  have ho : Timeouts.standard.overflow .start = false := by decide
  exact ⟨_, _, deliver_of_exchange huri ho (by decide) hfirst,
    deliver_of_exchange huri ho (by decide) (exchange_of_final hagain rfl), rfl⟩

/-- Two values, of which the second is queued while the first is under way: one is delivered over a
redirect, and one is refused. -/
theorem sent_of_flushed_bouncing :
    ∃ d labels w, Dispatcher.start (.of "http://[::]" "/") ⟨none, 1, .ofSeconds 2⟩ = .ok d ∧
      (Wired.mk (.new d 1) bouncing).run? (.of "http://[::]" "/") labels = some w ∧
      w.usage.dispatcher.stats = ⟨1, 1, 0⟩ ∧
      w.network.requests.map (·.method) = ["POST", "GET", "POST"] ∧
      AsSent (.of "http://[::]" "/") bouncing [.object [("ok", .bool true)], .integer 7]
        w.network w.usage.dispatcher.workerLog w.usage.dispatcher.stats := by
  let d : Dispatcher :=
    ⟨"http://[::]/".toList, ⟨none, 1, .ofSeconds 2⟩, [], .waiting, true, .zero, 0, [], [], []⟩
  have hd : Dispatcher.start (.of "http://[::]" "/") ⟨none, 1, .ofSeconds 2⟩ = .ok d := by
    unfold Dispatcher.start
    rw [targetUrl_unspecified]
  have hv : ∀ value ∈ [Json.object [("ok", .bool true)], .integer 7], value.IsProper := by
    intro value hm
    rcases List.mem_cons.mp hm with rfl | hm
    · exact ⟨List.pairwise_singleton _ _, trivial, trivial⟩
    · rw [List.mem_singleton.mp hm]
      exact ⟨by decide, by decide⟩
  let queued : List Label := [.submit 0 (.ofJson (.object [("ok", .bool true)])), .offer 0, .take,
    .submit 0 (.ofJson (.integer 7)), .offer 0]
  let between : List Label := [.count, .take, .flush 0, .mark 0]
  let rest : List Label := [.count, .take, .notify, .endFlush 0]
  obtain ⟨mid, after, hfirst, hsecond, hmethods⟩ :=
    deliver_bouncing (Json.object [("ok", .bool true)]).text (Json.integer 7).text
  -- What happens between the ends of the deliveries.
  obtain ⟨u, hu, hpu, hdu, v, hv', x, hx, hpx, hdx, y, hy', z, hz, hs, he, hstats⟩ :
      ∃ u, (Wired.mk (.new d 1) bouncing).run? (.of "http://[::]" "/") queued =
          some ⟨u, bouncing⟩ ∧
        u.dispatcher.phase = .delivering (Json.object [("ok", .bool true)]).text ∧
        u.dispatcher.url = d.url ∧
      ∃ v, u.next? (.finish (.finished (.ok ()))) = some v ∧
      ∃ x, (Wired.mk v mid).run? (.of "http://[::]" "/") between = some ⟨x, mid⟩ ∧
        x.dispatcher.phase = .delivering (Json.integer 7).text ∧ x.dispatcher.url = d.url ∧
      ∃ y, x.next? (.finish (.finished (.error (.refused 404 "")))) = some y ∧
      ∃ z, (Wired.mk y after).run? (.of "http://[::]" "/") rest = some ⟨z, after⟩ ∧
        z.submissions.all (·.fate.returned) = true ∧ z.ended = [(0, true)] ∧
        z.dispatcher.stats = ⟨1, 1, 0⟩ := by
    refine ⟨_, rfl, rfl, rfl, _, rfl, ?_⟩
    refine ⟨_, rfl, rfl, rfl, _, rfl, ?_⟩
    exact ⟨_, rfl, rfl, rfl, rfl⟩
  have hfirst : (Wired.mk u bouncing).attempt (.of "http://[::]" "/")
      (Json.object [("ok", .bool true)]).text = (.finished (.ok ()), mid) := by
    unfold Wired.attempt
    rw [hdu]
    exact hfirst
  have hsecond : (Wired.mk x mid).attempt (.of "http://[::]" "/") (Json.integer 7).text =
      (.finished (.error (.refused 404 "")), after) := by
    unfold Wired.attempt
    rw [hdx]
    exact hsecond
  have hone : (Wired.mk u bouncing).next? (.of "http://[::]" "/") (.finish (.finished (.ok ()))) =
      some ⟨v, mid⟩ := Wired.next?_of_attempt hpu hfirst hv'
  have htwo : (Wired.mk x mid).next? (.of "http://[::]" "/")
      (.finish (.finished (.error (.refused 404 "")))) = some ⟨y, after⟩ :=
    Wired.next?_of_attempt hpx hsecond hy'
  have hr : (Wired.mk (.new d 1) bouncing).run? (.of "http://[::]" "/")
      (queued ++ .finish (.finished (.ok ())) ::
        (between ++ .finish (.finished (.error (.refused 404 ""))) :: rest)) =
      some ⟨z, after⟩ := by
    rw [Wired.run?_append, hu, Option.bind_some, Wired.run?, hone, Option.bind_some,
      Wired.run?_append, hx, Option.bind_some, Wired.run?, htwo, Option.bind_some, hz]
  refine ⟨d, _, ⟨z, after⟩, hd, hr, hstats, hmethods, ?_⟩
  exact (sent_of_flushed hv).1 d _ _ hd hr rfl (List.all_eq_true.mp hs)
    ⟨0, he ▸ List.mem_singleton.mpr rfl⟩

end Courier.Dispatch
