import Courier.Proofs.Delivery.Outcomes
import Courier.Proofs.Dispatch.Logs
import Courier.Proofs.Dispatch.Posts
import Courier.Proofs.Dispatch.Refinement

/-!
# What the worker reports

The worker's events tell of the submissions that returned true, one after the other, and what the
collector got falls into as many parts.

Results:

* `exists_sends` — what the collector gets of a delivery that comes to a result.
* `exists_sent_of_course` — the requests of a course fall into those of its deliveries.
* `sameStory_of_run?` — **logs and statistics tell the same story**, and so do submissions and
  requests.
-/

namespace Courier

open Courier.Http Courier.Text

/-- What the collector gets of a delivery: nothing, or the POST and GETs that follow it; and the
POST if the delivery is a success. -/
inductive Sends (token : Option (List Char)) (body : List Char) :
    Except Failure Unit → List Request → Prop where
  | posted (result : Except Failure Unit) {r : Request} {gets : List Request}
      (hr : r.Carries token body) (hg : ∀ get ∈ gets, get.IsBare) :
      Sends token body result (r :: gets)
  | nothing (failure : Failure) : Sends token body (.error failure) []

namespace Http

variable {net after : Network} {timeouts : Timeouts} {url body : List Char}
  {token : Option (List Char)} {attempt : Attempt} {result : Except Failure Unit}

/-- A delivery that is a success has sent its POST. -/
theorem requests_ne_of_ok
    (hd : deliver net timeouts url token body = (.finished (.ok ()), after)) :
    after.requests ≠ net.requests := by
  obtain ⟨uri, _, ht, _, hc⟩ := timed_of_deliver_ok (congrArg Prod.fst hd)
  have ho : timeouts.overflow net.clock = false := by simp [Timeouts.overflow, ht, hc]
  by_cases ha : ∃ last final, Answered net timeouts url token body last final
  · obtain ⟨last, final, ha⟩ := ha
    obtain rfl : after = final := (Prod.mk.inj (hd.symm.trans (deliver_of_answered ho ha))).2
    exact ha.requests_ne
  · obtain ⟨cause, hn⟩ := deliver_of_unanswered ho ha
    rw [hd] at hn
    cases hn

/-- **What the collector gets of a delivery that comes to a result.** -/
theorem exists_sends (hd : deliver net timeouts url token body = (attempt, after))
    (he : attempt.ending = .returned result) :
    ∃ sent, after.requests = net.requests ++ sent ∧ Sends token body result sent := by
  obtain ⟨gets, _, hg, hall⟩ := exists_gets net timeouts url
  have h := hall token body
  rw [hd] at h
  rcases h with h | ⟨r, hr, h⟩
  · cases result with
    | error failure => exact ⟨[], h.trans (List.append_nil _).symm, .nothing failure⟩
    | ok _ =>
      obtain rfl := ending_ok_iff.mp he
      exact absurd h (requests_ne_of_ok hd)
  · exact ⟨r :: gets, h, .posted result hr hg⟩

end Http

namespace Dispatch

open Courier.Dispatcher

variable {e : Endpoint} {options : Options} {net after : Network} {url : List Char}
  {labels : List Label} {told : List (List Char × Except Failure Unit)}

/-- **The requests of a course fall into those of its deliveries.** -/
theorem exists_sent_of_course (h : Course e url net told after) : ∃ sent : List (List Request),
    after.requests = net.requests ++ sent.flatten ∧
      List.Forall₂ (fun t requests => Sends (e.bearer.map String.toList) t.1 t.2 requests)
        told sent := by
  induction h with
  | nil net => exact ⟨[], (List.append_nil _).symm, .nil⟩
  | cons hd he _ ih =>
    obtain ⟨first, hf, hs⟩ := exists_sends hd he
    obtain ⟨rest, hr, hall⟩ := ih
    refine ⟨first :: rest, ?_, .cons hs hall⟩
    rw [hr, hf, List.flatten_cons, List.append_assoc]

/-- What the worker reports of a body, and what the collector got of it. The size is that of the
body of the POST in UTF-8. -/
inductive Reports (url : List Char) (token : Option (List Char)) (body : List Char) :
    Event → List Request → Prop where
  | forwarded {r : Request} {gets : List Request} (hr : r.Carries token body)
      (hg : ∀ get ∈ gets, get.IsBare) :
      Reports url token body (.forwarded (String.ofList url) (Utf8.encode r.body).length)
        (r :: gets)
  | notForwarded (failure : Failure) {requests : List Request}
      (hs : Sends token body (.error failure) requests) :
      Reports url token body (.notForwarded (String.ofList url) failure) requests

theorem reports_of_sends {token : Option (List Char)} {body : List Char}
    {result : Except Failure Unit} {requests : List Request}
    (h : Sends token body result requests) (url : List Char) :
    Reports url token body (.ofResult url body result) requests := by
  cases result with
  | error failure => exact .notForwarded failure h
  | ok _ =>
    cases h with
    | posted _ hr hg =>
      have hb := hr.body
      subst hb
      exact .forwarded hr hg

/-- What logs, statistics, submissions and requests say of one another after labels, from a network
on. -/
structure SameStory (e : Endpoint) (options : Options) (labels : List Label) (net : Network)
    (w : Wired) : Prop where
  /-- The worker has told of every delivery that is counted, -/
  delivered : w.usage.dispatcher.stats.delivered =
    w.usage.dispatcher.workerLog.countP Event.isForwarded
  failed : w.usage.dispatcher.stats.failed =
    w.usage.dispatcher.workerLog.countP Event.isNotForwarded
  /-- and callers of every drop; -/
  dropped : w.usage.dispatcher.stats.dropped = w.usage.dispatcher.callerLog.countP Event.isDrop
  /-- all else that callers told of is a hook that panicked or a flush that was given up. -/
  callers : ∀ event ∈ w.usage.dispatcher.callerLog, event.IsCallers
  /-- The worker's events are about the first submissions that returned true, in order, each with
  the body that its payload made, and about the requests that the collector got, in as many
  parts. -/
  reports : ∃ url, ∃ sent : List (List Request), e.targetUrl = .ok url ∧
    w.network.requests = net.requests ++ sent.flatten ∧
    sent.length = w.usage.dispatcher.workerLog.length ∧
    ∀ (i : Nat) event, w.usage.dispatcher.workerLog[i]? = some event →
      ∃ s body requests, w.usage.taken[i]? = some s ∧ s.fate = .queued body ∧
        MadeOf options labels (s.call, some body) ∧ sent[i]? = some requests ∧
        Reports url (e.bearer.map String.toList) body event requests

namespace Usage

variable {u : Usage}

/-- The deliveries that were told are those of the first submissions that returned true. -/
theorem taken_of_told (h : Reachable e options u) (hp : u.dispatcher.phase.hasPanicked = false)
    {i : Nat} {t : List Char × Except Failure Unit} (ht : u.told[i]? = some t) :
    ∃ s, u.taken[i]? = some s ∧ s.fate = .queued t.1 := by
  have hf := (sound_of_reachable h).flows
  have hb : u.begun = u.counted.map (·.1) ++ u.dispatcher.phase.hand := hf.hand hp
  have ha : u.begun <+: u.accepted := hf.begun_prefix
  have htold : u.told.map (·.1) <+: u.begun := by
    rw [hb, Usage.told, List.map_append]
    exact List.prefix_append_right_inj _ |>.mpr (Phase.map_told _)
  obtain ⟨more, hm⟩ := htold.trans ha
  have hi : u.accepted[i]? = some t.1 := by
    rw [← hm]
    have hlt : i < (u.told.map (·.1)).length := by
      rw [List.length_map]
      exact (List.getElem?_eq_some_iff.mp ht).1
    rw [List.getElem?_append_left hlt, List.getElem?_map, ht]
    rfl
  have hfate : (u.taken.map (·.fate))[i]? = some (.queued t.1) := by
    rw [map_fate_taken, List.getElem?_map, hi]
    rfl
  rw [List.getElem?_map, Option.map_eq_some_iff] at hfate
  exact hfate

end Usage

/-- **Logs and statistics tell the same story.** Over every network, with any hook, any threads and
any order of what happens: whenever no submission is under way and the worker, which has not
panicked, has no body in its hands, it has told of as many successes and failures as are counted,
callers have told of as many drops, and each of the worker's events is about the submission whose
turn it was and about the requests that were made for it. -/
theorem sameStory_of_run? {d : Dispatcher} {threads : Nat} {w : Wired}
    (hd : Dispatcher.start e options = .ok d)
    (hr : (Wired.mk (.new d threads) net).run? e labels = some w)
    (hp : w.usage.dispatcher.phase.hasPanicked = false)
    (hh : w.usage.dispatcher.phase.hand = [])
    (hq : ∀ a ∈ w.usage.threads, a.call? = none) : SameStory e options labels net w := by
  have h : Usage.Reachable e options w.usage := ⟨d, threads, hd, Wired.reaches_of_run? hr⟩
  have hn : w.usage.dispatcher.phase.told = [] := by
    have ht := (Phase.map_told w.usage.dispatcher.phase).length_le
    rw [hh, List.length_map] at ht
    exact List.length_eq_zero_iff.mp (Nat.le_zero.mp ht)
  obtain ⟨hlog, hok, herror⟩ := Usage.countP_workerLog h hp
  rw [hn] at hok herror
  refine ⟨hok.symm, herror.symm, (Usage.countP_callerLog h hq).symm,
    (Usage.tellsDrops_of_reachable h).callers, ?_⟩
  obtain ⟨url, hu, hstart⟩ := eq_of_start hd
  have hdu : d.url = url := by rw [hstart]
  have hurl : w.usage.dispatcher.url = url := (Wired.reaches_of_run? hr).url.trans hdu
  have hcourse := course_of_run? hr (by rw [hstart])
  rw [hdu] at hcourse
  obtain ⟨sent, hsent, hall⟩ := exists_sent_of_course hcourse
  refine ⟨url, sent, hu, hsent, ?_, fun i event he => ?_⟩
  · rw [hlog, List.length_map, hall.length_eq]
  rw [hlog, hurl, List.getElem?_map, Option.map_eq_some_iff] at he
  obtain ⟨t, ht, rfl⟩ := he
  obtain ⟨s, hs, hf⟩ := Usage.taken_of_told h hp ht
  have hm := (Usage.authored_of_run? hr (Usage.authored_new hd threads)).made s.entry
    (Usage.entry_of_taken (List.mem_of_getElem? hs))
  have hlt : i < sent.length := hall.length_eq ▸ (List.getElem?_eq_some_iff.mp ht).1
  refine ⟨s, t.1, sent[i], hs, hf, ?_, List.getElem?_eq_getElem hlt, reports_of_sends ?_ url⟩
  · simpa only [Submission.entry, hf, Fate.carried, List.nil_append] using hm
  · obtain ⟨hi, ht⟩ := List.getElem?_eq_some_iff.mp ht
    have hsends := (List.forall₂_iff_get.mp hall).2 i hi hlt
    rwa [List.get_eq_getElem, List.get_eq_getElem, ht] at hsends

/-- A run over a network goes on with the end of a delivery. -/
theorem Wired.run?_of_attempt {w x : Wired} {u v : Usage} {body : List Char}
    {attempt ended : Http.Attempt} {rest : List Label} (hu : w.run? e labels = some ⟨u, net⟩)
    (hp : u.dispatcher.phase = .delivering body) (hurl : u.dispatcher.url = url)
    (hd : deliver net e.timeouts url (e.bearer.map String.toList) body = (attempt, after))
    (hs : settled attempt = ended) (hv : u.next? (.finish ended) = some v)
    (hr : (Wired.mk v after).run? e rest = some x) :
    w.run? e (labels ++ .finish ended :: rest) = some x := by
  subst hurl hs
  have hn : (Wired.mk u net).next? e (.finish (settled attempt)) = some ⟨v, after⟩ :=
    next?_of_attempt hp hd hv
  rw [run?_append, hu, Option.bind_some, run?, hn, Option.bind_some, hr]

/-- A hook that panics at nothing, drops booleans and keeps all else. -/
def choosy : Hook where
  run
    | .null => .panic
    | .bool _ => .drop
    | value => .keep value

/-- A queue with room for one, and a hook: of four results one is delivered over a redirect, one is
refused by the collector, and two are dropped. -/
theorem sameStory_of_two_drops :
    ∃ d labels w, Dispatcher.start (.of "http://[::]" "/")
        ⟨some choosy, 1, .ofSeconds 2⟩ = .ok d ∧
      (Wired.mk (.new d 2) bouncing).run? (.of "http://[::]" "/") labels = some w ∧
      w.usage.dispatcher.phase.hasPanicked = false ∧ w.usage.dispatcher.phase.hand = [] ∧
      (∀ a ∈ w.usage.threads, a.call? = none) ∧ w.usage.dispatcher.stats = ⟨1, 1, 2⟩ ∧
      w.usage.dispatcher.callerLog = [.hookPanicked, .hookDropped, .queueFull] ∧
      SameStory (.of "http://[::]" "/")
        ⟨some choosy, 1, .ofSeconds 2⟩ labels bouncing w := by
  let options : Options := ⟨some choosy, 1, .ofSeconds 2⟩
  let d : Dispatcher :=
    ⟨"http://[::]/".toList, options, [], .waiting, true, .zero, 0, [], [], []⟩
  have hd : Dispatcher.start (.of "http://[::]" "/") options = .ok d := by
    unfold Dispatcher.start
    rw [targetUrl_unspecified]
  let first : Json := .null
  let second : Json := .integer 7
  let queued : List Label := [.submit 0 (.ofJson first), .offer 0, .take]
  let between : List Label := [.submit 1 (.bool false), .drop 1, .submit 0 (.ofJson second),
    .offer 0, .submit 1 (.ofJson second), .offer 1, .count, .take, .drop 1]
  let midway : Usage :=
    ⟨⟨d.url, options, [], .counting first.text (.ok ()), true, .zero, 0, [], [.hookPanicked],
        [.ofResult d.url first.text (.ok ())]⟩,
      [.idle, .idle], false, 1, [⟨0, 0, .queued first.text⟩], [], [], [first.text], []⟩
  obtain ⟨mid, after, hfirst, hsecond, _⟩ := deliver_bouncing first.text second.text
  -- What happens between the ends of the deliveries.
  obtain ⟨u, hu, hpu, hdu, hv, x, hx, hpx, hdx, y, hy, z, hz, hp, hh, ht, hs, hl⟩ :
      ∃ u, (Wired.mk (.new d 2) bouncing).run? (.of "http://[::]" "/") queued =
          some ⟨u, bouncing⟩ ∧
        u.dispatcher.phase = .delivering first.text ∧ u.dispatcher.url = d.url ∧
        u.next? (.finish (.finished (.ok ()))) = some midway ∧
      ∃ x, (Wired.mk midway mid).run? (.of "http://[::]" "/") between = some ⟨x, mid⟩ ∧
        x.dispatcher.phase = .delivering second.text ∧ x.dispatcher.url = d.url ∧
      ∃ y, x.next? (.finish (.finished (.error (.refused 404 "")))) = some y ∧
      ∃ z, (Wired.mk y after).run? (.of "http://[::]" "/") [.count] = some ⟨z, after⟩ ∧
        z.dispatcher.phase.hasPanicked = false ∧ z.dispatcher.phase.hand = [] ∧
        z.threads = [.idle, .idle] ∧ z.dispatcher.stats = ⟨1, 1, 2⟩ ∧
        z.dispatcher.callerLog = [.hookPanicked, .hookDropped, .queueFull] := by
    refine ⟨_, rfl, rfl, rfl, rfl, ?_⟩
    refine ⟨_, rfl, rfl, rfl, _, rfl, ?_⟩
    exact ⟨_, rfl, rfl, rfl, rfl, rfl, rfl⟩
  have hq : ∀ a ∈ z.threads, a.call? = none := by
    rw [ht]
    exact fun a ha => by rw [List.eq_of_mem_replicate (n := 2) ha]; rfl
  have hr := Wired.run?_of_attempt hu hpu hdu hfirst rfl hv
    (Wired.run?_of_attempt hx hpx hdx hsecond rfl hy hz)
  exact ⟨d, _, ⟨z, after⟩, hd, hr, hp, hh, hq, hs, hl, sameStory_of_run? hd hr hp hh hq⟩

end Dispatch

end Courier
