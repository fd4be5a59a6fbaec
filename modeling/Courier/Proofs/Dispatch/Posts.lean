import Courier.Proofs.Delivery.Headers
import Courier.Proofs.Dispatch.Authors
import Courier.Proofs.Dispatch.Refusals

/-!
# The POSTs of an endpoint

Whoever sends a result, directly or through a dispatcher that any number of threads use, the
collector gets a POST with that result and the headers that the endpoint asks for, or nothing.

Results:

* `made_of_run?` — every body that was queued was made of a payload that was submitted.
* `posts_of_course` — every POST of a worker's course is that of one of its deliveries.
* `posts_of_endpoint` — **every POST has the body of a result and its headers, and no others**, and
  with a token that may not stand in a header none is sent.
-/

namespace Courier

open Courier.Http

/-- The URL of an endpoint has no user information. -/
def Endpoint.HasNoUserInfo (e : Endpoint) : Prop :=
  ∀ url uri, e.targetUrl = .ok url → Uri.parse url = .ok uri → uri.userInfo? = none

/-- The token of an endpoint may not stand in a header. -/
def Endpoint.IsUnfit (e : Endpoint) : Prop :=
  ∃ token, e.bearer = some token ∧ isHeaderValue (bearerValue token.toList) = false

namespace Dispatch

open Courier.Dispatcher

variable {e : Endpoint} {options : Options} {labels : List Label} {body : List Char}

/-! ## Where bodies come from -/

/-- A body was made of a payload that was submitted, by the dispatcher's hook if it has one. -/
def Made (options : Options) (labels : List Label) (body : List Char) : Prop :=
  ∃ thread payload hook, .submit thread payload ∈ labels ∧ hook.isSome = options.hook.isSome ∧
    (prepare hook payload).2 = some body

/-- **Every body that was queued was made of a payload that was submitted.** -/
theorem made_of_run? {d : Dispatcher} (hd : Dispatcher.start e options = .ok d) {threads : Nat}
    {net : Network} {w : Wired} (h : (Wired.mk (.new d threads) net).run? e labels = some w)
    (hb : body ∈ w.usage.accepted) : Made options labels body := by
  obtain ⟨s, hs, hf⟩ := Usage.exists_of_mem_accepted hb
  have hw := Usage.authored_of_run? h (Usage.authored_new hd threads)
  obtain ⟨payload, hook, hc, hh, hp⟩ := hw.made s.entry (Usage.entry_of_taken hs)
  obtain ⟨label, hl, ht⟩ := List.mem_filterMap.mp (List.mem_of_getElem? hc)
  cases label with
  | submit thread called =>
    cases ht
    refine ⟨thread, payload, hook, hl, hh, hp.trans ?_⟩
    simp only [Submission.entry, hf, Fate.carried]
  | _ => cases ht

/-- What was told was begun. -/
theorem mem_begun_of_mem_told {u : Usage} (h : Usage.Reachable e options u)
    {t : List Char × Except Failure Unit} (ht : t ∈ u.told) : t.1 ∈ u.begun := by
  have hf := (Usage.sound_of_reachable h).flows
  have hm : t.1 ∈ u.counted.map (·.1) ++ u.dispatcher.phase.told.map (·.1) := by
    rw [← List.map_append]
    exact List.mem_map_of_mem ht
  cases hp : u.dispatcher.phase.hasPanicked with
  | false =>
    have hb : u.begun = u.counted.map (·.1) ++ u.dispatcher.phase.hand := hf.hand hp
    rw [hb]
    rcases List.mem_append.mp hm with hm | hm
    · exact List.mem_append_left _ hm
    · exact List.mem_append_right _ ((Phase.map_told _).subset hm)
  | true =>
    obtain ⟨hand, hb⟩ := Usage.strands_of_reachable h hp
    have hb : u.begun = u.counted.map (·.1) ++ [hand] := hb
    have hn : u.dispatcher.phase.told = [] := by
      cases hphase : u.dispatcher.phase with
      | counting body result => simp [hphase] at hp
      | _ => rfl
    rw [hn, List.map_nil, List.append_nil] at hm
    exact hb ▸ List.mem_append_left _ hm

/-! ## Courses -/

variable {url : List Char} {net after : Network} {told : List (List Char × Except Failure Unit)}

/-- **Every POST of a course is that of one of its deliveries.** -/
theorem posts_of_course (h : Course e url net told after)
    (hn : ∀ uri, Uri.parse url = .ok uri → uri.userInfo? = none) :
    ∃ more, after.requests = net.requests ++ more ∧ ∀ r ∈ more, r.method = "POST" →
      ∃ t ∈ told, r.IsPost (e.bearer.map String.toList) t.1 := by
  induction h with
  | nil net => exact ⟨[], (List.append_nil _).symm, nofun⟩
  | @cons net mid after body attempt result rest hd _ _ ih =>
    obtain ⟨more, hm, hall⟩ := ih
    obtain ⟨first, hf, hfirst⟩ :=
      posts_of_deliver hn net e.timeouts (e.bearer.map String.toList) body
    rw [hd] at hf
    refine ⟨first ++ more, by rw [hm, hf, List.append_assoc], fun r hr hpost => ?_⟩
    rcases List.mem_append.mp hr with hr | hr
    · exact ⟨_, List.mem_cons_self, hfirst r hr hpost⟩
    · obtain ⟨t, ht, hp⟩ := hall r hr hpost
      exact ⟨t, List.mem_cons_of_mem _ ht, hp⟩

/-- The worker of a new dispatcher runs a course. -/
theorem course_of_run? {d : Dispatcher} {threads : Nat} {w : Wired}
    (h : (Wired.mk (.new d threads) net).run? e labels = some w) (hd : d.phase = .waiting) :
    Course e d.url net w.usage.told w.network := by
  have hc := Wired.runsCourse_of_run? h (Wired.runsCourse_new d threads hd)
  unfold Wired.RunsCourse at hc
  rwa [(Wired.reaches_of_run? h).url] at hc

/-- A token that may not stand in a header is refused with every URL. -/
theorem exists_isRefused_of_isUnfit (hu : e.IsUnfit) (url : List Char) :
    ∃ cause, e.IsRefused url cause := by
  obtain ⟨token, hb, ht⟩ := hu
  unfold Endpoint.IsRefused
  rw [hb]
  exact exists_refused_of_unfit ht url

theorem course_of_isUnfit (hu : e.IsUnfit) (h : Course e url net told after) :
    after = net ∧ ∀ t ∈ told, ∃ cause, t.2 = .error (.noResponse cause) := by
  obtain ⟨cause, hs⟩ := exists_isRefused_of_isUnfit hu url
  exact (course_of_refused hs h).imp_right fun hall t ht => ⟨cause, hall t ht⟩

theorem hasPanicked_of_isUnfit (hu : e.IsUnfit) {w x : Wired} (h : w.run? e labels = some x)
    (hw : w.usage.dispatcher.phase.hasPanicked = false) :
    x.usage.dispatcher.phase.hasPanicked = false := by
  obtain ⟨cause, hs⟩ := exists_isRefused_of_isUnfit hu w.usage.dispatcher.url
  exact hasPanicked_of_refused hs h hw

/-- **Every POST of a dispatcher is that of a result that was submitted.** -/
theorem posts_of_run? (hn : e.HasNoUserInfo) {d : Dispatcher}
    (hd : Dispatcher.start e options = .ok d) {threads : Nat} {w : Wired}
    (hr : (Wired.mk (.new d threads) net).run? e labels = some w) :
    ∃ more, w.network.requests = net.requests ++ more ∧ ∀ r ∈ more, r.method = "POST" →
      ∃ body ∈ w.usage.begun, Made options labels body ∧
        r.IsPost (e.bearer.map String.toList) body := by
  have hreach : Usage.Reachable e options w.usage := ⟨d, threads, hd, Wired.reaches_of_run? hr⟩
  obtain ⟨url, hu, hstart⟩ := eq_of_start hd
  obtain ⟨more, hm, hall⟩ :=
    posts_of_course (course_of_run? hr (by rw [hstart])) fun uri hp =>
      hn d.url uri (by rw [hstart]; exact hu) hp
  refine ⟨more, hm, fun r hr' hpost => ?_⟩
  obtain ⟨t, ht, hp⟩ := hall r hr' hpost
  have hb := mem_begun_of_mem_told hreach ht
  have ha := (Usage.sound_of_reachable hreach).flows.begun_prefix.subset hb
  exact ⟨t.1, hb, made_of_run? hd hr ha, hp⟩

end Dispatch

open Dispatch

/-! ## Directly -/

variable {e : Endpoint} {net : Network} {payload : Payload}

theorem posts_of_trySend (hn : e.HasNoUserInfo) :
    ∃ more, (trySend net e payload).network.requests = net.requests ++ more ∧
      ∀ r ∈ more, r.method = "POST" → ∃ body, payload.text = .ok body ∧
        r.IsPost (e.bearer.map String.toList) body := by
  unfold trySend
  cases hu : e.targetUrl with
  | error cause => exact ⟨[], (List.append_nil _).symm, nofun⟩
  | ok url =>
    cases payload.text with
    | error cause => exact ⟨[], (List.append_nil _).symm, nofun⟩
    | ok body =>
      obtain ⟨more, hm, hall⟩ := posts_of_deliver (fun uri => hn url uri hu) net e.timeouts
        (e.bearer.map String.toList) body
      exact ⟨more, hm, fun r hr hpost => ⟨body, rfl, hall r hr hpost⟩⟩

theorem trySend_of_isUnfit (hu : e.IsUnfit) :
    (trySend net e payload).network = net ∧
      ∀ url body, e.targetUrl = .ok url → payload.text = .ok body →
        ∃ cause, (trySend net e payload).ending = .returned (.error (.noResponse cause)) := by
  unfold trySend
  cases e.targetUrl with
  | error cause => exact ⟨rfl, nofun⟩
  | ok url =>
    cases payload.text with
    | error cause => exact ⟨rfl, fun _ _ _ => nofun⟩
    | ok body =>
      obtain ⟨cause, hc⟩ := exists_isRefused_of_isUnfit hu url
      simp only [deliver_of_refused hc]
      exact ⟨trivial, fun _ _ _ _ => ⟨cause, rfl⟩⟩

/-- **Every POST has the body of a result and its headers, and no others.** Over every network, for
every endpoint whose URL has no user information, and whatever its token is:

* a result that is sent comes to no POSTs but such, with its text as the body. If the token may not
  stand in a header none is sent, and the caller is told that there was no reply;
* a dispatcher, with any threads, any hook and any order of what happens, comes to no POSTs but
  such, each with a body that it began to deliver and that was made of a payload submitted to it. If
  the token may not stand in a header none is sent, and every delivery fails without a reply. -/
theorem posts_of_endpoint (e : Endpoint) (hn : e.HasNoUserInfo) (net : Network) :
    (∀ payload,
      (∃ more, (trySend net e payload).network.requests = net.requests ++ more ∧
        ∀ r ∈ more, r.method = "POST" → ∃ body, payload.text = .ok body ∧
          r.IsPost (e.bearer.map String.toList) body) ∧
      (e.IsUnfit → (trySend net e payload).network = net ∧
        ∀ url body, e.targetUrl = .ok url → payload.text = .ok body →
          ∃ cause, (trySend net e payload).ending = .returned (.error (.noResponse cause)))) ∧
    ∀ options d threads labels w, Dispatcher.start e options = .ok d →
      (Wired.mk (.new d threads) net).run? e labels = some w →
      (∃ more, w.network.requests = net.requests ++ more ∧
        ∀ r ∈ more, r.method = "POST" → ∃ body ∈ w.usage.begun, Made options labels body ∧
          r.IsPost (e.bearer.map String.toList) body) ∧
      (e.IsUnfit → w.network = net ∧ w.usage.dispatcher.phase.hasPanicked = false ∧
        ∀ t ∈ w.usage.told, ∃ cause, t.2 = .error (.noResponse cause)) := by
  refine ⟨fun payload => ⟨posts_of_trySend hn, trySend_of_isUnfit⟩, ?_⟩
  intro options d threads labels w hd hr
  refine ⟨posts_of_run? hn hd hr, fun hu => ?_⟩
  obtain ⟨url, _, rfl⟩ := Dispatcher.eq_of_start hd
  obtain ⟨hnet, hall⟩ := course_of_isUnfit hu (course_of_run? hr rfl)
  exact ⟨hnet, hasPanicked_of_isUnfit hu hr rfl, hall⟩

theorem hasNoUserInfo_unspecified (token : String) :
    ((Endpoint.of "http://[::]" "/").withToken token).HasNoUserInfo := by
  intro url uri hu hp
  obtain rfl := Except.ok.inj (targetUrl_unspecified.symm.trans hu)
  obtain rfl := Except.ok.inj ((parse_of_refusal? refusal?_unspecified).symm.trans hp)
  rfl

/-- One token makes a header of a POST, and the other one would have made two. -/
theorem posts_of_two_tokens :
    (∃ r ∈ (trySend looping ((Endpoint.of "http://[::]" "/").withToken "secret")
      (.bool true)).network.requests, r.IsPost (some "secret".toList) "true".toList) ∧
    ∃ cause, (trySend looping ((Endpoint.of "http://[::]" "/").withToken "a\r\nb: c")
      (.bool true)).ending = .returned (.error (.noResponse cause)) := by
  constructor
  · obtain ⟨⟨more, hm, hall⟩, _⟩ := (posts_of_endpoint
      ((Endpoint.of "http://[::]" "/").withToken "secret")
      (hasNoUserInfo_unspecified "secret") looping).1 (.bool true)
    have hany : (trySend looping ((Endpoint.of "http://[::]" "/").withToken "secret")
        (.bool true)).network.requests.any (·.method = "POST") = true := by decide +kernel
    obtain ⟨r, hr, hpost⟩ := List.any_eq_true.mp hany
    have hr' := hr
    rw [hm] at hr'
    obtain ⟨body, hb, hp⟩ := hall r hr' (of_decide_eq_true hpost)
    cases hb
    exact ⟨r, hr, hp⟩
  · have hunfit : ((Endpoint.of "http://[::]" "/").withToken "a\r\nb: c").IsUnfit :=
      ⟨_, rfl, by decide⟩
    obtain ⟨_, h⟩ := ((posts_of_endpoint ((Endpoint.of "http://[::]" "/").withToken "a\r\nb: c")
      (hasNoUserInfo_unspecified _) looping).1 (.bool true)).2 hunfit
    exact h _ _ targetUrl_unspecified rfl

end Courier
