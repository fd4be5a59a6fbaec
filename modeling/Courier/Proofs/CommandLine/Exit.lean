import Courier.Proofs.CommandLine.Queueing
import Courier.Proofs.Json.Proper
import Courier.Proofs.Settings.Words

/-!
# How the command ends

The command gets as far as a delivery if there are settings and the document is a JSON value, and,
where it is to go through a queue, if the endpoint has a URL. Then it answers what became of the
delivery, on both ways the same.

Results:

* `prepare_eq_ok_iff`: what it takes to get as far as a delivery (`Prepared`).
* `forward_of_prepared`: what the command answers then.
* `run_exits`: **the codes and answers of the command** (`Exits`).
-/

namespace Courier.CommandLine

open Courier.Http Courier.Text

variable {net after : Network} {a : Arguments} {call call' : Invocation} {e : Endpoint}
  {value : Json} {url : List Char} {result : Except Failure Unit} {input : List UInt8}
  {text : List Char}

/-! ## Before a delivery -/

/-- The text of the document is the payload, or else what is read, if that is text. -/
inductive IsDocument (a : Arguments) (input : List UInt8) : List Char → Prop
  | payload {payload : String} (h : a.payload = some payload) : IsDocument a input payload.toList
  | input {text : List Char} (h : a.payload = none) (ht : Utf8.decode? input = some text) :
    IsDocument a input text

theorem document_eq_ok_iff : a.document input = .ok text ↔ IsDocument a input text := by
  unfold Arguments.document
  constructor
  · intro h
    split at h
    · next hp =>
      cases h
      exact .payload hp
    · next hp =>
      split at h
      · next ht =>
        cases h
        exact .input hp ht
      · exact absurd h nofun
  · rintro (hp | ⟨hp, ht⟩)
    · simp only [hp]
    · simp only [hp, ht]

/-- The document is a JSON value. -/
def HasValue (a : Arguments) (input : List UInt8) (value : Json) : Prop :=
  ∃ text, IsDocument a input text ∧ Json.parse text = .ok value

/-- There are settings, which make an endpoint with the options of the command, and a value to
deliver. -/
structure Prepared (a : Arguments) (call : Invocation) (e : Endpoint) (value : Json) : Prop where
  settings : ∃ s, settingsOf a call = .returned (.ok s) ∧ e = a.endpoint s
  document : HasValue a call.input value

theorem valueIn_eq_ok_iff : valueIn a call = .ok value ↔ HasValue a call.input value := by
  have hvalue (text : List Char) : valueOf text = .ok value ↔ Json.parse text = .ok value := by
    unfold valueOf
    cases Json.parse text <;> simp
  unfold valueIn
  show a.document call.input >>= valueOf = _ ↔ _
  simp only [bind_eq_ok_iff, document_eq_ok_iff, hvalue, HasValue]

/-- **What it takes to get as far as a delivery.** -/
theorem prepare_eq_ok_iff :
    prepare a call = .returned (.ok (e, value)) ↔ Prepared a call e value := by
  unfold prepare
  constructor
  · intro h
    split at h
    · exact absurd h nofun
    · exact absurd h nofun
    · next s hs =>
      obtain ⟨found, hv, he⟩ := map_eq_ok_iff.mp (Ending.returned.inj h)
      cases he
      exact ⟨⟨s, hs, rfl⟩, valueIn_eq_ok_iff.mp hv⟩
  · rintro ⟨⟨s, hs, rfl⟩, hv⟩
    simp only [hs, valueIn_eq_ok_iff.mpr hv]
    rfl

/-- Loading the settings of a call comes upon a key that leads to an array without room for it. -/
def IsCrowded (a : Arguments) (call : Invocation) : Prop :=
  Settings.IsCrowded call.files a.config call.environment

/-- **That is what it takes to be stopped before a delivery.** -/
theorem prepare_eq_panicked_iff {message : String} : prepare a call = .panicked message ↔
    message = Settings.roomMessage ∧ IsCrowded a call := by
  unfold IsCrowded
  have hload : settingsOf a call = .panicked message ↔ _ := Settings.load_eq_panicked_iff
  rw [← hload, prepare]
  cases settingsOf a call with
  | panicked other => simp
  | returned result => cases result <;> simp

theorem Prepared.unique {e' : Endpoint} {value' : Json} (h : Prepared a call e value)
    (h' : Prepared a call e' value') : e = e' ∧ value = value' := by
  have hp := (prepare_eq_ok_iff.mpr h).symm.trans (prepare_eq_ok_iff.mpr h')
  simpa using hp

/-- The timeouts of the settings can be counted to, and so can those of the endpoint. -/
theorem Prepared.overflow (h : Prepared a call e value) (clock : Clock) :
    e.timeouts.overflow clock = false := by
  obtain ⟨⟨s, hs, rfl⟩, _⟩ := h
  exact Settings.overflow_endpoint hs clock

theorem Prepared.isProper (h : Prepared a call e value) : value.IsProper := by
  obtain ⟨_, _, _, hv⟩ := h
  exact Json.isProper_of_parse hv

/-- What it takes besides a URL is settings and a value. -/
theorem exists_prepared_iff : (∃ e value, Prepared a call e value) ↔
    (∃ s, settingsOf a call = .returned (.ok s)) ∧ ∃ value, HasValue a call.input value :=
  ⟨fun ⟨_, value, ⟨s, hs, _⟩, hd⟩ => ⟨⟨s, hs⟩, value, hd⟩,
    fun ⟨⟨s, hs⟩, value, hd⟩ => ⟨a.endpoint s, value, ⟨s, hs, rfl⟩, hd⟩⟩

/-! ## The answer -/

/-- A command that is stopped has the code of a panic and answers nothing. -/
theorem forward_of_crowded (h : IsCrowded a call) : forward net a call = stop net .standard [] := by
  unfold forward
  rw [prepare_eq_panicked_iff.mpr ⟨rfl, h⟩]

/-- A command that does not get as far as a delivery has the code 2 and answers nothing. -/
theorem forward_of_not_prepared (hc : ¬IsCrowded a call) (h : ¬∃ e value, Prepared a call e value) :
    ∃ complaint, forward net a call = refuse net complaint [] := by
  unfold forward
  cases hp : prepare a call with
  | panicked message => exact absurd (prepare_eq_panicked_iff.mp hp).2 hc
  | returned result =>
    cases result with
    | error refusal => exact ⟨_, rfl⟩
    | ok ready => exact absurd ⟨ready.1, ready.2, prepare_eq_ok_iff.mp hp⟩ h

/-- So has one that cannot start a queue for want of a URL. -/
theorem forward_of_no_dispatcher {cause : TargetError} (hp : Prepared a call e value)
    (hu : e.targetUrl = .error cause) (hq : a.isQueued = true) :
    ∃ complaint, forward net a call = refuse net complaint [announcement e] := by
  have hs : deliverQueued net e value = .error (.invalidEndpoint cause.message) := by
    simp only [deliverQueued, Dispatcher.start, hu]
  simp only [forward, prepare_eq_ok_iff.mpr hp, hq, if_true, hs]
  exact ⟨_, rfl⟩

/-- What a command answers to a delivery that is accepted or not. -/
structure Answers (o : Outcome) (isForwarded : Bool) (after : Network) : Prop where
  code : o.code = if isForwarded then 0 else 1
  output : o.output = if isForwarded then "\x7b\"status\":\"processing\"\x7d\n"
    else "\x7b\"error\":\"Failed to forward request\"\x7d\n"
  network : o.network = after

theorem answers_outcome {d : Delivery} {isForwarded : Bool}
    (h : d.ending = .returned isForwarded) (before : List LogLine) :
    Answers (d.outcome before) isForwarded d.network := by
  unfold Delivery.outcome
  rw [h]
  cases isForwarded with
  | true => exact ⟨rfl, rfl, rfl⟩
  | false => exact ⟨rfl, rfl, rfl⟩

/-- **What the command answers to a delivery**, at once or through a queue. -/
theorem forward_of_prepared (hp : Prepared a call e value) (hu : e.targetUrl = .ok url)
    (hx : deliver net e.timeouts url (e.bearer.map String.toList) value.text =
      (.finished result, after)) :
    Answers (forward net a call) result.isOk after := by
  unfold forward
  rw [prepare_eq_ok_iff.mpr hp]
  cases hq : a.isQueued with
  | true =>
    obtain ⟨delivery, hd, he, rfl⟩ := deliverQueued_of_finished hp.isProper hu hx
    simp only [if_true, hd]
    exact answers_outcome he _
  | false =>
    obtain ⟨he, hn⟩ := deliverNow_of_finished hu hx
    simp only [Bool.false_eq_true, if_false]
    have ha := answers_outcome he [announcement e]
    rw [hn] at ha
    exact ha

/-- Without a URL a delivery at once is not accepted, and nothing is sent. -/
theorem forward_of_no_url {cause : TargetError} (hp : Prepared a call e value)
    (hu : e.targetUrl = .error cause) (hq : a.isQueued = false) :
    Answers (forward net a call) false net := by
  have he : (deliverNow net e value).ending = .returned false := by
    simp [deliverNow, send, trySend, hu, Ending.isOk, Except.isOk, Except.toBool]
  have hn : (deliverNow net e value).network = net := by
    simp [deliverNow, send, trySend, hu]
  have ha := answers_outcome he [announcement e]
  rw [hn] at ha
  simp only [forward, prepare_eq_ok_iff.mpr hp, hq, Bool.false_eq_true, if_false]
  exact ha

/-- A delivery is accepted iff the last response to it has status 200. -/
theorem isOk_iff_of_finished (ho : e.timeouts.overflow net.clock = false)
    {token : Option (List Char)} {body : List Char}
    (hx : deliver net e.timeouts url token body = (.finished result, after)) :
    result.isOk = true ↔
      ∃ last final, Answered net e.timeouts url token body last final ∧ last.status = 200 := by
  by_cases ha : ∃ last final, Answered net e.timeouts url token body last final
  · obtain ⟨last, final, ha⟩ := ha
    have hone : (∃ last final, Answered net e.timeouts url token body last final ∧
        last.status = 200) ↔ last.status = 200 := by
      refine ⟨?_, fun hs => ⟨last, final, ha, hs⟩⟩
      rintro ⟨_, _, h, hs⟩
      exact (h.unique ha).1 ▸ hs
    have hr := ending_attempt_replied last
    rw [← (Prod.mk.inj (hx.symm.trans (deliver_of_answered ho ha))).1] at hr
    rw [hone, Ending.returned.inj hr]
    by_cases hs : last.status = 200
    · simp [hs, Except.isOk, Except.toBool]
    · simp [hs, Except.isOk, Except.toBool]
  · obtain ⟨cause, hc⟩ := deliver_of_unanswered ho ha
    rw [hx] at hc
    rw [Ending.returned.inj hc]
    constructor
    · rintro ⟨⟩
    · rintro ⟨last, final, h, _⟩
      exact absurd ⟨last, final, h⟩ ha

/-- A delivery that is accepted has sent its POST. -/
theorem requests_ne_of_isOk (ho : e.timeouts.overflow net.clock = false)
    {token : Option (List Char)} {body : List Char}
    (hx : deliver net e.timeouts url token body = (.finished result, after))
    (h : result.isOk = true) : after.requests ≠ net.requests := by
  obtain ⟨last, final, ha, _⟩ := (isOk_iff_of_finished ho hx).mp h
  obtain rfl : after = final := (Prod.mk.inj (hx.symm.trans (deliver_of_answered ho ha))).2
  exact ha.requests_ne

/-! ## The codes -/

/-- The endpoint that the settings and the options make has no URL. -/
def HasNoUrl (a : Arguments) (call : Invocation) : Prop :=
  ∃ s cause, settingsOf a call = .returned (.ok s) ∧ (a.endpoint s).targetUrl = .error cause

/-- There are no settings, or no value, or a queue is asked for an endpoint that has no URL. -/
def IsRefused (a : Arguments) (call : Invocation) : Prop :=
  (∃ cause, settingsOf a call = .returned (.error cause)) ∨
    (¬∃ value, HasValue a call.input value) ∨ a.isQueued = true ∧ HasNoUrl a call

/-- The last response to the delivery of the value has status 200. -/
def IsAccepted (net : Network) (a : Arguments) (call : Invocation) : Prop :=
  ∃ e value url last after, Prepared a call e value ∧ e.targetUrl = .ok url ∧
    Answered net e.timeouts url (e.bearer.map String.toList) value.text last after ∧
      last.status = 200

/-- How the command ends. -/
structure Exits (net : Network) (a : Arguments) (call : Invocation) (o : Outcome) : Prop where
  /-- There are three codes, and that of a panic is none of them. -/
  codes : o.code = 0 ∨ o.code = 1 ∨ o.code = 2
  /-- It does not get as far as a delivery iff there are no settings, or no value, or no URL to
  queue for. -/
  code_two_iff : o.code = 2 ↔ IsRefused a call
  /-- It then answers nothing, and the collector gets nothing. -/
  silent (h : o.code = 2) : o.output = "" ∧ o.network = net
  /-- The document is forwarded iff the last response to its delivery has status 200. -/
  code_zero_iff : o.code = 0 ↔ IsAccepted net a call
  forwarded (h : o.code = 0) : o.output = "\x7b\"status\":\"processing\"\x7d\n"
  /-- In all other cases it is not. -/
  failed (h : o.code = 1) : o.output = "\x7b\"error\":\"Failed to forward request\"\x7d\n"
  /-- If anything is sent, as it is if the document is forwarded, it is one POST with the text of
  the value, and what follows it carries nothing. -/
  requests {e : Endpoint} {value : Json} (h : Prepared a call e value) :
    o.code ≠ 0 ∧ o.network.requests = net.requests ∨
      ∃ r gets, Request.Carries (e.bearer.map String.toList) value.text r ∧
        (∀ get ∈ gets, Request.IsBare get) ∧ o.network.requests = net.requests ++ r :: gets

variable {o : Outcome}

theorem exits_of_refuse {complaint : String} {log : List LogLine} (hr : IsRefused a call)
    (hn : ¬IsAccepted net a call) : Exits net a call (refuse net complaint log) where
  codes := .inr (.inr rfl)
  code_two_iff := ⟨fun _ => hr, fun _ => rfl⟩
  silent _ := ⟨rfl, rfl⟩
  code_zero_iff := ⟨nofun, fun h => absurd h hn⟩
  forwarded := nofun
  failed := nofun
  requests _ := .inl ⟨nofun, rfl⟩

theorem exits_of_answers {isForwarded : Bool} (ha : Answers o isForwarded after)
    (hr : ¬IsRefused a call) (hf : isForwarded = true ↔ IsAccepted net a call)
    (hs : ∀ {e : Endpoint} {value : Json}, Prepared a call e value →
      isForwarded = false ∧ after.requests = net.requests ∨
        ∃ r gets, Request.Carries (e.bearer.map String.toList) value.text r ∧
          (∀ get ∈ gets, Request.IsBare get) ∧ after.requests = net.requests ++ r :: gets) :
    Exits net a call o where
  codes := by
    rw [ha.code]
    cases isForwarded <;> simp
  code_two_iff := by
    rw [ha.code]
    exact ⟨fun h => by cases isForwarded <;> simp at h, fun h => absurd h hr⟩
  silent h := by
    rw [ha.code] at h
    cases isForwarded <;> simp at h
  code_zero_iff := by
    rw [ha.code, ← hf]
    cases isForwarded <;> simp
  forwarded h := by
    rw [ha.code] at h
    rw [ha.output]
    cases isForwarded
    · simp at h
    · rfl
  failed h := by
    rw [ha.code] at h
    rw [ha.output]
    cases isForwarded
    · rfl
    · simp at h
  requests h := by
    rw [ha.network, ha.code]
    refine (hs h).imp_left fun ⟨hf, hr⟩ => ⟨?_, hr⟩
    simp [hf]

/-- With settings and a value nothing but the want of a URL can keep a delivery from its way. -/
theorem Prepared.isRefused_iff (h : Prepared a call e value) :
    IsRefused a call ↔ a.isQueued = true ∧ ∃ cause, e.targetUrl = .error cause := by
  obtain ⟨⟨s, hs, rfl⟩, hd⟩ := h
  constructor
  · rintro (⟨cause, hc⟩ | hv | ⟨hq, s', cause, hs', hu⟩)
    · exact absurd (hs.symm.trans hc) nofun
    · exact absurd ⟨value, hd⟩ hv
    · obtain rfl := Except.ok.inj (Ending.returned.inj (hs.symm.trans hs'))
      exact ⟨hq, cause, hu⟩
  · rintro ⟨hq, cause, hu⟩
    exact .inr (.inr ⟨hq, s, cause, hs, hu⟩)

theorem Prepared.isAccepted_iff (h : Prepared a call e value) : IsAccepted net a call ↔
    ∃ url last after, e.targetUrl = .ok url ∧
      Answered net e.timeouts url (e.bearer.map String.toList) value.text last after ∧
        last.status = 200 := by
  constructor
  · rintro ⟨e', value', url, last, after, h', hu, ha, hs⟩
    obtain ⟨rfl, rfl⟩ := h.unique h'
    exact ⟨url, last, after, hu, ha, hs⟩
  · rintro ⟨url, last, after, hu, ha, hs⟩
    exact ⟨e, value, url, last, after, h, hu, ha, hs⟩

theorem exits_of_not_prepared (hc : ¬IsCrowded a call)
    (h : ¬∃ e value, Prepared a call e value) (net : Network) :
    Exits net a call (forward net a call) := by
  obtain ⟨complaint, hf⟩ : ∃ complaint, forward net a call = refuse net complaint [] :=
    forward_of_not_prepared hc h
  rw [hf]
  refine exits_of_refuse ?_ fun ⟨e, value, _, _, _, hp, _⟩ => h ⟨e, value, hp⟩
  cases hs : settingsOf a call with
  | panicked message => exact absurd (Settings.load_eq_panicked_iff.mp hs).2 hc
  | returned result =>
    cases result with
    | error cause => exact .inl ⟨cause, hs⟩
    | ok s => exact .inr (.inl fun hv => h (exists_prepared_iff.mpr ⟨⟨s, hs⟩, hv⟩))

theorem exits_of_no_url {cause : TargetError} (hp : Prepared a call e value)
    (hu : e.targetUrl = .error cause) (net : Network) :
    Exits net a call (forward net a call) := by
  have hn : ¬IsAccepted net a call := by
    rw [hp.isAccepted_iff]
    rintro ⟨url, _, _, h, _⟩
    exact absurd (hu.symm.trans h) nofun
  cases hq : a.isQueued with
  | true =>
    obtain ⟨complaint, hf⟩ : ∃ complaint, forward net a call =
        refuse net complaint [announcement e] := forward_of_no_dispatcher hp hu hq
    rw [hf]
    exact exits_of_refuse (hp.isRefused_iff.mpr ⟨hq, cause, hu⟩) hn
  | false =>
    refine exits_of_answers (forward_of_no_url hp hu hq) ?_ ⟨nofun, fun h => absurd h hn⟩
      fun _ => .inl ⟨rfl, rfl⟩
    rw [hp.isRefused_iff, hq]
    exact fun h => absurd h.1 nofun

theorem exits_of_prepared (hp : Prepared a call e value) (hu : e.targetUrl = .ok url)
    (hn : net.IsPrompt) : Exits net a call (forward net a call) := by
  obtain ⟨result, after, hx⟩ :=
    exists_deliver_finished (hp.overflow _) hn url (e.bearer.map String.toList) value.text
  refine exits_of_answers (forward_of_prepared hp hu hx) ?_ ?_ fun hp' => ?_
  · rw [hp.isRefused_iff]
    rintro ⟨_, cause, h⟩
    exact absurd (hu.symm.trans h) nofun
  · rw [isOk_iff_of_finished (hp.overflow _) hx, hp.isAccepted_iff]
    constructor
    · rintro ⟨last, final, ha, hs⟩
      exact ⟨url, last, final, hu, ha, hs⟩
    · rintro ⟨url', last, final, hu', ha, hs⟩
      obtain rfl := Except.ok.inj (hu.symm.trans hu')
      exact ⟨last, final, ha, hs⟩
  · obtain ⟨rfl, rfl⟩ := hp.unique hp'
    obtain ⟨gets, _, hg, hd⟩ := exists_gets net e.timeouts url
    have hafter : after =
        (deliver net e.timeouts url (e.bearer.map String.toList) value.text).2 := by
      rw [hx]
    rw [hafter]
    refine (hd _ _).imp (fun h => ⟨?_, h⟩) fun ⟨r, hr, h⟩ => ⟨r, gets, hr, hg, h⟩
    rw [← hafter] at h
    exact Bool.eq_false_iff.mpr fun hf => requests_ne_of_isOk (hp.overflow _) hx hf h

/-- The input of two calls is the same. -/
structure SameInput (call call' : Invocation) : Prop where
  input : call'.input = call.input
  files : call'.files = call.files
  environment : call'.environment = call.environment

theorem SameInput.symm (h : SameInput call call') : SameInput call' call :=
  ⟨h.input.symm, h.files.symm, h.environment.symm⟩

/-- The settings of a call do not depend on the order in which it happens to come upon them. -/
def IsSettled (a : Arguments) (call : Invocation) : Prop :=
  Settings.IsSettled call.files a.config call.environment

theorem SameInput.isSettled (h : SameInput call call') (hs : IsSettled a call) :
    IsSettled a call' := by
  unfold IsSettled
  rw [h.files, h.environment]
  exact hs

theorem SameInput.isCrowded (h : SameInput call call') (hc : IsCrowded a call) :
    IsCrowded a call' := by
  unfold IsCrowded
  rw [h.files, h.environment]
  exact hc

/-- The same with and without a queue, in whatever order. -/
theorem Prepared.withQueue {isQueued : Bool} (h : Prepared a call e value)
    (hi : SameInput call call') (hs : IsSettled a call) :
    Prepared { a with isQueued } call' e value := by
  obtain ⟨⟨s, hload, rfl⟩, text, ht, hv⟩ := h
  refine ⟨⟨s, ?_, rfl⟩, text, ?_, hv⟩
  · unfold settingsOf
    rw [hi.files, hi.environment]
    exact hs _ _ s hload
  · rw [hi.input]
    cases ht with
    | payload hp => exact .payload hp
    | input hp ht => exact .input hp ht

/-- What is shown of the log makes no difference. -/
theorem Exits.filtered (h : Exits net a call o) (f : LogFilter) :
    Exits net a call (o.filtered f) :=
  ⟨h.codes, h.code_two_iff, h.silent, h.code_zero_iff, h.forwarded, h.failed, h.requests⟩

/-- The code, the answer and the network are the same. -/
structure SameEnd (o o' : Outcome) : Prop where
  code : o'.code = o.code
  output : o'.output = o.output
  network : o'.network = o.network

theorem sameEnd_forward {isQueued : Bool} (hn : net.IsPrompt) (hc : ¬IsCrowded a call)
    (hi : SameInput call call') (hs : IsSettled a call) (hu : ¬HasNoUrl a call) :
    SameEnd (forward net a call) (forward net { a with isQueued } call') := by
  by_cases hp : ∃ e value, Prepared a call e value
  · obtain ⟨e, value, hp⟩ := hp
    cases ht : e.targetUrl with
    | error cause =>
      obtain ⟨⟨s, hs, rfl⟩, _⟩ := hp
      exact absurd ⟨s, cause, hs, ht⟩ hu
    | ok url =>
      obtain ⟨result, after, hx⟩ :=
        exists_deliver_finished (hp.overflow _) hn url (e.bearer.map String.toList) value.text
      have ho := forward_of_prepared hp ht hx
      have hp' : Prepared { a with isQueued } call' e value := hp.withQueue hi hs
      have ho' := forward_of_prepared hp' ht hx
      exact ⟨ho'.code.trans ho.code.symm, ho'.output.trans ho.output.symm,
        ho'.network.trans ho.network.symm⟩
  · have hp' : ¬∃ e value, Prepared { a with isQueued } call' e value := fun ⟨e, value, h⟩ =>
      hp ⟨e, value, h.withQueue hi.symm (hi.isSettled hs)⟩
    have hc' : ¬IsCrowded { a with isQueued } call' := fun h => hc (hi.symm.isCrowded h)
    obtain ⟨complaint, ho⟩ : ∃ complaint, forward net a call = refuse net complaint [] :=
      forward_of_not_prepared hc hp
    obtain ⟨complaint', ho'⟩ : ∃ complaint, forward net { a with isQueued } call' =
        refuse net complaint [] := forward_of_not_prepared hc' hp'
    rw [ho, ho']
    exact ⟨rfl, rfl, rfl⟩

theorem run_of_arguments (ha : Demand.ofArguments call.arguments = .ok (.forward a)) :
    run net call = (forward net a call).filtered (filterOf call.environment) := by
  unfold run
  rw [ha]

/-- **How the command ends.** Whatever arguments it takes, whatever the environment, the files and
the input hold, unless a key leads to an array without room for it, and over every network that
holds no reply back:

* it ends with one of three codes, each for its reason and with its answer (`Exits`), never by a
  panic;
* with and without a queue it ends the same for the same input, in whatever orders, unless the
  endpoint has no URL, if its settings do not depend on the order;
* they do not if no two keys of the file, and no two keys of variables, lead to one of them. -/
theorem run_exits (ha : Demand.ofArguments call.arguments = .ok (.forward a)) (hn : net.IsPrompt)
    (hc : ¬IsCrowded a call) :
    Exits net a call (run net call) ∧
      (∀ (call' : Invocation) (isQueued : Bool),
        Demand.ofArguments call'.arguments = .ok (.forward { a with isQueued }) →
          SameInput call call' → IsSettled a call → ¬HasNoUrl a call →
            SameEnd (run net call) (run net call')) ∧
      ((∀ layer, Settings.ReadsFile call.files a.config layer →
          Settings.LeadsOnce (· ∈ layer.map (·.1))) →
        (Settings.LeadsOnce fun key => ∃ v ∈ call.environment, Settings.keyOf? v.1 = some key) →
          IsSettled a call) := by
  refine ⟨?_, fun call' isQueued ha' hi hs hu => ?_, Settings.isSettled_of_leadsOnce⟩
  · rw [run_of_arguments ha]
    refine Exits.filtered ?_ _
    by_cases hp : ∃ e value, Prepared a call e value
    · obtain ⟨e, value, hp⟩ := hp
      cases hu : e.targetUrl with
      | error cause => exact exits_of_no_url hp hu net
      | ok url => exact exits_of_prepared hp hu hn
    · exact exits_of_not_prepared hc hp net
  · have hs : SameEnd (forward net a call) (forward net { a with isQueued } call') :=
      sameEnd_forward hn hc hi hs hu
    rw [run_of_arguments ha, run_of_arguments ha']
    exact ⟨hs.code, hs.output, hs.network⟩

/-- A number for an address given as an argument, with and without a queue and in two orders, over a
network in which nothing can be reached. -/
theorem run_exits_of_number :
    let a : Arguments := ⟨none, some "http://[::]", some "/", none, false, some "7"⟩
    let options := ["--base-url", "http://[::]", "--path", "/"]
    let call : Invocation := ⟨options ++ ["7"], [], fun _ => none, [], .standing⟩
    let call' : Invocation := ⟨options ++ ["--queued", "7"], [], fun _ => none, [], .reversed⟩
    Demand.ofArguments call.arguments = .ok (.forward a) ∧ Network.unreachable.IsPrompt ∧
      ¬IsCrowded a call ∧
      Demand.ofArguments call'.arguments = .ok (.forward { a with isQueued := true }) ∧
      ¬HasNoUrl a call ∧ Exits .unreachable a call (run .unreachable call) ∧
      SameEnd (run .unreachable call) (run .unreachable call') := by
  intro a options call call'
  have ha : Demand.ofArguments call.arguments = .ok (.forward a) := by decide
  have ha' : Demand.ofArguments call'.arguments = .ok (.forward { a with isQueued := true }) := by
    decide
  have hn : Network.unreachable.IsPrompt := .inr nofun
  have hreads {layer : Settings.Layer} (hr : Settings.ReadsFile call.files a.config layer) :
      layer = [] := hr.unique .none
  have hc : ¬IsCrowded a call := by
    rintro ⟨layer, hr, ⟨field, hf, _⟩ | ⟨_, hv⟩⟩
    · rw [hreads hr] at hf
      exact absurd hf List.not_mem_nil
    · exact hv nofun
  have hu : ¬HasNoUrl a call := fun ⟨_, _, _, h⟩ =>
    absurd (targetUrl_unspecified.symm.trans h) nofun
  obtain ⟨he, hsame, hsettled⟩ := run_exits ha hn hc
  refine ⟨ha, hn, hc, ha', hu, he, hsame call' true ha' ⟨rfl, rfl, rfl⟩ (hsettled ?_ ?_) hu⟩
  · intro layer hr
    rw [hreads hr]
    exact Settings.leadsOnce_of_isPlain fun _ hk => absurd hk List.not_mem_nil
  · exact Settings.leadsOnce_of_isPlain fun _ ⟨_, hv, _⟩ => absurd hv List.not_mem_nil

/-- Two variables whose keys lead to one setting. -/
def twoVariables : Settings.Environment :=
  [("RESULT_FORWARDER_TIMEOUT_MS", Utf8.encode ['5']),
    ("RESULT_FORWARDER_TIMEOUT_MS.X", Utf8.encode ['1'])]

section

open Courier.Settings

theorem variableLayer_twoVariables : variableLayer twoVariables =
    [("timeout_ms", textValue ['5']), ("timeout_ms.x", textValue ['1'])] := rfl

theorem steps_twoVariables : KeyPath.steps "timeout_ms" = [.key "timeout_ms"] ∧
    KeyPath.steps "timeout_ms.x" = [.key "timeout_ms", .key "x"] :=
  ⟨steps_of_isPlain (by decide), by cbv⟩

theorem variablesHaveRoom_twoVariables : VariablesHaveRoom twoVariables := by
  have hread : ∀ v ∈ twoVariables, IsReadable v := by decide
  rw [← hasRoom_variableLayer_iff hread, variableLayer_twoVariables]
  obtain ⟨hshort, hlong⟩ := steps_twoVariables
  refine List.forall_mem_cons.mpr ⟨?_, List.forall_mem_singleton.mpr ?_⟩
  · rw [HasRoom, hshort]
    decide
  · rw [HasRoom, hlong]
    decide

/-- One of the keys is put over the other. If the longer one comes last, what stands there is no
number. -/
theorem load_twoVariables (files : Files) :
    (∀ s, load .standing files none twoVariables ≠ .returned (.ok s)) ∧
      load .reversed files none twoVariables =
        .returned (.ok ⟨"http://localhost:3000", "/api/chat/results", none, 10000, 5⟩) := by
  obtain ⟨hshort, hlong⟩ := steps_twoVariables
  have hread : ∀ v ∈ twoVariables, IsReadable v := by decide
  constructor
  · intro s h
    obtain ⟨layer, tree, hr, -, hm, ht⟩ := load_eq_ok_iff.mp h
    obtain rfl := hr.unique .none
    have hmerge : merge? .standing [] twoVariables = some (.table (lowest.fields.set "timeout_ms"
        (.table [("x", textValue ['1'])]))) := by
      show addLayer lowest (variableLayer twoVariables) = _
      rw [variableLayer_twoVariables, addLayer_cons, hshort]
      show addLayer _ _ = _
      rw [addLayer_cons, hlong]
      exact rfl
    obtain rfl := Option.some.inj (hmerge.symm.trans hm)
    exact absurd (ht .timeoutMs) nofun
  · have hmerge : merge? .reversed [] twoVariables = some (.table (lowest.fields.set "timeout_ms"
        (textValue ['5']))) := by
      show addLayer lowest (variableLayer twoVariables).reverse = _
      rw [variableLayer_twoVariables]
      show addLayer lowest [_, _] = _
      rw [addLayer_cons, hlong]
      show addLayer _ _ = _
      rw [addLayer_cons, hshort]
      exact rfl
    exact load_eq_ok_iff.mpr ⟨[], _, .none, hread, hmerge, fun k => by cases k <;> rfl⟩

end

/-- A variable whose subscript is too great stops the command, in whatever order and whatever the
network. -/
theorem run_of_subscript (order : Settings.Order) (net : Network) :
    let call : Invocation := ⟨["\x7b\"ok\": true\x7d"], [], fun _ => none,
      [("RESULT_FORWARDER_X[9223372036854775807]", [49])], order⟩
    (run net call).code = 101 ∧ (run net call).output = "" := by
  intro call
  have ha : Demand.ofArguments ["\x7b\"ok\": true\x7d"] =
      .ok (.forward ⟨none, none, none, none, false, some "\x7b\"ok\": true\x7d"⟩) := by decide
  have hkey : Settings.keyOf? "RESULT_FORWARDER_X[9223372036854775807]" =
      some "x[9223372036854775807]" := rfl
  have hread : ∀ v ∈ call.environment, Settings.IsReadable v :=
    List.forall_mem_singleton.mpr fun _ => rfl
  have hroom : ¬Settings.VariablesHaveRoom call.environment := fun h =>
    Settings.not_hasRoom_of_greatest_subscript (h _ (.head _) _ hkey)
  have hc : IsCrowded ⟨none, none, none, none, false, some "\x7b\"ok\": true\x7d"⟩ call :=
    ⟨[], .none, .inr ⟨hread, hroom⟩⟩
  rw [run_of_arguments ha, forward_of_crowded hc]
  exact ⟨rfl, rfl⟩

/-- Two variables that lead to one setting let the command go on to a delivery or not, as the order
has it. -/
theorem run_of_two_variables :
    let options := ["--base-url", "http://[::]", "--path", "/"]
    let call : Invocation := ⟨options ++ ["null"], [], fun _ => none, twoVariables, .reversed⟩
    let call' : Invocation :=
      ⟨options ++ ["--queued", "null"], [], fun _ => none, twoVariables, .standing⟩
    (run .unreachable call).code ≠ 2 ∧ (run .unreachable call').code = 2 := by
  intro options call call'
  let a : Arguments := ⟨none, some "http://[::]", some "/", none, false, some "null"⟩
  have ha : Demand.ofArguments call.arguments = .ok (.forward a) := by decide
  have ha' : Demand.ofArguments call'.arguments = .ok (.forward { a with isQueued := true }) := by
    decide
  obtain ⟨hbad, hgood⟩ := load_twoVariables fun _ => none
  constructor
  · have hp : Prepared a call _ .null := ⟨⟨_, hgood, rfl⟩, "null".toList, .payload rfl, by cbv⟩
    have hn : Network.unreachable.IsPrompt := .inr fun _ hr => absurd hr List.not_mem_nil
    have hu : Endpoint.targetUrl
        (a.endpoint ⟨"http://localhost:3000", "/api/chat/results", none, 10000, 5⟩) =
          .ok "http://[::]/".toList := targetUrl_unspecified
    obtain ⟨result, after, hx⟩ := exists_deliver_finished (hp.overflow _) hn _ _ _
    rw [run_of_arguments ha]
    show (forward .unreachable a call).code ≠ 2
    rw [(forward_of_prepared hp hu hx).code]
    cases result.isOk <;> decide
  · have hc : ¬IsCrowded { a with isQueued := true } call' := by
      rintro ⟨layer, hr, ⟨field, hf, _⟩ | ⟨_, hv⟩⟩
      · obtain rfl : layer = [] := hr.unique .none
        exact absurd hf List.not_mem_nil
      · exact hv variablesHaveRoom_twoVariables
    have hp : ¬∃ e value, Prepared { a with isQueued := true } call' e value := by
      rintro ⟨_, _, ⟨s, hs, _⟩, _⟩
      exact hbad s hs
    obtain ⟨complaint, hf⟩ : ∃ complaint, forward .unreachable { a with isQueued := true } call' =
        refuse .unreachable complaint [] := forward_of_not_prepared hc hp
    rw [run_of_arguments ha', hf]
    rfl

/-- A variable whose subscript is too great stops the command, with the code of a panic and without
an answer. And two variables that lead to one setting let it end in different ways, with and without
a queue, if it comes upon them in different orders. -/
theorem run_of_subscript_and_of_two_variables :
    (∀ order net, let call : Invocation := ⟨["\x7b\"ok\": true\x7d"], [], fun _ => none,
        [("RESULT_FORWARDER_X[9223372036854775807]", [49])], order⟩
      (run net call).code = 101 ∧ (run net call).output = "") ∧
    let options := ["--base-url", "http://[::]", "--path", "/"]
    let call : Invocation := ⟨options ++ ["null"], [], fun _ => none, twoVariables, .reversed⟩
    let call' : Invocation :=
      ⟨options ++ ["--queued", "null"], [], fun _ => none, twoVariables, .standing⟩
    SameInput call call' ∧ (run .unreachable call).code ≠ 2 ∧
      (run .unreachable call').code = 2 :=
  ⟨run_of_subscript, ⟨rfl, rfl, rfl⟩, run_of_two_variables⟩

end Courier.CommandLine
