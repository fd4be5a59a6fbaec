import Courier.Proofs.CommandLine.Exit
import Courier.Proofs.Dispatch.Posts
import Courier.Proofs.Json.Roundtrip

/-!
# What the command forwards

The command reads a document and hands on its value; the body that it posts is the text of that
value. It depends on what the document says, and not on how that is written down: if there are but
integers among the numbers of the document, the body says the same, is read as the very value, and
is the body for every other text that says it.

Results:

* `requests_of_course` — every request of a worker carries the body of one of its deliveries.
* `postsOnly_run` — what is posted of a document is the text of its value.
* `run_eq_of_value` — the command hands on no more of a document than its value.
* `faithful_of_valueOf` — **a document is forwarded faithfully**, and again from its own body.
-/

namespace Courier.Dispatch

open Courier.Http

variable {e : Endpoint} {url : List Char} {net after : Network}
  {told : List (List Char × Except Failure Unit)}

/-- Every request of a course carries the body of one of its deliveries, or nothing. -/
theorem requests_of_course (h : Course e url net told after) :
    ∃ more, after.requests = net.requests ++ more ∧ ∀ r ∈ more,
      (∃ t ∈ told, r.Carries (e.bearer.map String.toList) t.1) ∨ r.IsBare := by
  induction h with
  | nil net => exact ⟨[], (List.append_nil _).symm, nofun⟩
  | @cons net mid after body attempt result rest hd _ _ ih =>
    obtain ⟨more, hm, hall⟩ := ih
    obtain ⟨gets, _, hg, hrequests⟩ := exists_gets net e.timeouts url
    have hrest : ∀ r ∈ more, (∃ t ∈ (body, result) :: rest,
        r.Carries (e.bearer.map String.toList) t.1) ∨ r.IsBare := fun r hr =>
      (hall r hr).imp_left fun ⟨t, ht, hc⟩ => ⟨t, List.mem_cons_of_mem _ ht, hc⟩
    have hfirst := hrequests (e.bearer.map String.toList) body
    rw [hd] at hfirst
    rcases hfirst with hn | ⟨post, hp, hn⟩
    · exact ⟨more, by rw [hm, hn], hrest⟩
    · refine ⟨post :: gets ++ more, by rw [hm, hn, List.append_assoc], fun r hr => ?_⟩
      rcases List.mem_append.mp hr with hr | hr
      · rcases List.mem_cons.mp hr with rfl | hr
        · exact .inl ⟨_, List.mem_cons_self, hp⟩
        · exact .inr (hg r hr)
      · exact hrest r hr

end Courier.Dispatch

namespace Courier.CommandLine

open Courier.Dispatch Courier.Dispatcher Courier.Http Courier.Json

variable {net : Network} {e : Endpoint} {a a' : Arguments} {call call' : Invocation} {v w : Json}
  {raw : List Char} {d : Document}

/-! ## What is posted -/

/-- Among the requests that a network has after it was used, every new POST has this body. -/
def PostsOnly (body : List Char) (net after : Network) : Prop :=
  ∃ more, after.requests = net.requests ++ more ∧ ∀ r ∈ more, r.method = "POST" → r.body = body

theorem PostsOnly.refl (body : List Char) (net : Network) : PostsOnly body net net :=
  ⟨[], (List.append_nil _).symm, nofun⟩

theorem not_post_of_isBare {r : Request} (h : r.IsBare) : r.method ≠ "POST" := fun hp =>
  absurd (h.method.symm.trans hp) (by decide)

/-- A value that is delivered at once is posted with its text. -/
theorem postsOnly_deliverNow (net : Network) (e : Endpoint) (v : Json) :
    PostsOnly v.text net (deliverNow net e v).network := by
  unfold deliverNow send trySend
  cases hu : e.targetUrl with
  | error cause => exact .refl _ _
  | ok url =>
    obtain ⟨gets, _, hg, hrequests⟩ := exists_gets net e.timeouts url
    simp only [Payload.text_ofJson]
    rcases hrequests (e.bearer.map String.toList) v.text with hn | ⟨post, hp, hn⟩
    · exact ⟨[], by rw [hn, List.append_nil], nofun⟩
    · refine ⟨post :: gets, hn, fun r hr => ?_⟩
      rcases List.mem_cons.mp hr with rfl | hr
      · exact fun _ => hp.body
      · exact fun hpost => absurd hpost (not_post_of_isBare (hg r hr))

/-- A body that is made of the one payload of a caller who submits a value is the value's text. -/
theorem eq_of_made {labels : List Label} {body : List Char} (hv : v.IsProper)
    (hc : labels.filter (·.isCall) = [.submit 0 (.ofJson v), .flush 0, .close 0])
    (h : Made .standard labels body) : body = v.text := by
  obtain ⟨thread, payload, hook, hl, hh, hp⟩ := h
  have hm : Label.submit thread payload ∈ labels.filter (·.isCall) :=
    List.mem_filter.mpr ⟨hl, rfl⟩
  rw [hc] at hm
  obtain rfl : hook = none := by
    cases hook with
    | none => rfl
    | some hook => cases hh
  obtain ⟨rfl, rfl⟩ : thread = 0 ∧ payload = .ofJson v := by simpa using hm
  exact Option.some.inj (hp.symm.trans (prepare_ofJson hv))

/-- One that is delivered through a queue is too, whatever becomes of the flushes. -/
theorem postsOnly_deliverQueued (hv : v.IsProper) {delivery : Delivery}
    (h : deliverQueued net e v = .ok delivery) : PostsOnly v.text net delivery.network := by
  unfold deliverQueued at h
  cases hd : Dispatcher.start e .standard with
  | error failure =>
    rw [hd] at h
    cases h
  | ok start =>
    rw [hd] at h
    -- What the command does is a run of one caller: it submits, flushes, and lets go.
    have hsubmit := plays_submit (e := e) start net (.ofJson v) 0
    have hflush := plays_flush (e := e) (start.submit (.ofJson v)).2 net 1
    dsimp only at h
    generalize Dispatch.flush e ((start.submit (.ofJson v)).2, net) = flushed at h hflush
    obtain ⟨isFlushed, held, mid⟩ := flushed
    obtain ⟨labels, x, hx, hcalls, hat, _⟩ :=
      ((hsubmit.trans hflush).trans (plays_letGo held mid 1)) ⟨.new start 1, net⟩
        ⟨rfl, rfl, rfl, rfl⟩
    have hnetwork : delivery.network = x.network := by
      cases h
      exact (congrArg Prod.snd hat.pair).symm
    rw [hnetwork]
    have hstart : start.phase = .waiting := by
      obtain ⟨url, _, rfl⟩ := eq_of_start hd
      rfl
    obtain ⟨more, hm, hall⟩ := requests_of_course (course_of_run? hx hstart)
    refine ⟨more, hm, fun r hr hpost => ?_⟩
    rcases hall r hr with ⟨t, ht, hcarries⟩ | hbare
    · have hreach : Usage.Reachable e .standard x.usage :=
        ⟨start, 1, hd, Wired.reaches_of_run? hx⟩
      have haccepted := (Usage.sound_of_reachable hreach).flows.begun_prefix.subset
        (mem_begun_of_mem_told hreach ht)
      rw [hcarries.body, eq_of_made hv hcalls (made_of_run? hd hx haccepted)]
    · exact absurd hpost (not_post_of_isBare hbare)

/-! ## Calls -/

/-- A call asks for a text to be forwarded. -/
structure Calls (a : Arguments) (call : Invocation) (raw : List Char) : Prop where
  arguments : Demand.ofArguments call.arguments = .ok (.forward a)
  document : IsDocument a call.input raw

/-- Two calls differ in no more than the document, and where it comes from. -/
structure Likened (a : Arguments) (call : Invocation) (a' : Arguments) (call' : Invocation) :
    Prop where
  arguments : a' = { a with payload := a'.payload }
  files : call'.files = call.files
  environment : call'.environment = call.environment
  order : call'.order = call.order

theorem valueOf_eq_ok_iff : valueOf raw = .ok v ↔ Json.parse raw = .ok v := by
  unfold valueOf
  cases Json.parse raw <;> simp

/-- The command hands on no more of a document than its value. -/
theorem run_eq_of_value {other : List Char} (hc : Calls a call raw) (hc' : Calls a' call' other)
    (hl : Likened a call a' call') (h : valueOf other = valueOf raw) (net : Network) :
    run net call' = run net call := by
  have hsettings : settingsOf a' call' = settingsOf a call := by
    unfold settingsOf
    rw [hl.order, hl.files, hl.environment, hl.arguments]
  have hvalue : valueIn a' call' = valueIn a call := by
    unfold valueIn
    rw [document_eq_ok_iff.mpr hc.document, document_eq_ok_iff.mpr hc'.document]
    exact h
  have hprepare : prepare a' call' = prepare a call := by
    unfold prepare
    rw [hsettings, hvalue, hl.arguments]
    rfl
  have hforward : forward net a' call' = forward net a call := by
    unfold forward
    rw [hprepare, hl.arguments]
  simp only [run, hc.arguments, hc'.arguments, hforward, hl.environment]

theorem network_outcome (delivery : Delivery) (before : List LogLine) :
    (delivery.outcome before).network = delivery.network := by
  unfold Delivery.outcome
  split <;> rfl

/-- **What is posted of a document is the text of its value.** -/
theorem postsOnly_run (hc : Calls a call raw) (hv : valueOf raw = .ok v) (net : Network) :
    PostsOnly v.text net (run net call).network := by
  have hproper : v.IsProper := isProper_of_parse (valueOf_eq_ok_iff.mp hv)
  simp only [run, hc.arguments]
  show PostsOnly v.text net (forward net a call).network
  unfold forward
  split
  · exact .refl _ _
  · exact .refl _ _
  · next e w hp =>
    obtain rfl : w = v := by
      obtain ⟨text, hd, hw⟩ := (prepare_eq_ok_iff.mp hp).document
      obtain rfl := Except.ok.inj ((document_eq_ok_iff.mpr hd).symm.trans
        (document_eq_ok_iff.mpr hc.document))
      exact Except.ok.inj (hw.symm.trans (valueOf_eq_ok_iff.mp hv))
    dsimp only
    split
    · split
      · exact .refl _ _
      · next hdelivery =>
        rw [network_outcome]
        exact postsOnly_deliverQueued hproper hdelivery
    · rw [network_outcome]
      exact postsOnly_deliverNow net e w

/-! ## Faithfully -/

/-- A text that denotes a document is forwarded as a value, faithfully. -/
structure Faithful (raw : List Char) (d : Document) (v : Json) : Prop where
  /-- The value is the document, of fields with one name the last. -/
  same : d.Same (.ofJson v)
  /-- Its text is what is sent, and what is queued, -/
  sent : (Payload.ofJson v).text = .ok v.text
  queued : Dispatcher.prepare none (.ofJson v) = ([], some v.text)
  /-- and no other body is posted, over whatever network. -/
  posted {a : Arguments} {call : Invocation} (h : Calls a call raw) (net : Network) :
    PostsOnly v.text net (run net call).network
  /-- The body is a document too, and that value. -/
  accepted : valueOf v.text = .ok v
  /-- So forwarding it again posts no other body, and comes to the very same in the same order. -/
  again {a' : Arguments} {call' : Invocation} (h' : Calls a' call' v.text) (net : Network) :
    PostsOnly v.text net (run net call').network ∧
      ∀ {a : Arguments} {call : Invocation}, Calls a call raw → Likened a call a' call' →
        run net call' = run net call
  /-- And so does forwarding any other text that denotes the same document. -/
  alike {other : List Char} {e : Document} {w : Json} (hw : valueOf other = .ok w)
    (he : Denotes other e) (hwhole : e.IsWhole) (hs : d.Same e) :
    w = v ∧ ∀ {a' : Arguments} {call' : Invocation}, Calls a' call' other → ∀ net,
      PostsOnly v.text net (run net call').network ∧
        ∀ {a : Arguments} {call : Invocation}, Calls a call raw → Likened a call a' call' →
          run net call' = run net call

/-- **What the command forwards.** A text that it accepts denotes one document. If all numbers in
that are numerals of integers that are kept whole, it is forwarded faithfully. -/
theorem faithful_of_valueOf (h : valueOf raw = .ok v) :
    (∃! d, Denotes raw d) ∧ ∀ d, Denotes raw d → d.IsWhole → Faithful raw d v := by
  have hparse := valueOf_eq_ok_iff.mp h
  have hproper : v.IsProper := isProper_of_parse hparse
  obtain ⟨d, hd, _⟩ := exists_of_parse hparse
  refine ⟨⟨d, hd, fun e he => denotes_unique he hd⟩, fun d hd hwhole => ?_⟩
  obtain ⟨hdepth, hv, hsame⟩ := means_of_denotes hparse hd hwhole
  have haccepted : valueOf v.text = .ok v :=
    valueOf_eq_ok_iff.mpr (parse_text hproper hv hdepth)
  refine ⟨hsame, Payload.text_ofJson v, ?_, fun hc net => postsOnly_run hc h net, haccepted,
    fun hc' net => ⟨postsOnly_run hc' haccepted net, fun hc hl =>
      run_eq_of_value hc hc' hl (haccepted.trans h.symm) net⟩, ?_⟩
  · simp only [Dispatcher.prepare, Payload.toJson_ofJson v hproper]
  · intro other e w hw he hwhole' hs
    have hparse' := valueOf_eq_ok_iff.mp hw
    obtain ⟨_, hw', hsame'⟩ := means_of_denotes hparse' he hwhole'
    obtain rfl : w = v := eq_of_same (isProper_of_parse hparse') hproper hw' hv
      (hsame'.symm.trans (hs.symm.trans hsame))
    exact ⟨rfl, fun hc' net => ⟨postsOnly_run hc' hw net, fun hc hl =>
      run_eq_of_value hc hc' hl (hw.trans h.symm) net⟩⟩

/-- A text with blanks, with two surrogates that are one character, and with two fields of one
name. -/
theorem faithful_of_two_fields :
    let raw := ['{', '"', 'a', '"', ':', ' ', '-', '7', ',', '"', 'a', '"', ' ', ':', '[', '"',
      '\\', 'u', 'd', '8', '3', 'd', '\\', 'u', 'd', 'e', '0', '0', '"', ']', '}', '\n']
    let name := String.ofList ['a']
    let face := String.ofList [pairSurrogates 0xD83D 0xDE00]
    let d : Document := .object [(name, .word (.integer (-7))), (name, .array [.string face])]
    let v : Json := .object [(name, .array [.string face])]
    valueOf raw = .ok v ∧ (∃! d, Denotes raw d) ∧ Denotes raw d ∧ d.IsWhole ∧ Faithful raw d v := by
  intro raw name face d v
  have hname (rest : List Char) : SpellsString ('a' :: '"' :: rest) ['a'] rest :=
    .plain (by decide) (by decide) (by decide) (.close rest)
  have hface (rest : List Char) : SpellsString
      ('\\' :: 'u' :: 'd' :: '8' :: '3' :: 'd' :: '\\' :: 'u' :: 'd' :: 'e' :: '0' :: '0' :: '"' ::
        rest) [pairSurrogates 0xD83D 0xDE00] rest :=
    .escape (.pair (by decide) (by decide) (by decide) (by decide) _) (.close rest)
  have hfirst : Spells (raw.drop 5) (.word (.integer (-7))) (raw.drop 8) :=
    .word (isToken_integer (-7)) (by decide)
  have hsecond : SpellsFields (raw.drop 8) [(name, .array [.string face])] ['\n'] :=
    .next rfl (.mk rfl (hname _) rfl) (.items rfl (.string rfl (hface _)) (.close rfl)) (.close rfl)
  have hdenotes : Denotes raw d := ⟨['\n'], .fields rfl (.mk rfl (hname _) rfl) hfirst hsecond, rfl⟩
  have hwhole : d.IsWhole :=
    ⟨fun _ => ⟨-7, by decide, by decide, rfl⟩, ⟨trivial, trivial⟩, trivial⟩
  obtain ⟨w, hw⟩ := exists_parse hdenotes hwhole (by decide)
  obtain rfl : w = v := by
    obtain ⟨_, hwhole', hsame⟩ := means_of_denotes hw hdenotes hwhole
    have hv : v = Json.ofFields [(name, .integer (-7)), (name, .array [.string face])] := by
      simp [v, Json.ofFields, Fields.ofList, Fields.set]
    have hd : d.Same (.ofJson v) :=
      hv ▸ Document.same_ofFields [(name, .integer (-7)), (name, .array [.string face])]
    refine eq_of_same (isProper_of_parse hw) ?_ hwhole' ?_ (hsame.symm.trans hd)
    · exact isProper_single name ⟨trivial, trivial⟩
    · exact ⟨⟨trivial, trivial⟩, trivial⟩
  have hvalue := valueOf_eq_ok_iff.mpr hw
  obtain ⟨hone, hall⟩ := faithful_of_valueOf hvalue
  exact ⟨hvalue, hone, hdenotes, hwhole, hall d hdenotes hwhole⟩

end Courier.CommandLine
