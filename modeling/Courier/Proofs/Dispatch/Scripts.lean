import Courier.Proofs.Dispatch.Plays

/-!
# Scripts are interleavings

Whatever a script does to its dispatchers, each of them comes of a new one by an interleaving of one
caller and the worker, so that whatever holds of all that can come of a new dispatcher holds of
those that a script leaves behind.

Results:

* `Rests.submit`, `Rests.flush`, `Rests.letGo` — what a step of a script does to a dispatcher.
* `scene_reachable` — **every dispatcher of a script comes of a new one**, that in use with its
  thread idle.
-/

namespace Courier.Dispatch

open Courier.Dispatcher

variable {e : Endpoint} {options : Options} {d d' : Dispatcher} {net net' : Http.Network}

/-! ## One dispatcher -/

/-- A dispatcher that comes of a new one. -/
def Arises (e : Endpoint) (options : Options) (d : Dispatcher) : Prop :=
  ∃ u, Usage.Reachable e options u ∧ u.dispatcher = d

/-- A dispatcher that comes of a new one, its one thread idle. -/
def Rests (e : Endpoint) (options : Options) (d : Dispatcher) : Prop :=
  ∃ u, Usage.Reachable e options u ∧ u.dispatcher = d ∧ u.threads = [.idle] ∧ u.isClosing = false

theorem rests_start (h : Dispatcher.start e options = .ok d) : Rests e options d :=
  ⟨_, ⟨d, 1, h, .refl⟩, rfl, rfl, rfl⟩

/-- What one caller does brings a dispatcher that comes of a new one to another such. -/
theorem Rests.plays (h : Rests e options d) {calls : List Label} {returned : List Bool}
    {ended : List (Nat × Bool)} {isClosing : Bool} (net : Http.Network) (more : Nat)
    (hp : ∀ n, Plays e calls returned ended ⟨(d, net), .idle, false, n⟩
      ⟨(d', net'), .idle, isClosing, n + more⟩) :
    ∃ u, Usage.Reachable e options u ∧ u.dispatcher = d' ∧ u.threads = [.idle] ∧
      u.isClosing = isClosing := by
  obtain ⟨u, hu, rfl, ht, hc⟩ := h
  obtain ⟨labels, x, hx, _, hat, _⟩ := hp u.calls ⟨u, net⟩ ⟨rfl, ht, hc, rfl⟩
  exact ⟨x.usage, hu.reaches (Wired.reaches_of_run? hx), (Prod.mk.inj hat.pair).1, hat.threads,
    hat.isClosing⟩

theorem Rests.works (h : Rests e options d) (hw : Works e (d, net) (d', net')) :
    Rests e options d' :=
  h.plays net 0 fun n => hw.plays .idle false n

theorem Arises.works (h : Arises e options d) (hw : Works e (d, net) (d', net')) :
    Arises e options d' := by
  obtain ⟨u, hu, rfl⟩ := h
  obtain ⟨labels, x, hx, _, hp⟩ := hw ⟨u, net⟩ rfl
  exact ⟨x.usage, hu.reaches (Wired.reaches_of_run? hx), (Prod.mk.inj hp).1⟩

/-- A submission leaves it with its thread idle. -/
theorem Rests.submit (h : Rests e options d) (payload : Payload) :
    Rests e options (d.submit payload).2 :=
  h.plays .unreachable 1 fun n => plays_submit d _ payload n

/-- So does a flush. -/
theorem Rests.flush (h : Rests e options d) (net : Http.Network) :
    Rests e options (Dispatch.flush e (d, net)).2.1 :=
  h.plays net 0 fun n => plays_flush d net n

theorem tell_flushEvents (d : Dispatcher) (inTime : Bool) :
    d.tell (flushEvents true inTime) = if inTime then d else d.tell [.flushTimedOut] := by
  cases inTime with
  | true => simp [flushEvents]
  | false => rfl

/-- Letting go of it ends what its thread can call. -/
theorem Rests.letGo (h : Rests e options d) (net : Http.Network) :
    Arises e options (((Dispatch.flush e (d, net)).2.1.tell
      (flushEvents true (Dispatch.flush e (d, net)).1)).letGo.leave) := by
  obtain ⟨u, hu, hd, _⟩ := h.plays net 0 fun n => plays_letGo (e := e) d net n
  exact ⟨u, hu, hd⟩

/-! ## Scripts -/

/-- Every dispatcher of a scene comes of a new one, that in use with its thread idle. -/
structure Scene.Sound (e : Endpoint) (options : Options) (s : Scene) : Prop where
  ofEndpoint : s.endpoint = e
  withOptions : s.options = options
  current : ∀ d ∈ s.current, Rests e options d
  past : ∀ d ∈ s.past, Arises e options d

namespace Scene

variable {s : Scene}

/-- Dispatchers that were let go of go on one by one. -/
theorem arises_settled (past done : List Dispatcher) (net : Http.Network)
    (hdone : ∀ d ∈ done, Arises e options d) (hpast : ∀ d ∈ past, Arises e options d) :
    ∀ d ∈ (past.foldl (fun (done, net) d =>
      let (d, net) := settle e (d, net)
      (done ++ [d.leave], net)) (done, net)).1, Arises e options d := by
  induction past generalizing done net with
  | nil => exact hdone
  | cons first rest ih =>
    refine ih _ _ (fun d hd => ?_) fun d hd => hpast d (List.mem_cons_of_mem _ hd)
    rcases List.mem_append.mp hd with hd | hd
    · exact hdone d hd
    · rw [List.mem_singleton.mp hd]
      have hw := (works_settle e (first, net)).trans (works_leave _ _)
      exact (hpast first List.mem_cons_self).works hw

theorem Sound.settleAll (h : s.Sound e options) : s.settleAll.Sound e options := by
  obtain ⟨rfl, rfl, hcurrent, hpast⟩ := h
  have hp := arises_settled s.past [] s.network (fun _ hd => absurd hd List.not_mem_nil) hpast
  unfold Scene.settleAll
  cases hc : s.current with
  | none => exact ⟨rfl, rfl, nofun, hp⟩
  | some d =>
    refine ⟨rfl, rfl, fun d' hd => ?_, hp⟩
    cases hd
    exact (hcurrent d hc).works (works_settle _ (d, _))

/-- What the worker does while the caller goes on is up to it alone. -/
theorem works_hurry (d : Dispatcher) (net : Http.Network) :
    Works e (d, net) ((s.hurry d).1, net) := by
  unfold hurry
  by_cases hq : d.queue = []
  · rw [if_pos hq]
    exact .refl _
  · rw [if_neg hq]
    by_cases he : patience ≤ s.effort
    · rw [if_pos he]
      have hw := works_take (e := e) d net
      cases ht : d.take? with
      | none => exact .refl _
      | some after =>
        rw [ht] at hw
        exact hw
    · rw [if_neg he]
      exact .refl _

theorem Sound.submitTimes (h : s.Sound e options) (hd : Rests e options d) (payload : Payload)
    (times : Nat) : (s.submitTimes d payload times).2.Sound e options := by
  induction times generalizing s d with
  | zero =>
    refine ⟨h.ofEndpoint, h.withOptions, fun d' hd' => ?_, h.past⟩
    cases hd'
    exact hd
  | succ times ih =>
    exact ih ⟨h.ofEndpoint, h.withOptions, h.current, h.past⟩
      ((hd.works (works_hurry d .unreachable)).submit payload)

theorem Sound.dropCurrent (h : s.Sound e options) (hd : Rests e options d) :
    (s.dropCurrent d).Sound e options := by
  obtain ⟨rfl, rfl, hcurrent, hpast⟩ := h
  refine ⟨rfl, rfl, nofun, fun d' hd' => ?_⟩
  rcases List.mem_append.mp hd' with hd' | hd'
  · exact hpast d' hd'
  · rw [List.mem_singleton.mp hd']
    have hl := hd.letGo s.network
    rw [tell_flushEvents] at hl
    exact hl

theorem Sound.dropAny (h : s.Sound e options) : s.dropAny.Sound e options := by
  unfold Scene.dropAny
  cases hc : s.current with
  | none => exact h
  | some d => exact h.dropCurrent (h.current d hc)

theorem Sound.restart (h : s.Sound e options) : s.restart.Sound e options := by
  obtain ⟨he, ho, hcurrent, hpast⟩ := h.dropAny
  unfold Scene.restart
  simp only
  split
  · rename_i d hd
    rw [he, ho] at hd
    refine ⟨he, ho, fun d' hd' => ?_, hpast⟩
    cases hd'
    exact rests_start hd
  · exact ⟨he, ho, hcurrent, hpast⟩

theorem Sound.flushCurrent (h : s.Sound e options) (hd : Rests e options d) :
    Sound e options { (s.flushCurrent d).2.2 with current := some (s.flushCurrent d).2.1 } := by
  obtain ⟨rfl, rfl, hcurrent, hpast⟩ := h
  refine ⟨rfl, rfl, fun d' hd' => ?_, hpast⟩
  cases hd'
  exact hd.flush s.network

/-- **Every step of a script keeps its dispatchers such as come of new ones.** -/
theorem Sound.step (h : s.Sound e options) (step : Step) : (s.step step).2.Sound e options := by
  cases step with
  | awaitRequests =>
    have hs : (s.step .awaitRequests).2 = s.settleAll := by
      unfold Scene.step
      cases hc : s.settleAll.current <;> simp [hc]
    rw [hs]
    exact h.settleAll
  | awaitWorker => exact h.settleAll
  | release => exact ⟨h.ofEndpoint, h.withOptions, h.current, h.past⟩
  | start => exact h.restart
  | submit payload times =>
    unfold Scene.step
    cases hc : s.current with
    | none => exact h
    | some d => exact h.submitTimes (h.current d hc) payload times
  | flush =>
    unfold Scene.step
    cases hc : s.current with
    | none => exact h
    | some d => exact h.flushCurrent (h.current d hc)
  | stats =>
    unfold Scene.step
    cases hc : s.current with
    | none => exact h
    | some d => exact h
  | drop =>
    unfold Scene.step
    cases hc : s.current with
    | none => exact h
    | some d => exact h.dropCurrent (h.current d hc)

theorem Sound.steps (h : s.Sound e options) (script : List Step) :
    (s.steps script).2.Sound e options := by
  induction script generalizing s with
  | nil => exact h
  | cons first rest ih => exact ih (h.step first)

/-- **What a script leaves behind is the worth of interleavings.** Whatever the network and the
steps, every dispatcher that a script has started is one that can come of a new one. -/
theorem scene_reachable {d : Dispatcher} (h : Dispatcher.start e options = .ok d)
    (net : Http.Network) (script : List Step) :
    ((⟨e, options, net, some d, [], 0⟩ : Scene).steps script).2.Sound e options := by
  have hs : Sound e options ⟨e, options, net, some d, [], 0⟩ := by
    refine ⟨rfl, rfl, fun d' hd => ?_, fun d' hd => absurd hd List.not_mem_nil⟩
    cases hd
    exact rests_start h
  exact hs.steps script

end Scene

end Courier.Dispatch
