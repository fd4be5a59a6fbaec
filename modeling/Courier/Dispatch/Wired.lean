import Courier.Dispatch.Interleaving

/-!
# Interleavings over a network

A usage and the network behind its worker. All that can happen to the usage happens here, except
that a delivery ends as the client's attempt does, and leaves the network that the attempt leaves.
If a reply is held back the worker waits for it until the time is up.

`attempt` is the call of `deliver` in the worker's `run`, for what `start` has captured.
-/

namespace Courier

deriving instance DecidableEq for Http.Attempt

namespace Dispatch

/-- How an attempt ends for one who waits until the time is up. -/
def settled : Http.Attempt → Http.Attempt
  | .waiting => .finished (.error (.noResponse .outOfTime))
  | attempt => attempt

@[simp] theorem ending_settled (attempt : Http.Attempt) :
    (settled attempt).ending = attempt.ending := by
  cases attempt <;> rfl

/-- A dispatcher in use, and the network that its worker delivers over. -/
structure Wired where
  usage : Usage
  network : Http.Network

namespace Wired

/-- The worker's attempt at a body, for an endpoint. -/
def attempt (w : Wired) (e : Endpoint) (body : List Char) : Http.Attempt × Http.Network :=
  Http.deliver w.network e.timeouts w.usage.dispatcher.url (e.bearer.map String.toList) body

/-- What is there after something happened, if it can happen. -/
def next? (e : Endpoint) (w : Wired) (label : Label) : Option Wired :=
  match label, w.usage.dispatcher.phase with
  | .finish ended, .delivering body =>
    let (attempt, after) := w.attempt e body
    if ended = settled attempt then (w.usage.next? label).map (⟨·, after⟩) else none
  | _, _ => (w.usage.next? label).map (⟨·, w.network⟩)

/-- What is there after all of it happened in order, if it can. -/
def run? (e : Endpoint) (w : Wired) : List Label → Option Wired
  | [] => some w
  | label :: rest => (w.next? e label).bind fun x => x.run? e rest

variable {e : Endpoint} {w x y : Wired} {label : Label} {labels more : List Label}

/-- What happens over a network happens without one, and only a delivery touches the network. -/
theorem cases_of_next? (h : w.next? e label = some x) :
    w.usage.next? label = some x.usage ∧
      (x.network = w.network ∧ (∀ ended, label ≠ .finish ended) ∨
        ∃ body attempt, w.usage.dispatcher.phase = .delivering body ∧
          w.attempt e body = (attempt, x.network) ∧ label = .finish (settled attempt)) := by
  unfold next? at h
  split at h
  · rename_i ended body hp
    cases ha : w.attempt e body with
    | mk attempt after =>
      simp only [ha, Option.ite_none_right_eq_some, Option.map_eq_some_iff] at h
      obtain ⟨rfl, u, hu, rfl⟩ := h
      exact ⟨hu, .inr ⟨body, attempt, hp, ha, rfl⟩⟩
  · rename_i hn
    obtain ⟨u, hu, rfl⟩ := Option.map_eq_some_iff.mp h
    refine ⟨hu, .inl ⟨rfl, ?_⟩⟩
    rintro ended rfl
    simp only [Usage.next?] at hu
    split at hu
    · rename_i body hp
      exact hn ended body rfl hp
    · exact absurd hu nofun

/-- What is no delivery happens over a network as it does without. -/
theorem next?_of_usage {u : Usage} (hn : ∀ ended, label ≠ .finish ended)
    (h : w.usage.next? label = some u) : w.next? e label = some ⟨u, w.network⟩ := by
  unfold next?
  split
  · exact absurd rfl (hn _)
  · rw [h]
    rfl

/-- A delivery ends as the attempt does. -/
theorem next?_of_attempt {u : Usage} {body : List Char} {attempt : Http.Attempt}
    {after : Http.Network} (hp : w.usage.dispatcher.phase = .delivering body)
    (ha : w.attempt e body = (attempt, after))
    (h : w.usage.next? (.finish (settled attempt)) = some u) :
    w.next? e (.finish (settled attempt)) = some ⟨u, after⟩ := by
  simp only [next?, hp, ha, h, if_true, Option.map_some]

theorem run?_append (labels more : List Label) :
    w.run? e (labels ++ more) = (w.run? e labels).bind fun x => x.run? e more := by
  induction labels generalizing w with
  | nil => rfl
  | cons label rest ih =>
    simp only [List.cons_append, run?, ih, Option.bind_assoc]

theorem run?_single (h : w.next? e label = some x) : w.run? e [label] = some x := by
  simp only [run?, h, Option.bind_some]

/-- What something has and everything that happens over the network keeps, whatever comes of it
has. -/
theorem run?_keeps {P : Wired → Prop} (h : w.run? e labels = some x) (hw : P w)
    (hs : ∀ {a b}, ∀ label ∈ labels, a.next? e label = some b → P a → P b) : P x := by
  induction labels generalizing w with
  | nil =>
    cases h
    exact hw
  | cons label rest ih =>
    simp only [run?, Option.bind_eq_some_iff] at h
    obtain ⟨v, hv, h⟩ := h
    exact ih h (hs label List.mem_cons_self hv hw) fun other ho =>
      hs other (List.mem_cons_of_mem _ ho)

/-- A run over a network is a run. -/
theorem reaches_of_run? (h : w.run? e labels = some x) : w.usage.Reaches x.usage := by
  apply run?_keeps (P := fun x => w.usage.Reaches x.usage) h .refl
  intro a b label _ hn ha
  exact .step label ha (cases_of_next? hn).1

end Wired

end Dispatch

end Courier
