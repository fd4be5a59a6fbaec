import Courier.Proofs.Dispatch.Steps

/-!
# What the worker tells

The worker tells how each of its deliveries ended, in order, and nothing else but a panic, after
which it tells nothing more (`tellsAll_of_reachable`). The URL that it tells of is that of the
dispatcher, which no step changes (`Step.url`).
-/

namespace Courier.Dispatch

open Courier.Dispatcher

/-- The delivery that is told but not counted. -/
@[simp]
def Phase.told : Phase → List (List Char × Except Failure Unit)
  | .counting body result => [(body, result)]
  | _ => []

/-- A delivery that is told is in the worker's hands until it is counted. -/
theorem Phase.map_told (phase : Phase) : phase.told.map (·.1) <+: phase.hand := by
  cases phase <;> simp

/-- The delivery whose end a label tells, if it tells one. -/
@[simp]
def Label.tells (phase : Phase) : Label → List (List Char × Except Failure Unit)
  | .finish (.finished result) => phase.hand.map fun body => (body, result)
  | _ => []

namespace Usage

/-- The deliveries whose end was told, in order, and their results. -/
def told (u : Usage) : List (List Char × Except Failure Unit) :=
  u.counted ++ u.dispatcher.phase.told

/-- The worker has told of its deliveries, and then of its panic if there was one. -/
def TellsAll (u : Usage) : Prop :=
  u.dispatcher.workerLog =
    u.told.map (fun t => .ofResult u.dispatcher.url t.1 t.2) ++
      if u.dispatcher.phase.hasPanicked then [.workerPanicked] else []

variable {u v : Usage} {label : Label} {e : Endpoint} {options : Options}

theorem Step.url (h : Step u label v) : v.dispatcher.url = u.dispatcher.url := by
  cases h <;> rfl

theorem Reaches.url (h : Reaches u v) : v.dispatcher.url = u.dispatcher.url :=
  h.keeps (P := fun v => v.dispatcher.url = u.dispatcher.url) rfl fun hs ha => hs.url.trans ha

/-- The end of a delivery is told in one step alone. -/
theorem Step.told (h : Step u label v) : v.told = u.told ++ label.tells u.dispatcher.phase := by
  unfold Usage.told
  cases h with
  | handed _ _ _ _ _ hp | markHanded _ _ _ _ hp | finish _ _ hp | panic _ _ hp | count _ _ hp
  | notify _ hp | cut hp | leave hp _ _ => simp [hp, put]
  | take m rest hp hq => cases m <;> simp [hp]
  | _ => exact (List.append_nil _).symm

/-- **Every step keeps what was told the tale of the deliveries.** -/
theorem Step.tellsAll (h : Step u label v) (hu : u.TellsAll) : v.TellsAll := by
  unfold TellsAll Usage.told at *
  cases h with
  | handed _ _ _ _ _ hp | markHanded _ _ _ _ hp | count _ _ hp | notify _ hp | cut hp
  | leave hp _ _ | finish _ _ hp | panic _ _ hp => simpa [hp, put] using hu
  | take m rest hp hq => cases m <;> simpa [hp] using hu
  | _ => exact hu

theorem tellsAll_of_reachable (h : Reachable e options u) : u.TellsAll := by
  refine h.keeps (fun {d} hd threads => ?_) Step.tellsAll
  obtain ⟨url, _, rfl⟩ := eq_of_start hd
  rfl

/-- A panic is told once, and last. -/
theorem workerLog_of_panicked (h : Reachable e options u)
    (hp : u.dispatcher.phase.hasPanicked = true) :
    ∃ before, u.dispatcher.workerLog = before ++ [.workerPanicked] ∧
      .workerPanicked ∉ before := by
  have ht := tellsAll_of_reachable h
  unfold TellsAll at ht
  rw [if_pos hp] at ht
  refine ⟨_, ht, fun hm => ?_⟩
  obtain ⟨⟨body, result⟩, _, he⟩ := List.mem_map.mp hm
  cases result <;> exact absurd he nofun

end Usage

end Courier.Dispatch
