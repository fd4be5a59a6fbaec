/-!
# How calls end

A call returns, or a panic stops its caller. What is returned may be an error, and then nothing
else is done either.
-/

namespace Courier

/-- How a call ends. -/
inductive Ending (α : Type) where
  | returned (value : α)
  | panicked (message : String)
  deriving Repr

namespace Ending

variable {ε α β : Type}

/-- Goes on with what a call returned, unless that is an error. -/
def andThen (x : Ending (Except ε α)) (f : α → Ending (Except ε β)) : Ending (Except ε β) :=
  match x with
  | .returned (.ok a) => f a
  | .returned (.error e) => .returned (.error e)
  | .panicked message => .panicked message

variable {x : Ending (Except ε α)} {f : α → Ending (Except ε β)} {b : β} {e : ε} {message : String}

@[simp] theorem andThen_ok (a : α) (f : α → Ending (Except ε β)) :
    (returned (.ok a)).andThen f = f a := rfl

@[simp] theorem andThen_error (e : ε) (f : α → Ending (Except ε β)) :
    (returned (.error e)).andThen f = .returned (.error e) := rfl

@[simp] theorem andThen_panicked (message : String) (f : α → Ending (Except ε β)) :
    (panicked message).andThen f = .panicked message := rfl

theorem andThen_eq_ok_iff :
    x.andThen f = .returned (.ok b) ↔ ∃ a, x = .returned (.ok a) ∧ f a = .returned (.ok b) := by
  cases x with
  | panicked message => simp
  | returned result => cases result <;> simp

theorem andThen_eq_panicked_iff :
    x.andThen f = .panicked message ↔
      x = .panicked message ∨ ∃ a, x = .returned (.ok a) ∧ f a = .panicked message := by
  cases x with
  | panicked other => simp
  | returned result => cases result <;> simp

end Ending

end Courier
