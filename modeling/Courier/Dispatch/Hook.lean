import Courier.Json.Basic

/-!
# Hooks

A hook looks at every result before it is queued and keeps it, changed or not, or drops it, or
panics. Any judgement of results is a hook. One that is written down is a list of edits made in
order: after the first that drops or panics no later edit is made.

`Hook` is `BeforeSend`; `apply_before_send` looks at its verdict in `Dispatcher.prepare`.
-/

namespace Courier.Dispatch

/-- One edit of a hook. -/
inductive Edit where
  | drop
  | dropIf (key : String) (value : Json)
  | panic
  | panicIf (key : String)
  | set (key : String) (value : Json)
  | replace (value : Json)
  | wrap (key : String)
  deriving Repr

/-- What a hook makes of a result. -/
inductive Verdict where
  | keep (value : Json)
  | drop
  | panic
  deriving Repr

/-- A hook: what it makes of every result. -/
structure Hook where
  run : Json → Verdict

/-- What one edit makes of a result. A field can be set in an object, or in null, which becomes
one; in anything else setting it panics. -/
def Edit.apply (edit : Edit) (value : Json) : Verdict :=
  match edit with
  | .drop => .drop
  | .dropIf key unwanted => if (value.member key).same unwanted then .drop else .keep value
  | .panic => .panic
  | .panicIf key =>
    match value with
    | .object fields => if (Fields.get? key fields).isSome then .panic else .keep value
    | _ => .keep value
  | .set key new =>
    match value with
    | .object fields => .keep (.object (Fields.set key new fields))
    | .null => .keep (.object [(key, new)])
    | _ => .panic
  | .replace new => .keep new
  | .wrap key => .keep (.object [(key, value)])

/-- What edits made in order make of a result. -/
def Edit.applyAll : List Edit → Json → Verdict
  | [], value => .keep value
  | edit :: rest, value =>
    match edit.apply value with
    | .keep value => Edit.applyAll rest value
    | .drop => .drop
    | .panic => .panic

/-- The hook that makes edits in order. -/
def Hook.ofEdits (edits : List Edit) : Hook := ⟨Edit.applyAll edits⟩

instance : Coe (List Edit) Hook := ⟨Hook.ofEdits⟩

end Courier.Dispatch
