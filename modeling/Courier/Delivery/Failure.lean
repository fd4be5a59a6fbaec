import Courier.Json.Fault

/-!
# Why a result is not delivered

Either nothing was sent, because the endpoint or the result is no good, or the exchange ended
without a reply, or the reply was not the one that means success.

`Failure` is `ForwardError` with its messages and `status`; `TransportError` is the client's own
error that one of its cases wraps.
-/

namespace Courier

/-- Why an exchange ended without a reply. -/
inductive TransportError where
  | hostNotFound
  | badUri (reason : String)
  /-- Something that is no part of a request. -/
  | malformed (reason : String)
  | tooManyRedirects
  | redirectFailed
  | headTooLarge (size limit : Nat)
  | outOfTime
  | connectOutOfTime
  /-- A reply that breaks the rules of the exchange. -/
  | protocol (reason : String)
  | io (reason : String)
  deriving Repr, DecidableEq

/-- The wording of an error. -/
def TransportError.message : TransportError → String
  | .hostNotFound => "host not found"
  | .badUri reason => "bad uri: " ++ reason
  | .malformed reason => "http: " ++ reason
  | .tooManyRedirects => "too many redirects"
  | .redirectFailed => "redirect failed"
  | .headTooLarge size limit =>
    "response header is too big: " ++ toString size ++ " > " ++ toString limit
  | .outOfTime => "timeout: global"
  | .connectOutOfTime => "timeout: connect"
  | .protocol reason => "protocol: " ++ reason
  | .io reason => "io: " ++ reason

/-- Why a result was not delivered. -/
inductive Failure where
  | invalidEndpoint (reason : String)
  | unserializable (cause : Json.Report)
  | noResponse (cause : TransportError)
  | refused (status : Nat) (body : String)
  | noWorker (reason : String)
  deriving Repr, DecidableEq

namespace Failure

/-- The wording of what lies beneath a failure, if something does. -/
def cause? : Failure → Option String
  | .unserializable cause => some (String.ofList cause.text)
  | .noResponse cause => some cause.message
  | _ => none

/-- The wording of a failure. -/
def message : Failure → String
  | .invalidEndpoint reason => "Invalid endpoint configuration: " ++ reason
  | .unserializable cause => "Failed to serialize result payload: " ++ String.ofList cause.text
  | .noResponse cause => "No response from collector: " ++ cause.message
  | .refused status body => "Collector responded with HTTP " ++ toString status ++ ": " ++ body
  | .noWorker reason => "Failed to spawn delivery worker: " ++ reason

/-- The wording of a failure and of what lies beneath it, after that of its context. -/
def chain (context : String) (failure : Failure) : String :=
  context ++ ": " ++ failure.message ++
    match failure.cause? with
    | some cause => ": " ++ cause
    | none => ""

/-- The status of the reply, if there was one. -/
def status? : Failure → Option Nat
  | .refused status _ => some status
  | _ => none

end Failure

end Courier
