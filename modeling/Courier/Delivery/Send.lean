import Courier.Delivery.Event
import Courier.Ending
import Courier.Endpoint.Target
import Courier.Http.Client
import Courier.Payload.Text

/-!
# Sending

A result is sent in one attempt: the endpoint has to have a URL, the result a text, and the
collector has to accept it. An attempt that gets as far as the client is told in the log.

`trySend` and `send` are `try_send` and `send`; `trySendAll` calls the first one after the other.
-/

namespace Courier

open Courier.Text

/-- What the log tells of a finished delivery. -/
def Event.ofResult (url body : List Char) : Except Failure Unit → Event
  | .ok () => .forwarded (String.ofList url) (Utf8.size body)
  | .error failure => .notForwarded (String.ofList url) failure

/-- A call that was made: how it ended, the network after it, and what it told. -/
structure Call (α : Type) where
  ending : Ending α
  network : Http.Network
  log : List Event

/-- What a caller gets who waits for a reply until the time is up. -/
def Http.Attempt.ending : Http.Attempt → Ending (Except Failure Unit)
  | .finished result => .returned result
  | .panicked message => .panicked message
  | .waiting => .returned (.error (.noResponse .outOfTime))

/-- What is told of a call. -/
def Ending.log (url body : List Char) : Ending (Except Failure Unit) → List Event
  | .returned result => [.ofResult url body result]
  | .panicked _ => []

/-- Sends a result and says why it was not delivered, if it was not. -/
def trySend (net : Http.Network) (e : Endpoint) (payload : Payload) :
    Call (Except Failure Unit) :=
  match e.targetUrl with
  | .error cause => ⟨.returned (.error (.invalidEndpoint cause.message)), net, []⟩
  | .ok url =>
    match payload.text with
    | .error cause => ⟨.returned (.error (.unserializable cause)), net, []⟩
    | .ok body =>
      let (attempt, net) := Http.deliver net e.timeouts url (e.bearer.map String.toList) body
      ⟨attempt.ending, net, attempt.ending.log url body⟩

/-- Sends results one after the other, each over the network that the one before left. -/
def trySendAll (net : Http.Network) (e : Endpoint) :
    List Payload → List (Call (Except Failure Unit))
  | [] => []
  | payload :: rest =>
    let call := trySend net e payload
    call :: trySendAll call.network e rest

/-- The network after calls that were made one after the other. -/
def networkAfter {α : Type} (net : Http.Network) (calls : List (Call α)) : Http.Network :=
  (calls.getLast?.map (·.network)).getD net

/-- Whether a call returned a success. -/
def Ending.isOk : Ending (Except Failure Unit) → Ending Bool
  | .returned result => .returned result.isOk
  | .panicked message => .panicked message

/-- Sends a result and says whether it was delivered. -/
def send (net : Http.Network) (e : Endpoint) (payload : Payload) : Call Bool :=
  let call := trySend net e payload
  ⟨call.ending.isOk, call.network, call.log⟩

end Courier
