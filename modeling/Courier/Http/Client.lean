import Courier.Delivery.Failure
import Courier.Duration
import Courier.Endpoint.Basic
import Courier.Http.Network

/-!
# The client

One exchange sends a request and follows where it is sent on, ten times at most; a redirect that
would repeat the POST ends it. Before anything is sent the URI, the credentials and the timeouts
are looked at, in this order. A timeout that the clock cannot count to stops the caller.

`deliver` is `deliver` of `Transport` with the agent that `new` makes of the timeouts; `exchange`,
`ask` and `refusal?` are what the agent does behind it.
-/

namespace Courier.Http

open Courier.Text

/-- How an exchange ends. -/
inductive Exchange where
  | replied (response : Response)
  | failed (cause : TransportError)
  /-- The reply is held back. -/
  | waiting
  deriving Repr, DecidableEq

/-! ## Redirects -/

/-- The path up to and with its last slash. -/
def folder (target : List Char) : List Char :=
  let path := target.takeWhile (· ≠ '?')
  (path.reverse.dropWhile (· ≠ '/')).reverse

/-- The URI that a location names, seen from another one. -/
def resolve (base : Uri) (location : List Char) : Except UriFault Uri :=
  let location := location.takeWhile (· ≠ '#')
  let onHost := fun target : List Char =>
    (Uri.readTarget target).map fun t => { base with target := Uri.absolute t }
  match Uri.parse location with
  | .ok uri => if uri.scheme.isSome then .ok uri else relative onHost location
  | .error _ => relative onHost location
where
  relative (onHost : List Char → Except UriFault Uri) (location : List Char) :
      Except UriFault Uri :=
    match location with
    | '/' :: '/' :: rest => Uri.parse (base.scheme.getD [] ++ ':' :: '/' :: '/' :: rest)
    | '/' :: _ => onHost location
    | '?' :: _ => onHost (base.target.takeWhile (· ≠ '?') ++ location)
    | [] => .ok base
    | _ => onHost (folder base.target ++ location)

/-! ## Exchanges -/

/-- Why an exchange ends whose reply is no response. -/
def WireFault.cause : WireFault → TransportError
  | .ended => .io "Peer disconnected"
  | .headTooLarge size => .headTooLarge size Response.maxHead
  | .version => .protocol "http parse fail: invalid HTTP version"
  | .status => .protocol "http parse fail: invalid response status"
  | .headerName => .protocol "http parse fail: invalid header name"
  | .headerValue => .protocol "http parse fail: invalid header value"
  | .lineEnd => .protocol "http parse fail: invalid new line"
  | .length => .protocol "content-length header not a number"

/-- What comes of a request that the collector gets next. -/
def Network.answer (net : Network) : Exchange :=
  if net.nextReply.held && !net.gateOpen then .waiting
  else
    match Response.read net.nextReply.bytes with
    | .error fault => .failed fault.cause
    | .ok response => .replied response

/-- Sends one request: the reply to it, a redirect like any other, or why there is none. -/
def ask (net : Network) (uri : Uri) (request : Request) : Exchange × Network :=
  match net.route uri.host with
  | .unreachable => (.failed (.io "Network is unreachable (os error 101)"), net)
  | .closedPort => (.failed (.io "Connection refused (os error 111)"), net)
  | .silentPort => (.failed .connectOutOfTime, net)
  | .unknownHost => (.failed .hostNotFound, net)
  | .collector =>
    if uri.scheme = some "https".toList then (.failed WireFault.ended.cause, net)
    else if !request.isWritable then
      (.failed (.protocol "authorization header is not a string"), net)
    else (net.answer, net.receive request)

/-- Sends a request and follows where it is sent on, so many times at most. -/
def exchange (net : Network) (uri : Uri) (request : Request) (redirects : Nat) :
    Exchange × Network :=
  match ask net uri request with
  | (.replied response, net) =>
    if !response.isRedirect then (.replied response, net)
    else if response.keepsMethod && request.method = "POST" then (.failed .redirectFailed, net)
    else
      match response.header? "location" with
      | none => (.failed (.protocol "missing a location header"), net)
      | some location =>
        match redirects with
        | 0 => (.failed .tooManyRedirects, net)
        | redirects + 1 =>
          match resolve uri location with
          | .error fault => (.failed (.malformed fault.message), net)
          | .ok next => exchange net next (follow next) redirects
  | (result, net) => (result, net)

/-- How often a request is sent on. -/
def maxRedirects : Nat := 10

/-! ## Deliveries -/

/-- How a call of the client ends. -/
inductive Attempt where
  | finished (result : Except Failure Unit)
  /-- The caller is stopped. -/
  | panicked (message : String)
  /-- The reply is held back. -/
  | waiting

/-- Whether a clock cannot count to a duration from now: it counts seconds in 64 bits with a
sign. -/
def isBeyondClock (clock : Clock) (d : Duration) : Bool :=
  Nat.pow 2 63 ≤ Duration.seconds ⟨clock.reading.nanoseconds + d.nanoseconds⟩

/-- What stops a caller whose timeout is beyond the clock. -/
def clockMessage : String := "overflow when adding duration to instant"

/-- The result of an exchange: success is the status 200 and nothing else. -/
def Exchange.attempt : Exchange → Attempt
  | .waiting => .waiting
  | .failed cause => .finished (.error (.noResponse cause))
  | .replied response =>
    if response.status = 200 then .finished (.ok ())
    else .finished (.error (.refused response.status (String.ofList response.text)))

/-- What is wrong with a URI or a token before anything is sent. -/
def refusal? (url : List Char) (token : Option (List Char)) : Except TransportError Uri :=
  match Uri.parse url with
  | .error fault => .error (.malformed fault.message)
  | .ok uri =>
    if (token.map bearerValue).any (!isHeaderValue ·) then
      .error (.malformed "failed to parse header value")
    else if uri.scheme.isNone then
      .error (.badUri (String.ofList url ++ " is missing scheme"))
    else .ok uri

/-- Posts a body, once. -/
def deliver (net : Network) (timeouts : Timeouts) (url : List Char) (token : Option (List Char))
    (body : List Char) : Attempt × Network :=
  match refusal? url token with
  | .error cause => (.finished (.error (.noResponse cause)), net)
  | .ok uri =>
    if isBeyondClock net.clock timeouts.total then (.panicked clockMessage, net)
    else if timeouts.total.nanoseconds = 0 then
      (.finished (.error (.noResponse .outOfTime)), net)
    else if isBeyondClock net.clock timeouts.connect then (.panicked clockMessage, net)
    else
      let (result, net) := exchange net uri (post uri token body) maxRedirects
      (result.attempt, net)

end Courier.Http
