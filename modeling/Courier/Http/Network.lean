import Courier.Duration
import Courier.Http.Message
import Courier.Http.Response

/-!
# The network

What lies behind an authority: the collector, a port where nobody listens or nobody answers, a
name that nobody has, or nothing that can be reached. The collector follows a script: the first
request gets the first reply and so on, the last reply answers all later requests, and without a
script every request succeeds. A reply may be held back until a gate is opened. The collector keeps
the requests in order of arrival. Whoever uses the network has a clock.
-/

namespace Courier.Http

/-- Where an authority leads. -/
inductive Route where
  | collector
  | closedPort
  | silentPort
  | unknownHost
  | unreachable
  deriving Repr, DecidableEq

/-- What the collector does with a request: the bytes it answers, and whether it waits for the
gate first. No bytes mean that it hangs up. -/
structure Reply where
  bytes : Bytes
  held : Bool
  deriving Repr, DecidableEq

/-- A clock that has run for a while, but for less than 2^62 seconds, as all clocks have. -/
structure Clock where
  reading : Duration
  early : reading.seconds < Nat.pow 2 62

/-- A clock that begins to run. -/
def Clock.start : Clock := ⟨⟨0⟩, by decide⟩

/-- A clock that reads so much; one that cannot be is set back. -/
def Clock.ofReading (reading : Duration) : Clock :=
  if early : reading.seconds < Nat.pow 2 62 then ⟨reading, early⟩ else .start

/-- The network around one collector, and the clock of those who use it. -/
structure Network where
  route : List Char → Route
  replies : List Reply
  gateOpen : Bool
  requests : List Request
  clock : Clock

namespace Network

/-- A network in which nothing can be reached. -/
def unreachable : Network :=
  ⟨fun _ => .unreachable, [], false, [], .start⟩

/-- The reply that means success and nothing more. -/
def success : Reply :=
  ⟨ascii "HTTP/1.1 200 OK\r\nContent-Length: 0\r\n\r\n", false⟩

/-- The reply to the next request. -/
def nextReply (net : Network) : Reply :=
  match net.replies[net.requests.length]? with
  | some reply => reply
  | none => net.replies.getLast?.getD success

/-- The network once the collector has a request. -/
def receive (net : Network) (request : Request) : Network :=
  { net with requests := net.requests ++ [request] }

/-- The network once the gate is open. -/
def release (net : Network) : Network :=
  { net with gateOpen := true }

end Network

end Courier.Http
