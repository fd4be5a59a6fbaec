import Courier.CommandLine.Command
import Std.Internal.UV.DNS
import Std.Internal.UV.System
import Std.Internal.UV.TCP
import Std.Internal.UV.Timer

/-!
# The program

What the command needs of the world: its arguments, the environment, the files that it names, its
input, and the network. The command is run on what is known of the network; for the first request
whose reply is not known the connection is made, and the command is run again with what came of it.

The layer that `main` has around `CommandLine.run`.
-/

namespace Courier

open CommandLine

/-! ## The network -/

/-- What a promise is kept with within a time. -/
def within {α : Type} (limit : Duration) (promise : IO.Promise α) : IO (Option α) := do
  let timer ← Std.Internal.UV.Timer.mk (UInt64.ofNat (min limit.millis (Nat.pow 2 63))) false
  let bell ← timer.next
  let first ← IO.waitAny [promise.result?, bell.result?.map fun _ => none]
  timer.stop
  return first

/-- The sockets' address of a host's address and a port. -/
def socketAddress (address : Std.Net.IPAddr) (port : Nat) : Std.Net.SocketAddress :=
  match address with
  | .v4 addr => .v4 ⟨addr, UInt16.ofNat port⟩
  | .v6 addr => .v6 ⟨addr, UInt16.ofNat port⟩

/-- A connection to an authority, or where the authority leads instead. -/
def connect (limit : Timeouts) (authority : List Char) :
    IO (Except Http.Route Std.Internal.UV.TCP.Socket) := do
  let (host, port) := Http.splitPort authority
  let found ← within limit.connect (← Std.Internal.UV.DNS.getAddrInfo (String.ofList host) "" 0)
  let some (.ok addresses) := found | return .error .unknownHost
  let mut route := Http.Route.unknownHost
  for address in addresses do
    let socket ← Std.Internal.UV.TCP.Socket.new
    match ← within limit.connect (← socket.connect (socketAddress address port)) with
    | some (.ok ()) => return .ok socket
    | some (.error e) =>
      route := if (toString e).contains "refused" then .closedPort else .unreachable
    | none => route := .silentPort
  return .error route

/-- The bytes that come over a connection until they are a whole response or the other side hangs
up; none if the time is up before that. -/
partial def receive (limit : Duration) (socket : Std.Internal.UV.TCP.Socket)
    (bytes : Http.Bytes) : IO (Option Http.Bytes) := do
  if Http.Response.isWhole bytes then return some bytes
  match ← within limit (← socket.recv? 65536) with
  | none => return none
  | some (.ok (some more)) => receive limit socket (bytes ++ more.toList)
  | some _ => return some bytes

/-- Sends a request over a connection of its own: the reply, or where the authority leads. A reply
that does not come in time is held back. -/
def ask (limit : Timeouts) (request : Http.Request) : IO (Except Http.Route Http.Reply) := do
  match ← connect limit (request.header "host") with
  | .error route => return .error route
  | .ok socket =>
    let _ ← within limit.total (← socket.send #[⟨request.bytes.toArray⟩])
    let reply ← receive limit.total socket []
    return .ok ⟨reply.getD [], reply.isNone⟩

/-- Runs the command, and finds out what it has to know. -/
partial def explore (call : Invocation) (net : Http.Network) : IO Outcome := do
  let outcome := run net call
  match outcome.network.requests[net.replies.length]? with
  | none => return outcome
  | some request =>
    match ← ask outcome.patience request with
    | .ok reply => explore call { net with replies := net.replies ++ [reply] }
    | .error found =>
      let authority := request.header "host"
      explore call
        { net with route := fun other => if other = authority then found else net.route other }

/-! ## Files and streams -/

/-- The bytes of the files that can be read, by their names. -/
def readFiles (names : List String) : IO (List (String × List UInt8)) :=
  names.filterMapM fun (name : String) => do
    try
      return some (name, (← IO.FS.readBinFile name).toList)
    catch _ => return none

/-- The environment in the order of the system. -/
def readEnvironment : IO Settings.Environment := do
  return (← Std.Internal.UV.System.osEnviron).toList.map fun (name, value) =>
    (name, Text.Utf8.encode value.toList)

/-- What a call with these arguments gets to see. -/
def readInvocation (arguments : List String) : IO Invocation := do
  let input ←
    if wantsInput arguments then (← IO.getStdin).readBinToEnd else pure ByteArray.empty
  let files ← readFiles (wantedFiles arguments)
  return ⟨arguments, input.toList, fun name => Fields.get? name files, ← readEnvironment,
    .standing⟩

end Courier

open Courier in
/-- Forwards a document as the arguments ask. -/
def main (arguments : List String) : IO UInt32 := do
  let call ← readInvocation arguments
  let clock := Http.Clock.ofReading ⟨← IO.monoNanosNow⟩
  let outcome ← explore call ⟨fun _ => .collector, [], false, [], clock⟩
  for line in outcome.log do
    IO.eprintln line.text
  unless outcome.complaint.isEmpty do
    IO.eprintln outcome.complaint
  IO.print outcome.output
  return UInt32.ofNat outcome.code
