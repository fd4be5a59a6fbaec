import Courier.Duration
import Courier.Text.Quoted
import Courier.Text.Shown

/-!
# Endpoints

An endpoint is where results go: a base URL and a path, a token if one is wanted, and how long to
wait. When an endpoint is shown its token is not; only that there is one.

`EndpointConfig` and `Timeouts`: `new`, `with_auth_token` (`withToken`), `with_timeouts`, `bearer`,
their defaults, and the two forms in which an endpoint is shown.
-/

namespace Courier

open Courier.Text

/-- How long to wait for a connection, and for a whole exchange. -/
structure Timeouts where
  connect : Duration
  total : Duration
  deriving Repr, DecidableEq

/-- Ten seconds to connect, thirty for all. -/
def Timeouts.standard : Timeouts := ⟨.ofSeconds 10, .ofSeconds 30⟩

/-- Where results go. -/
structure Endpoint where
  baseUrl : String
  path : String
  authToken : Option String
  timeouts : Timeouts
  deriving Repr, DecidableEq

namespace Endpoint

/-- The endpoint of a base URL and a path, without a token and with the standard timeouts. -/
def of (baseUrl path : String) : Endpoint :=
  ⟨baseUrl, path, none, .standard⟩

/-- The endpoint used unless another is asked for. -/
def standard : Endpoint :=
  .of "http://localhost:3000" "/api/chat/results"

/-- The same endpoint with a token. -/
def withToken (e : Endpoint) (token : String) : Endpoint :=
  { e with authToken := some token }

/-- The same endpoint with other timeouts. -/
def withTimeouts (e : Endpoint) (timeouts : Timeouts) : Endpoint :=
  { e with timeouts }

/-- The token that requests carry: an empty one is as good as none. -/
def bearer (e : Endpoint) : Option String :=
  e.authToken.filter (· ≠ "")

/-- An endpoint for a reader, the token left out. -/
def shown (e : Endpoint) : Shown :=
  let text := fun s : String => Shown.leaf (Quoted.quote s.toList)
  .record "EndpointConfig" [
    ("base_url", text e.baseUrl),
    ("path", text e.path),
    ("auth_token", match e.bearer with
      | some _ => .present (text "<redacted>")
      | none => .absent),
    ("timeouts", .record "Timeouts" [
      ("connect", .leaf e.timeouts.connect.text),
      ("global", .leaf e.timeouts.total.text)])]

/-- The endpoint on one line. -/
def line (e : Endpoint) : List Char :=
  e.shown.inline

/-- The endpoint as a block. -/
def block (e : Endpoint) : List Char :=
  e.shown.block 0

end Endpoint

end Courier
