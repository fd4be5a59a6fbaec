import Courier.Endpoint.Basic
import Courier.Url.Basic

/-!
# The URL of an endpoint

The base URL and the path are put together as they are, except that two slashes where they meet
become one. The joined text has to be a URL of the web; it is used as it stands and never
normalized. Apart from the two tests for emptiness the result depends on the joined text alone.

`targetUrl` is `target_url` of `EndpointConfig`: what it joins (`join`), then the parser and the
test of the scheme (`checkTarget`).
-/

namespace Courier

/-- Why an endpoint has no URL. -/
inductive TargetError where
  | emptyBase
  | emptyPath
  | invalidUrl (joined : List Char) (cause : Url.ParseError)
  | unsupportedScheme (scheme : String)
  deriving Repr, DecidableEq

/-- The wording of an error. -/
def TargetError.message : TargetError → String
  | .emptyBase => "base URL is empty"
  | .emptyPath => "endpoint path is empty"
  | .invalidUrl joined cause =>
    "invalid target URL `" ++ String.ofList joined ++ "`: " ++ cause.message
  | .unsupportedScheme scheme => "unsupported URL scheme `" ++ scheme ++ "`"

/-- Base and path in one text. -/
def join (base path : List Char) : List Char :=
  match path with
  | '/' :: rest => if base.getLast? = some '/' then base ++ rest else base ++ path
  | _ => base ++ path

/-- The joined text, if it is a URL of the web. -/
def checkTarget (joined : List Char) : Except TargetError (List Char) :=
  match Url.parse joined with
  | .error cause => .error (.invalidUrl joined cause)
  | .ok url =>
    if url.scheme = "http" ∨ url.scheme = "https" then .ok joined
    else .error (.unsupportedScheme url.scheme)

/-- The URL of a base and a path. -/
def targetUrl (base path : List Char) : Except TargetError (List Char) :=
  if base = [] then .error .emptyBase
  else if path = [] then .error .emptyPath
  else checkTarget (join base path)

/-- The URL that results are posted to. -/
def Endpoint.targetUrl (e : Endpoint) : Except TargetError (List Char) :=
  Courier.targetUrl e.baseUrl.toList e.path.toList

end Courier
