import Courier.CommandLine.Arguments
import Courier.CommandLine.LogFilter
import Courier.Dispatch.Script
import Courier.Json.Reader
import Courier.Payload.OfJson
import Courier.Settings.Basic

/-!
# The command

The command forwards one document and answers as a handler would that is told to. The settings
come first, then the document, then its delivery: at once, or through a queue that is flushed.

The code is 0 if the document was delivered, 1 if not, and 2 if the command never got as far as
a delivery.

`prepare` is `endpoint_config` (`settingsOf`, `Arguments.endpoint`) and then `read_payload`
(`valueIn`), `forward` is `run` with `reply` (`answer`), and `run` is `main`.
-/

namespace Courier.CommandLine

open Courier.Text

/-- What a command is called with, and the order in which it happens to come upon settings. -/
structure Invocation where
  arguments : List String
  input : List UInt8
  files : Settings.Files
  environment : Settings.Environment
  order : Settings.Order

/-- What a command leaves behind. -/
structure Outcome where
  code : Nat
  output : String
  /-- What the command says of itself when it has nothing to answer. -/
  complaint : String
  log : List LogLine
  network : Http.Network
  /-- How long to wait for a connection, and for a reply. -/
  patience : Timeouts

/-! ## Before a delivery -/

/-- Why there is no delivery. -/
inductive Refusal where
  | badSettings (cause : Settings.Error)
  | unreadableInput
  | notJson (cause : Json.Report)
  | noDispatcher (cause : Failure)
  deriving Repr, DecidableEq

/-- The wording of a refusal. -/
def Refusal.message : Refusal → String
  | .badSettings cause => "[forward] " ++ cause.message
  | .unreadableInput =>
    "[forward] failed to read payload from stdin: stream did not contain valid UTF-8"
  | .notJson cause => "[forward] payload is not valid JSON: " ++ String.ofList cause.text
  | .noDispatcher cause => "[forward] " ++ cause.chain "failed to start dispatcher"

/-- The endpoint that settings describe, with what the arguments put in its place. -/
def Arguments.endpoint (a : Arguments) (s : Settings) : Endpoint :=
  let e := s.endpoint
  { e with
    baseUrl := a.baseUrl.getD e.baseUrl
    path := a.path.getD e.path
    authToken := a.token.or e.authToken }

/-- The text of the document: the payload, or what is read if there is none. -/
def Arguments.document (a : Arguments) (input : List UInt8) : Except Refusal (List Char) :=
  match a.payload with
  | some text => .ok text.toList
  | none =>
    match Utf8.decode? input with
    | some text => .ok text
    | none => .error .unreadableInput

/-- The value of a document. -/
def valueOf (text : List Char) : Except Refusal Json :=
  match Json.parse text with
  | .ok value => .ok value
  | .error fault => .error (.notJson (fault.report text))

/-- The settings of a call. -/
def settingsOf (a : Arguments) (call : Invocation) : Ending (Except Settings.Error Settings) :=
  Settings.load call.order call.files a.config call.environment

/-- The value of the document of a call. -/
def valueIn (a : Arguments) (call : Invocation) : Except Refusal Json :=
  (a.document call.input).bind valueOf

/-- Where to forward what. -/
def prepare (a : Arguments) (call : Invocation) : Ending (Except Refusal (Endpoint × Json)) :=
  match settingsOf a call with
  | .panicked message => .panicked message
  | .returned (.error cause) => .returned (.error (.badSettings cause))
  | .returned (.ok settings) => .returned ((valueIn a call).map fun value =>
      (a.endpoint settings, value))

/-! ## Deliveries -/

/-- What came of a delivery. -/
structure Delivery where
  ending : Ending Bool
  log : List LogLine
  network : Http.Network
  /-- How long to wait for a connection, and for a reply. -/
  patience : Timeouts

/-- Delivers a value at once. -/
def deliverNow (net : Http.Network) (e : Endpoint) (value : Json) : Delivery :=
  let call := send net e (.ofJson value)
  ⟨call.ending, call.log.map (.ofEvent "forwarder_core"), call.network, e.timeouts⟩

/-- Delivers a value through a queue: it has to be queued, flushed in time, and accepted. -/
def deliverQueued (net : Http.Network) (e : Endpoint) (value : Json) :
    Except Failure Delivery :=
  match Dispatcher.start e .standard with
  | .error failure => .error failure
  | .ok d =>
    let (isQueued, d) := d.submit (.ofJson value)
    let (isFlushed, d, net) := Dispatch.flush e (d, net)
    let isDelivered := d.stats.delivered = 1
    let last := (Dispatch.Scene.mk e .standard net (some d) [] 0).dropCurrent d
    .ok ⟨.returned (isQueued && isFlushed && isDelivered),
      last.workerLog.map (.ofEvent "forwarder_core::transport::worker") ++
        last.callerLog.map (.ofEvent "forwarder_core::dispatcher"),
      last.network, { e.timeouts with total := last.options.flushTimeout }⟩

/-- What is told before a delivery. -/
def announcement (e : Endpoint) : LogLine :=
  ⟨.debug, "forward", "forwarding result", [("config", String.ofList e.line)]⟩

/-- The code and the body of an answer. -/
def answer (isForwarded : Bool) : Nat × Json :=
  if isForwarded then (0, Json.ofFields [("status", .string "processing")])
  else (1, Json.ofFields [("error", .string "Failed to forward request")])

/-! ## The whole -/

/-- The outcome of a call that a panic stops. -/
def stop (net : Http.Network) (patience : Timeouts) (log : List LogLine) : Outcome :=
  ⟨101, "", "", log, net, patience⟩

/-- The outcome of a delivery. -/
def Delivery.outcome (d : Delivery) (before : List LogLine) : Outcome :=
  match d.ending with
  | .returned isForwarded =>
    let (code, body) := answer isForwarded
    ⟨code, String.ofList body.text ++ "\n", "", before ++ d.log, d.network, d.patience⟩
  | .panicked _ => stop d.network d.patience (before ++ d.log)

/-- The outcome of a call that comes to no delivery. -/
def refuse (net : Http.Network) (complaint : String) (log : List LogLine) : Outcome :=
  ⟨2, "", complaint, log, net, .standard⟩

/-- Forwards a document, all log lines told. -/
def forward (net : Http.Network) (a : Arguments) (call : Invocation) : Outcome :=
  match prepare a call with
  | .panicked _ => stop net .standard []
  | .returned (.error refusal) => refuse net refusal.message []
  | .returned (.ok (e, value)) =>
    let before := [announcement e]
    if a.isQueued then
      match deliverQueued net e value with
      | .error failure => refuse net (Refusal.noDispatcher failure).message before
      | .ok delivery => delivery.outcome before
    else (deliverNow net e value).outcome before

/-- The outcome with those log lines that a filter shows. -/
def Outcome.filtered (o : Outcome) (f : LogFilter) : Outcome :=
  { o with log := o.log.filter f.shows }

/-- The filter that an environment asks for: of variables with one name the first counts. -/
def filterOf (environment : Settings.Environment) : LogFilter :=
  .ofVariable (Fields.get? LogFilter.variable environment)

/-- Does what a call asks for. -/
def run (net : Http.Network) (call : Invocation) : Outcome :=
  match Demand.ofArguments call.arguments with
  | .error e => refuse net e.message []
  | .ok .help => ⟨0, helpText, "", [], net, .standard⟩
  | .ok (.forward a) => (forward net a call).filtered (filterOf call.environment)

/-- Whether a call asks for what is to be read. -/
def wantsInput (arguments : List String) : Bool :=
  match Demand.ofArguments arguments with
  | .ok (.forward a) => a.payload.isNone
  | _ => false

/-- The names of the files that a call asks for. -/
def wantedFiles (arguments : List String) : List String :=
  match Demand.ofArguments arguments with
  | .ok (.forward ⟨some name, _, _, _, _, _⟩) => [name, name ++ Settings.fileExtension]
  | _ => []

end Courier.CommandLine
