import Courier.Text.Split

/-!
# Arguments

What the arguments of a command ask for. Options take a value, in the same argument behind an
equals sign or in the next one; the flag takes none; whatever else is given is the payload, and
behind a double dash nothing is an option.

An option is settled when something known follows it or the arguments are over. Until then its
value may still come, and what is wrong with it is not yet an error: of an unsettled option and an
unknown argument behind it only the latter is told.

`Arguments` is `Args`, and `Demand.ofArguments` what parses it.
-/

namespace Courier.CommandLine

open Courier.Text

/-- An option that takes a value. -/
inductive Parameter where
  | config
  | baseUrl
  | path
  | token
  deriving Repr, DecidableEq

namespace Parameter

/-- The name of an option. -/
def name : Parameter → String
  | .config => "--config"
  | .baseUrl => "--base-url"
  | .path => "--path"
  | .token => "--token"

/-- An option with what stands for its value. -/
def usage : Parameter → String
  | .config => "--config <CONFIG>"
  | .baseUrl => "--base-url <BASE_URL>"
  | .path => "--path <PATH>"
  | .token => "--token <TOKEN>"

/-- All options. -/
def all : List Parameter := [.config, .baseUrl, .path, .token]

end Parameter

/-- The name of the flag that asks for a queue. -/
def queuedName : String := "--queued"

/-- The name of the flag that asks for help. -/
def helpName : String := "--help"

/-- What a command is asked to do. -/
structure Arguments where
  config : Option String
  baseUrl : Option String
  path : Option String
  token : Option String
  isQueued : Bool
  payload : Option String
  deriving Repr, DecidableEq

namespace Arguments

/-- Nothing is asked for. -/
def empty : Arguments := ⟨none, none, none, none, false, none⟩

/-- The value of an option, if it was given. -/
def get? (a : Arguments) : Parameter → Option String
  | .config => a.config
  | .baseUrl => a.baseUrl
  | .path => a.path
  | .token => a.token

/-- The arguments with a value for an option. -/
def put (a : Arguments) (value : String) : Parameter → Arguments
  | .config => { a with config := value }
  | .baseUrl => { a with baseUrl := value }
  | .path => { a with path := value }
  | .token => { a with token := value }

end Arguments

/-- What is wrong with arguments. -/
inductive ArgumentError where
  | unknown (argument : String)
  | missingValue (parameter : Parameter)
  | surplusValue (value flag : String)
  | repeated (usage : String)
  deriving Repr, DecidableEq

/-- The wording of an error. -/
def ArgumentError.message : ArgumentError → String
  | .unknown argument => "error: unexpected argument '" ++ argument ++ "' found"
  | .missingValue parameter =>
    "error: a value is required for '" ++ parameter.usage ++ "' but none was supplied"
  | .surplusValue value flag =>
    "error: unexpected value '" ++ value ++ "' for '" ++ flag ++
      "' found; no more were expected"
  | .repeated usage => "error: the argument '" ++ usage ++ "' cannot be used multiple times"

/-! ## Words -/

/-- What an argument looks like. -/
inductive Word where
  /-- The double dash. -/
  | separator
  /-- A name behind a double dash, and what stands behind an equals sign. -/
  | long (name : String) (value : Option String)
  /-- The first of the letters behind a single dash. -/
  | short (letter : Char)
  /-- Anything else. -/
  | plain (text : String)
  deriving Repr, DecidableEq

/-- What an argument looks like: a single dash alone is nothing special. -/
def Word.of (argument : String) : Word :=
  match argument.toList with
  | ['-', '-'] => .separator
  | '-' :: '-' :: rest =>
    let (name, value) := cut '=' rest
    .long ("--" ++ String.ofList name)
      (if rest.contains '=' then some (String.ofList value) else none)
  | '-' :: letter :: _ => .short letter
  | _ => .plain argument

/-! ## Reading -/

/-- Arguments that are being read. -/
structure Draft where
  settled : Arguments
  /-- The option given last, with its value if that has come. -/
  pending : Option (Parameter × Option String)
  /-- Whether the double dash was passed. -/
  isBare : Bool
  deriving Repr, DecidableEq

/-- What is asked of the command. -/
inductive Demand where
  | help
  | forward (arguments : Arguments)
  deriving Repr, DecidableEq

namespace Draft

/-- Gives an option its value: once, and a file has to have a name. -/
def assign (d : Draft) (p : Parameter) (value : String) : Except ArgumentError Draft :=
  if (d.settled.get? p).isSome then .error (.repeated p.usage)
  else if p = .config ∧ value = "" then .error (.missingValue p)
  else .ok { d with settled := d.settled.put value p }

/-- Settles the option given last. -/
def settle (d : Draft) : Except ArgumentError Draft :=
  match d.pending with
  | none => .ok d
  | some (p, none) => .error (.missingValue p)
  | some (p, some value) => { d with pending := none }.assign p value

/-- Takes an option. -/
def takeParameter (d : Draft) (p : Parameter) (value : Option String) :
    Except ArgumentError Draft :=
  d.settle.bind fun d =>
    match value with
    | some value => d.assign p value
    | none => .ok { d with pending := some (p, none) }

/-- Takes the flag that asks for a queue. -/
def takeQueued (d : Draft) : Except ArgumentError Draft :=
  d.settle.bind fun d =>
    if d.settled.isQueued then .error (.repeated queuedName)
    else .ok { d with settled := { d.settled with isQueued := true } }

/-- Takes the payload. -/
def takePayload (d : Draft) (text : String) : Except ArgumentError Draft :=
  if d.settled.payload.isSome then .error (.unknown text)
  else d.settle.map fun d => { d with settled := { d.settled with payload := text } }

/-- Takes an argument that is neither an option nor a flag: the value that is waited for, or the
payload. -/
def takePlain (d : Draft) (text : String) : Except ArgumentError Draft :=
  match d.pending with
  | some (p, none) => .ok { d with pending := some (p, some text) }
  | _ => d.takePayload text

/-- Takes a name behind a double dash: `none` is a call for help. -/
def takeLong (d : Draft) (name : String) (value : Option String) :
    Except ArgumentError (Option Draft) :=
  match Parameter.all.find? (·.name = name) with
  | some p => (d.takeParameter p value).map some
  | none =>
    if name = queuedName ∨ name = helpName then
      match value with
      | some value => .error (.surplusValue value name)
      | none =>
        if name = helpName then d.settle.map fun _ => none else d.takeQueued.map some
    else .error (.unknown name)

/-- Takes an argument: `none` is a call for help. -/
def take (d : Draft) (argument : String) : Except ArgumentError (Option Draft) :=
  if d.isBare then (d.takePayload argument).map some
  else
    match Word.of argument with
    | .separator => .ok (some { d with isBare := true })
    | .long name value => d.takeLong name value
    | .short 'h' => d.settle.map fun _ => none
    | .short letter => .error (.unknown (String.ofList ['-', letter]))
    | .plain text => (d.takePlain text).map some

/-- Takes arguments until one calls for help. -/
def takeAll (d : Draft) : List String → Except ArgumentError Demand
  | [] => d.settle.map fun d => .forward d.settled
  | argument :: rest =>
    match d.take argument with
    | .error e => .error e
    | .ok none => .ok .help
    | .ok (some d) => takeAll d rest

end Draft

/-- What arguments ask for. -/
def Demand.ofArguments (arguments : List String) : Except ArgumentError Demand :=
  Draft.takeAll ⟨.empty, none, false⟩ arguments

/-- The text that helps. -/
def helpText : String :=
  "Forward a JSON result to a collector endpoint\n\n" ++
  "Usage: forward [OPTIONS] [PAYLOAD]\n\n" ++
  "Arguments:\n" ++
  "  [PAYLOAD]  JSON payload. Read from stdin when omitted\n\n" ++
  "Options:\n" ++
  "      --config <CONFIG>      TOML settings file (base_url, path, auth_token, " ++
    "connect_timeout_ms, timeout_ms)\n" ++
  "      --base-url <BASE_URL>  Overrides the configured base URL\n" ++
  "      --path <PATH>          Overrides the configured endpoint path\n" ++
  "      --token <TOKEN>        Bearer token; an empty string disables the " ++
    "Authorization header\n" ++
  "      --queued               Deliver through a background dispatcher instead of a " ++
    "blocking send\n" ++
  "  -h, --help                 Print help\n"

end Courier.CommandLine
