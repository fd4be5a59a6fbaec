import Courier.Endpoint.Basic
import Courier.Ending
import Courier.Settings.Coercion
import Courier.Settings.KeyPath
import Courier.Settings.Numbers
import Courier.Text.Utf8
import Courier.Toml.Reader

/-!
# Settings

Settings come from three layers, each over the one before: defaults, a TOML file if one is named,
and variables of the environment whose names begin with a prefix in any case. Every top-level key
of a layer names a place in one tree, and what stands there at the end has to be of the type that
the setting asks for.

`load` is `load_settings`: `gather` and `ofTree` are what it builds and what it makes of that, with
the context of each in `Error.message`. `Settings.endpoint` is the conversion by which `load`
returns an endpoint. The sources keep their keys without an order of their own, so a run is given
one (`Order`).
-/

namespace Courier

open Courier.Text

/-- The settings of an endpoint; timeouts are in thousandths of a second. -/
structure Settings where
  baseUrl : String
  path : String
  authToken : Option String
  connectTimeoutMs : Nat
  timeoutMs : Nat
  deriving Repr, DecidableEq

namespace Settings

/-- The endpoint that settings describe. -/
def endpoint (s : Settings) : Endpoint :=
  ⟨s.baseUrl, s.path, s.authToken, ⟨.ofMillis s.connectTimeoutMs, .ofMillis s.timeoutMs⟩⟩

/-- Settings for a reader, the token included. -/
def shown (s : Settings) : Shown :=
  let text := fun t : String => Shown.leaf (Quoted.quote t.toList)
  .record "Settings" [
    ("base_url", text s.baseUrl),
    ("path", text s.path),
    ("auth_token", match s.authToken with
      | some token => .present (text token)
      | none => .absent),
    ("connect_timeout_ms", .leaf (Decimal.naturalText s.connectTimeoutMs)),
    ("timeout_ms", .leaf (Decimal.naturalText s.timeoutMs))]

/-- The settings on one line. -/
def line (s : Settings) : List Char :=
  s.shown.inline

/-- Why settings cannot be had. -/
inductive Error where
  | fileNotFound (file : String)
  | notToml
  | badNumeral (fault : NumeralFault) (file : String)
  | notText (key : String) (value : List UInt8)
  | mismatch (key : String) (cause : Mismatch)
  deriving Repr, DecidableEq

/-- Whether the settings could not even be read. -/
def Error.isRead : Error → Bool
  | .mismatch .. => false
  | _ => true

/-- The wording of what is wrong. What is wrong with a document that is not TOML is not told. -/
def Error.cause : Error → String
  | .fileNotFound file => "configuration file \"" ++ file ++ "\" not found"
  | .notToml => "<TOML parse error>"
  | .badNumeral fault file => fault.message ++ " in " ++ file
  | .notText key value =>
    "env variable " ++ String.ofList (Quoted.quote key.toList) ++
      " contains non-Unicode data: " ++ String.ofList (Quoted.quoteBytes value)
  | .mismatch key cause => cause.message key

/-- The wording of an error. -/
def Error.message (e : Error) : String :=
  (if e.isRead then "failed to read forwarder settings: "
    else "failed to parse forwarder settings: ") ++ e.cause

/-! ## Layers -/

/-- The files there are: the bytes of the one with a name. -/
abbrev Files := String → Option (List UInt8)

/-- The variables of the environment, in order. -/
abbrev Environment := List (String × List UInt8)

/-- A layer: values under top-level keys, in the order in which they are put. -/
abbrev Layer := List (String × Tree)

/-- Puts a layer over a tree, unless an array has no room for what a key leads to. -/
def addLayer (tree : Tree) (layer : Layer) : Option Tree :=
  layer.foldlM (fun tree (key, value) => tree.update (Tree.put value) (KeyPath.steps key)) tree

/-- What stops a caller who asks for an array without room for it. -/
def roomMessage : String := "capacity overflow"

/-- Puts a layer over a tree for a caller. -/
def overlay (tree : Tree) (layer : Layer) : Ending (Except Error Tree) :=
  match addLayer tree layer with
  | some tree => .returned (.ok tree)
  | none => .panicked roomMessage

/-- What is used unless another value is set. -/
def defaults : Layer := [
  ("base_url", .scalar none (.text Endpoint.standard.baseUrl)),
  ("path", .scalar none (.text Endpoint.standard.path)),
  ("connect_timeout_ms", .scalar none (.integer Timeouts.standard.connect.millis)),
  ("timeout_ms", .scalar none (.integer Timeouts.standard.total.millis))]

/-- What may be left out at the end of a file's name. -/
def fileExtension : String := ".toml"

/-- The name of the file that is meant: the very name, or the name with its extension. -/
def locate? (files : Files) (name : String) : Option (String × List UInt8) :=
  match files name with
  | some bytes => some (name, bytes)
  | none => (files (name ++ fileExtension)).map fun bytes => (name ++ fileExtension, bytes)

/-- The text of a file: a mark of the byte order is passed over, and ill-formed bytes replaced. -/
def fileText (bytes : List UInt8) : List Char :=
  match bytes with
  | 0xEF :: 0xBB :: 0xBF :: rest => Utf8.decodeLossy rest
  | bytes => Utf8.decodeLossy bytes

/-- The layer of a file. -/
def fileLayer (files : Files) (name : String) : Except Error Layer :=
  match locate? files name with
  | none => .error (.fileNotFound name)
  | some (found, bytes) =>
    match Toml.parse? (fileText bytes) with
    | none => .error .notToml
    | some fields =>
      match fieldsOfToml found fields with
      | .ok layer => .ok layer
      | .error fault => .error (.badNumeral fault found)

/-- The prefix of the variables that are settings. -/
def variablePrefix : String := "RESULT_FORWARDER"

/-- The key that a variable sets: what stands behind the prefix and an underscore, in lower case. -/
def keyOf? (name : String) : Option String :=
  let start := (lowercase variablePrefix).toList ++ ['_']
  let lowered := (lowercase name).toList
  if start.isPrefixOf lowered then some (String.ofList (lowered.drop start.length)) else none

/-- The layer of the environment, in the order of the variables. -/
def environmentLayer : Environment → Except Error Layer
  | [] => .ok []
  | (name, bytes) :: rest =>
    match keyOf? name with
    | none => environmentLayer rest
    | some key =>
      match Utf8.decode? bytes with
      | none => .error (.notText key bytes)
      | some text =>
        (environmentLayer rest).map
          ((key, .scalar (some "the environment") (.text (String.ofList text))) :: ·)

/-! ## Loading -/

/-- What settings are read from. -/
inductive Key where
  | baseUrl
  | path
  | authToken
  | connectTimeoutMs
  | timeoutMs
  deriving Repr, DecidableEq

/-- The word for it. -/
def Key.text : Key → String
  | .baseUrl => "base_url"
  | .path => "path"
  | .authToken => "auth_token"
  | .connectTimeoutMs => "connect_timeout_ms"
  | .timeoutMs => "timeout_ms"

/-- All keys. -/
def Key.all : List Key := [.baseUrl, .path, .authToken, .connectTimeoutMs, .timeoutMs]

/-- An order in which the keys of a layer are gone through, and settings asked for. What holds them
keeps none, so that each run has its own. -/
structure Order where
  file : Layer → Layer
  environment : Layer → Layer
  keys : List Key
  perm_file : ∀ layer, (file layer).Perm layer
  perm_environment : ∀ layer, (environment layer).Perm layer
  perm_keys : keys.Perm Key.all

/-- All keys in the order in which they stand. -/
def Order.standing : Order :=
  ⟨id, id, Key.all, fun _ => .refl _, fun _ => .refl _, .refl _⟩

/-- The tree of the defaults and the file, if one is named. -/
def gatherFile (order : Order) (files : Files) (file : Option String) :
    Ending (Except Error Tree) :=
  (overlay (.table []) defaults).andThen fun tree =>
    match file with
    | none => .returned (.ok tree)
    | some name =>
      (Ending.returned (fileLayer files name)).andThen fun layer => overlay tree (order.file layer)

/-- The tree of all layers. Of variables with one key the last counts. -/
def gather (order : Order) (files : Files) (file : Option String) (environment : Environment) :
    Ending (Except Error Tree) :=
  (gatherFile order files file).andThen fun tree =>
    (Ending.returned (environmentLayer environment)).andThen fun layer =>
      overlay tree (order.environment (Fields.ofList layer))

/-- What stands under a key, as a type asks for it. -/
def demand {α : Type} (tree : Tree) (key : String) (coerce : Tree → Except Mismatch α) :
    Except Error α :=
  match coerce ((tree.fields.get? key).getD .unset) with
  | .ok value => .ok value
  | .error cause => .error (.mismatch key cause)

/-- Settings with what a tree has under a key. -/
def take (tree : Tree) (s : Settings) (key : Key) : Except Error Settings :=
  match key with
  | .baseUrl => (demand tree key.text Tree.text).map fun text => { s with baseUrl := text }
  | .path => (demand tree key.text Tree.text).map fun text => { s with path := text }
  | .authToken => (demand tree key.text Tree.text?).map fun text => { s with authToken := text }
  | .connectTimeoutMs =>
    (demand tree key.text Tree.word).map fun n => { s with connectTimeoutMs := n }
  | .timeoutMs => (demand tree key.text Tree.word).map fun n => { s with timeoutMs := n }

/-- Settings before anything is asked for. -/
def blank : Settings := ⟨"", "", none, 0, 0⟩

/-- The settings of a tree, asked for one after the other: the first that does not fit is told. -/
def ofTree (keys : List Key) (tree : Tree) : Except Error Settings :=
  keys.foldlM (take tree) blank

/-- The settings of a file, if one is named, and the environment. -/
def load (order : Order) (files : Files) (file : Option String) (environment : Environment) :
    Ending (Except Error Settings) :=
  (gather order files file environment).andThen fun tree => .returned (ofTree order.keys tree)

end Settings

end Courier
