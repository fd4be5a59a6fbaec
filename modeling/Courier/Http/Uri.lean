import Courier.Text.Numeral
import Courier.Text.Utf8

/-!
# Request URIs

What the client takes for a URI is stricter in some respects than what a URL may be: neither the
authority nor the path may hold blanks, and nothing is trimmed or repaired. A fragment is left out.
-/

namespace Courier.Http

open Courier.Text

/-- Why a text is no URI. -/
inductive UriFault where
  | empty
  | tooLong
  | schemeTooLong
  | invalidChar
  | invalidAuthority
  | invalidFormat
  deriving Repr, DecidableEq

/-- The wording of a fault. -/
def UriFault.message : UriFault → String
  | .empty => "empty string"
  | .tooLong => "uri too long"
  | .schemeTooLong => "scheme too long"
  | .invalidChar => "invalid uri character"
  | .invalidAuthority => "invalid authority"
  | .invalidFormat => "invalid format"

/-- A URI: its scheme, if it has one, the authority, and the path with the query. -/
structure Uri where
  scheme : Option (List Char)
  authority : List Char
  target : List Char
  deriving Repr, DecidableEq

namespace Uri

/-- A letter or digit of ASCII. -/
def isAlphanumeric (c : Char) : Bool :=
  isDigit c || ('a' ≤ c && c ≤ 'z') || ('A' ≤ c && c ≤ 'Z')

/-- A character of a scheme. -/
def isSchemeChar (c : Char) : Bool :=
  isAlphanumeric c || c = '+' || c = '-' || c = '.' || c = '~'

/-- A character of an authority that stands for itself. -/
def isAuthorityChar (c : Char) : Bool :=
  isAlphanumeric c ||
    ['!', '$', '&', '\'', '(', ')', '*', '+', ',', '-', '.', ';', '=', '_', '~'].contains c

/-- A character of a path. -/
def isPathChar (c : Char) : Bool :=
  '!' ≤ c && !(['#', '<', '>', '?', '\x60'].contains c)

/-- A character of a query. -/
def isQueryChar (c : Char) : Bool :=
  '!' ≤ c && !(['"', '#', '<', '>'].contains c)

/-- The scheme before `://`, and the text behind that. The schemes of the web may be written in
any case. -/
def splitScheme (text : List Char) : Except UriFault (Option (List Char) × List Char) :=
  let name := text.takeWhile isSchemeChar
  match text.dropWhile isSchemeChar with
  | ':' :: '/' :: '/' :: rest =>
    let lowered := name.map Char.toLower
    if lowered = "http".toList ∨ lowered = "https".toList then .ok (some lowered, rest)
    else if 64 < name.length then .error .schemeTooLong
    else .ok (some name, rest)
  | _ => .ok (none, text)

/-- What was seen of an authority: colons that could begin a port, brackets, a percent sign, and
whether an `@` came last. -/
structure Seen where
  colons : Nat
  opened : Bool
  closed : Bool
  percent : Bool
  endsInAt : Bool
  deriving Repr

/-- What one more character does to what was seen. -/
def Seen.next (seen : Seen) (c : Char) : Except UriFault Seen :=
  let seen := { seen with endsInAt := c = '@' }
  if c = ':' then
    if 8 ≤ seen.colons then .error .invalidAuthority
    else .ok { seen with colons := seen.colons + 1 }
  else if c = '[' then
    if seen.percent ∨ seen.opened then .error .invalidAuthority
    else .ok { seen with opened := true }
  else if c = ']' then
    if seen.opened = false ∨ seen.closed then .error .invalidAuthority
    else .ok { seen with closed := true, colons := 0, percent := false }
  else if c = '@' then .ok { seen with colons := 0, percent := false }
  else if c = '%' then .ok { seen with percent := true }
  else if isAuthorityChar c then .ok seen
  else .error .invalidChar

/-- Whether what was seen makes an authority. -/
def Seen.isWhole (seen : Seen) : Bool :=
  seen.opened = seen.closed && seen.colons ≤ 1 && !seen.endsInAt && !seen.percent

/-- The end of the authority. -/
def endsAuthority (c : Char) : Bool :=
  c = '/' || c = '?' || c = '#'

/-- The authority at the front of a text, and the text behind it. -/
def splitAuthority (text : List Char) : Except UriFault (List Char × List Char) :=
  let authority := text.takeWhile (!endsAuthority ·)
  match authority.foldlM Seen.next ⟨0, false, false, false, false⟩ with
  | .error fault => .error fault
  | .ok seen =>
    if seen.isWhole then .ok (authority, text.dropWhile (!endsAuthority ·))
    else .error .invalidAuthority

/-- The query behind its mark, up to a fragment. -/
def readQuery (text : List Char) : Except UriFault (List Char) :=
  let query := text.takeWhile (· ≠ '#')
  if query.all isQueryChar then .ok query else .error .invalidChar

/-- Path and query, up to a fragment. -/
def readTarget : List Char → Except UriFault (List Char)
  | [] => .ok []
  | c :: rest =>
    if c = '#' then .ok []
    else if c = '?' then (readQuery rest).map ('?' :: ·)
    else if isPathChar c then (readTarget rest).map (c :: ·)
    else .error .invalidChar

/-- The path and query as they are asked for: a path there always is. -/
def absolute (target : List Char) : List Char :=
  match target with
  | '/' :: _ => target
  | _ => '/' :: target

/-- Reads a URI that is no path. -/
def parse (text : List Char) : Except UriFault Uri :=
  if 65534 < Utf8.size text then .error .tooLong
  else if text = [] then .error .empty
  else do
    let (scheme, rest) ← splitScheme text
    let (authority, rest) ← splitAuthority rest
    match scheme with
    | none => if rest = [] then .ok ⟨none, authority, []⟩ else .error .invalidFormat
    | some scheme =>
      if authority = [] then .error .invalidFormat
      else return ⟨some scheme, authority, absolute (← readTarget rest)⟩

/-- The text before the last `@` of the authority, if there is one. -/
def userInfo? (uri : Uri) : Option (List Char) :=
  match uri.authority.reverse.dropWhile (· ≠ '@') with
  | _ :: rest => some rest.reverse
  | [] => none

/-- The host in the authority, with its brackets if it has any. -/
def hostName (uri : Uri) : List Char :=
  match (uri.authority.reverse.takeWhile (· ≠ '@')).reverse with
  | '[' :: address => '[' :: address.takeWhile (· ≠ ']') ++ [']']
  | name => name.takeWhile (· ≠ ':')

/-- The greatest port. -/
def maxPort : Nat := Nat.pow 2 16 - 1

/-- The port behind the last colon of the authority, as it is written: a number of 16 bits. -/
def port? (uri : Uri) : Option (List Char) :=
  let digits := (uri.authority.reverse.takeWhile (· ≠ ':')).reverse
  if ':' ∈ uri.authority ∧ (boundedNumeral? maxPort digits).isSome then some digits else none

/-- The port that a scheme uses where none is named. -/
def defaultPort? (scheme : Option (List Char)) : Option Nat :=
  match scheme with
  | none => some 80
  | some scheme =>
    if scheme = "http".toList then some 80
    else if scheme = "https".toList then some 443
    else none

/-- What a request names as its host: a port that the scheme uses anyway is left out. -/
def host (uri : Uri) : List Char :=
  match uri.port?, defaultPort? uri.scheme with
  | some digits, some usual =>
    if boundedNumeral? maxPort digits = some usual then uri.hostName
    else uri.hostName ++ ':' :: digits
  | _, _ => uri.hostName

end Uri

/-- The port that is used where none is named. -/
def defaultPort : Nat := 80

/-- The host of an authority without brackets, and the port. -/
def splitPort (authority : List Char) : List Char × Nat :=
  let digits := (authority.reverse.takeWhile isDigit).reverse
  let (host, port) := match authority.reverse.drop digits.length with
    | ':' :: host => (host.reverse, if digits = [] then defaultPort else decimalValue digits)
    | _ => (authority, defaultPort)
  (host.filter fun c => c ≠ '[' ∧ c ≠ ']', port)

end Courier.Http
