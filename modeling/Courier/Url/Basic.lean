import Courier.Url.Host

/-!
# URLs

A URL is read from a text after controls and blanks around it and tabs and line ends within it are
set aside. What is read is the scheme, the user information, the host and the port; the path and
what follows it are kept as the text they are, since every text is a path.

For the schemes of the web any number of slashes and backslashes may stand before the authority,
a backslash ends it like a slash, and the host must not be empty.
-/

namespace Courier

/-- An absolute URL. -/
structure Url where
  scheme : String
  /-- The text before the last `@` of the authority. -/
  userInfo : List Char
  host : Option Url.Host
  /-- The port, if it is written and is not the one that the scheme implies. -/
  port : Option Nat
  /-- The path, query and fragment as they are written. -/
  rest : List Char
  deriving Repr, DecidableEq

namespace Url

open Courier.Text

/-- How the authority of a URL is read. -/
inductive SchemeKind where
  | file
  | web
  | other
  deriving Repr, DecidableEq

/-- The kind of a scheme in lower case. -/
def SchemeKind.of (scheme : List Char) : SchemeKind :=
  match String.ofList scheme with
  | "file" => .file
  | "http" | "https" | "ws" | "wss" | "ftp" => .web
  | _ => .other

/-- The port that a scheme implies. -/
def defaultPort? (scheme : List Char) : Option Nat :=
  match String.ofList scheme with
  | "http" | "ws" => some 80
  | "https" | "wss" => some 443
  | "ftp" => some 21
  | _ => none

/-- Controls and the blank, which may surround a URL. -/
def isPadding (c : Char) : Bool :=
  c ≤ ' '

/-- Tabs and line ends, which count for nothing within a URL. -/
def isSkipped (c : Char) : Bool :=
  c = '\t' || c = '\n' || c = '\r'

/-- The text without padding around it and skipped characters within it. -/
def clean (text : List Char) : List Char :=
  (((text.dropWhile isPadding).reverse.dropWhile isPadding).reverse).filter (!isSkipped ·)

/-- A letter of ASCII. -/
def isLetter (c : Char) : Bool :=
  ('a' ≤ c && c ≤ 'z') || ('A' ≤ c && c ≤ 'Z')

/-- A character of a scheme. -/
def isSchemeChar (c : Char) : Bool :=
  isLetter c || isDigit c || c = '+' || c = '-' || c = '.'

/-- The scheme in lower case, and what follows its colon. -/
def scheme? (text : List Char) : Option (List Char × List Char) :=
  let name := text.takeWhile isSchemeChar
  match name, text.dropWhile isSchemeChar with
  | first :: _, ':' :: rest => if isLetter first then some (name.map Char.toLower, rest) else none
  | _, _ => none

/-- Whether a character ends the authority. -/
def endsAuthority (kind : SchemeKind) (c : Char) : Bool :=
  c = '/' || c = '?' || c = '#' || (c = '\\' && kind ≠ .other)

/-- The text before the last `@` and the text after it; all text is after it if there is none. -/
def splitUserInfo (authority : List Char) : Option (List Char) × List Char :=
  let host := (authority.reverse.takeWhile (· ≠ '@')).reverse
  if host.length = authority.length then (none, authority)
  else (some (authority.take (authority.length - host.length - 1)), host)

/-- The host text at the front: up to a colon that stands outside brackets. -/
def splitHost : Bool → List Char → List Char × List Char
  | _, [] => ([], [])
  | inBrackets, c :: rest =>
    if c = ':' ∧ inBrackets = false then ([], c :: rest)
    else
      let next := if c = '[' then true else if c = ']' then false else inBrackets
      let (host, left) := splitHost next rest
      (c :: host, left)

/-- The port after the colon, up to the end of the authority: digits alone. -/
def readPort (scheme text : List Char) : Except ParseError (Option Nat) :=
  let digits := text.takeWhile (· ≠ '\\')
  if digits.all isDigit then
    if 65535 < decimalValue digits then .error .invalidPort
    else if digits.isEmpty ∨ some (decimalValue digits) = defaultPort? scheme then .ok none
    else .ok (some (decimalValue digits))
  else .error .invalidPort

/-- Whether user information asks for a host: a lone colon is as good as none. -/
def namesUser (userInfo : List Char) : Bool :=
  userInfo ≠ [] && userInfo ≠ [':']

/-- Reads the authority of a URL and what follows it. -/
def readAuthority (scheme : List Char) (kind : SchemeKind) (text : List Char) :
    Except ParseError Url :=
  let authority := text.takeWhile (!endsAuthority kind ·)
  let rest := text.dropWhile (!endsAuthority kind ·)
  let (user?, hostAndPort) := splitUserInfo authority
  let userInfo := user?.getD []
  if user? = some [] ∧ hostAndPort = [] ∧ rest ≠ [] then .error .emptyHost
  else
    let (hostText, portText) := splitHost false hostAndPort
    if hostText = [] ∧ kind = .web then .error .emptyHost
    else do
      let host ← if kind = .other then Host.parseNamed hostText else Host.parse hostText
      match portText with
      | [] =>
        if hostText = [] ∧ namesUser userInfo then .error .emptyHost
        else .ok ⟨String.ofList scheme, userInfo, if hostText = [] then none else some host, none,
          rest⟩
      | _ :: digits =>
        if hostText = [] then .error .emptyHost
        else
          let port ← readPort scheme digits
          .ok ⟨String.ofList scheme, userInfo, some host, port, rest⟩

/-- A letter and a colon or bar, which name a drive and no host. -/
def isDriveLetter : List Char → Bool
  | [letter, mark] => isLetter letter && (mark = ':' || mark = '|')
  | _ => false

/-- Reads what follows the scheme of a file URL. -/
def readFile (scheme text : List Char) : Except ParseError Url :=
  let isSlash := fun c : Char => c = '/' || c = '\\'
  match text with
  | a :: b :: rest =>
    if isSlash a && isSlash b then
      let hostText := rest.takeWhile (!endsAuthority .file ·)
      let path := rest.dropWhile (!endsAuthority .file ·)
      if hostText.isEmpty || isDriveLetter hostText then
        .ok ⟨String.ofList scheme, [], none, none, rest⟩
      else do
        let host ← Host.parse hostText
        .ok ⟨String.ofList scheme, [],
          if host = .domain "localhost" then none else some host, none, path⟩
    else .ok ⟨String.ofList scheme, [], none, none, text⟩
  | _ => .ok ⟨String.ofList scheme, [], none, none, text⟩

/-- Reads a URL. -/
def parse (text : List Char) : Except ParseError Url :=
  match scheme? (clean text) with
  | none => .error .relativeWithoutBase
  | some (scheme, rest) =>
    match SchemeKind.of scheme with
    | .file => readFile scheme rest
    | .web => readAuthority scheme .web (rest.dropWhile fun c => c = '/' || c = '\\')
    | .other =>
      match rest with
      | '/' :: '/' :: authority => readAuthority scheme .other authority
      | _ => .ok ⟨String.ofList scheme, [], none, none, rest⟩

end Url

end Courier
