import Courier.Delivery.Event
import Courier.Text.Numeral
import Courier.Text.Split
import Courier.Text.Utf8

/-!
# Which log lines show

A filter is a list of directives with commas between them. A directive names a target, the fields
that an event must have, and the level up to which events show. Of the directives that an event
fits the most specific one decides: the longest target, then the most fields.

A directive that asks for a span, or for the value of a field, never shows anything here, for
events are told outside of all spans.
-/

namespace Courier.CommandLine

open Courier.Text

/-! ## Log lines -/

/-- An event with the place that tells it. -/
structure LogLine where
  level : Level
  target : String
  message : String
  fields : List (String × String)
  deriving Repr, DecidableEq

namespace LogLine

/-- A delivery's event, told by a target. -/
def ofEvent (target : String) (e : Event) : LogLine :=
  ⟨e.level, target, e.message, e.fields⟩

/-- The text of a log line. -/
def text (l : LogLine) : String :=
  l.level.name ++ " " ++ l.target ++ ": " ++ l.message ++
    String.join (l.fields.map fun (name, value) => " " ++ name ++ "=" ++ value)

/-- Whether a log line has a field; the message is one. -/
def hasField (l : LogLine) (name : String) : Bool :=
  name = "message" || (l.fields.map (·.1)).contains name

end LogLine

/-! ## Rules -/

/-- What shows of the events that have certain fields and whose targets begin in a certain way. -/
structure Rule where
  target : Option String
  fields : List String
  /-- The rank of the last level that shows; with zero nothing does. -/
  rank : Nat
  deriving Repr, DecidableEq

namespace Rule

/-- The rule for everything up to a rank. -/
def upTo (rank : Nat) : Rule := ⟨none, [], rank⟩

/-- Whether a rule is about a log line. -/
def concerns (r : Rule) (l : LogLine) : Bool :=
  (match r.target with
    | none => true
    | some target => target.toList.isPrefixOf l.target.toList) &&
  r.fields.all l.hasField

/-- How specific a target is: any is more so than none. -/
def weight (r : Rule) : Nat :=
  match r.target with
  | none => 0
  | some target => Utf8.size target.toList + 1

/-- Whether a rule comes before another that concerns the same line. -/
def precedes (r s : Rule) : Bool :=
  s.weight < r.weight ||
    (r.weight = s.weight &&
      (s.fields.length < r.fields.length ||
        (r.fields.length = s.fields.length && s.fields < r.fields)))

end Rule

/-- The rules of a filter, in the order in which they are given. -/
abbrev LogFilter := List Rule

namespace LogFilter

/-- The rule that decides about a log line: of two that are as specific, the latter. -/
def decisive? (f : LogFilter) (l : LogLine) : Option Rule :=
  (f.filter (·.concerns l)).foldl
    (fun best r =>
      match best with
      | none => some r
      | some b => if b.precedes r then some b else some r)
    none

/-- Whether a log line shows. -/
def shows (f : LogFilter) (l : LogLine) : Bool :=
  match f.decisive? l with
  | none => false
  | some r => l.level.rank ≤ r.rank

/-- The filter that is used unless another is asked for. -/
def standard : LogFilter := [.upTo Level.warn.rank]

end LogFilter

/-! ## Reading -/

/-- The rank that a level's name or number stands for. -/
def rank? (text : List Char) : Option Nat :=
  let digits := match text with
    | '+' :: rest => rest
    | _ => text
  if digits ≠ [] ∧ digits.all isDigit then
    let n := decimalValue digits
    if n ≤ Level.trace.rank then some n else none
  else if text.map Char.toLower = "off".toList then some 0
  else
    ([.error, .warn, .info, .debug, .trace] : List Level).findSome? fun level =>
      if text.map Char.toUpper = level.name.toList then some level.rank else none

/-- What a directive in brackets asks for: `none` if it can show nothing. -/
structure Scope where
  fields : Option (List String)
  rest : List Char

/-- Reads the brackets behind their opening one. -/
def Scope.read? (text : List Char) : Option Scope :=
  let span := text.takeWhile fun c => c ≠ ']' ∧ c ≠ '{'
  match text.drop span.length with
  | ']' :: rest => some ⟨none, rest⟩
  | '{' :: rest =>
    let field := rest.takeWhile (· ≠ '}')
    match rest.drop field.length with
    | '}' :: ']' :: rest =>
      if field = [] then none
      else if span = [] ∧ ¬ field.contains '=' then some ⟨some [String.ofList field], rest⟩
      else some ⟨none, rest⟩
    | _ => none
  | _ => none

/-- A directive in parts. -/
structure Directive where
  target : Option (List Char)
  /-- The fields that are asked for; `none` if nothing can fit. -/
  fields : Option (List String)
  /-- What stands for the level, if something does. -/
  level : Option (List Char)

/-- Whether a directive may begin with a character: every character beyond ASCII counts as a
letter. -/
def isNameStart (c : Char) : Bool :=
  c.isAlphanum || c = '-' || c = ':' || c = '_' || 128 ≤ c.toNat

/-- What a text is without the blanks at its ends. -/
def trimBlanks (text : List Char) : List Char :=
  ((text.dropWhile Char.isWhitespace).reverse.dropWhile Char.isWhitespace).reverse

namespace Directive

/-- A directive with what stands for its level: nothing, or a text behind an equals sign. -/
def withLevel? (target : Option (List Char)) (fields : Option (List String)) :
    List Char → Option Directive
  | [] => some ⟨target, fields, none⟩
  | '=' :: level => some ⟨target, fields, some level⟩
  | _ => none

/-- Reads a directive that begins with brackets or with a name. -/
def read? (text : List Char) : Option Directive :=
  match text with
  | '[' :: rest => (Scope.read? rest).bind fun s => withLevel? none s.fields s.rest
  | [] => none
  | c :: _ =>
    let name := text.takeWhile fun c => c ≠ '=' ∧ c ≠ '['
    if !isNameStart c then none
    else
      match text.drop name.length with
      | '[' :: rest => (Scope.read? rest).bind fun s => withLevel? (some name) s.fields s.rest
      | rest => withLevel? (some name) (some []) rest

/-- What a directive means: a name alone is a level or a target, and a target alone shows all.
The outer `none` is a level that does not exist, the inner one a directive that shows nothing. -/
def rule? (d : Directive) : Option (Option Rule) :=
  let target := d.target.map String.ofList
  match d.level with
  | some [] => some (d.fields.map (⟨target, ·, Level.trace.rank⟩))
  | some level => (rank? level).map fun rank => d.fields.map (⟨target, ·, rank⟩)
  | none =>
    match d.fields, d.target.bind rank? with
    | some [], some rank => some (some (.upTo rank))
    | fields, _ => some (fields.map (⟨target, ·, Level.trace.rank⟩))

end Directive

/-- What a text asks for. With blanks at its ends no level is readable, and no target fits. -/
def ruleOf? (text : List Char) : Option (Option Rule) :=
  match Directive.read? (trimBlanks text) with
  | none => none
  | some d =>
    if text = trimBlanks text then d.rule?
    else if d.level.isSome then none
    else some none

/-- The filter that a text describes, if it can be read; nothing at all is up to errors. -/
def LogFilter.parse? (text : List Char) : Option LogFilter :=
  match (Text.fields ',' text).filter (· ≠ []) with
  | [] => some [.upTo Level.error.rank]
  | directives => (directives.mapM ruleOf?).map (·.filterMap id)

/-- The name of the variable that holds the filter. -/
def LogFilter.variable : String := "RUST_LOG"

/-- The filter that a variable asks for, or the standard one. -/
def LogFilter.ofVariable (value : Option (List UInt8)) : LogFilter :=
  ((value.bind Utf8.decode?).bind LogFilter.parse?).getD .standard

end Courier.CommandLine
