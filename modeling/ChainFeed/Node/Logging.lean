/-
Log lines, their form, and the filter that decides which are written.

A filter is a list of directives `target[{field}]=level`. Of the directives whose target a line's target
starts with and whose field the line has, the narrowest counts; a line is written if its level is at most as
detailed as the directive's.
-/
import ChainFeed.Json.Value
import ChainFeed.Number.Reading
import ChainFeed.Text.Blank
import ChainFeed.Text.Letter
import ChainFeed.Text.Pattern

namespace ChainFeed

/-- how log lines are written -/
inductive LogFormat where
  | pretty
  | json
deriving DecidableEq, Repr

namespace LogFormat

def name : LogFormat → String
  | pretty => "Pretty"
  | json => "Json"

/-- the format with the given name, in letters of either case; any other name means `pretty` -/
def ofName (s : String) : LogFormat :=
  if s.map Char.toLower = "json" then json else pretty

/-- the format that the setting for JSON logs selects -/
def ofFlag (flag : Bool) : LogFormat :=
  if flag then json else pretty

end LogFormat

/-! ## Levels and lines -/

/-- how detailed log lines are; a filter may also let none of them through -/
inductive LogLevel where
  | off
  | error
  | warn
  | info
  | debug
  | trace
deriving DecidableEq, Repr

namespace LogLevel

/-- all levels, each one more detailed than those before it -/
def all : List LogLevel :=
  [off, error, warn, info, debug, trace]

def rank : LogLevel → Nat
  | off => 0
  | error => 1
  | warn => 2
  | info => 3
  | debug => 4
  | trace => 5

def name : LogLevel → String
  | off => "OFF"
  | error => "ERROR"
  | warn => "WARN"
  | info => "INFO"
  | debug => "DEBUG"
  | trace => "TRACE"

/-- the level with the given name, in letters of either case, or number -/
def ofText? (cs : List Char) : Option LogLevel :=
  match readUInt64? cs with
  | some n => all[n.toNat]?
  | none => all.find? fun l => l.name.toList = cs.map Char.toUpper

end LogLevel

/-- a log line -/
structure LogLine where
  level : LogLevel
  /-- the part of the program that writes it -/
  target : String
  message : String
  fields : List (String × Json.Value) := []

/-- all that a line says, as a JSON object -/
def LogLine.content (l : LogLine) : Json.Value :=
  .ofMembers (("message", .string l.message) :: l.fields)

/-- whether a line has a field of a name; the message is one -/
def LogLine.hasField (l : LogLine) (name : List Char) : Bool :=
  name = "message".toList || l.fields.any fun (n, _) => n.toList = name

/-- a line as it is written in a format -/
def LogLine.text (l : LogLine) : LogFormat → String
  | .json =>
    (Json.Value.ofMembers
      [("level", .string l.level.name), ("fields", l.content), ("target", .string l.target)]).text
  | .pretty =>
    let field (f : String × Json.Value) : String := ", " ++ f.1 ++ ": " ++ f.2.text
    l.level.name ++ " " ++ l.target ++ ": " ++ l.message ++ String.join (l.fields.map field)

/-! ## Filters -/

/-- lets through the lines of some targets up to a level -/
structure LogDirective where
  /-- what the targets start with; without it every target counts -/
  target : Option (List Char)
  /-- the field that the lines have -/
  field : Option (List Char) := none
  level : LogLevel
  /-- whether only lines within certain spans are meant -/
  spans : Bool := false
deriving DecidableEq

/-- why a text is no directive -/
inductive DirectiveError where
  | malformed
  | badLevel
  | badField
deriving DecidableEq, Repr

def DirectiveError.message : DirectiveError → String
  | malformed => "invalid filter directive"
  | badLevel => "error parsing level filter: expected one of \"off\", \"error\", \"warn\", " ++
      "\"info\", \"debug\", \"trace\", or a number 0-5"
  | badField => "invalid field filter"

namespace LogDirective

/-- whether a directive may start with a character -/
def isStart (c : Char) : Bool :=
  isLetterOrDigit c || c = '-' || c = ':' || c = '_'

/-- the level after an equals sign; none given lets everything through -/
def levelOf (cs : List Char) : Except DirectiveError LogLevel :=
  if cs.isEmpty then .ok .trace
  else
    match LogLevel.ofText? cs with
    | some l => .ok l
    | none => .error .badLevel

/-- whether a text is a value that a field can be compared with: a boolean, a number or a pattern -/
def isFieldValue (cs : List Char) : Bool :=
  cs = "true".toList || cs = "false".toList || (readFloat? cs).isSome || Pattern.isPattern cs

/-- a field in braces: its name, and whether a value is asked for as well -/
def fieldOf (cs : List Char) : Except DirectiveError (List Char × Bool) :=
  let name := cs.takeWhile (· ≠ '=')
  match cs, cs.drop name.length with
  | [], _ => .error .malformed
  | _, [] => .ok (name, false)
  | _, _ :: value =>
    if isFieldValue (value.takeWhile (· ≠ '=')) then .ok (name, true) else .error .badField

/-- reads what follows the brackets of a directive, from a position on: nothing, or a level -/
def afterBrackets (cs : List Char) (position : Nat) : List Char → Except DirectiveError LogLevel
  | [] => .ok .trace
  | '=' :: _ => levelOf (cs.drop (position + 1))
  | _ => .error .malformed

/-- reads brackets, which hold the name of a span, a field in braces, or both, and what follows them -/
def parseBrackets (cs : List Char) (target : Option (List Char)) (position : Nat) (rest : List Char) :
    Except DirectiveError LogDirective := do
  let span := rest.takeWhile fun c => c ≠ ']' && c ≠ '\x7b'
  let position := position + span.length + 1
  match rest.drop span.length with
  | ']' :: rest =>
    let level ← afterBrackets cs position rest
    .ok { target, level, spans := true }
  | '\x7b' :: rest =>
    let text := rest.takeWhile (· ≠ '\x7d')
    match rest.drop text.length with
    | '\x7d' :: ']' :: rest =>
      let (field, valued) ← fieldOf ((cs.drop position).take text.length)
      let level ← afterBrackets cs (position + text.length + 2) rest
      .ok { target, field := some field, level, spans := !span.isEmpty || valued }
    | _ => .error .malformed
  | _ => .error .malformed

/-- reads `target=level`, a target or a level alone, or brackets after the target. Blanks around the text are
passed over in looking for its parts, which are then cut out of the whole text. -/
def parse (cs : List Char) : Except DirectiveError LogDirective :=
  let trimmed := ((cs.dropWhile isBlank).reverse.dropWhile isBlank).reverse
  let before := trimmed.takeWhile fun c => c ≠ '=' && c ≠ '['
  let target := if before.isEmpty then none else some (cs.take before.length)
  match trimmed, trimmed.drop before.length with
  | [], _ => .error .malformed
  | c :: _, [] =>
    if !isStart c then .error .malformed
    else
      match LogLevel.ofText? cs with
      | some level => .ok { target := none, level }
      | none => .ok { target := some cs, level := .trace }
  | c :: _, '[' :: rest =>
    if c ≠ '[' && !isStart c then .error .malformed
    else parseBrackets cs target (before.length + 1) rest
  | c :: _, _ =>
    if !isStart c then .error .malformed
    else (levelOf (cs.drop (before.length + 1))).map fun level => { target, level }

/-- whether a directive is for a line -/
def isFor (d : LogDirective) (l : LogLine) : Bool :=
  !d.spans && (d.target.all fun start => start.isPrefixOf l.target.toList) && d.field.all l.hasField

/-- how narrowly a directive gives its targets -/
def width (d : LogDirective) : Nat :=
  match d.target with
  | none => 0
  | some start => start.length + 1

/-- whether a directive counts before an earlier one: it has a longer target, or as long a one and a field
where the other has none or one that is not after it in order -/
def precedes (d earlier : LogDirective) : Bool :=
  earlier.width < d.width ||
    (earlier.width == d.width &&
      match earlier.field, d.field with
      | none, _ => true
      | some _, none => false
      | some f, some g => !(g < f))

end LogDirective

/-- a filter: its directives in the order in which they are given -/
structure LogFilter where
  directives : List LogDirective

namespace LogFilter

/-- the filter of a list of directives; an empty one lets errors through -/
def ofDirectives (ds : List LogDirective) : LogFilter :=
  if ds.isEmpty then ⟨[{ target := none, level := .error }]⟩ else ⟨ds⟩

/-- the texts of the directives in the text of a filter -/
def pieces (s : String) : List (List Char) :=
  (s.toList.splitOn ',').filter fun cs => !cs.isEmpty

/-- reads a filter, and refuses it for any bad directive -/
def parse? (s : String) : Option LogFilter :=
  ((pieces s).mapM fun cs => (LogDirective.parse cs).toOption).map ofDirectives

/-- reads a filter, and passes over its bad directives with a remark on each -/
def parseLenient (s : String) : LogFilter × List String :=
  let read := (pieces s).map fun cs => (cs, LogDirective.parse cs)
  (ofDirectives (read.filterMap fun (_, d) => d.toOption),
    read.filterMap fun (cs, d) =>
      match d with
      | .ok _ => none
      | .error e => some ("ignoring `" ++ String.ofList cs ++ "`: " ++ e.message))

/-- the directive that decides on a line: of those for it the one that counts before all others -/
def decisive? (f : LogFilter) (l : LogLine) : Option LogDirective :=
  (f.directives.filter fun d => d.isFor l).foldl
    (fun best d =>
      match best with
      | some b => if d.precedes b then some d else some b
      | none => some d)
    none

/-- whether a line is written -/
def allows (f : LogFilter) (l : LogLine) : Bool :=
  (f.decisive? l).any fun d => l.level.rank ≤ d.level.rank

end LogFilter

/-- the filter for a level when none is given from outside -/
def defaultFilter (level : String) : String :=
  "blockpulse_node=" ++ level ++ ",blockpulse_realtime=" ++ level ++
    ",tower_http=debug,axum::rejection=trace"

end ChainFeed
