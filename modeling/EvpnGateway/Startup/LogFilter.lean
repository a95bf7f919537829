import EvpnGateway.Text.Blank
import EvpnGateway.Text.Digits
import EvpnGateway.Text.Split
import EvpnGateway.Text.Symbol
import EvpnGateway.Text.Utf8
/-!
# Log filters

A filter is a list of directives with commas between them. A directive gives a level to the targets
that begin with a text, or to all. The longest text that fits a target decides.

* `LogLevel`, `Directive`, `LogFilter`;
* `LogFilter.parse?`: reads a filter; `LogFilter.inForce?`: the one that is in force;
  `LogFilter.admits`: whether a record passes.
-/

namespace EvpnGateway

/-- How much a log record matters. -/
inductive LogLevel where
  | error
  | warn
  | info
  | debug
  | trace
  deriving DecidableEq, Repr

namespace LogLevel

/-- All levels with their names, from the most to the least important. -/
def names : List (LogLevel × String) :=
  [(error, "error"), (warn, "warn"), (info, "info"), (debug, "debug"), (trace, "trace")]

/-- The verbosity that admits records of a level and of all before it. -/
def verbosity : LogLevel → Nat
  | error => 1
  | warn => 2
  | info => 3
  | debug => 4
  | trace => 5

/-- The name of a level in log records. -/
def text : LogLevel → String
  | error => "ERROR"
  | warn => "WARN"
  | info => "INFO"
  | debug => "DEBUG"
  | trace => "TRACE"

end LogLevel

/-- The verbosity that a text writes: the name of a level in either case, the word for none, or a
number up to that of the last level. -/
def readVerbosity? (text : List Char) : Option Nat :=
  match Digits.readBelow? 10 6 text with
  | some n => some n
  | none =>
    let word := String.ofList (text.map Char.toLower)
    if word = "off" then some 0
    else (LogLevel.names.find? fun (_, name) => name == word).map fun (level, _) => level.verbosity

/-- A condition on a field of a record. -/
structure FieldCondition where
  name : String
  /-- The condition is about the value and not only about the presence of the field. -/
  hasValue : Bool
  deriving DecidableEq, Repr

/-- A rule about the verbosity of some records. -/
structure Directive where
  /-- The beginning of the targets that the rule is about. -/
  target : Option String := none
  /-- The rule is about records inside spans of a name. -/
  inSpan : Bool := false
  fields : List FieldCondition := []
  verbosity : Nat := LogLevel.trace.verbosity
  deriving DecidableEq, Repr

namespace Directive

/-- A condition on a field: its name and, behind an equals sign, a value. -/
def readCondition? (text : List Char) : Option FieldCondition :=
  if text.isEmpty then none
  else match splitFirst? '=' text with
    | some (name, _) => some ⟨String.ofList name, true⟩
    | none => some ⟨String.ofList text, false⟩

/-- Reads what follows the brackets of a directive: nothing, or an equals sign and a level. -/
def readLevel (directive : Directive) : List Char → Option Directive
  | [] => some directive
  | ['='] => some directive
  | '=' :: level => (readVerbosity? level).map fun verbosity => { directive with verbosity }
  | _ => none

/-- Reads what follows the opening bracket: the name of a span, conditions in braces or both. -/
def readSpan (directive : Directive) (text : List Char) : Option Directive :=
  let name := text.takeWhile fun c => c ≠ ']' && c ≠ '\x7b'
  match text.dropWhile fun c => c ≠ ']' && c ≠ '\x7b' with
  | ']' :: rest => readLevel { directive with inSpan := true } rest
  | '\x7b' :: rest =>
    let condition := rest.takeWhile (· ≠ '\x7d')
    match rest.dropWhile (· ≠ '\x7d') with
    | '\x7d' :: ']' :: rest =>
      (readCondition? condition).bind fun condition =>
        readLevel { directive with inSpan := !name.isEmpty, fields := [condition] } rest
    | _ => none
  | _ => none

/-- A character that a directive may begin with, apart from a bracket. -/
def isStart (c : Char) : Bool := c = '-' || c = ':' || c = '_' || isAlphanumeric c

/-- Reads a directive. A word on its own is a level if it can be read as one, and otherwise a target
with nothing left out. -/
def read? (text : List Char) : Option Directive :=
  match text with
  | [] => none
  | '[' :: rest => readSpan {} rest
  | c :: _ =>
    if ¬ isStart c then none
    else
      let word := text.takeWhile fun c => c ≠ '=' && c ≠ '['
      let named : Directive := { target := some (String.ofList word) }
      match text.dropWhile fun c => c ≠ '=' && c ≠ '[' with
      | [] => match readVerbosity? text with
        | some verbosity => some { verbosity }
        | none => some named
      | '[' :: rest => readSpan named rest
      | rest => readLevel named rest

/-- The rule is about records outside spans with a message and nothing else, and about the
target. -/
def covers (directive : Directive) (target : String) : Bool :=
  !directive.inSpan &&
    directive.fields.all (fun condition => !condition.hasValue && condition.name == "message") &&
    directive.target.all fun start => (after? start.toList target.toList).isSome

/-- The rule at hand is more special than another, or as special. -/
def isSpecialAs (directive other : Directive) : Bool :=
  let length (directive : Directive) : Nat :=
    match directive.target with
    | some target => Utf8.size target + 1
    | none => 0
  length other < length directive ||
    (length other == length directive && other.fields.length ≤ directive.fields.length)

end Directive

/-- Directives in the order in which they were written. -/
abbrev LogFilter := List Directive

namespace LogFilter

/-- Reads a filter: directives with commas between them, where empty ones do not count. A filter
without directives admits errors only. -/
def parse? (text : String) : Option LogFilter := do
  let parts := (split ',' text.toList).filter fun part => !part.isEmpty
  let directives ← parts.mapM fun part => Directive.read? (trimChars part)
  return if directives.isEmpty then [{ verbosity := LogLevel.error.verbosity }] else directives

/-- The filter that is in force: that of the environment, if there is one and it can be read, and
otherwise that of the configuration. -/
def inForce? (environment : Option String) (level : String) : Option LogFilter :=
  environment.bind parse? <|> parse? level

/-- The most special of the directives that cover a target, the last of several. -/
def decisive (filter : LogFilter) (target : String) : Option Directive :=
  (filter.filter fun directive => directive.covers target).foldl (fun best directive =>
    match best with
    | some other => if directive.isSpecialAs other then some directive else some other
    | none => some directive) none

/-- A record of a level and a target passes. -/
def admits (filter : LogFilter) (level : LogLevel) (target : String) : Bool :=
  match filter.decisive target with
  | some directive => decide (level.verbosity ≤ directive.verbosity)
  | none => false

end LogFilter

end EvpnGateway
