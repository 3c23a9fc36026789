import Calculator.Report
import Calculator.Text.Quoted

/-!
# The log

Events become records: a severity, the part of the program that speaks, and a message.
-/

namespace Calculator

/-- Severities, most severe first. -/
inductive Severity
  | error
  | warn
  | info
  | debug
  | trace
deriving DecidableEq, Repr, Inhabited

namespace Severity

def name : Severity → String
  | error => "ERROR"
  | warn => "WARN"
  | info => "INFO"
  | debug => "DEBUG"
  | trace => "TRACE"

/-- The place in the order of severities, counted from one. -/
def rank : Severity → Nat
  | error => 1
  | warn => 2
  | info => 3
  | debug => 4
  | trace => 5

end Severity

/-- How much a log shows: nothing, or everything up to some severity. -/
abbrev Verbosity : Type :=
  Option Severity

namespace Verbosity

/-- Whether records of a severity are shown. -/
def shows (v : Verbosity) (s : Severity) : Bool :=
  v.any (s.rank ≤ ·.rank)

/-- The verbosity that a word names, in letters of either case. -/
def ofName? (name : List Char) : Option Verbosity :=
  match String.ofList (name.map Char.toLower) with
  | "off" => some none
  | "error" => some (some .error)
  | "warn" => some (some .warn)
  | "info" => some (some .info)
  | "debug" => some (some .debug)
  | "trace" => some (some .trace)
  | _ => none

end Verbosity

namespace Log

/-- The parts of the program that write to the log, by the names they have there. -/
def mainSource : String :=
  "calc_rust"

def scannerSource : String :=
  "calc_rust::parse::scanner"

def evaluatorSource : String :=
  "calc_rust::interpret::evaluator"

structure Record where
  severity : Severity
  source : String
  message : String
deriving DecidableEq, Repr

/-- The severity and the message, as in `WARN text`. -/
def Record.text (r : Record) : String :=
  s!"{r.severity.name} {r.message}"

/-- The line that shows a record. Severities fill five columns, and further lines of a message are indented. -/
def Record.line (r : Record) : String :=
  let padding := String.ofList (List.replicate (5 - r.severity.name.length) ' ')
  let message := r.message.replace "\n" "\n    "
  s!"[{r.severity.name}{padding} {r.source}] {message}"

end Log

namespace Token

/-- A token as the log lists it. -/
def text (t : Token) : String :=
  s!"{t.span.text} - {t.kind.name}: {Text.quoted t.lexeme} (line {t.line})"

end Token

namespace Event

/-- The record of an event. -/
def record : Event → Log.Record
  | skipped w => ⟨.warn, Log.scannerSource, w.message⟩
  | token t => ⟨.debug, Log.mainSource, t.text⟩
  | step s => ⟨.trace, Log.evaluatorSource, s.text⟩
  | failed e => ⟨.error, Log.mainSource, e.message⟩
  | located p => ⟨.trace, Log.mainSource, p.text⟩

end Event

end Calculator
