import Calculator.Log
import Calculator.Pattern
import Calculator.Text.Blank

/-!
# Log filters

A filter says how much each part of the program may write to the log. Its text is a list of directives, separated by
commas: a level for all parts, the name of a part, or a name, `=` and a level. Of the directives whose name begins the
name of a part the longest one counts. A slash may follow, and a pattern that has to occur in the messages shown.
-/

namespace Calculator.Log

/-- How much the parts whose names begin with `name` may write; without a name, all parts. -/
structure Directive where
  name : Option (List Char)
  verbosity : Verbosity
deriving DecidableEq, Repr

namespace Directive

/-- How much of a part's name a directive fixes. -/
def weight (d : Directive) : Nat :=
  (d.name.map Text.byteSize).getD 0

/-- Whether a directive speaks of a part. -/
def applies (d : Directive) (source : List Char) : Bool :=
  d.name.all (·.isPrefixOf source)

/-- Reads one directive; the error is the part of it that makes no sense. -/
def ofText (text : List Char) : Except (List Char) Directive :=
  match text.splitOn '=' with
  | [word] =>
    match Verbosity.ofName? word with
    | some v => .ok ⟨none, v⟩
    | none => .ok ⟨some word, some .trace⟩
  | [name, level] =>
    match Text.trim level with
    | [] => .ok ⟨some name, some .trace⟩
    | level =>
      match Verbosity.ofName? level with
      | some v => .ok ⟨some name, v⟩
      | none => .error level
  | _ => .error text

/-- Adds a directive to a list, in the place of the one with the same name if there is one. -/
def insert (d : Directive) : List Directive → List Directive
  | [] => [d]
  | other :: rest => if other.name = d.name then d :: rest else other :: insert d rest

end Directive

structure Filter where
  directives : List Directive
  pattern : Option Pattern.Matcher

namespace Filter

/-- The filter without a text: errors only. -/
def errorsOnly : List Directive :=
  [⟨none, some .error⟩]

/-- The complaint about a part of a filter's text. -/
def complaint (text : List Char) : String :=
  s!"warning: invalid logging spec '{String.ofList text}', ignoring it"

/-- Adds what a piece between commas says, or complains about it. -/
def addPiece (read : List Directive × List String) (piece : List Char) : List Directive × List String :=
  match Text.trim piece with
  | [] => read
  | piece =>
    match Directive.ofText piece with
    | .ok d => (d.insert read.1, read.2)
    | .error part => (read.1, read.2 ++ [complaint part])

/-- The pattern behind the slash, if there is one, or a complaint about it. -/
def readPattern : Option (List Char) → Option Pattern.Matcher × List String
  | none => (none, [])
  | some text =>
    match Pattern.ofText text with
    | .ok m => (some m, [])
    | .error e => (none, [s!"warning: invalid regex filter - {e.message text}"])

/-- Reads a filter, with complaints about what is ignored in it. -/
def ofText (text : List Char) : Filter × List String :=
  match text.splitOn '/' with
  | pieces :: more =>
    if 1 < more.length then (⟨errorsOnly, none⟩, [complaint text ++ " (too many '/'s)"])
    else
      let (directives, complaints) := (pieces.splitOn ',').foldl addPiece ([], [])
      let (pattern, objections) := readPattern more.head?
      (⟨if directives.isEmpty then errorsOnly else directives, pattern⟩, complaints ++ objections)
  | [] => (⟨errorsOnly, none⟩, [])

/-- How much a part may write: what the heaviest directive on it says, of equally heavy ones the last. -/
def verbosity (f : Filter) (source : List Char) : Verbosity :=
  let best := f.directives.foldl (fun (best : Option Directive) d =>
    if d.applies source && best.all (·.weight ≤ d.weight) then some d else best) none
  best.bind (·.verbosity)

/-- Whether a record is shown. -/
def shows (f : Filter) (r : Record) : Bool :=
  (f.verbosity r.source.toList).shows r.severity && f.pattern.all (·.occursIn r.message.toList)

/-- The lines of the records that are shown. -/
def render (f : Filter) (records : List Record) : String :=
  String.join ((records.filter f.shows).map fun r => r.line ++ "\n")

end Filter

end Calculator.Log
