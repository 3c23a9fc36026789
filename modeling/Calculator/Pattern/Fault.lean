import Calculator.Pattern.Phrase

/-!
# Faults of patterns

What can be wrong with a pattern, where, and how a report shows it: the pattern line by line, with carets below the
faulty places.
-/

namespace Calculator.Pattern

/-- What is wrong. -/
inductive FaultKind
  | escapeInClass
  | classRangeReversed
  | classRangeOfClass
  | classUnclosed
  | decimalInvalid
  | hexEmpty
  | hexInvalid
  | hexDigitInvalid
  | escapeUnfinished
  | escapeUnknown
  | flagOffDangling
  | flagTwice
  | flagOffTwice
  | flagUnfinished
  | flagUnknown
  | groupNameTwice
  | groupNameEmpty
  | groupNameInvalid
  | groupNameUnfinished
  | groupUnclosed
  | groupUnopened
  | nestedTooDeep
  | countReversed
  | countEmpty
  | countUnclosed
  | repetitionOfNothing
  | boundaryUnclosed
  | boundaryUnknown
  | boundaryUnfinished
  | propertyInvalid
  | backreference
  | lookAround
  | unicodeNotAllowed
  | invalidEncoding
  | propertyUnknown
  | propertyValueUnknown
  | shorthandUnknown
  | caseUnknown
deriving DecidableEq, Repr

/-- How deep parentheses and brackets may be nested. -/
def maxNesting : Nat :=
  250

namespace FaultKind

def message : FaultKind → String
  | escapeInClass => "invalid escape sequence found in character class"
  | classRangeReversed => "invalid character class range, the start must be <= the end"
  | classRangeOfClass => "invalid range boundary, must be a literal"
  | classUnclosed => "unclosed character class"
  | decimalInvalid => "decimal literal invalid"
  | hexEmpty => "hexadecimal literal empty"
  | hexInvalid => "hexadecimal literal is not a Unicode scalar value"
  | hexDigitInvalid => "invalid hexadecimal digit"
  | escapeUnfinished => "incomplete escape sequence, reached end of pattern prematurely"
  | escapeUnknown => "unrecognized escape sequence"
  | flagOffDangling => "dangling flag negation operator"
  | flagTwice => "duplicate flag"
  | flagOffTwice => "flag negation operator repeated"
  | flagUnfinished => "expected flag but got end of regex"
  | flagUnknown => "unrecognized flag"
  | groupNameTwice => "duplicate capture group name"
  | groupNameEmpty => "empty capture group name"
  | groupNameInvalid => "invalid capture group character"
  | groupNameUnfinished => "unclosed capture group name"
  | groupUnclosed => "unclosed group"
  | groupUnopened => "unopened group"
  | nestedTooDeep => s!"exceed the maximum number of nested parentheses/brackets ({maxNesting})"
  | countReversed => "invalid repetition count range, the start must be <= the end"
  | countEmpty => "repetition quantifier expects a valid decimal"
  | countUnclosed => "unclosed counted repetition"
  | repetitionOfNothing => "repetition operator missing expression"
  | boundaryUnclosed =>
    "special word boundary assertion is either unclosed or contains an invalid character"
  | boundaryUnknown =>
    "unrecognized special word boundary assertion, valid choices are: start, end, start-half or end-half"
  | boundaryUnfinished =>
    "found either the beginning of a special word boundary or a bounded repetition on a \\b with an opening brace, " ++
      "but no closing brace"
  | propertyInvalid => "invalid Unicode character class"
  | backreference => "backreferences are not supported"
  | lookAround => "look-around, including look-ahead and look-behind, is not supported"
  | unicodeNotAllowed => "Unicode not allowed here"
  | invalidEncoding => "pattern can match invalid UTF-8"
  | propertyUnknown => "Unicode property not found"
  | propertyValueUnknown => "Unicode property value not found"
  | shorthandUnknown => "Unicode-aware Perl class not found (make sure the unicode-perl feature is enabled)"
  | caseUnknown =>
    "Unicode-aware case insensitivity matching is not available (make sure the unicode-case feature is enabled)"

end FaultKind

/-- What is wrong and where. `other` is the place of the first of two things that must not both be there. -/
structure Fault where
  kind : FaultKind
  extent : Extent
  other : Option Extent
deriving DecidableEq, Repr

namespace Fault

/-- The lines of a pattern. A carriage return before a line feed belongs to the line ending. -/
def patternLines (pattern : List Char) : List (List Char) :=
  let pieces := pattern.splitOn '\n'
  let ended := pieces.dropLast.map fun line => if line.getLast? = some '\r' then line.dropLast else line
  ended ++ (pieces.getLast?.filter (· ≠ [])).toList

/-- The places of a fault, the first one in the pattern first. -/
def extents (f : Fault) : List Extent :=
  match f.other with
  | none => [f.extent]
  | some e =>
    let before := e.start.row < f.extent.start.row ∨
      e.start.row = f.extent.start.row ∧ e.start.column ≤ f.extent.start.column
    if before then [e, f.extent] else [f.extent, e]

/-- Spaces up to every extent of a row and carets below it, at least one. `column` is the next column to fill. -/
def carets (column : Nat) : List Extent → List Char
  | [] => []
  | e :: rest =>
    let width := max 1 (e.stop.column - e.start.column)
    List.replicate (e.start.column - column) ' ' ++ List.replicate width '^' ++
      carets (max column e.start.column + width) rest

/-- The number of a line, right-aligned. -/
def lineNumber (width n : Nat) : List Char :=
  let digits := Nat.toDigits 10 n
  List.replicate (width - digits.length) ' ' ++ digits

/-- A line of the pattern behind its number, if numbers have a width, and the carets below it. -/
def notatedLine (extents : List Extent) (width row : Nat) (line : List Char) : List (List Char) :=
  let label := if width = 0 then List.replicate 4 ' ' else lineNumber width row ++ [':', ' ']
  let here := extents.filter fun e => e.start.row = row && e.stop.row = row
  let notes := if here = [] then [] else [List.replicate label.length ' ' ++ carets 1 here]
  (label ++ line) :: notes

/-- Where an extent of several rows starts and ends. -/
def spanning (e : Extent) : List Char :=
  s!"on line {e.start.row} (column {e.start.column}) through line {e.stop.row} (column {e.stop.column - 1})".toList

/-- The report on a fault, without a line feed at its end. A pattern of several lines is set off by rules. -/
def text (f : Fault) (pattern : List Char) : List Char :=
  let lines := patternLines pattern
  let several := '\n' ∈ pattern
  let count := lines.length + if pattern.getLast? = some '\n' then 1 else 0
  let width := if count ≤ 1 then 0 else (Nat.toDigits 10 count).length
  let rule := if several then [List.replicate 79 '~'] else []
  let notated := (lines.mapIdx fun i line => notatedLine f.extents width (i + 1) line).flatten
  let notes := if several then (f.extents.filter fun e => e.start.row ≠ e.stop.row).map spanning else []
  let report := ["regex parse error:".toList] ++ rule ++ notated ++ rule ++ notes ++
    ["error: ".toList ++ f.kind.message.toList]
  ['\n'].intercalate report

end Fault

end Calculator.Pattern
