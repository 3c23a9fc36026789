import Calculator.Pattern.Marks
import Calculator.Pattern.Meaning
import Calculator.Pattern.Parser
import Calculator.Pattern.Room

/-!
# Patterns

A pattern describes the texts that it occurs in. Reading one fails if it is badly written, if it would need too much
room, or if it asks for words of other characters than ASCII.
-/

namespace Calculator

/-- Why a pattern cannot be used. -/
inductive PatternError
  | fault (f : Pattern.Fault)
  | tooLarge
  | unknownBoundary
deriving DecidableEq, Repr

namespace Pattern

/-- The most bytes that an automaton may take up. -/
def maxRoom : Nat :=
  10485760

/-- Reads a pattern. The boundaries that it asks for are looked at when the automaton that reads forwards is there, and
the one that reads backwards is made last. -/
def ofText (text : List Char) : Except PatternError Matcher :=
  match Phrase.ofText text with
  | .error f => .error (.fault f)
  | .ok p =>
    match Meaning.phrase .initial p with
    | .error f => .error (.fault f)
    | .ok (m, _) =>
      if maxRoom < m.automatonRoom false then .error .tooLarge
      else if m.traits.unknownWord then .error .unknownBoundary
      else if maxRoom < m.automatonRoom true then .error .tooLarge
      else .ok m

end Pattern

namespace PatternError

/-- The report on a pattern that cannot be used. -/
def message (pattern : List Char) : PatternError → String
  | fault f => String.ofList (f.text pattern)
  | tooLarge => s!"Compiled regex exceeds size limit of {Pattern.maxRoom} bytes."
  | unknownBoundary => "error building NFA"

end PatternError

end Calculator
