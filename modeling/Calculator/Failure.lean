import Calculator.Expr.Evaluator
import Calculator.Expr.Parser
import Calculator.Scan

/-!
# Failures

A text fails at the first of three stages that refuses it: a character is not allowed, the tokens are no expression,
or the expression has no value.
-/

namespace Calculator

inductive Failure
  | lexical (w : Warning)
  | parse (e : ParseError)
  | evaluation (e : EvalError)
deriving DecidableEq, Repr

namespace Failure

def message : Failure → String
  | lexical w => "Lex error: " ++ w.message
  | parse e => "Parse error: " ++ e.message
  | evaluation e => "Interpreter error: " ++ e.message

/-- The row and column at which a text is refused; evaluation fails at no place of the text. -/
def position? (text : List Char) : Failure → Option Position
  | lexical w => some (w.span.position text)
  | parse e => some (e.position text)
  | evaluation _ => none

end Failure

end Calculator
