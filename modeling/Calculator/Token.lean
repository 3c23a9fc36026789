import Calculator.Decimal
import Calculator.Span

/-!
# Tokens

A token is a numeral, an operator sign, a parenthesis or the end of the input, with the place where it was found.
-/

namespace Calculator

inductive Kind
  | leftParen
  | rightParen
  | number
  | plus
  | minus
  | star
  | slash
  | eof
deriving DecidableEq, Repr, Inhabited

namespace Kind

/-- How messages to the user call a kind. -/
def text : Kind → String
  | leftParen => "("
  | rightParen => ")"
  | number => "number"
  | plus => "+"
  | minus => "-"
  | star => "*"
  | slash => "/"
  | eof => "end of input"

/-- How the log calls a kind. -/
def name : Kind → String
  | leftParen => "LeftParen"
  | rightParen => "RightParen"
  | number => "Number"
  | plus => "Plus"
  | minus => "Minus"
  | star => "Star"
  | slash => "Slash"
  | eof => "Eof"

/-- The kind of the tokens that consist of one fixed character. -/
def ofChar? : Char → Option Kind
  | '(' => some leftParen
  | ')' => some rightParen
  | '+' => some plus
  | '-' => some minus
  | '*' => some star
  | '/' => some slash
  | _ => none

end Kind

/-- A token; only numerals have a literal, the double that they stand for. -/
structure Token where
  kind : Kind
  lexeme : List Char
  literal : Option Float
  line : Nat
  span : Span
deriving DecidableEq

end Calculator
