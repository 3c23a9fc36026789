import Calculator.Token

/-!
# Expressions

An expression is a tree of doubles and binary operators. Parentheses leave no trace in it.
-/

namespace Calculator

inductive Operator
  | plus
  | minus
  | star
  | slash
deriving DecidableEq, Repr, Inhabited

namespace Operator

/-- The sign of an operator. -/
def text : Operator → String
  | plus => "+"
  | minus => "-"
  | star => "*"
  | slash => "/"

/-- The operator that a token of some kind stands for. -/
def ofKind? : Kind → Option Operator
  | .plus => some plus
  | .minus => some minus
  | .star => some star
  | .slash => some slash
  | .leftParen => none
  | .rightParen => none
  | .number => none
  | .eof => none

/-- The kind of an operator's token. -/
def kind : Operator → Kind
  | plus => .plus
  | minus => .minus
  | star => .star
  | slash => .slash

theorem ofKind?_eq_some_iff {k : Kind} {op : Operator} : ofKind? k = some op ↔ k = op.kind := by
  cases k <;> cases op <;> decide

end Operator

inductive Expr
  | literal (value : Float)
  | binary (left : Expr) (op : Operator) (right : Expr)
deriving DecidableEq, Inhabited

namespace Expr

/-- The number of nodes, literals included. -/
def size : Expr → Nat
  | literal _ => 1
  | binary left _ right => left.size + right.size + 1

/-- Equality of shape and operators, with literals compared as numbers: both zeros are equal, and NaN differs from
itself. -/
def same : Expr → Expr → Bool
  | literal x, literal y => x == y
  | binary l op r, binary l' op' r' => op = op' && same r r' && same l l'
  | literal _, binary _ _ _ => false
  | binary _ _ _, literal _ => false

end Expr

end Calculator
