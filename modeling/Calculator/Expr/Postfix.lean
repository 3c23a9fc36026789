import Calculator.Expr

/-!
# Postfix form

The postfix form of an expression lists its nodes with every operator behind its two operands. It needs no
parentheses: `ofPostfix?_toPostfix` says that the expression can be read back.
-/

namespace Calculator

/-- A node of an expression in postfix form. -/
inductive Postfix
  | literal (value : Float)
  | operator (op : Operator)
deriving DecidableEq

namespace Expr

/-- The postfix form of an expression. -/
def toPostfix (e : Expr) : List Postfix :=
  go [e] []
where
  /-- Puts the forms of the pending expressions, the last one first, in front of `written`. -/
  go : List Expr → List Postfix → List Postfix
    | [], written => written
    | literal value :: pending, written => go pending (.literal value :: written)
    | binary left op right :: pending, written => go (right :: left :: pending) (.operator op :: written)
  termination_by pending => pending.foldr (fun e n => e.size + n) 0
  decreasing_by all_goals simp only [List.foldr_cons, size]; omega

private theorem toPostfix_go (e : Expr) (pending : List Expr) (written : List Postfix) :
    toPostfix.go (e :: pending) written = toPostfix.go pending (toPostfix e ++ written) := by
  induction e generalizing pending written with
  | literal value => simp [toPostfix, toPostfix.go]
  | binary left op right ihl ihr =>
    simp only [toPostfix] at ihl ihr ⊢
    have h : toPostfix.go [binary left op right] [] =
        toPostfix.go [left] [] ++ (toPostfix.go [right] [] ++ [.operator op]) := by
      rw [toPostfix.go, ihr [left], ihl [] (_ ++ _), toPostfix.go]
    rw [toPostfix.go, ihr (left :: pending), ihl pending, h]
    simp

@[simp] theorem toPostfix_literal (value : Float) : (literal value).toPostfix = [.literal value] := by
  simp [toPostfix, toPostfix.go]

@[simp] theorem toPostfix_binary (left : Expr) (op : Operator) (right : Expr) :
    (binary left op right).toPostfix = left.toPostfix ++ right.toPostfix ++ [.operator op] := by
  rw [toPostfix, toPostfix.go, toPostfix_go, toPostfix_go, toPostfix.go, List.append_assoc]

/-- Lets a node take its operands from a stack and puts the result there. -/
def push (stack : List Expr) : Postfix → Option (List Expr)
  | .literal value => some (literal value :: stack)
  | .operator op =>
    match stack with
    | right :: left :: stack => some (binary left op right :: stack)
    | _ => none

/-- The expression with a given postfix form. -/
def ofPostfix? (nodes : List Postfix) : Option Expr :=
  match nodes.foldlM push [] with
  | some [e] => some e
  | _ => none

private theorem foldlM_push_toPostfix (e : Expr) (stack : List Expr) (nodes : List Postfix) :
    (e.toPostfix ++ nodes).foldlM push stack = nodes.foldlM push (e :: stack) := by
  induction e generalizing stack nodes with
  | literal value => simp [push]
  | binary left op right ihl ihr =>
    rw [toPostfix_binary, List.append_assoc, List.append_assoc, ihl, ihr]
    simp [push]

/-- An expression can be read back from its postfix form. -/
theorem ofPostfix?_toPostfix (e : Expr) : ofPostfix? e.toPostfix = some e := by
  have h := foldlM_push_toPostfix e [] []
  rw [List.append_nil] at h
  simp [ofPostfix?, h]

end Expr

end Calculator
