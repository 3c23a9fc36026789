import Calculator.Expr

/-!
# Evaluating expressions

Evaluation works off a list of tasks and keeps the operands in a stack, so that the depth of a tree does not matter.
Every operation carried out is recorded as a step. A task that finds too few operands ends the work with `emptyStack`.
-/

namespace Calculator

/-- Why an expression has no value. -/
inductive EvalError
  | divisionByZero
  | emptyStack
deriving DecidableEq, Repr

namespace EvalError

def message : EvalError → String
  | divisionByZero => "Divide by 0"
  | emptyStack => "popped an empty stack"

end EvalError

/-- The value of an operation. A divisor that equals zero, of either sign, is refused. -/
def Operator.apply (op : Operator) (left right : Float) : Except EvalError Float :=
  match op with
  | plus => .ok (left + right)
  | minus => .ok (left - right)
  | star => .ok (left * right)
  | slash => if right == 0 then .error .divisionByZero else .ok (left / right)

/-- An operation that has been carried out. -/
structure Step where
  left : Float
  op : Operator
  right : Float
  value : Float
deriving DecidableEq

namespace Step

/-- The step as an equation. -/
def text (s : Step) : String :=
  s!"{Double.display s.left} {s.op.text} {Double.display s.right} = {Double.display s.value}"

end Step

/-- What is still to be done: evaluate an expression, or apply an operator to the two operands on top. -/
inductive Task
  | visit (e : Expr)
  | apply (op : Operator)

namespace Task

/-- A bound on the tasks that a task leads to. -/
def size : Task → Nat
  | visit e => 2 * e.size
  | apply _ => 1

end Task

/-- The steps of some work, and the operands that it leaves. -/
structure Work where
  steps : List Step
  operands : Except EvalError (List Float)

/-- Works off tasks, given the operands, topmost first, and the steps taken, last one first. -/
def Work.run : List Task → List Float → List Step → Work
  | [], operands, steps => ⟨steps.reverse, .ok operands⟩
  | .visit (.literal value) :: tasks, operands, steps => run tasks (value :: operands) steps
  | .visit (.binary left op right) :: tasks, operands, steps =>
    run (.visit left :: .visit right :: .apply op :: tasks) operands steps
  | .apply op :: tasks, right :: left :: operands, steps =>
    match op.apply left right with
    | .ok value => run tasks (value :: operands) (⟨left, op, right, value⟩ :: steps)
    | .error e => ⟨steps.reverse, .error e⟩
  | .apply _ :: _, _, steps => ⟨steps.reverse, .error .emptyStack⟩
termination_by tasks => tasks.foldr (fun task n => task.size + n) 0
decreasing_by all_goals simp only [List.foldr_cons, Task.size, Expr.size]; omega

/-- The steps of an evaluation and its outcome. -/
structure Evaluation where
  steps : List Step
  result : Except EvalError Float

namespace Expr

/-- Evaluates an expression, left operands before right ones. -/
def evaluate (e : Expr) : Evaluation :=
  let work := Work.run [.visit e] [] []
  { steps := work.steps
    result := match work.operands with
      | .ok (value :: _) => .ok value
      | .ok [] => .error .emptyStack
      | .error e => .error e }

end Expr

end Calculator
