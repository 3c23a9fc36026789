import Calculator.Expr.Evaluator
import Calculator.Proofs.Zero

/-!
# Evaluation without a work list

`Expr.value` is the value of an expression by recursion, with the four operations written out, and `Expr.operations`
lists the operations on the way to it. `Expr.value_binary` says that the work list carries out the same four. The main
statement, `evaluate_eq_value`, says that working off tasks comes to the same: `run_visit` is the step from one task to
the next for any tasks and operands behind it.
-/

namespace Calculator

namespace Expr

/-- The value of an expression: that of the left operand first, then that of the right one, then the operation. A
quotient is refused if its right operand equals zero. -/
def value : Expr → Except EvalError Float
  | literal value => .ok value
  | binary left op right =>
    match left.value with
    | .error e => .error e
    | .ok x =>
      match right.value with
      | .error e => .error e
      | .ok y =>
        match op with
        | .plus => .ok (x + y)
        | .minus => .ok (x - y)
        | .star => .ok (x * y)
        | .slash => if y == 0 then .error .divisionByZero else .ok (x / y)

theorem value_binary (left : Expr) (op : Operator) (right : Expr) :
    (binary left op right).value =
      match left.value with
      | .error e => .error e
      | .ok x =>
        match right.value with
        | .error e => .error e
        | .ok y => op.apply x y := by
  cases op <;> rfl

/-- The operations that give the value, in order, up to the one that is refused. -/
def operations : Expr → List Step
  | literal _ => []
  | binary left op right =>
    match left.value with
    | .error _ => left.operations
    | .ok x =>
      match right.value, (binary left op right).value with
      | .ok y, .ok z => left.operations ++ right.operations ++ [⟨x, op, y, z⟩]
      | _, _ => left.operations ++ right.operations

/-- `n` is a node of an expression, at its root or further down. -/
inductive Within (n : Expr) : Expr → Prop
  | root : Within n n
  | left {l r : Expr} {op : Operator} : Within n l → Within n (.binary l op r)
  | right {l r : Expr} {op : Operator} : Within n r → Within n (.binary l op r)

end Expr

/-! ### The loop -/

private theorem Task.size_pos (task : Task) : 0 < task.size := by
  cases task with
  | visit e => cases e <;> simp only [Task.size, Expr.size] <;> omega
  | apply op => exact Nat.one_pos

namespace Work

/-- The operands that are left when the tasks are done, or `none` if that takes more than the given number of turns. -/
def runWithin : Nat → List Task → List Float → Option (Except EvalError (List Float))
  | _, [], operands => some (.ok operands)
  | 0, _ :: _, _ => none
  | n + 1, .visit (.literal value) :: tasks, operands => runWithin n tasks (value :: operands)
  | n + 1, .visit (.binary left op right) :: tasks, operands =>
    runWithin n (.visit left :: .visit right :: .apply op :: tasks) operands
  | n + 1, .apply op :: tasks, right :: left :: operands =>
    match op.apply left right with
    | .ok value => runWithin n tasks (value :: operands)
    | .error e => some (.error e)
  | _ + 1, .apply _ :: _, _ => some (.error .emptyStack)

/-- A bound on the turns that tasks take. -/
def turns (tasks : List Task) : Nat :=
  tasks.foldr (fun task n => task.size + n) 0

private theorem turns_cons (task : Task) (tasks : List Task) : turns (task :: tasks) = task.size + turns tasks :=
  rfl

/-- A budget for the turns of all tasks is enough. -/
private theorem runWithin_eq_run {n : Nat} {tasks : List Task} (operands : List Float) (steps : List Step)
    (h : turns tasks ≤ n) : runWithin n tasks operands = some (run tasks operands steps).operands := by
  induction n generalizing tasks operands steps with
  | zero =>
    cases tasks with
    | nil => rw [runWithin, run]
    | cons task tasks =>
      have hpos := task.size_pos
      rw [turns_cons] at h
      omega
  | succ n ih =>
    cases tasks with
    | nil => rw [runWithin, run]
    | cons task tasks =>
      rw [turns_cons] at h
      cases task with
      | visit e =>
        cases e with
        | literal value =>
          rw [runWithin, run]
          exact ih _ _ (by simp only [Task.size, Expr.size] at h; omega)
        | binary left op right =>
          rw [runWithin, run]
          exact ih _ _ (by simp only [turns_cons, Task.size, Expr.size] at h ⊢; omega)
      | apply op =>
        have hn : turns tasks ≤ n := by simp only [Task.size] at h; omega
        rcases operands with _ | ⟨y, _ | ⟨x, operands⟩⟩
        · rw [runWithin, run] <;> simp
        · rw [runWithin, run] <;> simp
        · rw [runWithin, run]
          cases op.apply x y with
          | error e => rfl
          | ok z => exact ih _ _ hn

/-- An expression that is visited puts its value on the operands, or ends the work. -/
theorem run_visit (e : Expr) (tasks : List Task) (operands : List Float) (steps : List Step) :
    run (.visit e :: tasks) operands steps =
      match e.value with
      | .ok value => run tasks (value :: operands) (e.operations.reverse ++ steps)
      | .error err => ⟨steps.reverse ++ e.operations, .error err⟩ := by
  induction e generalizing tasks operands steps with
  | literal value => rw [run]; rfl
  | binary left op right ihl ihr =>
    rw [run, ihl, Expr.operations, Expr.value_binary]
    cases left.value with
    | error err => rfl
    | ok x =>
      simp only
      rw [ihr]
      cases right.value with
      | error err => simp
      | ok y =>
        simp only
        rw [run]
        cases op.apply x y with
        | error err => simp
        | ok z => simp

end Work

/-! ### Values -/

namespace Expr

/-- Working off tasks gives the value, after the operations on the way to it. -/
theorem evaluate_eq_value (e : Expr) : e.evaluate = ⟨e.operations, e.value⟩ := by
  rw [evaluate]
  simp only [Work.run_visit]
  cases e.value with
  | error err => simp
  | ok v => simp [Work.run]

theorem apply_eq_error_iff {op : Operator} {x y : Float} {err : EvalError} :
    op.apply x y = .error err ↔ err = .divisionByZero ∧ op = .slash ∧ (y = 0 ∨ y = -0) := by
  rw [← Double.beq_zero_iff]
  cases op <;> simp only [Operator.apply, reduceCtorEq, false_and, and_false]
  split
  · next h => simp [h, eq_comm]
  · next h => simp [h]

theorem eq_divisionByZero_of_value {e : Expr} {err : EvalError} (h : e.value = .error err) :
    err = .divisionByZero := by
  induction e with
  | literal v => simp [value] at h
  | binary left op right ihl ihr =>
    rw [value_binary] at h
    split at h
    · next hl => injection h with h; exact ihl (h ▸ hl)
    · split at h
      · next hr => injection h with h; exact ihr (h ▸ hr)
      · exact (apply_eq_error_iff.1 h).1

/-- A division by zero whose operands have values fails the whole, wherever it is. -/
theorem value_of_within {n e : Expr} (hin : n.Within e) (hn : n.value = .error .divisionByZero) :
    e.value = .error .divisionByZero := by
  induction hin with
  | root => exact hn
  | left _ ih => rw [value_binary, ih]
  | @right l r op _ ih =>
    rw [value_binary, ih]
    split
    · next err hl => rw [eq_divisionByZero_of_value hl]
    · rfl

private theorem exists_within_of_value {e : Expr} (h : e.value = .error .divisionByZero) :
    ∃ left right x y, (binary left .slash right).Within e ∧ left.value = .ok x ∧ right.value = .ok y ∧
      (y = 0 ∨ y = -0) := by
  induction e with
  | literal v => simp [value] at h
  | binary left op right ihl ihr =>
    rw [value_binary] at h
    split at h
    · next hl =>
      obtain ⟨l, r, x, y, hin, hrest⟩ := ihl (h ▸ hl)
      exact ⟨l, r, x, y, .left hin, hrest⟩
    · next x hl =>
      split at h
      · next hr =>
        obtain ⟨l, r, x, y, hin, hrest⟩ := ihr (h ▸ hr)
        exact ⟨l, r, x, y, .right hin, hrest⟩
      · next y hr =>
        obtain ⟨-, rfl, hy⟩ := apply_eq_error_iff.1 h
        exact ⟨left, right, x, y, .root, hl, hr, hy⟩

/-- Working off tasks ends within two turns a node and leaves the value as the only operand. Evaluation carries out the
operations in order and gives the value, never lacks an operand, and is refused exactly if there is a quotient whose
operands have values, the right one zero. -/
theorem evaluate_refines_value (e : Expr) :
    Work.runWithin (2 * e.size) [.visit e] [] = some (e.value.map fun v => [v]) ∧
    (Work.run [.visit e] [] []).operands = e.value.map (fun v => [v]) ∧
    e.evaluate = ⟨e.operations, e.value⟩ ∧
    e.evaluate.result ≠ .error .emptyStack ∧
    (e.evaluate.result = .error .divisionByZero ↔
      ∃ left right x y, (binary left .slash right).Within e ∧ left.value = .ok x ∧ right.value = .ok y ∧
        (y = 0 ∨ y = -0)) := by
  have hrun : (Work.run [.visit e] [] []).operands = e.value.map fun v => [v] := by
    rw [Work.run_visit]
    cases e.value with
    | error err => rfl
    | ok v => simp only [Work.run]; rfl
  refine ⟨?_, hrun, e.evaluate_eq_value, ?_, ?_⟩
  · rw [← hrun]
    exact Work.runWithin_eq_run [] [] (by simp [Work.turns, Task.size])
  · rw [evaluate_eq_value]
    intro h
    exact absurd (eq_divisionByZero_of_value h) (by decide)
  · rw [evaluate_eq_value]
    constructor
    · exact exists_within_of_value
    · rintro ⟨left, right, x, y, hin, hl, hr, hy⟩
      refine value_of_within hin ?_
      rw [value_binary, hl, hr]
      exact apply_eq_error_iff.2 ⟨rfl, rfl, hy⟩

end Expr

end Calculator
