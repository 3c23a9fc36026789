import Calculator.Expr.Postfix
import Calculator.Proofs.Lossless
import Calculator.Proofs.Substitution

/-!
# The operations of an expression

Each node with an operator is an operation on the values of its operands, and they are carried out in post-order: up to
the end if the expression has a value (`Expr.map_step?_operatorNodes`), up to the first division by zero if it has none
(`Expr.exists_operatorNodes_of_error`). Their operators are those of the postfix form (`Expr.map_op_eq_toPostfix`). A
text that is read as an expression has a token for each of them, and one number more (`Scan.operators_ofText`).
-/

namespace Calculator

/-- The operator of a node that has one. -/
def Postfix.operator? : Postfix → Option Operator
  | literal _ => none
  | operator op => some op

namespace Expr

/-- The nodes with an operator, each of them behind those of its left and then those of its right operand. -/
def operatorNodes : Expr → List Expr
  | literal _ => []
  | binary left op right => left.operatorNodes ++ right.operatorNodes ++ [binary left op right]

/-- The operation at the root of an expression, if it and both operands have values. -/
def step? : Expr → Option Step
  | literal _ => none
  | binary left op right =>
    match left.value, right.value, (binary left op right).value with
    | .ok x, .ok y, .ok z => some ⟨x, op, y, z⟩
    | _, _, _ => none

/-- A quotient whose operands have values, the right one zero. -/
def DividesByZero (n : Expr) : Prop :=
  ∃ left right x y, n = binary left .slash right ∧ left.value = .ok x ∧ right.value = .ok y ∧ (y = 0 ∨ y = -0)

/-- On the way to a value each operator node makes one operation. -/
theorem map_step?_operatorNodes {e : Expr} {v : Float} (h : e.value = .ok v) :
    e.operatorNodes.map step? = e.operations.map some := by
  induction e generalizing v with
  | literal _ => rfl
  | binary left op right ihl ihr =>
    have hparts := h
    rw [value_binary] at hparts
    cases hl : left.value with
    | error err => rw [hl] at hparts; cases hparts
    | ok x =>
      cases hr : right.value with
      | error err => rw [hl, hr] at hparts; cases hparts
      | ok y => simp [operatorNodes, operations, step?, ihl hl, ihr hr, hl, hr, h]

/-- Without a value the operations end in front of the first division by zero. -/
theorem exists_operatorNodes_of_error {e : Expr} {err : EvalError} (h : e.value = .error err) :
    ∃ done n rest, e.operatorNodes = done ++ n :: rest ∧ done.map step? = e.operations.map some ∧ n.DividesByZero := by
  induction e generalizing err with
  | literal v => cases h
  | binary left op right ihl ihr =>
    have hparts := h
    rw [value_binary] at hparts
    rw [operatorNodes, operations]
    cases hl : left.value with
    | error err =>
      obtain ⟨done, n, rest, hnodes, hdone, hn⟩ := ihl hl
      exact ⟨done, n, _, by rw [hnodes, List.append_assoc, List.append_assoc]; rfl, hdone, hn⟩
    | ok x =>
      have hleft := map_step?_operatorNodes hl
      cases hr : right.value with
      | error err =>
        obtain ⟨done, n, rest, hnodes, hdone, hn⟩ := ihr hr
        refine ⟨left.operatorNodes ++ done, n, rest ++ [binary left op right], by simp [hnodes], ?_, hn⟩
        rw [List.map_append, hleft, hdone, ← List.map_append]
      | ok y =>
        have hright := map_step?_operatorNodes hr
        simp only [hl, hr] at hparts
        obtain ⟨-, rfl, hy⟩ := apply_eq_error_iff.1 hparts
        refine ⟨left.operatorNodes ++ right.operatorNodes, _, [], rfl, ?_, left, right, x, y, rfl, hl, hr, hy⟩
        simp only [h]
        rw [List.map_append, hleft, hright, ← List.map_append]

/-! ### Post-order -/

/-- The operator at the root. -/
def operator? : Expr → Option Operator
  | literal _ => none
  | binary _ op _ => some op

private theorem operator?_of_step? {n : Expr} {s : Step} (h : n.step? = some s) : n.operator? = some s.op := by
  cases n with
  | literal _ => cases h
  | binary left op right =>
    rw [step?] at h
    split at h
    · rw [← Option.some.inj h]
      rfl
    · cases h

private theorem map_operator?_of_map_step? {nodes : List Expr} {steps : List Step}
    (h : nodes.map step? = steps.map some) : nodes.map operator? = (steps.map Step.op).map some := by
  induction nodes generalizing steps with
  | nil =>
    rw [List.map_eq_nil_iff.1 h.symm]
    rfl
  | cons n nodes ih =>
    obtain ⟨s, steps, rfl, hs, hrest⟩ := List.map_eq_cons_iff.1 h.symm
    rw [List.map_cons, operator?_of_step? hs.symm, ih hrest.symm]
    rfl

private theorem map_operator?_operatorNodes (e : Expr) :
    e.operatorNodes.map operator? = (e.toPostfix.filterMap Postfix.operator?).map some := by
  induction e with
  | literal _ => simp [operatorNodes, Postfix.operator?]
  | binary left op right ihl ihr => simp [operatorNodes, operator?, Postfix.operator?, ihl, ihr]

/-- The operations of all operator nodes have the operators of the postfix form, in its order. -/
theorem map_op_eq_toPostfix {e : Expr} {steps : List Step} (h : e.operatorNodes.map step? = steps.map some) :
    steps.map Step.op = e.toPostfix.filterMap Postfix.operator? := by
  have hnodes := map_operator?_of_map_step? h
  rw [map_operator?_operatorNodes] at hnodes
  exact ((List.map_inj_right fun _ _ => Option.some.inj).1 hnodes).symm

private theorem length_operatorNodes (e : Expr) : e.operatorNodes.length + 1 = e.leaves.length := by
  induction e with
  | literal _ => rfl
  | binary left op right ihl ihr =>
    rw [leaves, List.length_append, ← ihl, ← ihr]
    simp only [operatorNodes, List.length_append, List.length_singleton]
    omega

end Expr

/-! ### Counting tokens -/

/-- The number of tokens that are operators. -/
def operators (s : List Token) : Nat :=
  s.countP fun t => (Operator.ofKind? t.kind).isSome

/-- A phrase has one number more than operators. -/
private theorem Derives.operators_eq {level : Level} {s : List Token} {e : Expr} (h : Derives level s e) :
    operators s + 1 = numbers s := by
  refine snoc_induction (motive := fun _ s _ => operators s + 1 = numbers s) ?snoc ?number ?group ?lift h
  case number =>
    intro t value hk _
    simp [operators, numbers, hk, Operator.ofKind?]
  case group =>
    intro opening closing s e left right _ ih
    simpa [operators, numbers, left, right, Operator.ofKind?] using ih
  case lift =>
    intro level s e _ _ ih
    exact ih
  case snoc =>
    intro op s e sign s' right hk _ ih _ ih'
    have hop : (Operator.ofKind? sign.kind).isSome := by
      rw [Operator.ofKind?_eq_some_iff.2 hk]
      rfl
    have hsign : sign.kind ≠ .number := hk ▸ op.kind_ne_number
    simp only [operators, numbers, List.countP_append, List.countP_cons, hop, hsign, decide_false] at ih ih' ⊢
    simp only [if_true, Bool.false_eq_true, if_false]
    omega

namespace Scan

/-- A text that is read as an expression has a token for each operator node, and one number more. -/
theorem operators_ofText {text : List Char} {e : Expr} (h : Expr.ofTokens (ofText text).tokens = .ok e) :
    operators (ofText text).tokens = e.operatorNodes.length ∧
      operators (ofText text).tokens + 1 = numbers (ofText text).tokens := by
  obtain ⟨s, line, htokens, hs⟩ := (lossless_tokens_warnings text).eof
  rw [htokens] at h ⊢
  have hder := derives_of_ofTokens_append h hs
  have hcount := hder.operators_eq
  have hleaves := hder.length_leaves
  have hnodes := e.length_operatorNodes
  have hlast : operators (s ++ [⟨.eof, [], none, line, .empty (Text.byteSize text)⟩]) = operators s ∧
      numbers (s ++ [⟨.eof, [], none, line, .empty (Text.byteSize text)⟩]) = numbers s := by
    simp [operators, numbers, Operator.ofKind?]
  rw [hlast.1, hlast.2]
  omega

end Scan

end Calculator
