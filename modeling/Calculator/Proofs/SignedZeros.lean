import Calculator.Proofs.Evaluation
import Calculator.Proofs.Substitution

/-!
# The sign of a zero

Equality of expressions takes both zeros for the same number. The main statement, `same_evaluate`, says that equal
expressions have equal values, or none. Two doubles that are equal differ in the sign of a zero at most (`Twins`), and
sums, differences and products carry no more than that over into the result. So does a quotient, but for its divisor:
one over zero is one of two infinities, and only because zeros are refused as divisors does this never show.
-/

namespace Calculator

open Float.Model UnpackedFloat

namespace Double

/-! ### The same but for the sign of a zero -/

/-- Two unpacked doubles are the same up to the sign of a zero. -/
inductive Twins : UnpackedFloat → UnpackedFloat → Prop
  | same (u : UnpackedFloat) : Twins u u
  | zeros (s s' : Sign) : Twins (.zero s) (.zero s')

namespace Twins

variable {u v w u' v' : UnpackedFloat}

private theorem symm (h : Twins u v) : Twins v u := by
  cases h with
  | same => exact .same u
  | zeros s s' => exact .zeros s' s

private theorem trans (h : Twins u v) (h' : Twins v w) : Twins u w := by
  cases h with
  | same => exact h'
  | zeros s s' =>
    cases h' with
    | same => exact .zeros s s'
    | zeros _ s'' => exact .zeros s s''

private theorem isNaN_eq (h : Twins u v) : u.isNaN = v.isNaN := by
  cases h <;> rfl

private theorem unpack_pack_zero (s : Sign) : (pack (.zero s)).unpack = .zero s := by
  cases s <;> rfl

/-- Packing keeps zeros apart from all other doubles. -/
private theorem unpack_pack (h : Twins u v) : Twins (pack u).unpack (pack v).unpack := by
  cases h with
  | same => exact .same _
  | zeros s s' =>
    rw [unpack_pack_zero, unpack_pack_zero]
    exact .zeros s s'

private theorem add_zeros (spec : Format) (u : UnpackedFloat) (s s' : Sign) :
    Twins (add spec u (.zero s)) (add spec u (.zero s')) ∧ Twins (add spec (.zero s) u) (add spec (.zero s') u) := by
  cases u with
  | zero t => cases s <;> cases s' <;> cases t <;> exact ⟨.zeros _ _, .zeros _ _⟩
  | notANumber | infinity | finite => exact ⟨.same _, .same _⟩

private theorem sub_zeros (spec : Format) (u : UnpackedFloat) (s s' : Sign) :
    Twins (sub spec u (.zero s)) (sub spec u (.zero s')) ∧ Twins (sub spec (.zero s) u) (sub spec (.zero s') u) := by
  cases u with
  | zero t => cases s <;> cases s' <;> cases t <;> exact ⟨.zeros _ _, .zeros _ _⟩
  | notANumber | infinity | finite => exact ⟨.same _, .same _⟩

private theorem mul_zeros (spec : Format) (u : UnpackedFloat) (s s' : Sign) :
    Twins (mul spec u (.zero s)) (mul spec u (.zero s')) ∧ Twins (mul spec (.zero s) u) (mul spec (.zero s') u) := by
  cases u with
  | notANumber | infinity => exact ⟨.same _, .same _⟩
  | zero | finite => exact ⟨.zeros _ _, .zeros _ _⟩

private theorem div_zeros (spec : Format) (u : UnpackedFloat) (s s' : Sign) :
    Twins (div spec (.zero s) u) (div spec (.zero s') u) := by
  cases u with
  | notANumber | zero => exact .same _
  | infinity | finite => exact .zeros _ _

/-- A divisor that is not zero has no twin but itself. -/
private theorem div_congr (spec : Format) (h : Twins u u') (h' : Twins v v') (hv : ∀ s, v ≠ .zero s) :
    Twins (div spec u v) (div spec u' v') := by
  cases h' with
  | zeros s s' => exact absurd rfl (hv s)
  | same =>
    cases h with
    | same => exact .same _
    | zeros s s' => exact div_zeros spec v s s'

/-- An operation that carries zeros over to twins on either side carries twins over to twins. -/
private theorem congr {f : UnpackedFloat → UnpackedFloat → UnpackedFloat}
    (hf : ∀ u s s', Twins (f u (.zero s)) (f u (.zero s')) ∧ Twins (f (.zero s) u) (f (.zero s') u))
    (h : Twins u u') (h' : Twins v v') : Twins (f u v) (f u' v') := by
  have hleft : Twins (f u v) (f u' v) := by
    cases h with
    | same => exact .same _
    | zeros s s' => exact (hf v s s').2
  have hright : Twins (f u' v) (f u' v') := by
    cases h' with
    | same => exact .same _
    | zeros s s' => exact (hf u' s s').1
  exact hleft.trans hright

end Twins

/-! ### Equality of doubles -/

/-- Two doubles are equal as numbers, or neither of them is a number. -/
def Alike (x y : Float) : Prop :=
  (x == y) = true ∨ (x.isNaN = true ∧ y.isNaN = true)

private theorem compare_of_twins {u v : UnpackedFloat} (h : Twins u v) (hu : u.isNaN = false) :
    u.compare v = some .eq := by
  cases h with
  | zeros s s' => rfl
  | same =>
    cases u with
    | notANumber => cases hu
    | infinity s => cases s <;> rfl
    | zero s => rfl
    | finite s m e hm =>
      have hself : (compare e e).then (compare m m) = .eq := by simp
      cases s with
      | positive => exact congrArg some hself
      | negative => exact congrArg (fun o => some o.swap) hself

private theorem eq_of_compare_finite {s s' : Sign} {m m' : Nat} {e e' : Int} {hm : 0 < m} {hm' : 0 < m'}
    (h : (UnpackedFloat.finite s m e hm).compare (.finite s' m' e' hm') = some .eq) : s = s' ∧ m = m' ∧ e = e' := by
  have hboth : s = s' ∧ (compare e e').then (compare m m') = .eq := by
    cases s with
    | positive =>
      cases s' with
      | positive => exact ⟨rfl, Option.some.inj h⟩
      | negative => cases h
    | negative =>
      cases s' with
      | positive => cases h
      | negative => exact ⟨rfl, Ordering.swap_eq_eq.1 (Option.some.inj h)⟩
  rw [Ordering.then_eq_eq, Int.compare_eq_eq, Nat.compare_eq_eq] at hboth
  exact ⟨hboth.1, hboth.2.2, hboth.2.1⟩

private theorem eq_of_compare_infinity {s s' : Sign}
    (h : (UnpackedFloat.infinity s).compare (.infinity s') = some .eq) : s = s' := by
  cases s with
  | positive =>
    cases s' with
    | positive => rfl
    | negative => cases h
  | negative =>
    cases s' with
    | positive => cases h
    | negative => rfl

private theorem twins_of_compare {u v : UnpackedFloat} (h : u.compare v = some .eq) :
    Twins u v ∧ u.isNaN = false := by
  cases u with
  | notANumber => cases h
  | infinity s =>
    cases v with
    | infinity s' =>
      obtain rfl := eq_of_compare_infinity h
      exact ⟨.same _, rfl⟩
    | notANumber | zero | finite => cases s <;> cases h
  | zero s =>
    cases v with
    | zero s' => exact ⟨.zeros s s', rfl⟩
    | notANumber => cases h
    | infinity s' | finite s' => cases s' <;> cases h
  | finite s m e hm =>
    cases v with
    | finite s' m' e' hm' =>
      obtain ⟨rfl, rfl, rfl⟩ := eq_of_compare_finite h
      exact ⟨.same _, rfl⟩
    | notANumber => cases s <;> cases h
    | infinity s' | zero s' => cases s <;> cases s' <;> cases h

private theorem beq_iff_twins {x y : Float} :
    (x == y) = true ↔ Twins x.toModel.unpack y.toModel.unpack ∧ x.isNaN = false := by
  show (x.toModel.unpack.compare y.toModel.unpack == some .eq) = true ↔ _
  rw [beq_iff_eq]
  exact ⟨twins_of_compare, fun h => compare_of_twins h.1 h.2⟩

private theorem eq_notANumber {u : UnpackedFloat} (h : u.isNaN = true) : u = .notANumber := by
  cases u with
  | notANumber => rfl
  | infinity | zero | finite => cases h

private theorem alike_iff_twins {x y : Float} : Alike x y ↔ Twins x.toModel.unpack y.toModel.unpack := by
  constructor
  · rintro (h | ⟨hx, hy⟩)
    · exact (beq_iff_twins.1 h).1
    · rw [eq_notANumber hx, eq_notANumber hy]
      exact .same _
  · intro h
    by_cases hx : x.isNaN = true
    · exact .inr ⟨hx, h.isNaN_eq.symm.trans hx⟩
    · exact .inl (beq_iff_twins.2 ⟨h, eq_false_of_ne_true hx⟩)

private theorem beq_comm (x y : Float) : (x == y) = (y == x) := by
  rw [Bool.eq_iff_iff, beq_iff_twins, beq_iff_twins]
  constructor
  · rintro ⟨h, hx⟩
    exact ⟨h.symm, h.isNaN_eq.symm.trans hx⟩
  · rintro ⟨h, hy⟩
    exact ⟨h.symm, h.isNaN_eq.symm.trans hy⟩

private theorem beq_trans {x y z : Float} (h : (x == y) = true) (h' : (y == z) = true) : (x == z) = true :=
  beq_iff_twins.2 ⟨(beq_iff_twins.1 h).1.trans (beq_iff_twins.1 h').1, (beq_iff_twins.1 h).2⟩

private theorem beq_self_iff {x : Float} : (x == x) = true ↔ x.isNaN = false := by
  rw [beq_iff_twins]
  exact and_iff_right (.same _)

private theorem Alike.beq_zero {x y : Float} (h : Alike x y) : (x == 0) = (y == 0) := by
  rw [Bool.eq_iff_iff]
  rcases h with h | ⟨hx, hy⟩
  · exact ⟨fun hx => beq_trans (beq_comm x y ▸ h) hx, beq_trans h⟩
  · constructor
    · intro h
      exact absurd hx (Bool.eq_false_iff.1 (beq_iff_twins.1 h).2)
    · intro h
      exact absurd hy (Bool.eq_false_iff.1 (beq_iff_twins.1 h).2)

/-! ### Operations -/

variable {x x' y y' : Float}

private theorem Alike.add (h : Alike x x') (h' : Alike y y') : Alike (x + y) (x' + y') := by
  rw [alike_iff_twins] at h h' ⊢
  exact (Twins.congr (Twins.add_zeros Format.binary64) h h').unpack_pack

private theorem Alike.sub (h : Alike x x') (h' : Alike y y') : Alike (x - y) (x' - y') := by
  rw [alike_iff_twins] at h h' ⊢
  exact (Twins.congr (Twins.sub_zeros Format.binary64) h h').unpack_pack

private theorem Alike.mul (h : Alike x x') (h' : Alike y y') : Alike (x * y) (x' * y') := by
  rw [alike_iff_twins] at h h' ⊢
  exact (Twins.congr (Twins.mul_zeros Format.binary64) h h').unpack_pack

private theorem Alike.div (h : Alike x x') (h' : Alike y y') (hy : (y == 0) = false) : Alike (x / y) (x' / y') := by
  rw [alike_iff_twins] at h h' ⊢
  have hdivisor : ∀ s, y.toModel.unpack ≠ .zero s := by
    intro s hs
    have hzero : (y.toModel.unpack.compare (.zero .positive) == some .eq) = false := hy
    rw [hs] at hzero
    cases hzero
  exact (Twins.div_congr Format.binary64 h h' hdivisor).unpack_pack

-- Quotients by the two zeros are not alike.
example : ((0 : Float) == -0) = true ∧ ((1 : Float) / 0 == 1 / -0) = false := by
  decide

end Double

/-! ### Operations that may be refused -/

/-- Two values that are equal as numbers, or neither of them a number, or the same error twice. -/
inductive Agree : Except EvalError Float → Except EvalError Float → Prop
  | error (e : EvalError) : Agree (.error e) (.error e)
  | ok {x y : Float} (h : Double.Alike x y) : Agree (.ok x) (.ok y)

private theorem Operator.agree_apply (op : Operator) {x x' y y' : Float} (h : Double.Alike x x')
    (h' : Double.Alike y y') : Agree (op.apply x y) (op.apply x' y') := by
  cases op with
  | plus => exact .ok (h.add h')
  | minus => exact .ok (h.sub h')
  | star => exact .ok (h.mul h')
  | slash =>
    simp only [apply, ← h'.beq_zero]
    cases hy : y == 0 with
    | true => exact .error .divisionByZero
    | false => exact .ok (h.div h' hy)

/-! ### Expressions -/

namespace Expr

private theorem same_comm (a b : Expr) : a.same b = b.same a := by
  induction a generalizing b with
  | literal x =>
    cases b with
    | literal y => exact Double.beq_comm x y
    | binary left op right => rfl
  | binary left op right ihl ihr =>
    cases b with
    | literal y => rfl
    | binary left' op' right' => rw [same, same, ihl, ihr, decide_eq_decide.2 eq_comm]

private theorem same_binary_iff {l r l' r' : Expr} {op op' : Operator} :
    (binary l op r).same (binary l' op' r') = true ↔ op = op' ∧ r.same r' = true ∧ l.same l' = true := by
  simp only [same, Bool.and_eq_true, decide_eq_true_eq, and_assoc]

private theorem same_trans {a b c : Expr} (h : a.same b = true) (h' : b.same c = true) : a.same c = true := by
  induction a generalizing b c with
  | literal x =>
    cases b with
    | binary => cases h
    | literal y =>
      cases c with
      | binary => cases h'
      | literal z => exact Double.beq_trans h h'
  | binary left op right ihl ihr =>
    cases b with
    | literal => cases h
    | binary left' op' right' =>
      cases c with
      | literal => cases h'
      | binary left'' op'' right'' =>
        rw [same_binary_iff] at h h' ⊢
        obtain ⟨rfl, hr, hl⟩ := h
        obtain ⟨rfl, hr', hl'⟩ := h'
        exact ⟨rfl, ihr hr hr', ihl hl hl'⟩

private theorem same_self_iff {a : Expr} : a.same a = true ↔ ∀ v ∈ a.leaves, v.isNaN = false := by
  induction a with
  | literal x =>
    rw [leaves, List.forall_mem_singleton]
    exact Double.beq_self_iff
  | binary left op right ihl ihr =>
    rw [same_binary_iff, leaves, List.forall_mem_append, ihl, ihr]
    exact ⟨fun h => ⟨h.2.2, h.2.1⟩, fun h => ⟨rfl, h.2, h.1⟩⟩

/-- Equal expressions agree in their values. -/
private theorem agree_value {a b : Expr} (h : a.same b = true) : Agree a.value b.value := by
  induction a generalizing b with
  | literal x =>
    cases b with
    | binary => cases h
    | literal y => exact .ok (.inl h)
  | binary left op right ihl ihr =>
    cases b with
    | literal => cases h
    | binary left' op' right' =>
      obtain ⟨rfl, hr, hl⟩ := same_binary_iff.1 h
      have hleft := ihl hl
      have hright := ihr hr
      rw [value_binary, value_binary]
      generalize left.value = x, left'.value = x' at hleft ⊢
      generalize right.value = y, right'.value = y' at hright ⊢
      cases hleft with
      | error e => exact .error e
      | ok hx =>
        cases hright with
        | error e => exact .error e
        | ok hy => exact op.agree_apply hx hy

/-- Equal expressions are both refused for a division by zero, or both have a value, and the values are equal as numbers
or neither of them is a number. Equality is symmetric and transitive, and reflexive where no literal is NaN. -/
theorem same_evaluate :
    (∀ a b : Expr, a.same b = true →
      (a.evaluate.result = .error .divisionByZero ∧ b.evaluate.result = .error .divisionByZero) ∨
      ∃ x y, a.evaluate.result = .ok x ∧ b.evaluate.result = .ok y ∧
        ((x == y) = true ∨ (x.isNaN = true ∧ y.isNaN = true))) ∧
    (∀ a b : Expr, a.same b = b.same a) ∧
    (∀ a b c : Expr, a.same b = true → b.same c = true → a.same c = true) ∧
    ∀ a : Expr, a.same a = true ↔ ∀ v ∈ a.leaves, v.isNaN = false := by
  refine ⟨?_, same_comm, fun a b c => same_trans, fun a => same_self_iff⟩
  intro a b h
  have hagree := agree_value h
  simp only [evaluate_eq_value]
  cases ha : a.value with
  | error e =>
    obtain rfl := eq_divisionByZero_of_value ha
    rw [ha] at hagree
    generalize b.value = y at hagree ⊢
    cases hagree
    exact .inl ⟨rfl, rfl⟩
  | ok x =>
    rw [ha] at hagree
    generalize b.value = y at hagree ⊢
    cases hagree with
    | ok hx => exact .inr ⟨x, _, rfl, rfl, hx⟩

end Expr

end Calculator
