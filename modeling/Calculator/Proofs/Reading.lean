import Calculator.Expr.Parser

/-!
# Reading without measures

`Cursor.parse` and `Cursor.more` return a proof that the cursor has moved on, which is why they end. `Cursor.read` and
`Cursor.extend` are the same functions without that proof, and the equations below say what each of them does next:
`read_operand_cons` at a number or a group, `read_chain` at a sum or a product, `extend_cons` behind an operand.
`reading_induction` is the induction that goes with these equations.
-/

namespace Calculator

namespace Cursor

/-- An expression and the cursor behind it, or the reason why there is none. -/
abbrev Outcome : Type :=
  Except ParseError (Expr × Cursor)

private def forget {c : Cursor} : Except ParseError (Expr × c.Past) → Outcome
  | .error e => .error e
  | .ok (e, d) => .ok (e, d.1)

/-- Reads one phrase of a level. -/
def read (level : Level) (c : Cursor) : Outcome :=
  forget (parse level c)

/-- Continues a chain that has been read as `left`, wherever it began. -/
def extend (level : Level) (left : Expr) (d : Cursor) : Outcome :=
  forget (more level ⟨⟨.eof, [], none, 0, .empty 0⟩ :: d.rest, d.depth⟩ left ⟨d, Nat.lt_succ_self _⟩)

/-- Ends the group that holds `e` at the closing parenthesis that has to follow. -/
def close (opening : Token) (e : Expr) (c : Cursor) : Outcome :=
  match c.rest with
  | [] => .error .outOfTokens
  | t :: rest =>
    if t.kind = .rightParen then .ok (e, ⟨rest, c.depth - 1⟩)
    else .error (.unclosed opening.span t.kind t.span)

/-! ### Chains -/

private theorem forget_more (level : Level) {c c' : Cursor} (left : Expr) (d : Cursor)
    (h : d.rest.length < c.rest.length) (h' : d.rest.length < c'.rest.length) :
    forget (more level c left ⟨d, h⟩) = forget (more level c' left ⟨d, h'⟩) := by
  induction hn : d.rest.length using Nat.strongRecOn generalizing left d with
  | ind n ih =>
    obtain ⟨rest, depth⟩ := d
    cases rest with
    | nil => rw [more, more]; rfl
    | cons t rest =>
      rw [more, more]
      split
      · rfl
      · split
        · rfl
        · next right d' _ =>
          have hd : d'.1.rest.length < rest.length := d'.2
          exact ih d'.1.rest.length (by simp only [List.length_cons] at hn; omega) _ d'.1 _ _ rfl

theorem extend_nil (level : Level) (left : Expr) (depth : Nat) :
    extend level left ⟨[], depth⟩ = .ok (left, ⟨[], depth⟩) := by
  rw [extend, more]; rfl

theorem extend_cons (level : Level) (left : Expr) (t : Token) (rest : List Token) (depth : Nat) :
    extend level left ⟨t :: rest, depth⟩ =
      match level.operator? t.kind with
      | none => .ok (left, ⟨t :: rest, depth⟩)
      | some op =>
        match read level.lower ⟨rest, depth⟩ with
        | .error e => .error e
        | .ok (right, d) => extend level (.binary left op right) d := by
  rw [extend, more]
  cases level.operator? t.kind with
  | none => rfl
  | some op =>
    simp only [read]
    cases parse level.lower ⟨rest, depth⟩ with
    | error e => rfl
    | ok r => exact forget_more _ _ _ _ _

theorem read_chain {level : Level} (h : level ≠ .operand) (c : Cursor) :
    read level c =
      match read level.lower c with
      | .error e => .error e
      | .ok (left, d) => extend level left d := by
  cases level with
  | operand => exact absurd rfl h
  | product =>
    rw [read, parse]
    simp only [read, Level.lower]
    cases parse .operand c with
    | error e => rfl
    | ok r => exact forget_more _ _ _ _ _
  | sum =>
    rw [read, parse]
    simp only [read, Level.lower]
    cases parse .product c with
    | error e => rfl
    | ok r => exact forget_more _ _ _ _ _

/-! ### Operands -/

theorem read_operand_nil (depth : Nat) : read .operand ⟨[], depth⟩ = .error .outOfTokens := by
  rw [read, parse]; rfl

theorem read_operand_cons (t : Token) (rest : List Token) (depth : Nat) :
    read .operand ⟨t :: rest, depth⟩ =
      match t.kind with
      | .number =>
        match t.literal with
        | some value => .ok (.literal value, ⟨rest, depth⟩)
        | none => .error (.valueless t.span)
      | .leftParen =>
        if maxDepth ≤ depth then .error (.tooDeep t.span)
        else
          match read .sum ⟨rest, depth + 1⟩ with
          | .error e => .error e
          | .ok (e, d) => close t e d
      | kind => .error (.unexpected kind t.span) := by
  rw [read, parse]
  cases hk : t.kind with
  | number => cases t.literal <;> rfl
  | leftParen =>
    by_cases hd : maxDepth ≤ depth
    · have henter : enter t ⟨rest, depth⟩ = .error (.tooDeep t.span) := if_pos hd
      simp only [hd, if_true]
      split
      · next e h => rw [henter] at h; injection h with h; rw [← h]; rfl
      · next h => rw [henter] at h; simp at h
    · have henter : enter t ⟨rest, depth⟩ = .ok ⟨rest, depth + 1⟩ := if_neg hd
      simp only [hd, if_false]
      split
      · next h => rw [henter] at h; simp at h
      · next inner h =>
        rw [henter] at h
        injection h with h
        subst h
        simp only [read]
        cases parse .sum ⟨rest, depth + 1⟩ with
        | error e => rfl
        | ok r =>
          obtain ⟨e, ⟨inner, depth'⟩, hlt⟩ := r
          cases inner with
          | nil => rfl
          | cons u behind =>
            by_cases hu : u.kind = .rightParen
            · simp only [forget, leave, close, hu, if_true]
            · simp only [forget, leave, close, hu, if_false]
  | rightParen | plus | minus | star | slash | eof => rfl

/-- Every phrase takes at least one token. -/
theorem length_lt_of_read {level : Level} {c d : Cursor} {e : Expr} (h : read level c = .ok (e, d)) :
    d.rest.length < c.rest.length := by
  unfold read at h
  cases hp : parse level c with
  | error err => rw [hp] at h; simp [forget] at h
  | ok r =>
    rw [hp] at h
    simp only [forget, Except.ok.injEq, Prod.mk.injEq] at h
    rw [← h.2]
    exact r.2.2

/-- The whole of the tokens, up to the first end of the input. -/
theorem ofTokens_eq_match (tokens : List Token) :
    Expr.ofTokens tokens =
      match read .sum ⟨tokens, 0⟩ with
      | .error e => .error e
      | .ok (e, d) =>
        match d.rest with
        | [] => .error .outOfTokens
        | t :: _ => if t.kind = .eof then .ok e else .error (.leftover t.kind t.span) := by
  rw [Expr.ofTokens, read]
  cases parse .sum ⟨tokens, 0⟩ with
  | error e => rfl
  | ok r => rfl

/-! ### Induction -/

/-- What holds of every phrase, if it carries over along the equations of `read`, and `Chain` along those of
`extend`. -/
theorem reading_induction (Phrase Chain : Level → Cursor → Prop)
    (operandNil : ∀ depth, Phrase .operand ⟨[], depth⟩)
    (operandCons : ∀ t rest depth, Phrase .sum ⟨rest, depth + 1⟩ → Phrase .operand ⟨t :: rest, depth⟩)
    (phrase : ∀ level c, level ≠ .operand → Phrase level.lower c →
      (∀ d : Cursor, d.rest.length < c.rest.length → Chain level d) → Phrase level c)
    (chainNil : ∀ level depth, level ≠ .operand → Chain level ⟨[], depth⟩)
    (chainCons : ∀ level t rest depth, level ≠ .operand → Phrase level.lower ⟨rest, depth⟩ →
      (∀ d : Cursor, d.rest.length < rest.length → Chain level d) → Chain level ⟨t :: rest, depth⟩)
    (level : Level) (c : Cursor) : Phrase level c := by
  -- the length of the rest carries both; phrases of one length go up from the operands
  have hall : ∀ n, ∀ c : Cursor, c.rest.length = n →
      (∀ level, level ≠ .operand → Chain level c) ∧ ∀ level, Phrase level c := by
    intro n
    induction n using Nat.strongRecOn with
    | ind n ih =>
      intro c hn
      have hshort : ∀ level, level ≠ .operand → ∀ d : Cursor, d.rest.length < n → Chain level d :=
        fun level hl d hd => (ih d.rest.length hd d rfl).1 level hl
      obtain ⟨rest, depth⟩ := c
      have hchain : ∀ level, level ≠ .operand → Chain level ⟨rest, depth⟩ := by
        intro level hl
        cases rest with
        | nil => exact chainNil level depth hl
        | cons t rest =>
          simp only [List.length_cons] at hn
          refine chainCons level t rest depth hl ((ih rest.length (by omega) ⟨rest, depth⟩ rfl).2 level.lower) ?_
          exact fun d hd => hshort level hl d (by omega)
      have hoperand : Phrase .operand ⟨rest, depth⟩ := by
        cases rest with
        | nil => exact operandNil depth
        | cons t rest =>
          simp only [List.length_cons] at hn
          exact operandCons t rest depth ((ih rest.length (by omega) ⟨rest, depth + 1⟩ rfl).2 .sum)
      have hproduct : Phrase .product ⟨rest, depth⟩ :=
        phrase .product _ (by decide) hoperand fun d hd => hshort .product (by decide) d (hn ▸ hd)
      have hsum : Phrase .sum ⟨rest, depth⟩ :=
        phrase .sum _ (by decide) hproduct fun d hd => hshort .sum (by decide) d (hn ▸ hd)
      refine ⟨hchain, fun level => ?_⟩
      cases level with
      | operand => exact hoperand
      | product => exact hproduct
      | sum => exact hsum
  exact (hall c.rest.length c rfl).2 level

end Cursor

end Calculator
