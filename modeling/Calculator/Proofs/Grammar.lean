import Calculator.Expr.Parser

/-!
# The grammar

A sum is a product and then any number of `+` or `-` signs, each with a product behind it; a product is an operand and
then any number of `*` or `/` signs, each with an operand behind it; an operand is a number or a sum in parentheses.
`Derives` says which tokens are a phrase of a level and which expression they stand for, and `nesting` how many groups
are open at a time. A phrase closes all groups that it opens (`Derives.groupsAfter_eq`).
-/

namespace Calculator

/-! ### Operators -/

/-- The level of the chains that an operator links. -/
def Operator.level : Operator → Level
  | plus => .sum
  | minus => .sum
  | star => .product
  | slash => .product

theorem Operator.kind_injective {op op' : Operator} (h : op.kind = op'.kind) : op = op' := by
  revert h
  cases op <;> cases op' <;> decide

/-- The kinds that are not those of operators. -/
theorem Kind.cases_of_not_operator {k : Kind} (h : ∀ op : Operator, k ≠ op.kind) :
    k = .leftParen ∨ k = .rightParen ∨ k = .number ∨ k = .eof := by
  cases k with
  | plus => exact absurd rfl (h .plus)
  | minus => exact absurd rfl (h .minus)
  | star => exact absurd rfl (h .star)
  | slash => exact absurd rfl (h .slash)
  | leftParen | rightParen | number | eof => decide

private theorem Operator.level_ne_operand (op : Operator) : op.level ≠ .operand := by
  cases op <;> decide

namespace Level

theorem operator?_eq_some_iff {level : Level} {k : Kind} {op : Operator} :
    level.operator? k = some op ↔ k = op.kind ∧ op.level = level := by
  cases level <;> cases k <;> cases op <;> decide

theorem rank_lower_lt {level : Level} (h : level ≠ .operand) : level.lower.rank < level.rank := by
  cases level with
  | operand => exact absurd rfl h
  | sum | product => decide

/-- A phrase of a level ends before `rest`: no operator follows that one of its chains could go on with. -/
def Stops (level : Level) (rest : List Token) : Prop :=
  ∀ t ∈ rest.head?, ∀ op : Operator, t.kind = op.kind → level.rank < op.level.rank

theorem stops_nil (level : Level) : level.Stops [] := by
  intro t ht
  simp at ht

theorem stops_operand (rest : List Token) : operand.Stops rest := by
  intro t _ op _
  cases op <;> decide

theorem stops_cons_iff {level : Level} {t : Token} {rest : List Token} :
    level.Stops (t :: rest) ↔ ∀ op : Operator, t.kind = op.kind → level.rank < op.level.rank := by
  simp [Stops]

/-- A chain ends where its operands end and no operator of its own level follows. -/
theorem stops_cons_of_lower {level : Level} (h : level ≠ .operand) {t : Token} {rest : List Token}
    (hlow : level.lower.Stops (t :: rest)) (hop : level.operator? t.kind = none) : level.Stops (t :: rest) := by
  rw [stops_cons_iff] at hlow ⊢
  intro op hk
  have hlt := hlow op hk
  have hne : op.level ≠ level := by
    intro hl
    rw [operator?_eq_some_iff.2 ⟨hk, hl⟩] at hop
    simp at hop
  revert hlt hne
  cases level <;> cases op <;> simp [lower, Operator.level] at h ⊢

theorem kind_ne_of_stops_sum {t : Token} {rest : List Token} (h : sum.Stops (t :: rest)) (op : Operator) :
    t.kind ≠ op.kind := by
  intro hk
  have := stops_cons_iff.1 h op hk
  cases op <;> simp [Operator.level] at this

theorem Stops.lower {level : Level} {rest : List Token} (h : level.Stops rest) : level.lower.Stops rest := by
  intro t ht op hk
  have := h t ht op hk
  cases level <;> simp only [Level.lower, rank] at this ⊢ <;> omega

theorem Stops.operator?_eq_none {level : Level} {t : Token} {rest : List Token} (h : level.Stops (t :: rest)) :
    level.operator? t.kind = none := by
  rw [Option.eq_none_iff_forall_ne_some]
  intro op hop
  obtain ⟨hk, hl⟩ := operator?_eq_some_iff.1 hop
  have := stops_cons_iff.1 h op hk
  rw [hl] at this
  omega

end Level

/-! ### Derivations -/

/-- One repetition in a chain: the token of an operator, the tokens of the operand behind it, and what these stand
for. -/
structure Link where
  sign : Token
  op : Operator
  operand : List Token
  right : Expr

namespace Link

/-- The tokens of a link. -/
def tokens (l : Link) : List Token :=
  l.sign :: l.operand

/-- Puts a link behind a chain that stands for `left`. -/
def onto (left : Expr) (l : Link) : Expr :=
  .binary left l.op l.right

end Link

/-- `Derives level s e`: the tokens `s` are a phrase of the level, and `e` is its tree. Groups leave no node, and the
links of a chain are folded from the left. -/
inductive Derives : Level → List Token → Expr → Prop
  | number {t : Token} {value : Float} (kind : t.kind = .number) (literal : t.literal = some value) :
      Derives .operand [t] (.literal value)
  | group {opening closing : Token} {s : List Token} {e : Expr} (left : opening.kind = .leftParen)
      (right : closing.kind = .rightParen) (inner : Derives .sum s e) :
      Derives .operand (opening :: s ++ [closing]) e
  | chain {level : Level} {s : List Token} {e : Expr} {links : List Link} (isChain : level ≠ .operand)
      (first : Derives level.lower s e)
      (signs : ∀ l ∈ links, l.sign.kind = l.op.kind ∧ l.op.level = level)
      (operands : ∀ l ∈ links, Derives level.lower l.operand l.right) :
      Derives level (s ++ links.flatMap Link.tokens) (links.foldl Link.onto e)

namespace Derives

variable {level : Level} {s : List Token} {e : Expr}

/-- A phrase of the next lower level is a chain without links. -/
theorem lift (isChain : level ≠ .operand) (h : Derives level.lower s e) : Derives level s e := by
  have := @chain level s e [] isChain h (by simp) (by simp)
  simpa using this

/-- A phrase is one of every looser level, too. -/
theorem mono {level' : Level} (hle : level.rank ≤ level'.rank) (h : Derives level s e) : Derives level' s e := by
  cases level' with
  | operand =>
    cases level with
    | operand => exact h
    | sum | product => simp at hle
  | product =>
    cases level with
    | operand => exact h.lift (by decide)
    | product => exact h
    | sum => simp at hle
  | sum =>
    cases level with
    | operand => exact lift (by decide) (h.lift (by decide) : Derives .product s e)
    | product => exact h.lift (by decide)
    | sum => exact h

/-- A chain goes on with one more link. -/
theorem snoc {sign : Token} {op : Operator} {s' : List Token} {right : Expr} (h : Derives op.level s e)
    (kind : sign.kind = op.kind) (h' : Derives op.level.lower s' right) :
    Derives op.level (s ++ sign :: s') (.binary e op right) := by
  generalize hl : op.level = level at h
  cases h with
  | number => exact absurd hl op.level_ne_operand
  | group => exact absurd hl op.level_ne_operand
  | @chain _ s e links isChain first signs operands =>
    have hsigns : ∀ l ∈ links ++ [⟨sign, op, s', right⟩], l.sign.kind = l.op.kind ∧ l.op.level = level :=
      List.forall_mem_append.2 ⟨signs, List.forall_mem_singleton.2 ⟨kind, hl⟩⟩
    have hoperands : ∀ l ∈ links ++ [⟨sign, op, s', right⟩], Derives level.lower l.operand l.right :=
      List.forall_mem_append.2 ⟨operands, List.forall_mem_singleton.2 (hl ▸ h')⟩
    simpa [Link.tokens, Link.onto] using chain isChain first hsigns hoperands

/-- The tokens of a phrase. -/
private theorem token_cases (h : Derives level s e) :
    ∀ t ∈ s, (t.kind = .number ∧ t.literal.isSome) ∨ t.kind = .leftParen ∨ t.kind = .rightParen ∨
      ∃ op : Operator, t.kind = op.kind := by
  induction h with
  | number kind literal =>
    intro t ht
    rw [List.mem_singleton.1 ht, literal]
    exact .inl ⟨kind, rfl⟩
  | group left right _ ih =>
    intro t ht
    simp only [List.cons_append, List.mem_cons, List.mem_append, List.not_mem_nil, or_false] at ht
    rcases ht with rfl | ht | rfl
    · exact .inr (.inl left)
    · exact ih t ht
    · exact .inr (.inr (.inl right))
  | chain _ _ signs _ ih ihs =>
    intro t ht
    rcases List.mem_append.1 ht with ht | ht
    · exact ih t ht
    · obtain ⟨l, hl, ht⟩ := List.mem_flatMap.1 ht
      rcases List.mem_cons.1 ht with rfl | ht
      · exact .inr (.inr (.inr ⟨l.op, (signs l hl).1⟩))
      · exact ihs l hl t ht

theorem kind_ne_eof (h : Derives level s e) : ∀ t ∈ s, t.kind ≠ .eof := by
  intro t ht heof
  rcases h.token_cases t ht with ⟨hk, -⟩ | hk | hk | ⟨op, hk⟩
  · rw [hk] at heof; cases heof
  · rw [hk] at heof; cases heof
  · rw [hk] at heof; cases heof
  · rw [hk] at heof; cases op <;> cases heof

theorem isSome_literal (h : Derives level s e) : ∀ t ∈ s, t.kind = .number → t.literal.isSome := by
  intro t ht hnum
  rcases h.token_cases t ht with ⟨-, hv⟩ | hk | hk | ⟨op, hk⟩
  · exact hv
  · rw [hk] at hnum; cases hnum
  · rw [hk] at hnum; cases hnum
  · rw [hk] at hnum; cases op <;> cases hnum

end Derives

/-! ### Nesting -/

/-- The number of groups that are open behind a token of some kind, if `n` are open before it. -/
def Kind.groupsAfter (n : Nat) : Kind → Nat
  | leftParen => n + 1
  | rightParen => n - 1
  | _ => n

/-- The number of groups that are open behind tokens, if `n` are open before them. -/
def groupsAfter (n : Nat) : List Token → Nat
  | [] => n
  | t :: s => groupsAfter (t.kind.groupsAfter n) s

/-- The largest number of groups that are open at a time, if `n` are open before the tokens. -/
def deepest (n : Nat) : List Token → Nat
  | [] => n
  | t :: s => max n (deepest (t.kind.groupsAfter n) s)

/-- The largest number of parentheses inside one another. -/
def nesting (s : List Token) : Nat :=
  deepest 0 s

private theorem groupsAfter_append (n : Nat) (a b : List Token) :
    groupsAfter n (a ++ b) = groupsAfter (groupsAfter n a) b := by
  induction a generalizing n with
  | nil => rfl
  | cons t a ih => exact ih (t.kind.groupsAfter n)

theorem le_deepest (n : Nat) (s : List Token) : n ≤ deepest n s := by
  cases s with
  | nil => exact Nat.le_refl n
  | cons t s => exact Nat.le_max_left ..

theorem deepest_append (n : Nat) (a b : List Token) :
    deepest n (a ++ b) = max (deepest n a) (deepest (groupsAfter n a) b) := by
  induction a generalizing n with
  | nil => simp [deepest, groupsAfter, le_deepest]
  | cons t a ih =>
    rw [List.cons_append, deepest, deepest, ih, Nat.max_assoc]
    rfl

private theorem Operator.groupsAfter_kind (op : Operator) (n : Nat) : op.kind.groupsAfter n = n := by
  cases op <;> rfl

theorem deepest_operator {t : Token} {op : Operator} (h : t.kind = op.kind) (n : Nat) (s : List Token) :
    deepest n (t :: s) = deepest n s := by
  rw [deepest, h, op.groupsAfter_kind]
  exact Nat.max_eq_right (le_deepest n s)

namespace Derives

variable {level : Level} {s : List Token} {e : Expr}

/-- A phrase closes what it opens. -/
theorem groupsAfter_eq (h : Derives level s e) (n : Nat) : groupsAfter n s = n := by
  induction h generalizing n with
  | number kind _ => simp [groupsAfter, kind, Kind.groupsAfter]
  | group left right _ ih =>
    rw [List.cons_append, groupsAfter, left, Kind.groupsAfter, groupsAfter_append, ih (n + 1)]
    simp only [groupsAfter, right, Kind.groupsAfter, Nat.add_sub_cancel]
  | @chain _ s _ links _ _ signs operands ih ihs =>
    rw [groupsAfter_append, ih]
    clear operands
    induction links with
    | nil => rfl
    | cons l links ihl =>
      rw [List.forall_mem_cons] at signs ihs
      rw [List.flatMap_cons, groupsAfter_append, Link.tokens, groupsAfter, signs.1.1, Operator.groupsAfter_kind, ihs.1]
      exact ihl signs.2 ihs.2

end Derives

/-- Around a group there is one more open than before it. -/
theorem deepest_group {opening closing : Token} {s : List Token} {e : Expr} (left : opening.kind = .leftParen)
    (right : closing.kind = .rightParen) (h : Derives .sum s e) (n : Nat) :
    deepest n (opening :: s ++ [closing]) = deepest (n + 1) s := by
  have hle := le_deepest (n + 1) s
  rw [List.cons_append, deepest, deepest_append, left, Kind.groupsAfter, h.groupsAfter_eq]
  simp only [deepest, right, Kind.groupsAfter]
  omega

theorem deepest_flatMap_cons {n : Nat} {l : Link} {links : List Link} {level : Level}
    (sign : l.sign.kind = l.op.kind) (h : Derives level l.operand l.right) :
    deepest n ((l :: links).flatMap Link.tokens) =
      max (deepest n l.operand) (deepest n (links.flatMap Link.tokens)) := by
  rw [List.flatMap_cons, Link.tokens, List.cons_append, deepest_operator sign, deepest_append, h.groupsAfter_eq]

end Calculator
