import Calculator.Proofs.Parsing

/-!
# The pushdown machine

Tokens can be checked in one pass, from the left, by a machine that only remembers whether an operand has to come next
and which parentheses are open. The main statement, `map_ofTokens_eq_run`, says that reading by the grammar comes to the
same verdict, down to the token that is refused.
-/

namespace Calculator

/-- What has to come next. -/
inductive Expected
  | operand
  | operator
deriving DecidableEq, Repr

/-- What has to come next, and the places where the open groups were opened, the innermost first. -/
structure Pushdown where
  expected : Expected
  opened : List Span
deriving DecidableEq, Repr

namespace Pushdown

def start : Pushdown :=
  ⟨.operand, []⟩

/-- Takes a token: there is a next state, or none because the tokens are accepted, or the token is refused. -/
def step (m : Pushdown) (t : Token) : Except ParseError (Option Pushdown) :=
  match m with
  | ⟨.operand, opened⟩ =>
    match t.kind with
    | .number => if t.literal.isSome then .ok (some ⟨.operator, opened⟩) else .error (.valueless t.span)
    | .leftParen =>
      if opened.length < maxDepth then .ok (some ⟨.operand, t.span :: opened⟩) else .error (.tooDeep t.span)
    | kind => .error (.unexpected kind t.span)
  | ⟨.operator, opened⟩ =>
    match t.kind, opened with
    | .plus, opened | .minus, opened | .star, opened | .slash, opened => .ok (some ⟨.operand, opened⟩)
    | .rightParen, _ :: outer => .ok (some ⟨.operator, outer⟩)
    | .eof, [] => .ok none
    | kind, [] => .error (.leftover kind t.span)
    | kind, innermost :: _ => .error (.unclosed innermost kind t.span)

/-- Takes tokens one by one until they are accepted, one is refused, or none is left. -/
def run (m : Pushdown) : List Token → Except ParseError Unit
  | [] => .error .outOfTokens
  | t :: rest =>
    match m.step t with
    | .error e => .error e
    | .ok none => .ok ()
    | .ok (some m') => run m' rest

/-- The state behind tokens, if all of them are taken and none ends the run. -/
def walk (m : Pushdown) : List Token → Option Pushdown
  | [] => some m
  | t :: rest =>
    match m.step t with
    | .ok (some m') => walk m' rest
    | _ => none

/-! ### Single steps -/

variable {t : Token} {opened : List Span}

private theorem step_operator {op : Operator} (h : t.kind = op.kind) :
    step ⟨.operator, opened⟩ t = .ok (some ⟨.operand, opened⟩) := by
  cases opened <;> cases op <;> simp only [Operator.kind] at h <;> simp only [step, h]

private theorem step_rightParen {innermost : Span} (h : t.kind = .rightParen) :
    step ⟨.operator, innermost :: opened⟩ t = .ok (some ⟨.operator, opened⟩) := by
  simp only [step, h]

private theorem step_eof (h : t.kind = .eof) : step ⟨.operator, []⟩ t = .ok none := by
  simp only [step, h]

private theorem step_unclosed {innermost : Span} (h : t.kind ≠ .rightParen) (hop : ∀ op : Operator, t.kind ≠ op.kind) :
    step ⟨.operator, innermost :: opened⟩ t = .error (.unclosed innermost t.kind t.span) := by
  rcases Kind.cases_of_not_operator hop with hk | hk | hk | hk
  · simp only [step, hk]
  · exact absurd hk h
  · simp only [step, hk]
  · simp only [step, hk]

private theorem step_leftover (h : t.kind ≠ .eof) (hop : ∀ op : Operator, t.kind ≠ op.kind) :
    step ⟨.operator, []⟩ t = .error (.leftover t.kind t.span) := by
  rcases Kind.cases_of_not_operator hop with hk | hk | hk | hk
  · simp only [step, hk]
  · simp only [step, hk]
  · simp only [step, hk]
  · exact absurd hk h

/-- An end of the input ends every run. -/
private theorem step_ne_some_of_eof (h : t.kind = .eof) (m m' : Pushdown) : m.step t ≠ .ok (some m') := by
  obtain ⟨expected, opened⟩ := m
  cases expected with
  | operand => simp [step, h]
  | operator => cases opened <;> simp [step, h]

/-- Nothing but an end of the input is where tokens are accepted. -/
theorem kind_eq_eof_of_step {m : Pushdown} (h : m.step t = .ok none) : t.kind = .eof := by
  obtain ⟨expected, opened⟩ := m
  cases expected with
  | operand =>
    cases hk : t.kind <;> simp only [step, hk] at h
    · split at h <;> simp at h
    · simp at h
    · split at h <;> simp at h
    all_goals simp at h
  | operator =>
    cases hk : t.kind <;> cases opened <;> simp [step, hk] at h ⊢

/-! ### Runs -/

theorem run_append {m m' : Pushdown} {s : List Token} (h : m.walk s = some m') (more : List Token) :
    m.run (s ++ more) = m'.run more := by
  induction s generalizing m with
  | nil => rw [Option.some.inj h]; rfl
  | cons t s ih =>
    unfold walk at h
    split at h
    · next m₁ hstep =>
      rw [List.cons_append, run, hstep]
      exact ih h
    · simp at h

/-- A run takes all tokens, or it ends at one of them. -/
theorem walk_cases (m : Pushdown) (tokens : List Token) :
    (∃ m', m.walk tokens = some m') ∨
      ∃ s t rest m', tokens = s ++ t :: rest ∧ m.walk s = some m' ∧ ∀ m'', m'.step t ≠ .ok (some m'') := by
  induction tokens generalizing m with
  | nil => exact .inl ⟨m, rfl⟩
  | cons t rest ih =>
    by_cases hstep : ∃ m', m.step t = .ok (some m')
    · obtain ⟨m', hstep⟩ := hstep
      rcases ih m' with ⟨m₁, hw⟩ | ⟨s, u, rest', m₁, rfl, hw, hend⟩
      · exact .inl ⟨m₁, by simp only [walk, hstep, hw]⟩
      · exact .inr ⟨t :: s, u, rest', m₁, rfl, by simp only [walk, hstep, hw], hend⟩
    · exact .inr ⟨[], t, rest, m, rfl, rfl, fun m' h => hstep ⟨m', h⟩⟩

theorem walk_kind_ne_eof {m m' : Pushdown} {s : List Token} (h : m.walk s = some m') : ∀ t ∈ s, t.kind ≠ .eof := by
  induction s generalizing m with
  | nil => simp
  | cons t s ih =>
    unfold walk at h
    split at h
    · next m₁ hstep =>
      refine List.forall_mem_cons.2 ⟨fun ht => step_ne_some_of_eof ht m m₁ hstep, ih h⟩
    · simp at h

/-- A run that fails took all tokens, or one of them was refused. -/
theorem exists_step_of_run {m : Pushdown} {tokens : List Token} {err : ParseError} (h : m.run tokens = .error err) :
    (err = .outOfTokens ∧ ∀ t ∈ tokens, t.kind ≠ .eof) ∨
      ∃ s t rest m', tokens = s ++ t :: rest ∧ m.walk s = some m' ∧ m'.step t = .error err := by
  rcases walk_cases m tokens with ⟨m', hw⟩ | ⟨s, t, rest, m', rfl, hw, hend⟩
  · have hrun := run_append hw []
    rw [List.append_nil, h, run] at hrun
    injection hrun with herr
    exact .inl ⟨herr, walk_kind_ne_eof hw⟩
  · rw [run_append hw, run] at h
    cases hstep : m'.step t with
    | error e =>
      rw [hstep] at h
      injection h with herr
      exact .inr ⟨s, t, rest, m', rfl, hw, by rw [hstep, herr]⟩
    | ok next =>
      cases next with
      | some m'' => exact absurd hstep (hend m'')
      | none => rw [hstep] at h; cases h

/-- A run does not look behind the first end of the input. -/
theorem run_take_eof (m : Pushdown) (tokens : List Token) :
    m.run (tokens.take (tokens.findIdx (·.kind = .eof) + 1)) = m.run tokens := by
  induction tokens generalizing m with
  | nil => rfl
  | cons t rest ih =>
    by_cases ht : t.kind = .eof
    · simp only [List.findIdx_cons, ht, decide_true, cond_true, List.take_succ_cons, List.take_zero, run]
      split
      · rfl
      · rfl
      · next m' hstep => exact absurd hstep (step_ne_some_of_eof ht m m')
    · simp only [List.findIdx_cons, ht, decide_false, cond_false, List.take_succ_cons, run, ih]

/-! ### Completing tokens -/

/-- Tokens that close groups and end the input. -/
def closers (opened : List Span) : List Token :=
  opened.map (fun span => ⟨.rightParen, [], none, 0, span⟩) ++ [⟨.eof, [], none, 0, .empty 0⟩]

private theorem run_closers (opened : List Span) : run ⟨.operator, opened⟩ (closers opened) = .ok () := by
  induction opened with
  | nil => rfl
  | cons innermost outer ih => exact ih

/-- From every state there is a way to be accepted. -/
theorem exists_run_eq_ok (m : Pushdown) : ∃ more, m.run more = .ok () := by
  obtain ⟨expected, opened⟩ := m
  cases expected with
  | operand => exact ⟨⟨.number, [], some 0, 0, .empty 0⟩ :: closers opened, run_closers opened⟩
  | operator => exact ⟨closers opened, run_closers opened⟩

/-! ### Reading and the machine -/

/-- The verdict of the machine on what is behind a phrase that has been read. -/
def runBehind (opened : List Span) : Cursor.Outcome → Except ParseError Unit
  | .error e => .error e
  | .ok (_, d) => run ⟨.operator, opened⟩ d.rest

private theorem run_close {opening : Token} {e : Expr} {c : Cursor} (hstop : Level.sum.Stops c.rest) :
    run ⟨.operator, opening.span :: opened⟩ c.rest = runBehind opened (Cursor.close opening e c) := by
  obtain ⟨rest, depth⟩ := c
  cases rest with
  | nil => rfl
  | cons t rest =>
    by_cases ht : t.kind = .rightParen
    · simp only [run, step_rightParen ht, Cursor.close, ht, if_true, runBehind]
    · simp only [run, step_unclosed ht (Level.kind_ne_of_stops_sum hstop), Cursor.close, ht, if_false, runBehind]

/-- Reading an operand takes the machine behind it, within the same groups. -/
private theorem run_operand {t : Token} {rest : List Token} {depth : Nat}
    (ih : ∀ opened : List Span, opened.length = depth + 1 → depth + 1 ≤ maxDepth →
      run ⟨.operand, opened⟩ rest = runBehind opened (Cursor.read .sum ⟨rest, depth + 1⟩))
    (hlen : opened.length = depth) :
    run ⟨.operand, opened⟩ (t :: rest) = runBehind opened (Cursor.read .operand ⟨t :: rest, depth⟩) := by
  rw [run, Cursor.read_operand_cons, step]
  cases hk : t.kind with
  | number => cases t.literal <;> rfl
  | leftParen =>
    by_cases hd : maxDepth ≤ depth
    · simp only [hlen, hd, Nat.not_lt.2 hd, if_true, if_false, runBehind]
    · have hlt : depth < maxDepth := Nat.lt_of_not_le hd
      simp only [hlen, hd, hlt, if_true, if_false]
      rw [ih (t.span :: opened) (by simp [hlen]) hlt]
      cases hr : Cursor.read .sum ⟨rest, depth + 1⟩ with
      | error e => rfl
      | ok r => exact run_close (Cursor.spans_of_read (c := ⟨rest, depth + 1⟩) hlt hr).stops
  | rightParen | plus | minus | star | slash | eof => rfl

/-- Reading a phrase takes the machine behind it, within the same groups. -/
private theorem run_phrase (level : Level) (c : Cursor) (opened : List Span) (hlen : opened.length = c.depth)
    (hd : c.depth ≤ maxDepth) : run ⟨.operand, opened⟩ c.rest = runBehind opened (Cursor.read level c) := by
  -- the depth of the cursor is the number of open groups all along
  refine Cursor.reading_induction
    (fun level c => ∀ opened : List Span, opened.length = c.depth → c.depth ≤ maxDepth →
      run ⟨.operand, opened⟩ c.rest = runBehind opened (Cursor.read level c))
    (fun level c => ∀ left (opened : List Span), opened.length = c.depth → c.depth ≤ maxDepth →
      run ⟨.operator, opened⟩ c.rest = runBehind opened (Cursor.extend level left c))
    ?operandNil ?operandCons ?phrase ?chainNil ?chainCons level c opened hlen hd
  case operandNil =>
    intro depth opened _ _
    rw [Cursor.read_operand_nil]
    rfl
  case operandCons =>
    intro t rest depth ih opened hlen _
    exact run_operand ih hlen
  case phrase =>
    intro level c hl ih ihc opened hlen hd
    rw [Cursor.read_chain hl, ih opened hlen hd]
    cases hr : Cursor.read level.lower c with
    | error e => rfl
    | ok r =>
      have hds := (Cursor.spans_of_read hd hr).depth_eq
      exact ihc r.2 (Cursor.length_lt_of_read hr) r.1 opened (hlen.trans hds.symm) (hds ▸ hd)
  case chainNil =>
    intro level depth _ left opened _ _
    rw [Cursor.extend_nil]
    rfl
  case chainCons =>
    intro level t rest depth hl ih ihc left opened hlen hd
    rw [Cursor.extend_cons]
    cases hop : level.operator? t.kind with
    | none => rfl
    | some op =>
      simp only [run, step_operator (Level.operator?_eq_some_iff.1 hop).1]
      rw [ih opened hlen hd]
      cases hr : Cursor.read level.lower ⟨rest, depth⟩ with
      | error e => rfl
      | ok r =>
        have hds := (Cursor.spans_of_read (c := ⟨rest, depth⟩) hd hr).depth_eq
        exact ihc r.2 (Cursor.length_lt_of_read hr) _ opened (hlen.trans hds.symm) (hds ▸ hd)

/-- Tokens are an expression exactly if the machine accepts them, and else both refuse them for the same reason. -/
theorem map_ofTokens_eq_run (tokens : List Token) : (Expr.ofTokens tokens).map (fun _ => ()) = run start tokens := by
  have hd : (⟨tokens, 0⟩ : Cursor).depth ≤ maxDepth := Nat.zero_le _
  rw [start, run_phrase .sum ⟨tokens, 0⟩ [] rfl hd, Cursor.ofTokens_eq_match]
  cases hr : Cursor.read .sum ⟨tokens, 0⟩ with
  | error e => rfl
  | ok r =>
    obtain ⟨e, ⟨rest, depth⟩⟩ := r
    have hstop := (Cursor.spans_of_read hd hr).stops
    cases rest with
    | nil => rfl
    | cons t rest =>
      by_cases ht : t.kind = .eof
      · simp only [runBehind, run, step_eof ht, ht, if_true]; rfl
      · simp only [runBehind, run, step_leftover ht (Level.kind_ne_of_stops_sum hstop), ht, if_false]; rfl

theorem ofTokens_eq_error_iff {tokens : List Token} {err : ParseError} :
    Expr.ofTokens tokens = .error err ↔ run start tokens = .error err := by
  rw [← map_ofTokens_eq_run]
  cases Expr.ofTokens tokens with
  | error e => simp [Except.map]
  | ok e => simp [Except.map]

end Pushdown

end Calculator
