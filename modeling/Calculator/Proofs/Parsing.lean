import Calculator.Proofs.Grammar
import Calculator.Proofs.Reading

/-!
# Parsing is deriving

`Cursor.read_eq_ok_iff`: a level is read exactly if the tokens start with a phrase of it that is not nested too deep and
that no operator continues. `Expr.ofTokens_eq_ok_iff` says the same of a whole input.
-/

namespace Calculator

namespace Cursor

variable {level : Level} {c d : Cursor} {e : Expr}

/-! ### What is read can be derived -/

private theorem close_eq_ok_iff {opening : Token} {inner : Expr} :
    close opening inner c = .ok (e, d) ↔
      e = inner ∧ ∃ t : Token, t.kind = .rightParen ∧ c.rest = t :: d.rest ∧ d.depth = c.depth - 1 := by
  obtain ⟨rest, depth⟩ := c
  obtain ⟨rest', depth'⟩ := d
  cases rest with
  | nil => simp [close]
  | cons t rest =>
    by_cases ht : t.kind = .rightParen
    · simp only [close, ht, if_true, Except.ok.injEq, Prod.mk.injEq, Cursor.mk.injEq, List.cons.injEq]
      constructor
      · rintro ⟨rfl, rfl, rfl⟩; exact ⟨rfl, t, ht, ⟨rfl, rfl⟩, rfl⟩
      · rintro ⟨rfl, u, -, ⟨rfl, rfl⟩, rfl⟩; exact ⟨rfl, rfl, rfl⟩
    · simp only [close, ht, if_false, reduceCtorEq, List.cons.injEq, false_iff, not_and]
      rintro - ⟨u, hu, ⟨rfl, -⟩, -⟩
      exact ht hu

/-- An operand is a number or a group. -/
private theorem read_operand_eq_ok {t : Token} {rest : List Token} {depth : Nat}
    (h : read .operand ⟨t :: rest, depth⟩ = .ok (e, d)) :
    (∃ value, t.kind = .number ∧ t.literal = some value ∧ e = .literal value ∧ d = ⟨rest, depth⟩) ∨
    (t.kind = .leftParen ∧ depth < maxDepth ∧ ∃ (c : Cursor) (closing : Token), closing.kind = .rightParen ∧
      read .sum ⟨rest, depth + 1⟩ = .ok (e, c) ∧ c.rest = closing :: d.rest ∧ d.depth = c.depth - 1) := by
  rw [read_operand_cons] at h
  split at h
  · next hk =>
    split at h
    · next value hv =>
      simp only [Except.ok.injEq, Prod.mk.injEq] at h
      exact .inl ⟨value, hk, hv, h.1.symm, h.2.symm⟩
    · simp at h
  · next hk =>
    split at h
    · simp at h
    · next hd =>
      split at h
      · simp at h
      · next inner c hr =>
        obtain ⟨rfl, closing, hc, hrest, hdepth⟩ := close_eq_ok_iff.1 h
        exact .inr ⟨hk, Nat.lt_of_not_le hd, c, closing, hc, hr, hrest, hdepth⟩
  · simp at h

/-- A phrase of a level that starts at `c`, stands for `e`, ends at `d`, and opens no group too many. -/
def Spans (level : Level) (c : Cursor) (e : Expr) (d : Cursor) : Prop :=
  ∃ s, c.rest = s ++ d.rest ∧ d.depth = c.depth ∧ Derives level s e ∧ deepest c.depth s ≤ maxDepth ∧
    level.Stops d.rest

theorem Spans.depth_eq (h : Spans level c e d) : d.depth = c.depth := by
  obtain ⟨s, -, hd, -⟩ := h
  exact hd

theorem Spans.stops (h : Spans level c e d) : level.Stops d.rest := by
  obtain ⟨s, -, -, -, -, hstop⟩ := h
  exact hstop

/-- Links of a chain that start at `c`, behind `left`, and make it `e` at `d`. -/
private def Joins (level : Level) (left : Expr) (c : Cursor) (e : Expr) (d : Cursor) : Prop :=
  ∃ links : List Link, c.rest = links.flatMap Link.tokens ++ d.rest ∧ d.depth = c.depth ∧
    e = links.foldl Link.onto left ∧ (∀ l ∈ links, l.sign.kind = l.op.kind ∧ l.op.level = level) ∧
    (∀ l ∈ links, Derives level.lower l.operand l.right) ∧ deepest c.depth (links.flatMap Link.tokens) ≤ maxDepth ∧
    level.Stops d.rest

private theorem Joins.nil {left : Expr} (hd : c.depth ≤ maxDepth) (hstop : level.Stops c.rest) :
    Joins level left c left c :=
  ⟨[], rfl, rfl, rfl, by simp, by simp, hd, hstop⟩

private theorem Joins.cons {t : Token} {rest : List Token} {depth : Nat} {op : Operator} {left right : Expr}
    {c' : Cursor} (hop : level.operator? t.kind = some op) (h : Spans level.lower ⟨rest, depth⟩ right c')
    (h' : Joins level (.binary left op right) c' e d) : Joins level left ⟨t :: rest, depth⟩ e d := by
  obtain ⟨hk, hl⟩ := Level.operator?_eq_some_iff.1 hop
  obtain ⟨s, hs, hds, hder, hdeep, -⟩ := h
  obtain ⟨links, hls, hdl, he, hsigns, hops, hdeepl, hstop⟩ := h'
  simp only at hs hds hdeep
  rw [hds] at hdl hdeepl
  refine ⟨⟨t, op, s, right⟩ :: links, ?_, hdl, he, List.forall_mem_cons.2 ⟨⟨hk, hl⟩, hsigns⟩,
    List.forall_mem_cons.2 ⟨hder, hops⟩, ?_, hstop⟩
  · rw [hs, hls]; simp [Link.tokens]
  · rw [deepest_flatMap_cons hk hder]; exact Nat.max_le.2 ⟨hdeep, hdeepl⟩

private theorem spans_of_joins {left : Expr} {c' : Cursor} (hl : level ≠ .operand) (h : Spans level.lower c left c')
    (h' : Joins level left c' e d) : Spans level c e d := by
  obtain ⟨s, hs, hds, hder, hdeep, -⟩ := h
  obtain ⟨links, hls, hdl, rfl, hsigns, hops, hdeepl, hstop⟩ := h'
  rw [hds] at hdl hdeepl
  refine ⟨s ++ links.flatMap Link.tokens, ?_, hdl, .chain hl hder hsigns hops, ?_, hstop⟩
  · rw [hs, hls, List.append_assoc]
  · rw [deepest_append, hder.groupsAfter_eq]; exact Nat.max_le.2 ⟨hdeep, hdeepl⟩

private theorem spans_number {t : Token} {rest : List Token} {depth : Nat} {value : Float} (hk : t.kind = .number)
    (hv : t.literal = some value) (hd : depth ≤ maxDepth) :
    Spans .operand ⟨t :: rest, depth⟩ (.literal value) ⟨rest, depth⟩ := by
  refine ⟨[t], rfl, rfl, .number hk hv, ?_, Level.stops_operand _⟩
  simpa [deepest, hk, Kind.groupsAfter] using hd

private theorem spans_group {t closing : Token} {rest rest' : List Token} {depth : Nat} {c' : Cursor}
    (hk : t.kind = .leftParen) (hc : closing.kind = .rightParen) (h : Spans .sum ⟨rest, depth + 1⟩ e c')
    (hrest : c'.rest = closing :: rest') : Spans .operand ⟨t :: rest, depth⟩ e ⟨rest', c'.depth - 1⟩ := by
  obtain ⟨s, hs, hds, hder, hdeep, -⟩ := h
  simp only at hs hds hdeep
  refine ⟨t :: s ++ [closing], ?_, by rw [hds]; rfl, .group hk hc hder, ?_, Level.stops_operand _⟩
  · rw [hs, hrest]; simp
  · rw [deepest_group hk hc hder]; exact hdeep

/-- Whatever is read spans a phrase. -/
theorem spans_of_read (hd : c.depth ≤ maxDepth) (h : read level c = .ok (e, d)) : Spans level c e d := by
  -- a chain is extended only where its last operand stopped, so that no operator of a lower level comes next
  refine reading_induction
    (fun level c => ∀ e d, c.depth ≤ maxDepth → read level c = .ok (e, d) → Spans level c e d)
    (fun level c => ∀ left e d, c.depth ≤ maxDepth → level.lower.Stops c.rest →
      extend level left c = .ok (e, d) → Joins level left c e d)
    ?operandNil ?operandCons ?phrase ?chainNil ?chainCons level c e d hd h
  case operandNil =>
    intro depth e d _ h
    rw [read_operand_nil] at h
    simp at h
  case operandCons =>
    intro t rest depth ih e d hd h
    rcases read_operand_eq_ok h with ⟨value, hk, hv, rfl, rfl⟩ | ⟨hk, hlt, c', closing, hc, hr, hrest, hdepth⟩
    · exact spans_number hk hv hd
    · have := spans_group hk hc (ih e c' hlt hr) hrest
      rwa [← hdepth] at this
  case phrase =>
    intro level c hl ih ihc e d hd h
    rw [read_chain hl] at h
    split at h
    · simp at h
    · next left c' hr =>
      have hs := ih left c' hd hr
      exact spans_of_joins hl hs (ihc c' (length_lt_of_read hr) left e d (hs.depth_eq ▸ hd) hs.stops h)
  case chainNil =>
    intro level depth _ left e d hd _ h
    rw [extend_nil] at h
    simp only [Except.ok.injEq, Prod.mk.injEq] at h
    obtain ⟨rfl, rfl⟩ := h
    exact .nil hd (Level.stops_nil level)
  case chainCons =>
    intro level t rest depth hl ih ihc left e d hd hstop h
    rw [extend_cons] at h
    split at h
    · next hop =>
      simp only [Except.ok.injEq, Prod.mk.injEq] at h
      obtain ⟨rfl, rfl⟩ := h
      exact .nil hd (Level.stops_cons_of_lower hl hstop hop)
    · next op hop =>
      split at h
      · simp at h
      · next right c' hr =>
        have hs := ih right c' hd hr
        exact .cons hop hs (ihc c' (length_lt_of_read hr) _ e d (hs.depth_eq ▸ hd) hs.stops h)

/-! ### What can be derived is read -/

private theorem stops_links {links : List Link} {rest : List Token} (hl : level ≠ .operand)
    (hsigns : ∀ l ∈ links, l.sign.kind = l.op.kind ∧ l.op.level = level) (hstop : level.Stops rest) :
    level.lower.Stops (links.flatMap Link.tokens ++ rest) := by
  cases links with
  | nil => exact hstop.lower
  | cons l links =>
    obtain ⟨hk, hlevel⟩ := hsigns l (by simp)
    rw [List.flatMap_cons, Link.tokens, List.cons_append, List.cons_append, Level.stops_cons_iff]
    intro op hop
    rw [← Operator.kind_injective (hk.symm.trans hop), hlevel]
    exact Level.rank_lower_lt hl

private theorem stops_rightParen {t : Token} (h : t.kind = .rightParen) (rest : List Token) :
    level.Stops (t :: rest) := by
  rw [Level.stops_cons_iff, h]
  intro op hop
  cases op <;> cases hop

/-- Reading gets through operands one by one, so it gets through the links of a chain. -/
private theorem extend_links {links : List Link} {rest : List Token} {left : Expr} {depth : Nat}
    (hl : level ≠ .operand) (hsigns : ∀ l ∈ links, l.sign.kind = l.op.kind ∧ l.op.level = level)
    (hops : ∀ l ∈ links, Derives level.lower l.operand l.right)
    (hread : ∀ l ∈ links, ∀ depth rest, deepest depth l.operand ≤ maxDepth → level.lower.Stops rest →
      read level.lower ⟨l.operand ++ rest, depth⟩ = .ok (l.right, ⟨rest, depth⟩))
    (hdeep : deepest depth (links.flatMap Link.tokens) ≤ maxDepth) (hstop : level.Stops rest) :
    extend level left ⟨links.flatMap Link.tokens ++ rest, depth⟩ = .ok (links.foldl Link.onto left, ⟨rest, depth⟩) := by
  induction links generalizing left with
  | nil =>
    cases rest with
    | nil => exact extend_nil level left depth
    | cons t rest => rw [List.flatMap_nil, List.nil_append, extend_cons, hstop.operator?_eq_none]; rfl
  | cons l links ih =>
    rw [List.forall_mem_cons] at hsigns hops hread
    obtain ⟨⟨hk, hlevel⟩, hsigns⟩ := hsigns
    rw [deepest_flatMap_cons hk hops.1] at hdeep
    obtain ⟨hdeepl, hdeep⟩ := Nat.max_le.1 hdeep
    have hop : level.operator? l.sign.kind = some l.op := Level.operator?_eq_some_iff.2 ⟨hk, hlevel⟩
    have hr := hread.1 depth (links.flatMap Link.tokens ++ rest) hdeepl (stops_links hl hsigns hstop)
    rw [List.flatMap_cons, Link.tokens, List.cons_append, List.cons_append, List.append_assoc, extend_cons, hop]
    simp only [hr]
    exact ih hsigns hops.2 hread.2 hdeep

/-- A phrase that opens no group too many is read, whatever comes behind it. -/
theorem read_of_derives {s : List Token} (h : Derives level s e) (depth : Nat) (rest : List Token)
    (hdeep : deepest depth s ≤ maxDepth) (hstop : level.Stops rest) :
    read level ⟨s ++ rest, depth⟩ = .ok (e, ⟨rest, depth⟩) := by
  induction h generalizing depth rest with
  | number kind literal =>
    rw [List.singleton_append, read_operand_cons, kind, literal]
  | @group opening closing s e left right inner ih =>
    rw [deepest_group left right inner] at hdeep
    have hlt : ¬ maxDepth ≤ depth := by
      have := le_deepest (depth + 1) s
      omega
    have hr := ih (depth + 1) (closing :: rest) hdeep (stops_rightParen right rest)
    rw [List.append_assoc, List.cons_append, read_operand_cons, left]
    simp only [hlt, if_false, List.singleton_append, hr, close, right, if_true, Nat.add_sub_cancel]
  | chain isChain first signs operands ih ihs =>
    rw [deepest_append, first.groupsAfter_eq] at hdeep
    obtain ⟨hdeep, hdeepl⟩ := Nat.max_le.1 hdeep
    rw [List.append_assoc, read_chain isChain, ih depth _ hdeep (stops_links isChain signs hstop)]
    exact extend_links isChain signs operands ihs hdeepl hstop

/-- A level is read exactly if a phrase of it comes next. -/
theorem read_eq_ok_iff (hd : c.depth ≤ maxDepth) : read level c = .ok (e, d) ↔ Spans level c e d := by
  constructor
  · exact spans_of_read hd
  · rintro ⟨s, hs, hds, hder, hdeep, hstop⟩
    obtain ⟨rest, depth⟩ := c
    obtain ⟨rest', depth'⟩ := d
    simp only at hs hds hdeep
    rw [hs, hds]
    exact read_of_derives hder depth rest' hdeep hstop

end Cursor

/-! ### Whole inputs -/

/-- Tokens are read exactly if they start with a sum that is not nested too deep and the end of the input. -/
theorem Expr.ofTokens_eq_ok_iff {tokens : List Token} {e : Expr} :
    Expr.ofTokens tokens = .ok e ↔
      ∃ s t rest, tokens = s ++ t :: rest ∧ t.kind = .eof ∧ Derives .sum s e ∧ nesting s ≤ maxDepth := by
  have hd : (⟨tokens, 0⟩ : Cursor).depth ≤ maxDepth := Nat.zero_le _
  rw [Cursor.ofTokens_eq_match]
  constructor
  · intro h
    split at h
    · simp at h
    · next e' d hr =>
      obtain ⟨s, hs, -, hder, hdeep, -⟩ := Cursor.spans_of_read hd hr
      split at h
      · simp at h
      · next t rest hrest =>
        split at h
        · next ht =>
          injection h with h
          subst h
          exact ⟨s, t, rest, hrest ▸ hs, ht, hder, hdeep⟩
        · simp at h
  · rintro ⟨s, t, rest, rfl, ht, hder, hdeep⟩
    have hstop : Level.sum.Stops (t :: rest) := by
      rw [Level.stops_cons_iff, ht]
      intro op hop
      cases op <;> cases hop
    rw [Cursor.read_of_derives hder 0 (t :: rest) hdeep hstop]
    simp only [ht, if_true]

end Calculator
