import Calculator.Proofs.Pushdown

/-!
# Accepting and refusing tokens

* `ofTokens_eq_ok_iff_derives`: tokens are read exactly if those before the first end of the input derive from the
  grammar and their groups are not nested too deep.
* `ofTokens_refuses_earliest`: tokens that are not read are refused as the pushdown machine refuses them, at the first
  token behind which nothing helps any more.
-/

namespace Calculator

open Pushdown (run walk start ofTokens_eq_error_iff)

/-! ### Verdicts -/

private theorem exists_ofTokens_eq_ok_iff {tokens : List Token} :
    (∃ e, Expr.ofTokens tokens = .ok e) ↔ run start tokens = .ok () := by
  rw [← Pushdown.map_ofTokens_eq_run]
  cases Expr.ofTokens tokens with
  | error e => simp [Except.map]
  | ok e => simp [Except.map]

/-! ### Accepted tokens -/

private theorem take_eof_append {s : List Token} (hs : ∀ u ∈ s, u.kind ≠ .eof) {t : Token} (ht : t.kind = .eof)
    (rest : List Token) :
    (s ++ t :: rest).take ((s ++ t :: rest).findIdx (·.kind = .eof) + 1) = s ++ [t] := by
  induction s with
  | nil => simp [List.findIdx_cons, ht]
  | cons u s ih =>
    rw [List.forall_mem_cons] at hs
    have hu : decide (u.kind = .eof) = false := decide_eq_false hs.1
    rw [List.cons_append, List.findIdx_cons, hu, cond_false, List.take_succ_cons, ih hs.2, List.cons_append]

/-- Tokens are read as `e` exactly if those before the first end of the input are a sum with the tree `e`, with a value
in each number and at most 256 groups inside one another. Tokens behind that end never matter. -/
theorem ofTokens_eq_ok_iff_derives (tokens : List Token) :
    (∀ e, Expr.ofTokens tokens = .ok e ↔
      ∃ s t rest, tokens = s ++ t :: rest ∧ t.kind = .eof ∧ (∀ u ∈ s, u.kind ≠ .eof) ∧
        (∀ u ∈ s, u.kind = .number → u.literal.isSome) ∧ Derives .sum s e ∧ nesting s ≤ 256) ∧
    Expr.ofTokens (tokens.take (tokens.findIdx (·.kind = .eof) + 1)) = Expr.ofTokens tokens := by
  constructor
  · intro e
    rw [Expr.ofTokens_eq_ok_iff]
    constructor
    · rintro ⟨s, t, rest, htokens, ht, hder, hdeep⟩
      exact ⟨s, t, rest, htokens, ht, hder.kind_ne_eof, hder.isSome_literal, hder, hdeep⟩
    · rintro ⟨s, t, rest, htokens, ht, -, -, hder, hdeep⟩
      exact ⟨s, t, rest, htokens, ht, hder, hdeep⟩
  · cases h : Expr.ofTokens tokens with
    | error err =>
      rw [ofTokens_eq_error_iff] at h ⊢
      rw [Pushdown.run_take_eof, h]
    | ok e =>
      rw [Expr.ofTokens_eq_ok_iff] at h ⊢
      obtain ⟨s, t, rest, rfl, ht, hder, hdeep⟩ := h
      exact ⟨s, t, [], take_eof_append hder.kind_ne_eof ht rest, ht, hder, hdeep⟩

/-! ### Refused tokens -/

/-- Tokens that an expression can start with. -/
def Viable (s : List Token) : Prop :=
  ∃ more e, Expr.ofTokens (s ++ more) = .ok e

/-- An error names a token: the one that cannot come next, even where a group is not closed. -/
def ParseError.Blames (t : Token) : ParseError → Prop
  | unexpected kind span => kind = t.kind ∧ span = t.span
  | unclosed _ kind span => kind = t.kind ∧ span = t.span
  | valueless span => t.kind = .number ∧ t.literal = none ∧ span = t.span
  | tooDeep span => t.kind = .leftParen ∧ span = t.span
  | leftover kind span => kind = t.kind ∧ span = t.span
  | outOfTokens => False

private theorem viable_iff {s : List Token} : Viable s ↔ ∃ more, run start (s ++ more) = .ok () := by
  constructor
  · rintro ⟨more, h⟩
    exact ⟨more, exists_ofTokens_eq_ok_iff.1 h⟩
  · rintro ⟨more, h⟩
    exact ⟨more, exists_ofTokens_eq_ok_iff.2 h⟩

private theorem viable_of_walk {s : List Token} {m : Pushdown} (h : walk start s = some m) : Viable s := by
  obtain ⟨more, hmore⟩ := m.exists_run_eq_ok
  exact viable_iff.2 ⟨more, (Pushdown.run_append h more).trans hmore⟩

private theorem not_viable_of_step {s : List Token} {t : Token} {m : Pushdown} {err : ParseError}
    (h : walk start s = some m) (hstep : m.step t = .error err) : ¬ Viable (s ++ [t]) := by
  rw [viable_iff]
  rintro ⟨more, hrun⟩
  rw [List.append_assoc, Pushdown.run_append h, List.singleton_append, run, hstep] at hrun
  simp at hrun

theorem blames_of_step {m : Pushdown} {t : Token} {err : ParseError} (h : m.step t = .error err) :
    err.Blames t := by
  obtain ⟨expected, opened⟩ := m
  cases expected with
  | operand =>
    cases hk : t.kind <;> simp only [Pushdown.step, hk] at h
    · split at h
      · simp at h
      · injection h with h
        exact h ▸ ⟨hk, rfl⟩
    · injection h with h
      exact h ▸ ⟨hk.symm, rfl⟩
    · split at h
      · simp at h
      · next hv =>
        injection h with h
        exact h ▸ ⟨hk, by simpa using hv, rfl⟩
    all_goals
      injection h with h
      exact h ▸ ⟨hk.symm, rfl⟩
  | operator =>
    cases hk : t.kind <;> cases opened <;> simp only [Pushdown.step, hk, reduceCtorEq, Except.error.injEq] at h <;>
      exact h ▸ ⟨hk.symm, rfl⟩

/-- Three ways in which a run ends: the tokens run out, they are accepted, or one of them is refused. -/
private theorem run_start_cases (tokens : List Token) :
    (run start tokens = .error .outOfTokens ∧ Viable tokens ∧ ∀ t ∈ tokens, t.kind ≠ .eof) ∨
    (run start tokens = .ok () ∧ ∃ t ∈ tokens, t.kind = .eof) ∨
    ∃ s t rest err, run start tokens = .error err ∧ tokens = s ++ t :: rest ∧ err.Blames t ∧ Viable s ∧
      ¬ Viable (s ++ [t]) := by
  rcases Pushdown.walk_cases start tokens with ⟨m, hw⟩ | ⟨s, t, rest, m, rfl, hw, hend⟩
  · refine .inl ⟨?_, viable_of_walk hw, Pushdown.walk_kind_ne_eof hw⟩
    have hrun := Pushdown.run_append hw []
    rwa [List.append_nil] at hrun
  · have hrun := Pushdown.run_append hw (t :: rest)
    rw [run] at hrun
    cases hstep : m.step t with
    | error err =>
      rw [hstep] at hrun
      exact .inr (.inr ⟨s, t, rest, err, hrun, rfl, blames_of_step hstep, viable_of_walk hw,
        not_viable_of_step hw hstep⟩)
    | ok next =>
      cases next with
      | some m' => exact absurd hstep (hend m')
      | none =>
        rw [hstep] at hrun
        exact .inr (.inl ⟨hrun, t, by simp, Pushdown.kind_eq_eof_of_step hstep⟩)

/-- Reading comes to the verdict of the pushdown machine. A token that an error names is the first one behind which no
tokens make an expression any more, and tokens run out exactly if they are only the start of one. -/
theorem ofTokens_refuses_earliest (tokens : List Token) :
    (Expr.ofTokens tokens).map (fun _ => ()) = run start tokens ∧
    (∀ err, Expr.ofTokens tokens = .error err → err ≠ .outOfTokens →
      ∃ s t rest, tokens = s ++ t :: rest ∧ err.Blames t ∧ Viable s ∧ ¬ Viable (s ++ [t])) ∧
    (Expr.ofTokens tokens = .error .outOfTokens ↔ Viable tokens ∧ ∀ t ∈ tokens, t.kind ≠ .eof) := by
  refine ⟨Pushdown.map_ofTokens_eq_run tokens, fun err herr hne => ?_, ?_⟩
  · rw [ofTokens_eq_error_iff] at herr
    rcases run_start_cases tokens with ⟨hrun, -⟩ | ⟨hrun, -⟩ | ⟨s, t, rest, err', hrun, htokens, hblames, hv⟩
    · rw [hrun] at herr
      injection herr with herr
      exact absurd herr.symm hne
    · rw [hrun] at herr; simp at herr
    · rw [hrun] at herr
      injection herr with herr
      exact ⟨s, t, rest, htokens, herr ▸ hblames, hv⟩
  · rw [ofTokens_eq_error_iff]
    constructor
    · intro herr
      rcases run_start_cases tokens with ⟨-, hv⟩ | ⟨hrun, -⟩ | ⟨s, t, rest, err, hrun, -, hblames, -⟩
      · exact hv
      · rw [hrun] at herr; simp at herr
      · rw [hrun] at herr
        injection herr with herr
        exact absurd hblames (by rw [herr]; exact id)
    · rintro ⟨hv, hne⟩
      rcases run_start_cases tokens with ⟨hrun, -⟩ | ⟨-, t, hmem, ht⟩ | ⟨s, t, rest, err, -, rfl, -, -, hnot⟩
      · exact hrun
      · exact absurd ht (hne t hmem)
      · refine absurd ?_ hnot
        obtain ⟨more, e, he⟩ := hv
        exact ⟨rest ++ more, e, by simpa using he⟩

/-- The tokens of `(1 2`. -/
def unclosedGroup : List Token :=
  [⟨.leftParen, ['('], none, 1, ⟨0, 1⟩⟩, ⟨.number, ['1'], some 1, 1, ⟨1, 2⟩⟩, ⟨.number, ['2'], some 2, 1, ⟨3, 4⟩⟩,
    ⟨.eof, [], none, 1, .empty 4⟩]

theorem ofTokens_refuses_earliest_unclosedGroup :
    Expr.ofTokens unclosedGroup = .error (.unclosed ⟨0, 1⟩ .number ⟨3, 4⟩) ∧
    ∃ s t rest, unclosedGroup = s ++ t :: rest ∧ (ParseError.unclosed ⟨0, 1⟩ .number ⟨3, 4⟩).Blames t ∧
      Viable s ∧ ¬ Viable (s ++ [t]) := by
  have herr : Expr.ofTokens unclosedGroup = .error (.unclosed ⟨0, 1⟩ .number ⟨3, 4⟩) := ofTokens_eq_error_iff.2 rfl
  exact ⟨herr, (ofTokens_refuses_earliest unclosedGroup).2.1 _ herr (by decide)⟩

end Calculator
