import Calculator.Proofs.Acceptance

/-!
# Open groups

Which parentheses are open behind some tokens can be said without reading them as an expression: `openBehind` keeps the
opening ones until they are closed. The pushdown machine holds the groups of these open (`Pushdown.opened_of_walk`), so
that an error for a group without an end is about the innermost of them (`exists_blames_of_ofTokens`).
-/

namespace Calculator

/-- The parentheses that are open behind a token, the innermost first, where `opened` are open in front of it. -/
def openAfter (opened : List Token) (t : Token) : List Token :=
  match t.kind with
  | .leftParen => t :: opened
  | .rightParen => opened.tail
  | _ => opened

/-- The parentheses that are open behind tokens, the innermost first. -/
def openBehind (tokens : List Token) : List Token :=
  tokens.foldl openAfter []

private theorem mem_openAfter {opened : List Token} {t o : Token} (h : o ∈ openAfter opened t) :
    o ∈ opened ∨ o = t ∧ t.kind = .leftParen := by
  unfold openAfter at h
  split at h
  · next hk => exact (List.mem_cons.1 h).symm.imp_right fun ho => ⟨ho, hk⟩
  · exact .inl (List.mem_of_mem_tail h)
  · exact .inl h

private theorem mem_foldl_openAfter {s opened : List Token} {o : Token} (h : o ∈ s.foldl openAfter opened) :
    o ∈ opened ∨ o ∈ s ∧ o.kind = .leftParen := by
  induction s generalizing opened with
  | nil => exact .inl h
  | cons t s ih =>
    rcases ih h with hafter | ⟨hs, hk⟩
    · rcases mem_openAfter hafter with hopened | ⟨rfl, hk⟩
      · exact .inl hopened
      · exact .inr ⟨List.mem_cons_self, hk⟩
    · exact .inr ⟨List.mem_cons_of_mem t hs, hk⟩

/-- What is open behind tokens are opening parentheses among them. -/
theorem mem_openBehind {s : List Token} {o : Token} (h : o ∈ openBehind s) : o ∈ s ∧ o.kind = .leftParen :=
  (mem_foldl_openAfter h).resolve_left List.not_mem_nil

namespace Pushdown

variable {m m' : Pushdown} {opened : List Token}

/-- A step opens a group at an opening parenthesis and ends the innermost one at a closing parenthesis. -/
private theorem opened_of_step {t : Token} (h : m.step t = .ok (some m')) (hm : m.opened = opened.map Token.span) :
    m'.opened = (openAfter opened t).map Token.span := by
  obtain ⟨expected, spans⟩ := m
  obtain rfl : spans = opened.map Token.span := hm
  cases expected with
  | operand =>
    cases hk : t.kind <;> simp only [step, hk] at h
    case number | leftParen =>
      split at h
      · cases h; simp [openAfter, hk]
      · cases h
    all_goals cases h
  | operator =>
    cases hk : t.kind <;> cases opened <;> simp only [step, hk, List.map_cons, List.map_nil] at h <;> cases h <;>
      simp [openAfter, hk]

private theorem opened_foldl {s : List Token} (h : m.walk s = some m') (hm : m.opened = opened.map Token.span) :
    m'.opened = (s.foldl openAfter opened).map Token.span := by
  induction s generalizing m opened with
  | nil =>
    rw [← Option.some.inj h]
    exact hm
  | cons t s ih =>
    unfold walk at h
    split at h
    · next m₁ hstep => exact ih h (opened_of_step hstep hm)
    · cases h

/-- The groups that are open behind a walk are those of the parentheses that are open there. -/
theorem opened_of_walk {s : List Token} (h : start.walk s = some m) : m.opened = (openBehind s).map Token.span :=
  opened_foldl h rfl

/-- The group that is missing its end is the innermost one. -/
private theorem opened_of_unclosed {t : Token} {opening span : Span} {kind : Kind}
    (h : m.step t = .error (.unclosed opening kind span)) : ∃ outer, m.opened = opening :: outer := by
  obtain ⟨expected, spans⟩ := m
  cases expected with
  | operand =>
    cases hk : t.kind <;> simp only [step, hk] at h
    case number | leftParen => split at h <;> cases h
    all_goals cases h
  | operator => cases hk : t.kind <;> cases spans <;> simp only [step, hk] at h <;> cases h <;> exact ⟨_, rfl⟩

end Pushdown

/-- Tokens that are not read although they have an end are refused at one of them. If a group is not closed, it is the
innermost of those open in front of that token. -/
theorem exists_blames_of_ofTokens {tokens : List Token} {err : ParseError} (heof : ∃ t ∈ tokens, t.kind = .eof)
    (h : Expr.ofTokens tokens = .error err) :
    ∃ s t rest, tokens = s ++ t :: rest ∧ err.Blames t ∧
      ∀ opening kind span, err = .unclosed opening kind span →
        ∃ o outer, openBehind s = o :: outer ∧ o.span = opening := by
  rcases Pushdown.exists_step_of_run (Pushdown.ofTokens_eq_error_iff.1 h) with
    ⟨-, hne⟩ | ⟨s, t, rest, m, htokens, hw, hstep⟩
  · obtain ⟨t, ht, hk⟩ := heof
    exact absurd hk (hne t ht)
  · refine ⟨s, t, rest, htokens, blames_of_step hstep, ?_⟩
    rintro opening kind span rfl
    obtain ⟨spans, hspans⟩ := Pushdown.opened_of_unclosed hstep
    rw [Pushdown.opened_of_walk hw] at hspans
    obtain ⟨o, outer, hopen, ho, -⟩ := List.map_eq_cons_iff.1 hspans
    exact ⟨o, outer, hopen, ho⟩

end Calculator
