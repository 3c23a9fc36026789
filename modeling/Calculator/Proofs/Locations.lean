import Calculator.Proofs.Failures
import Calculator.Proofs.Outcome
import Calculator.Proofs.Rows

/-!
# Where texts fail

A failure that names a place of the text comes with a position. The main statement, `located_ofText`, says what stands
there: the character that is not allowed, or the token that cannot come next. A group that is not closed is located at
the token found instead of its end, and not at its parenthesis, which is what it blames; so the position is that of what
a failure blames in all cases but this one.
-/

namespace Calculator

/-- The span of what a failure blames: a character that is not allowed, a token that cannot come next, or a parenthesis
that is not closed. -/
def Failure.blamed? : Failure → Option Span
  | lexical w => some w.span
  | parse (.unclosed opening _ _) => some opening
  | parse (.unexpected _ span) | parse (.valueless span) | parse (.tooDeep span) | parse (.leftover _ span) => some span
  | parse .outOfTokens => none
  | evaluation _ => none

/-- A token stands in a text at a position; the end of the input stands behind all of it. -/
def Token.StandsAt (t : Token) (text : List Char) (p : Position) : Prop :=
  ∃ a b, text = a ++ t.lexeme ++ b ∧ Text.byteSize a = t.span.start ∧ p.Points a ∧ (t.kind = .eof → a = text)

/-- What a position has to do with a failure of a text. -/
def Failure.LocatedAt (text : List Char) (p : Position) : Failure → Prop
  | lexical w => ∃ a b, text = a ++ w.char :: b ∧ Text.byteSize a = w.span.start ∧ p.Points a
  | parse (.unexpected kind span) | parse (.leftover kind span) =>
    ∃ t ∈ (Scan.ofText text).tokens, t.kind = kind ∧ t.span = span ∧ t.StandsAt text p
  | parse (.tooDeep span) => ∃ t ∈ (Scan.ofText text).tokens, t.kind = .leftParen ∧ t.span = span ∧ t.StandsAt text p
  | parse (.unclosed opening kind span) =>
    ∃ s t rest o outer q, (Scan.ofText text).tokens = s ++ t :: rest ∧ t.kind = kind ∧ t.span = span ∧
      t.StandsAt text p ∧ openBehind s = o :: outer ∧ o.span = opening ∧ o.lexeme = ['('] ∧ o.StandsAt text q ∧
      opening.position text = q ∧ q.Before p
  | parse (.valueless _) | parse .outOfTokens | evaluation _ => False

namespace Scan

variable {text : List Char} {t u : Token}

/-- Every token stands where its span starts. -/
private theorem standsAt_position (h : t ∈ (ofText text).tokens) : t.StandsAt text (t.span.position text) := by
  have hlossless := lossless_tokens_warnings text
  obtain ⟨a, b, htext, hstart, hstop⟩ := Span.slice?_eq_some_iff.1 (hlossless.lexeme t h)
  have hcut : text = a ++ (t.lexeme ++ b) := htext.trans (List.append_assoc a t.lexeme b)
  refine ⟨a, b, htext, hstart, ?_, fun hk => ?_⟩
  · rw [Span.position_eq_behind hcut hstart]
    exact Position.points_behind a
  · -- the end of the input is the last token, behind the last byte
    obtain ⟨tokens, line, heq, hne⟩ := hlossless.eof
    rw [heq, List.mem_append, List.mem_singleton] at h
    rcases h with h | rfl
    · exact absurd hk (hne t h)
    · have hall : a ++ (([] : List Char) ++ b) = text ++ [] := by rw [List.append_nil, ← hcut]
      exact (Text.append_inj_of_byteSize hall hstart).1

/-- The first of two tokens has an earlier position. -/
private theorem position_before (ht : t ∈ (ofText text).tokens) (hu : u ∈ (ofText text).tokens)
    (h : t.span.Before u.span) : (t.span.position text).Before (u.span.position text) := by
  obtain ⟨a, b, htext, hstart, -⟩ := Span.slice?_eq_some_iff.1 ((lossless_tokens_warnings text).lexeme t ht)
  obtain ⟨a', b', htext', hstart', -⟩ := Span.slice?_eq_some_iff.1 ((lossless_tokens_warnings text).lexeme u hu)
  rw [List.append_assoc] at htext htext'
  have hlt := h.1
  obtain ⟨m, rfl⟩ := Text.prefix_of_byteSize_le (htext.symm.trans htext') (by omega)
  have hm : m ≠ [] := by
    rintro rfl
    rw [List.append_nil] at hstart'
    omega
  rw [Span.position_eq_behind htext hstart, Span.position_eq_behind htext' hstart']
  exact Position.before_behind_append a hm

private theorem lexeme_of_leftParen (h : t ∈ (ofText text).tokens) (hk : t.kind = .leftParen) : t.lexeme = ['('] := by
  rcases mem_tokens_ofText.1 h with ⟨a, x, b, hstands, hx⟩ | rfl
  · cases hstands.valid with
    | numeral _ =>
      rw [← Option.some.inj hx] at hk
      cases hk
    | @mark c kind isMark =>
      rw [← Option.some.inj hx] at hk ⊢
      obtain rfl : kind = .leftParen := hk
      show [c] = ['(']
      unfold Kind.ofChar? at isMark
      split at isMark <;> cases isMark
      rfl
    | blank _ | stray _ _ _ => cases hx
  · cases hk

/-- An error that tokens of a text are refused with has the position of the token that is refused. -/
private theorem locatedAt_of_ofTokens {err : ParseError} (h : Expr.ofTokens (ofText text).tokens = .error err) :
    (Failure.parse err).LocatedAt text (err.position text) := by
  obtain ⟨s, t, rest, htokens, hblames, hopening⟩ := exists_blames_of_ofTokens (exists_eof_ofText text) h
  have ht : t ∈ (ofText text).tokens := by rw [htokens]; simp
  have hstands := standsAt_position ht
  cases err with
  | unexpected kind span | leftover kind span =>
    obtain ⟨rfl, rfl⟩ := hblames
    exact ⟨t, ht, rfl, rfl, hstands⟩
  | tooDeep span =>
    obtain ⟨hk, rfl⟩ := hblames
    exact ⟨t, ht, hk, rfl, hstands⟩
  | unclosed opening kind span =>
    obtain ⟨rfl, rfl⟩ := hblames
    obtain ⟨o, outer, hopen, rfl⟩ := hopening opening _ _ rfl
    obtain ⟨hos, hk⟩ := mem_openBehind (hopen ▸ List.mem_cons_self)
    have ho : o ∈ (ofText text).tokens := by rw [htokens]; simp [hos]
    -- the parenthesis comes before the token that is refused, so its position does, too
    have hordered := (lossless_tokens_warnings text).tokensInOrder
    rw [htokens, List.pairwise_append] at hordered
    have hbefore := position_before ho ht (hordered.2.2 o hos t List.mem_cons_self)
    exact ⟨s, t, rest, o, outer, _, htokens, rfl, rfl, hstands, hopen, rfl, lexeme_of_leftParen ho hk,
      standsAt_position ho, rfl, hbefore⟩
  | valueless span =>
    have hvalue := isSome_literal ht hblames.1
    rw [hblames.2.1] at hvalue
    cases hvalue
  | outOfTokens => exact hblames

private theorem locatedAt_of_mem_warnings {w : Warning} (h : w ∈ (ofText text).warnings) :
    (Failure.lexical w).LocatedAt text (w.span.position text) := by
  obtain ⟨a, b, htext, hstart, -⟩ := Span.slice?_eq_some_iff.1 ((lossless_tokens_warnings text).char w h)
  have hcut : text = a ++ (w.char :: b) := by rw [htext]; simp
  refine ⟨a, b, hcut, hstart, ?_⟩
  rw [Span.position_eq_behind hcut hstart]
  exact Position.points_behind a

end Scan

namespace Failure

variable {text : List Char} {p : Position}

/-- A position is that of what a failure blames, unless this is a parenthesis that is not closed. -/
private theorem blamed?_position_iff {failure : Failure} (hp : failure.position? text = some p)
    (h : failure.LocatedAt text p) :
    failure.blamed?.map (·.position text) = some p ↔
      ∀ opening kind span, failure ≠ .parse (.unclosed opening kind span) := by
  cases failure with
  | lexical w =>
    simp only [ne_eq, reduceCtorEq, not_false_eq_true, implies_true, iff_true]
    exact hp
  | evaluation e => cases hp
  | parse e =>
    cases e with
    | unclosed opening kind span =>
      obtain ⟨s, t, rest, o, outer, q, -, -, -, -, -, -, -, -, hq, hbefore⟩ := h
      constructor
      · intro heq
        rw [blamed?, Option.map_some, hq, Option.some.injEq] at heq
        exact absurd heq hbefore.ne
      · intro hne
        exact absurd rfl (hne opening kind span)
    | outOfTokens | valueless span => exact h.elim
    | unexpected kind span | tooDeep span | leftover kind span =>
      simp only [ne_eq, parse.injEq, reduceCtorEq, not_false_eq_true, implies_true, iff_true]
      exact hp

end Failure

namespace Report

/-- A text that fails divides by zero, or its failure has a position, which is the last thing in the log. At this
position stands the character or the token that the text is refused at. This is what the failure blames, except for a
group that is not closed: then it is the token found instead of the end of the group, and the parenthesis, the innermost
one that is open there, has an earlier position. -/
theorem located_ofText (settings : Settings) (text : List Char) (failure : Failure)
    (h : (ofText settings text).result = .error failure) :
    failure = .evaluation .divisionByZero ∨
    ∃ p, failure.position? text = some p ∧ (ofText settings text).events.getLast? = some (.located p) ∧
      failure.LocatedAt text p ∧
      (failure.blamed?.map (·.position text) = some p ↔
        ∀ opening kind span, failure ≠ .parse (.unclosed opening kind span)) := by
  by_cases hs : settings.strict = true → (Scan.ofText text).warnings = []
  · rw [ofText_of_lenient hs] at h ⊢
    cases hread : Expr.ofTokens (Scan.ofText text).tokens with
    | error e =>
      simp only [hread, Except.error.injEq] at h ⊢
      subst h
      have hlocated := Scan.locatedAt_of_ofTokens hread
      refine .inr ⟨e.position text, rfl, ?_, hlocated, Failure.blamed?_position_iff rfl hlocated⟩
      simp [failing, Failure.position?]
    | ok e =>
      cases hvalue : e.value with
      | error err =>
        simp only [hread, hvalue, Except.error.injEq] at h
        rw [← h, Expr.eq_divisionByZero_of_value hvalue]
        exact .inl rfl
      | ok value => simp [hread, hvalue] at h
  · obtain ⟨hstrict, hne⟩ := Classical.not_imp.1 hs
    obtain ⟨w, more, hw⟩ := List.exists_cons_of_ne_nil hne
    rw [ofText_of_strict hstrict hw] at h ⊢
    simp only [Except.error.injEq] at h ⊢
    subst h
    have hmem : w ∈ (Scan.ofText text).warnings := by rw [hw]; exact List.mem_cons_self
    have hlocated := Scan.locatedAt_of_mem_warnings hmem
    refine .inr ⟨w.span.position text, rfl, ?_, hlocated, Failure.blamed?_position_iff rfl hlocated⟩
    simp [failing, Failure.position?]

private theorem result_unclosed (settings : Settings) :
    (ofText settings "(1 2".toList).result = .error (.parse (.unclosed ⟨0, 1⟩ .number ⟨3, 4⟩)) := by
  have hlexemes : Lexeme.ofText "(1 2".toList = [.mark '(' .leftParen, .numeral ['1'], .blank ' ', .numeral ['2']] := by
    simp [Lexeme.ofText_cons, Lexeme.first, Lexeme.splitNumeral, Char.isDigit, Lexeme.ofChar, Kind.ofChar?,
      Lexeme.isBlank]
  have hwarnings : (Scan.ofText "(1 2".toList).warnings = [] := by
    rw [Scan.ofText, hlexemes]
    rfl
  have hread : Expr.ofTokens (Scan.ofText "(1 2".toList).tokens = .error (.unclosed ⟨0, 1⟩ .number ⟨3, 4⟩) := by
    rw [Scan.ofText, hlexemes]
    exact Pushdown.ofTokens_eq_error_iff.2 rfl
  rw [ofText_of_lenient fun _ => hwarnings, hread]

/-- In `(1 2` the numeral behind the space is refused, and located. -/
theorem located_ofText_unclosed :
    let failure := Failure.parse (.unclosed ⟨0, 1⟩ .number ⟨3, 4⟩)
    (ofText .default "(1 2".toList).result = .error failure ∧
    ∃ p, failure.position? "(1 2".toList = some p ∧
      (ofText .default "(1 2".toList).events.getLast? = some (.located p) ∧
      failure.LocatedAt "(1 2".toList p ∧ failure.blamed?.map (·.position "(1 2".toList) ≠ some p := by
  intro failure
  have hresult := result_unclosed .default
  rcases located_ofText .default "(1 2".toList failure hresult with h | ⟨p, hp, hlast, hlocated, hiff⟩
  · exact absurd h (by simp [failure])
  · exact ⟨hresult, p, hp, hlast, hlocated, fun heq => hiff.1 heq _ _ _ rfl⟩

/-- The parenthesis that `(1 2` does not close is in the first column, and the position of the failure in the fourth. -/
theorem position_unclosed_ne_opening :
    ∃ opening kind span,
      (ofText .default "(1 2".toList).result = .error (.parse (.unclosed opening kind span)) ∧
      opening.position "(1 2".toList = ⟨1, 1⟩ ∧
      (Failure.parse (.unclosed opening kind span)).position? "(1 2".toList = some ⟨1, 4⟩ :=
  ⟨_, _, _, result_unclosed .default, rfl, rfl⟩

end Report

end Calculator
