import Calculator.Proofs.Classification
import Calculator.Proofs.Evaluation
import Calculator.Proofs.Lossless
import Calculator.Proofs.OpenGroups
import Calculator.Report

/-!
# Why texts fail

A scan is what reading relies on: it ends with the end of the input, its numbers have values, and its tokens stand in
order. The main statement, `grounded_ofText`, says for which reasons a text can fail, and that the spans in a failure
are those of the scan.
-/

namespace Calculator

/-- A failure that a text can have. Its reason is a character that is not allowed, a token that cannot come next, or a
division by zero, and its spans are those of warnings and tokens of the scan. -/
def Failure.Grounded (settings : Settings) (scan : Scan) : Failure → Prop
  | lexical w => settings.strict = true ∧ scan.warnings.head? = some w
  | parse (.unexpected kind span) | parse (.leftover kind span) => ∃ t ∈ scan.tokens, t.kind = kind ∧ t.span = span
  | parse (.unclosed opening kind span) =>
    ∃ o ∈ scan.tokens, ∃ t ∈ scan.tokens, o.kind = .leftParen ∧ o.span = opening ∧ t.kind = kind ∧ t.span = span ∧
      o.span.start < t.span.start
  | parse (.tooDeep span) => ∃ t ∈ scan.tokens, t.kind = .leftParen ∧ t.span = span
  | parse (.valueless _) | parse .outOfTokens => False
  | evaluation e => e = .divisionByZero

namespace Scan

variable {text : List Char}

theorem exists_eof_ofText (text : List Char) : ∃ t ∈ (ofText text).tokens, t.kind = .eof :=
  ⟨_, mem_tokens_ofText.2 (.inr rfl), rfl⟩

/-- A number of a text has a value. -/
theorem isSome_literal {t : Token} (h : t ∈ (ofText text).tokens) (hk : t.kind = .number) : t.literal.isSome := by
  rcases mem_tokens_ofText.1 h with ⟨a, x, b, hstands, hx⟩ | rfl
  · obtain rfl := Lexeme.exists_numeral_of_kind hstands.valid hx hk
    cases hstands.valid with
    | numeral isNumeral =>
      rw [← Option.some.inj hx]
      exact Double.isSome_read?_iff.2 isNumeral
  · cases hk

private theorem grounded_of_ofTokens {err : ParseError} (h : Expr.ofTokens (ofText text).tokens = .error err)
    (settings : Settings) : (Failure.parse err).Grounded settings (ofText text) := by
  obtain ⟨s, t, rest, htokens, hblames, hopening⟩ := exists_blames_of_ofTokens (exists_eof_ofText text) h
  have ht : t ∈ (ofText text).tokens := by rw [htokens]; simp
  cases err with
  | unexpected kind span | leftover kind span => exact ⟨t, ht, hblames.1.symm, hblames.2.symm⟩
  | unclosed opening kind span =>
    obtain ⟨o, outer, hopen, hspan⟩ := hopening opening kind span rfl
    obtain ⟨ho, hk⟩ := mem_openBehind (hopen ▸ List.mem_cons_self)
    -- the parenthesis comes before the token that is refused, so its span does, too
    have hordered := (lossless_tokens_warnings text).tokensInOrder
    rw [htokens, List.pairwise_append] at hordered
    have hbefore := (hordered.2.2 o ho t List.mem_cons_self).1
    exact ⟨o, by rw [htokens]; simp [ho], t, ht, hk, hspan, hblames.1.symm, hblames.2.symm, hbefore⟩
  | valueless span =>
    have hvalue := isSome_literal ht hblames.1
    rw [hblames.2.1] at hvalue
    cases hvalue
  | tooDeep span => exact ⟨t, ht, hblames.1, hblames.2.symm⟩
  | outOfTokens => exact hblames

end Scan

namespace Report

/-- On no text does a slice break off the scan, and where a text fails, the failure is grounded in its scan. In
particular its tokens never run out, its numbers have values, and no operation lacks an operand. -/
theorem grounded_ofText (settings : Settings) (text : List Char) :
    Scanner.scan? text = some (Scan.ofText text) ∧
    ∀ failure, (ofText settings text).result = .error failure → failure.Grounded settings (Scan.ofText text) := by
  refine ⟨Scanner.scan?_eq_ofText text, fun failure h => ?_⟩
  unfold ofText at h
  simp only at h
  split at h
  · next w hw =>
    injection h with h
    subst h
    cases hstrict : settings.strict with
    | true => exact ⟨hstrict, by simpa [hstrict] using hw⟩
    | false => simp [hstrict] at hw
  · split at h
    · next err herr =>
      injection h with h
      subst h
      exact Scan.grounded_of_ofTokens herr settings
    · next e _ =>
      rw [Expr.evaluate_eq_value] at h
      simp only at h
      split at h
      · next err herr =>
        injection h with h
        subst h
        exact Expr.eq_divisionByZero_of_value herr
      · cases h

end Report

end Calculator
