import Calculator.Proofs.Evaluation
import Calculator.Report

/-!
# What a run makes of a scan

The result of a run depends on the scan of the text alone (`Report.result_ofText`): texts with the same scan have the
same result, and what a change of the text does to the result can be seen from what it does to the scan.
-/

namespace Calculator

namespace Scan

/-- The result that tokens and warnings lead to if no warning is an error. -/
def lenientOutcome (scan : Scan) : Except Failure Answer :=
  match Expr.ofTokens scan.tokens with
  | .error e => .error (.parse e)
  | .ok e =>
    match e.value with
    | .error err => .error (.evaluation err)
    | .ok value => .ok ⟨value, scan.warnings⟩

/-- The result that a scan leads to; in strict mode the first warning is an error. -/
def outcome (scan : Scan) (strict : Bool) : Except Failure Answer :=
  match strict, scan.warnings with
  | true, w :: _ => .error (.lexical w)
  | _, _ => scan.lenientOutcome

variable {scan : Scan}

theorem outcome_of_strict {w : Warning} {more : List Warning} (h : scan.warnings = w :: more) :
    scan.outcome true = .error (.lexical w) := by
  unfold outcome
  rw [h]

theorem outcome_of_lenient {strict : Bool} (h : strict = true → scan.warnings = []) :
    scan.outcome strict = scan.lenientOutcome := by
  cases strict with
  | true =>
    unfold outcome
    rw [h rfl]
  | false => rfl

/-- Without strictness no character is an error. -/
theorem lenientOutcome_ne_lexical (w : Warning) : scan.lenientOutcome ≠ .error (.lexical w) := by
  intro h
  unfold lenientOutcome at h
  split at h
  · cases h
  · split at h <;> cases h

/-- A value comes with all warnings. -/
theorem warnings_of_lenientOutcome {answer : Answer} (h : scan.lenientOutcome = .ok answer) :
    answer.warnings = scan.warnings := by
  unfold lenientOutcome at h
  split at h
  · cases h
  · split at h
    · cases h
    · rw [← Except.ok.inj h]

/-- The tokens decide the result, the warnings of the answer apart. -/
theorem map_lenientOutcome_of_tokens {scan' : Scan} (h : scan.tokens = scan'.tokens) :
    scan.lenientOutcome = scan'.lenientOutcome.map fun answer => { answer with warnings := scan.warnings } := by
  unfold lenientOutcome
  rw [h]
  cases Expr.ofTokens scan'.tokens with
  | error e => rfl
  | ok e =>
    simp only
    cases e.value <;> rfl

end Scan

namespace Report

variable {settings : Settings} {text : List Char}

/-- A run ends with its first warning, if that is an error. -/
theorem ofText_of_strict (hs : settings.strict = true) {w : Warning} {more : List Warning}
    (h : (Scan.ofText text).warnings = w :: more) :
    ofText settings text =
      ⟨.error (.lexical w), (Scan.ofText text).warnings.map .skipped ++ failing text (.lexical w)⟩ := by
  have hfirst : (if settings.strict then (Scan.ofText text).warnings.head? else none) = some w := by
    rw [hs, if_pos rfl, h, List.head?_cons]
  simp only [ofText, hfirst]

/-- If no warning is an error, a run goes on to the tokens, and from them to the value. -/
theorem ofText_of_lenient (hs : settings.strict = true → (Scan.ofText text).warnings = []) :
    ofText settings text =
      let listed := (Scan.ofText text).warnings.map .skipped ++ (Scan.ofText text).tokens.map .token
      match Expr.ofTokens (Scan.ofText text).tokens with
      | .error e => ⟨.error (.parse e), listed ++ failing text (.parse e)⟩
      | .ok e =>
        let worked := listed ++ e.operations.map .step
        match e.value with
        | .error err => ⟨.error (.evaluation err), worked ++ failing text (.evaluation err)⟩
        | .ok value => ⟨.ok ⟨value, (Scan.ofText text).warnings⟩, worked⟩ := by
  have hfirst : (if settings.strict then (Scan.ofText text).warnings.head? else none) = none := by
    cases h : settings.strict with
    | true => rw [if_pos rfl, hs h, List.head?_nil]
    | false => rfl
  cases hread : Expr.ofTokens (Scan.ofText text).tokens with
  | error e => simp only [ofText, hfirst, hread]
  | ok e => cases hvalue : e.value <;> simp only [ofText, hfirst, hread, Expr.evaluate_eq_value, hvalue]

/-- A run has the result of its scan. -/
theorem result_ofText (settings : Settings) (text : List Char) :
    (ofText settings text).result = (Scan.ofText text).outcome settings.strict := by
  by_cases hs : settings.strict = true → (Scan.ofText text).warnings = []
  · rw [ofText_of_lenient hs, Scan.outcome_of_lenient hs, Scan.lenientOutcome]
    cases Expr.ofTokens (Scan.ofText text).tokens with
    | error e => rfl
    | ok e =>
      simp only
      cases e.value <;> rfl
  · obtain ⟨hstrict, hne⟩ := Classical.not_imp.1 hs
    obtain ⟨w, more, hw⟩ := List.exists_cons_of_ne_nil hne
    rw [ofText_of_strict hstrict hw, hstrict, Scan.outcome_of_strict hw]

end Report

end Calculator
