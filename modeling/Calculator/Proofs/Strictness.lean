import Calculator.Proofs.Classification
import Calculator.Proofs.Lossless
import Calculator.Proofs.Outcome

/-!
# Strict and lenient runs

Which characters a scan warns about can be said of the text: those that are no white space, no digit and no sign, and no
point within a number (`Scan.mem_warnings_iff`). The main statement, `strict_refines_lenient`, says that a strict run
refuses the first of them, whatever else is wrong with the text, and is the same as a lenient one if there is none.
-/

namespace Calculator

/-- Of a character of the text, with its line and span, nothing can be made: it is no white space, no digit, no operator
sign and no parenthesis, and it is not the point of a number. -/
structure Unrecognized (text : List Char) (w : Warning) : Prop where
  place : ∃ a b, text = a ++ w.char :: b ∧ w.line = 1 + a.count '\n' ∧
    w.span = ⟨Text.byteSize a, Text.byteSize (a ++ [w.char])⟩
  notBlank : w.char ∉ [' ', '\t', '\r', '\n']
  notDigit : w.char.isDigit = false
  notMark : w.char ∉ ['+', '-', '*', '/', '(', ')']
  notPoint : ¬ (w.char = '.' ∧ ∃ t ∈ (Scan.ofText text).tokens, t.kind = .number ∧ t.span.Covers w.span.start)

/-- The only character of a numeral that is no digit is its point. -/
private theorem Lexeme.Stands.eq_point_of_not_isDigit {text a b numeral u v : List Char} {c : Char}
    (h : Stands text a (.numeral numeral) b) (hx : numeral = u ++ c :: v) (hd : c.isDigit = false) : c = '.' := by
  cases h.valid with
  | numeral isNumeral =>
    have hmem : c ∈ numeral := by rw [hx]; simp
    refine (isDigit_or_eq_point_of_mem isNumeral hmem).resolve_left fun hdigit => ?_
    rw [hd] at hdigit
    cases hdigit

namespace Scan

variable {text : List Char}

/-- The warnings of a text are its unrecognized characters. -/
theorem mem_warnings_iff {w : Warning} : w ∈ (ofText text).warnings ↔ Unrecognized text w := by
  constructor
  · intro hw
    obtain ⟨a, x, b, hstands, hx⟩ := mem_warnings_ofText.1 hw
    have hvalid := hstands.valid
    cases x with
    | stray c =>
      have htokens := tokensAt_of_stands hstands (List.nil_append [c]).symm
      rw [List.append_nil] at htokens
      rw [← Option.some.inj hx]
      cases hvalid with
      | stray notDigit notMark notBlank =>
        refine ⟨⟨a, b, by simpa [Lexeme.text] using hstands.eq_append, ?_, ?_⟩, notBlank, notDigit,
          Kind.ofChar?_eq_none_iff.1 notMark, ?_⟩
        · rw [Place.first_behind]
        · simp [Lexeme.span, Lexeme.text, Place.first_behind]
        · -- a number there would be what the scan has at the offset of the character
          rintro ⟨-, t, ht, -, hcovers⟩
          simp only [Lexeme.span, Place.first_behind] at hcovers
          have hhere : t ∈ (ofText text).tokensAt (Text.byteSize a) :=
            List.mem_filter.2 ⟨ht, decide_eq_true hcovers⟩
          rw [htokens] at hhere
          cases hhere
    | numeral _ | mark _ _ | blank _ => cases hx
  · rintro ⟨⟨a, b, htext, hline, hspan⟩, hblank, hdigit, hmark, hpoint⟩
    obtain ⟨a', x, b', u, v, hstands, hx, rfl, -⟩ := Lexeme.exists_stands htext
    by_cases hnumeral : ∃ numeral, x = .numeral numeral
    · obtain ⟨numeral, rfl⟩ := hnumeral
      have hmem := mem_tokens_ofText.2 (.inl ⟨a', _, b', hstands, rfl⟩)
      refine absurd ⟨hstands.eq_point_of_not_isDigit hx hdigit, _, hmem, rfl, ?_⟩ hpoint
      have hc := w.char.utf8Size_pos
      simp only [Span.Covers, Lexeme.span, hx, hspan, Place.first_behind, Text.byteSize_append, Text.byteSize_cons]
      omega
    · obtain ⟨rfl, -, -, rfl⟩ := hstands.eq_ofChar hx fun numeral heq => hnumeral ⟨numeral, heq⟩
      have hstray := Lexeme.ofChar_of_stray (Kind.ofChar?_eq_none_iff.2 hmark) hblank
      rw [List.append_nil] at hline hspan
      refine mem_warnings_ofText.2 ⟨a', _, b', hstands, ?_⟩
      obtain ⟨c, line, span⟩ := w
      simp only at hline hspan hstray
      rw [hstray, hline, hspan]
      simp [Lexeme.warning?, Lexeme.span, Lexeme.text, Place.first_behind]

/-- The first warning is the one that starts first. -/
private theorem head?_warnings_iff {w : Warning} :
    (ofText text).warnings.head? = some w ↔
      Unrecognized text w ∧ ∀ v, Unrecognized text v → w.span.start ≤ v.span.start := by
  have hordered := (lossless_tokens_warnings text).warningsInOrder
  simp only [← mem_warnings_iff]
  cases hws : (ofText text).warnings with
  | nil => simp
  | cons u more =>
    rw [hws, List.pairwise_cons] at hordered
    rw [List.head?_cons, Option.some.injEq]
    constructor
    · rintro rfl
      refine ⟨List.mem_cons_self, List.forall_mem_cons.2 ⟨Nat.le_refl _, fun v hv => ?_⟩⟩
      exact Nat.le_of_lt (hordered.1 v hv).1
    · rintro ⟨hw, hleast⟩
      rcases List.mem_cons.1 hw with rfl | hw
      · rfl
      · have := (hordered.1 w hw).1
        have := hleast u List.mem_cons_self
        omega

private theorem outcome_true_eq_lexical_iff {scan : Scan} {w : Warning} :
    scan.outcome true = .error (.lexical w) ↔ scan.warnings.head? = some w := by
  cases hws : scan.warnings with
  | nil =>
    rw [outcome_of_lenient fun _ => hws]
    simp [lenientOutcome_ne_lexical]
  | cons u more =>
    rw [outcome_of_strict hws]
    simp

private theorem outcome_true_eq_ok {scan : Scan} {answer : Answer} (h : scan.outcome true = .ok answer) :
    scan.warnings = [] := by
  cases hws : scan.warnings with
  | nil => rfl
  | cons u more =>
    rw [outcome_of_strict hws] at h
    cases h

end Scan

namespace Report

/-- A strict run fails at the first unrecognized character of a text, with its line and span, whatever comes behind it.
If there is none, it has the result of a lenient run, which has no warnings then. A lenient run never fails at a
character, and warns about all that are unrecognized, in the order of the text. So a value of a strict run is that of
the lenient one. -/
theorem strict_refines_lenient (prompt : String) (text : List Char) :
    let strict := (ofText ⟨prompt, true⟩ text).result
    let lenient := (ofText ⟨prompt, false⟩ text).result
    ((∃ w, strict = .error (.lexical w)) ↔ ∃ w, Unrecognized text w) ∧
    (∀ w, strict = .error (.lexical w) ↔
      Unrecognized text w ∧ ∀ v, Unrecognized text v → w.span.start ≤ v.span.start) ∧
    ((∀ w, ¬ Unrecognized text w) → strict = lenient ∧ ∀ answer, lenient = .ok answer → answer.warnings = []) ∧
    (∀ w, lenient ≠ .error (.lexical w)) ∧
    (∀ answer, lenient = .ok answer → (∀ w, w ∈ answer.warnings ↔ Unrecognized text w) ∧
      answer.warnings.Pairwise fun v w => v.span.Before w.span) ∧
    ∀ answer, strict = .ok answer → lenient = .ok answer := by
  have hstrict := result_ofText ⟨prompt, true⟩ text
  have hlenient := result_ofText ⟨prompt, false⟩ text
  rw [Scan.outcome_of_lenient fun h => Bool.noConfusion h] at hlenient
  simp only [hstrict, hlenient, Scan.outcome_true_eq_lexical_iff]
  refine ⟨?_, fun w => Scan.head?_warnings_iff, fun hnone => ?_, Scan.lenientOutcome_ne_lexical, fun answer h => ?_,
    fun answer h => ?_⟩
  · simp only [← Scan.mem_warnings_iff]
    cases (Scan.ofText text).warnings <;> simp
  · have hws : (Scan.ofText text).warnings = [] :=
      List.eq_nil_iff_forall_not_mem.2 fun w hw => hnone w (Scan.mem_warnings_iff.1 hw)
    refine ⟨Scan.outcome_of_lenient fun _ => hws, fun answer h => ?_⟩
    rw [Scan.warnings_of_lenientOutcome h, hws]
  · rw [Scan.warnings_of_lenientOutcome h]
    exact ⟨fun w => Scan.mem_warnings_iff, (Scan.lossless_tokens_warnings text).warningsInOrder⟩
  · rwa [← Scan.outcome_of_lenient fun _ => Scan.outcome_true_eq_ok h]

end Report

end Calculator
