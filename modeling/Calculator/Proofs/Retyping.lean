import Calculator.Proofs.Doubles
import Calculator.Proofs.Infix
import Calculator.Proofs.Outcome
import Calculator.Proofs.Pushdown

/-!
# Typing values back

The text of a finite double is a numeral, behind a minus sign if the sign of the double is set. Typed back, it gives the
double that it was written for. A minus sign needs an operand in front of it, which may be zero
(`Report.ofText_display`).
-/

namespace Calculator

/-! ### Formulas without gaps -/

/-- Lexemes can be laid out with nothing between them. -/
private theorem layout_flatMap (lexemes : List Lexeme) : Layout lexemes (lexemes.flatMap Lexeme.text) [] := by
  have hgap : IsGap [] := by decide
  induction lexemes with
  | nil => exact .last hgap
  | cons lexeme lexemes ih => exact .next hgap ih

namespace Formula

/-- The lexemes of a formula that has a value are a text with this value, and nothing in it is skipped. -/
private theorem ofText_flatMap (f : Formula) (settings : Settings) (hn : f.nesting .whole ≤ maxDepth) {v : Float}
    (hv : f.expr.value = .ok v) :
    (Report.ofText settings ((f.lexemes .whole).flatMap Lexeme.text)).result = .ok ⟨v, []⟩ := by
  have hlayout := layout_flatMap (f.lexemes .whole)
  have hread := f.ofTokens_layout hlayout hn
  have hwarnings := List.map_eq_nil_iff.1 (f.warnings_layout hlayout)
  rw [Report.result_ofText, Scan.outcome_of_lenient fun _ => hwarnings, Scan.lenientOutcome, hread, hwarnings]
  simp only [hv]

end Formula

private theorem Double.numeral_of_read? {text : List Char} {v : Float} (h : read? text = some v) : Numeral text :=
  isSome_read?_iff.1 (by rw [h]; rfl)

namespace Report

variable {text : List Char} {v : Float}

/-- A numeral has the value that it is read as. -/
private theorem ofText_numeral (settings : Settings) (h : Double.read? text = some v) :
    (ofText settings text).result = .ok ⟨v, []⟩ := by
  have hnumeral := Double.numeral_of_read? h
  have hvalue : (Formula.numeral text hnumeral 0).expr.value = .ok v := by
    simp only [Formula.expr, h, Option.get_some, Expr.value]
  have hresult := (Formula.numeral text hnumeral 0).ofText_flatMap settings (Nat.zero_le _) hvalue
  simpa [Formula.lexemes, Formula.enclose, Lexeme.text] using hresult

/-- Behind a zero and a minus sign it is subtracted from zero. -/
private theorem ofText_zero_minus (settings : Settings) (h : Double.read? text = some v) :
    (ofText settings ('0' :: '-' :: text)).result = .ok ⟨0 - v, []⟩ := by
  have hnumeral := Double.numeral_of_read? h
  have hzero : Double.read? ['0'] = some 0 := by decide +kernel
  let f : Formula := .binary (.numeral ['0'] (.whole (by decide)) 0) .minus (.numeral text hnumeral 0) 0
  have hvalue : f.expr.value = .ok (0 - v) := by
    simp only [f, Formula.expr, h, hzero, Option.get_some, Expr.value]
  have hresult := f.ofText_flatMap settings (Nat.zero_le _) hvalue
  simpa [f, Formula.lexemes, Formula.enclose, Formula.pairs, Slot.needsPair, Lexeme.text, Operator.sign] using hresult

/-- There is no sign in front of a numeral. -/
private theorem ofText_minus (settings : Settings) (h : Numeral text) :
    (ofText settings ('-' :: text)).result = .error (.parse (.unexpected .minus ⟨0, 1⟩)) := by
  have hlexemes : Lexeme.ofText ('-' :: text) = [.mark '-' .minus, .numeral text] := by
    have hnumeral : Lexeme.ofText (text ++ []) = .numeral text :: Lexeme.ofText [] :=
      Lexeme.ofText_numeral_append h (by simp [Lexeme.NoDigit]) (by simp [Lexeme.NoPlaces])
    rw [List.append_nil, Lexeme.ofText_nil] at hnumeral
    rw [Lexeme.ofText_cons_of_not_isDigit (by decide), hnumeral]
    rfl
  have hwarnings : (Scan.ofText ('-' :: text)).warnings = [] := by
    apply List.map_eq_nil_iff.1
    rw [Scan.ofText, Scan.map_char_ofLexemes, hlexemes]
    rfl
  have hread : Expr.ofTokens (Scan.ofText ('-' :: text)).tokens = .error (.unexpected .minus ⟨0, 1⟩) := by
    rw [Scan.ofText, hlexemes, Scan.ofLexemes_cons]
    exact Pushdown.ofTokens_eq_error_iff.2 rfl
  rw [result_ofText, Scan.outcome_of_lenient fun _ => hwarnings, Scan.lenientOutcome, hread]

/-- What is shown of a finite value, wherever it comes from, can be typed back and gives the same double, in each mode
and with nothing skipped. If the sign of the value is not set, this is so as it stands. If it is set and the value is
not zero, the text is that of an operation that lacks its first operand, and with a zero in front of it gives back the
value. -/
theorem ofText_display (v : Float) (hfinite : v.isFinite = true) (settings : Settings) :
    let shown := (Double.display v).toList
    (Double.isNegative v = false → (ofText settings shown).result = .ok ⟨v, []⟩) ∧
    (Double.isNegative v = true → (v == 0) = false →
      (ofText settings ('0' :: shown)).result = .ok ⟨v, []⟩ ∧
      (ofText settings shown).result = .error (.parse (.unexpected .minus ⟨0, 1⟩))) := by
  have hpattern := Double.magnitudePattern_lt_of_isFinite hfinite
  have hread := Double.read?_magnitudeText hpattern
  intro shown
  have hshown : shown = Double.text v := String.toList_ofList
  have hnumber : Double.isNaN v = false := decide_eq_false (Nat.not_lt.2 (Nat.le_of_lt hpattern))
  constructor
  · intro hclear
    rw [hshown, Double.text, hnumber, hclear]
    simp only [Bool.false_eq_true, if_false]
    rw [ofText_numeral settings hread, Double.ofPattern_magnitudePattern hclear]
  · intro hset hne
    rw [hshown, Double.text, hnumber, hset]
    simp only [Bool.false_eq_true, if_false, if_true]
    rw [ofText_zero_minus settings hread, Double.zero_sub_ofPattern hfinite hset hne]
    exact ⟨rfl, ofText_minus settings (Double.numeral_magnitudeText hpattern)⟩

theorem ofText_display_tenth :
    (0.1 : Float).isFinite = true ∧ Double.isNegative 0.1 = false ∧ Double.display 0.1 = "0.1" ∧
    (-0.1 : Float).isFinite = true ∧ Double.isNegative (-0.1) = true ∧ ((-0.1 : Float) == 0) = false ∧
    Double.display (-0.1) = "-0.1" ∧
    ∀ settings, (ofText settings "0.1".toList).result = .ok ⟨0.1, []⟩ ∧
      (ofText settings ('0' :: "-0.1".toList)).result = .ok ⟨-0.1, []⟩ ∧
      (ofText settings "-0.1".toList).result = .error (.parse (.unexpected .minus ⟨0, 1⟩)) := by
  have hfinite : (0.1 : Float).isFinite = true := by decide +kernel
  have hclear : Double.isNegative 0.1 = false := by decide +kernel
  have hshown : Double.display 0.1 = "0.1" := by decide +kernel
  have hfinite' : (-0.1 : Float).isFinite = true := by decide +kernel
  have hset : Double.isNegative (-0.1) = true := by decide +kernel
  have hne : ((-0.1 : Float) == 0) = false := by decide +kernel
  have hshown' : Double.display (-0.1) = "-0.1" := by decide +kernel
  refine ⟨hfinite, hclear, hshown, hfinite', hset, hne, hshown', fun settings => ⟨?_, ?_⟩⟩
  · rw [← hshown]
    exact (ofText_display 0.1 hfinite settings).1 hclear
  · rw [← hshown']
    exact (ofText_display (-0.1) hfinite' settings).2 hset hne

end Report

end Calculator
