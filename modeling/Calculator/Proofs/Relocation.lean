import Calculator.Proofs.Outcome
import Calculator.Proofs.Reading

/-!
# Tokens at other places

Places only serve to say where something was found. If tokens and warnings are moved, reading and evaluating them comes
to the same, with the moved spans in the failure or the warnings (`Expr.ofTokens_map_token`, `Relocation.outcome_scan`).
-/

namespace Calculator

/-- Where spans move to, and what line things then have. -/
structure Relocation where
  span : Span → Span
  line : Span → Nat → Nat

namespace Relocation

variable (r : Relocation)

/-- A token at its new place. -/
def token (t : Token) : Token :=
  { t with line := r.line t.span t.line, span := r.span t.span }

/-- A warning at its new place. -/
def warning (w : Warning) : Warning :=
  { w with line := r.line w.span w.line, span := r.span w.span }

/-- A scan, all of it at its new place. -/
def scan (s : Scan) : Scan :=
  ⟨s.tokens.map r.token, s.warnings.map r.warning⟩

/-- An error with its new spans. -/
def parseError : ParseError → ParseError
  | .unexpected kind span => .unexpected kind (r.span span)
  | .unclosed opening kind span => .unclosed (r.span opening) kind (r.span span)
  | .valueless span => .valueless (r.span span)
  | .tooDeep span => .tooDeep (r.span span)
  | .outOfTokens => .outOfTokens
  | .leftover kind span => .leftover kind (r.span span)

/-- A failure with its new spans. -/
def failure : Failure → Failure
  | .lexical w => .lexical (r.warning w)
  | .parse e => .parse (r.parseError e)
  | .evaluation e => .evaluation e

/-- The same value, or the same failure with its new spans. -/
def result : Except Failure Answer → Except Failure Answer
  | .error failure => .error (r.failure failure)
  | .ok answer => .ok ⟨answer.value, answer.warnings.map r.warning⟩

/-! ### Reading -/

private def cursor (c : Cursor) : Cursor :=
  ⟨c.rest.map r.token, c.depth⟩

private def reading : Cursor.Outcome → Cursor.Outcome
  | .error e => .error (r.parseError e)
  | .ok (e, d) => .ok (e, r.cursor d)

private theorem close_cursor (opening : Token) (e : Expr) (c : Cursor) :
    Cursor.close (r.token opening) e (r.cursor c) = r.reading (Cursor.close opening e c) := by
  obtain ⟨rest, depth⟩ := c
  cases rest with
  | nil => rfl
  | cons t rest =>
    have hkind : (r.token t).kind = t.kind := rfl
    by_cases ht : t.kind = .rightParen
    · simp only [Cursor.close, cursor, List.map_cons, hkind, ht, if_true]
      rfl
    · simp only [Cursor.close, cursor, List.map_cons, hkind, ht, if_false]
      rfl

private theorem read_operand_cursor {t : Token} {rest : List Token} {depth : Nat}
    (ih : Cursor.read .sum (r.cursor ⟨rest, depth + 1⟩) = r.reading (Cursor.read .sum ⟨rest, depth + 1⟩)) :
    Cursor.read .operand (r.cursor ⟨t :: rest, depth⟩) = r.reading (Cursor.read .operand ⟨t :: rest, depth⟩) := by
  have hkind : (r.token t).kind = t.kind := rfl
  have hliteral : (r.token t).literal = t.literal := rfl
  simp only [cursor, List.map_cons] at ih ⊢
  rw [Cursor.read_operand_cons, Cursor.read_operand_cons, hkind, hliteral]
  cases t.kind with
  | number => cases t.literal <;> rfl
  | leftParen =>
    by_cases hd : maxDepth ≤ depth
    · simp only [hd, if_true]
      rfl
    · simp only [hd, if_false, ih]
      cases Cursor.read .sum ⟨rest, depth + 1⟩ with
      | error e => rfl
      | ok p => exact r.close_cursor t p.1 p.2
  | rightParen | plus | minus | star | slash | eof => rfl

/-- Phrases are read wherever their tokens stand. -/
private theorem read_cursor (level : Level) (c : Cursor) :
    Cursor.read level (r.cursor c) = r.reading (Cursor.read level c) := by
  refine Cursor.reading_induction
    (fun level c => Cursor.read level (r.cursor c) = r.reading (Cursor.read level c))
    (fun level c => ∀ left, Cursor.extend level left (r.cursor c) = r.reading (Cursor.extend level left c))
    ?operandNil ?operandCons ?phrase ?chainNil ?chainCons level c
  case operandNil =>
    intro depth
    simp only [cursor, List.map_nil, Cursor.read_operand_nil]
    rfl
  case operandCons =>
    intro t rest depth ih
    exact r.read_operand_cursor ih
  case phrase =>
    intro level c hl ih ihc
    rw [Cursor.read_chain hl, Cursor.read_chain hl, ih]
    cases hr : Cursor.read level.lower c with
    | error e => rfl
    | ok p => exact ihc p.2 (Cursor.length_lt_of_read hr) p.1
  case chainNil =>
    intro level depth _ left
    simp only [cursor, List.map_nil, Cursor.extend_nil]
    rfl
  case chainCons =>
    intro level t rest depth hl ih ihc left
    have hkind : (r.token t).kind = t.kind := rfl
    simp only [cursor, List.map_cons] at ih ⊢
    rw [Cursor.extend_cons, Cursor.extend_cons, hkind]
    cases level.operator? t.kind with
    | none => rfl
    | some op =>
      simp only [ih]
      cases hr : Cursor.read level.lower ⟨rest, depth⟩ with
      | error e => rfl
      | ok p => exact ihc p.2 (Cursor.length_lt_of_read hr) _

end Relocation

/-- Tokens are read as the same tree wherever they stand, or refused for the same reason. -/
theorem Expr.ofTokens_map_token (r : Relocation) (tokens : List Token) :
    Expr.ofTokens (tokens.map r.token) = (Expr.ofTokens tokens).mapError r.parseError := by
  have hread := r.read_cursor .sum ⟨tokens, 0⟩
  simp only [Relocation.cursor] at hread
  rw [Cursor.ofTokens_eq_match, Cursor.ofTokens_eq_match, hread]
  cases Cursor.read .sum ⟨tokens, 0⟩ with
  | error e => rfl
  | ok p =>
    obtain ⟨e, ⟨rest, depth⟩⟩ := p
    cases rest with
    | nil => rfl
    | cons t rest =>
      have hkind : (r.token t).kind = t.kind := rfl
      by_cases ht : t.kind = .eof
      · simp only [Relocation.reading, Relocation.cursor, List.map_cons, hkind, ht, if_true]
        rfl
      · simp only [Relocation.reading, Relocation.cursor, List.map_cons, hkind, ht, if_false]
        rfl

namespace Relocation

variable (r : Relocation)

/-! ### Results -/

private theorem lenientOutcome_scan (s : Scan) : (r.scan s).lenientOutcome = r.result s.lenientOutcome := by
  simp only [Scan.lenientOutcome, scan, Expr.ofTokens_map_token]
  cases Expr.ofTokens s.tokens with
  | error e => rfl
  | ok e =>
    have hsame : (Except.ok e : Except ParseError Expr).mapError r.parseError = .ok e := rfl
    simp only [hsame]
    cases e.value <;> rfl

/-- A scan that is moved has the same result, at its new place. -/
theorem outcome_scan (s : Scan) (strict : Bool) : (r.scan s).outcome strict = r.result (s.outcome strict) := by
  cases hws : s.warnings with
  | nil =>
    have hmoved : (r.scan s).warnings = [] := by rw [scan, hws]; rfl
    rw [Scan.outcome_of_lenient fun _ => hws, Scan.outcome_of_lenient fun _ => hmoved, lenientOutcome_scan]
  | cons w more =>
    have hmoved : (r.scan s).warnings = r.warning w :: more.map r.warning := by rw [scan, hws]; rfl
    cases strict with
    | true =>
      rw [Scan.outcome_of_strict hws, Scan.outcome_of_strict hmoved]
      rfl
    | false =>
      rw [Scan.outcome_of_lenient fun h => Bool.noConfusion h, Scan.outcome_of_lenient fun h => Bool.noConfusion h,
        lenientOutcome_scan]

/-! ### Moving back -/

/-- One relocation moves everything back to where it was before another one. -/
structure Undoes (back r : Relocation) : Prop where
  span : ∀ s, back.span (r.span s) = s
  line : ∀ s n, back.line (r.span s) (r.line s n) = n

namespace Undoes

variable {back r : Relocation} (h : back.Undoes r)
include h

private theorem token (t : Token) : back.token (r.token t) = t := by
  simp only [Relocation.token, h.span, h.line]

private theorem warning (w : Warning) : back.warning (r.warning w) = w := by
  simp only [Relocation.warning, h.span, h.line]

private theorem map_warning (ws : List Warning) : (ws.map r.warning).map back.warning = ws := by
  rw [List.map_map]
  exact List.map_id'' h.warning ws

theorem scan (s : Scan) : back.scan (r.scan s) = s := by
  have htokens : (s.tokens.map r.token).map back.token = s.tokens := by
    rw [List.map_map]
    exact List.map_id'' h.token s.tokens
  simp only [Relocation.scan, htokens, h.map_warning]

private theorem failure (e : Failure) : back.failure (r.failure e) = e := by
  cases e with
  | lexical w => simp only [Relocation.failure, h.warning]
  | parse e => cases e <;> simp only [Relocation.failure, parseError, h.span]
  | evaluation e => rfl

theorem result (x : Except Failure Answer) : back.result (r.result x) = x := by
  cases x with
  | error e => simp only [Relocation.result, h.failure]
  | ok answer => simp only [Relocation.result, h.map_warning]

end Undoes

end Relocation

end Calculator
