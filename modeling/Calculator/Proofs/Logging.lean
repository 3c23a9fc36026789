import Calculator.Log
import Calculator.Proofs.Operations
import Calculator.Proofs.Outcome

/-!
# What a run logs

The log of a run is its warnings and then a trail that fits the result (`Log.Trail`), with the texts of the records
written out here. The main statement, `records_ofText`, says this of every run. So there is one error record if the run
fails, with the text of the failure, and none otherwise, and a run that comes to a value traces as many operations as
the text has operators.
-/

namespace Calculator

namespace Log

/-- The place of a character or of a token. -/
def place (s : Span) : String :=
  "[" ++ toString s.start ++ ":" ++ toString s.stop ++ "]"

/-- The sign between the operands of an operation. -/
def sign : Operator → String
  | .plus => "+"
  | .minus => "-"
  | .star => "*"
  | .slash => "/"

/-- The records of the characters that a scan skips. -/
def skipped (scan : Scan) : List Record :=
  scan.warnings.map fun w => ⟨.warn, scannerSource,
    "Character `" ++ toString w.char ++ "` on line " ++ toString w.line ++ " at position " ++ place w.span ++
      " is not recognized"⟩

/-- The records of the tokens of a scan, the end of the input included. -/
def listing (scan : Scan) : List Record :=
  scan.tokens.map fun t => ⟨.debug, mainSource,
    place t.span ++ " - " ++ t.kind.name ++ ": " ++ Text.quoted t.lexeme ++ " (line " ++ toString t.line ++ ")"⟩

/-- The records of operations that have been carried out, each an equation of the operands and the value. -/
def workings (steps : List Step) : List Record :=
  steps.map fun s => ⟨.trace, evaluatorSource,
    Double.display s.left ++ " " ++ sign s.op ++ " " ++ Double.display s.right ++ " = " ++ Double.display s.value⟩

/-- The record of the row and the column at which a text is refused. -/
def location (p : Position) : Record :=
  ⟨.trace, mainSource, "(" ++ toString p.row ++ ", " ++ toString p.column ++ ")"⟩

/-- `Trail text scan strict records result`: a run with this result logs the records behind the warnings of the scan. -/
inductive Trail (text : List Char) (scan : Scan) : Bool → List Record → Except Failure Answer → Prop
  /-- Strictness ends a run at the first warning, with the position of the character. -/
  | refused {w : Warning} {more : List Warning} (first : scan.warnings = w :: more) :
      Trail text scan true
        [⟨.error, mainSource, "Lex error: " ++ w.message⟩, location (w.span.position text)]
        (.error (.lexical w))
  /-- Tokens that are no expression are listed, and then the position of the one that is wrong. -/
  | unread {strict : Bool} {e : ParseError} (lenient : strict = true → scan.warnings = [])
      (unread : Expr.ofTokens scan.tokens = .error e) :
      Trail text scan strict
        (listing scan ++ [⟨.error, mainSource, "Parse error: " ++ e.message⟩, location (e.position text)])
        (.error (.parse e))
  /-- Operations are traced in post-order, up to the first division by zero. -/
  | undefined {strict : Bool} {e n : Expr} {done rest : List Expr} {steps : List Step}
      (lenient : strict = true → scan.warnings = []) (read : Expr.ofTokens scan.tokens = .ok e)
      (nodes : e.operatorNodes = done ++ n :: rest) (traced : done.map Expr.step? = steps.map some)
      (zero : n.DividesByZero) :
      Trail text scan strict
        (listing scan ++ workings steps ++ [⟨.error, mainSource, "Interpreter error: Divide by 0"⟩])
        (.error (.evaluation .divisionByZero))
  /-- On the way to a value the operations of all operator nodes are traced. -/
  | valued {strict : Bool} {e : Expr} {steps : List Step} {v : Float} (lenient : strict = true → scan.warnings = [])
      (read : Expr.ofTokens scan.tokens = .ok e) (traced : e.operatorNodes.map Expr.step? = steps.map some)
      (value : e.value = .ok v) :
      Trail text scan strict (listing scan ++ workings steps) (.ok ⟨v, scan.warnings⟩)

private theorem map_record_skipped (scan : Scan) :
    (scan.warnings.map Event.skipped).map Event.record = skipped scan := by
  rw [List.map_map]
  exact List.map_congr_left fun _ _ => rfl

private theorem map_record_token (scan : Scan) : (scan.tokens.map Event.token).map Event.record = listing scan := by
  rw [List.map_map]
  exact List.map_congr_left fun _ _ => rfl

private theorem map_record_step (steps : List Step) : (steps.map Event.step).map Event.record = workings steps := by
  rw [List.map_map]
  refine List.map_congr_left ?_
  rintro ⟨left, op, right, value⟩ -
  cases op <;> rfl

/-- The error records that a result asks for. -/
def errors : Except Failure Answer → List Record
  | .error e => [⟨.error, mainSource, e.message⟩]
  | .ok _ => []

/-! ### Counting records -/

private theorem filter_skipped (scan : Scan) {s : Severity} (h : s ≠ .warn) :
    (skipped scan).filter (·.severity = s) = [] := by
  simp [skipped, List.filter_map, Function.comp_def, h.symm]

private theorem filter_listing (scan : Scan) {s : Severity} (h : s ≠ .debug) :
    (listing scan).filter (·.severity = s) = [] := by
  simp [listing, List.filter_map, Function.comp_def, h.symm]

private theorem filter_workings (steps : List Step) (s : Severity) :
    (workings steps).filter (·.severity = s) = if s = .trace then workings steps else [] := by
  by_cases h : s = .trace
  · rw [if_pos h, List.filter_eq_self, workings, List.forall_mem_map]
    simp [h]
  · simp [workings, List.filter_map, Function.comp_def, h, Ne.symm h]

namespace Trail

variable {text : List Char} {scan : Scan} {strict : Bool} {records : List Record} {result : Except Failure Answer}

/-- A trail has an error record exactly for a failure. -/
private theorem filter_error (h : Trail text scan strict records result) :
    records.filter (·.severity = .error) = errors result := by
  have hlisting := filter_listing scan (s := .error) (by decide)
  cases h with
  | refused _ => rfl
  | unread _ _ => rw [List.filter_append, hlisting]; rfl
  | undefined _ _ _ _ _ => rw [List.filter_append, List.filter_append, hlisting, filter_workings]; rfl
  | valued _ _ _ _ => rw [List.filter_append, hlisting, filter_workings]; rfl

/-- With a value, a trail traces the operations of all operator nodes and nothing else. -/
private theorem filter_trace {answer : Answer} (h : Trail text scan strict records (.ok answer)) :
    ∃ e steps, Expr.ofTokens scan.tokens = .ok e ∧ e.operatorNodes.map Expr.step? = steps.map some ∧
      records.filter (·.severity = .trace) = workings steps := by
  cases h with
  | @valued _ e steps _ _ read traced _ =>
    refine ⟨e, steps, read, traced, ?_⟩
    rw [List.filter_append, filter_listing scan (by decide), filter_workings, if_pos rfl, List.nil_append]

end Trail

end Log

namespace Report

open Log (map_record_skipped map_record_token map_record_step)

/-- The log of a run is its warnings and a trail that fits the result. -/
private theorem exists_trail (settings : Settings) (text : List Char) :
    ∃ behind, (ofText settings text).events.map Event.record = Log.skipped (Scan.ofText text) ++ behind ∧
      Log.Trail text (Scan.ofText text) settings.strict behind (ofText settings text).result := by
  by_cases hs : settings.strict = true → (Scan.ofText text).warnings = []
  · rw [ofText_of_lenient hs]
    cases hread : Expr.ofTokens (Scan.ofText text).tokens with
    | error e =>
      refine ⟨_, ?_, .unread hs hread⟩
      rw [List.map_append, List.map_append, map_record_skipped, map_record_token, List.append_assoc]
      rfl
    | ok e =>
      cases hvalue : e.value with
      | error err =>
        obtain rfl := Expr.eq_divisionByZero_of_value hvalue
        obtain ⟨done, n, rest, hnodes, hdone, hn⟩ := Expr.exists_operatorNodes_of_error hvalue
        simp only [hvalue]
        refine ⟨_, ?_, .undefined hs hread hnodes hdone hn⟩
        rw [List.map_append, List.map_append, List.map_append, map_record_skipped, map_record_token, map_record_step,
          List.append_assoc, List.append_assoc, List.append_assoc]
        rfl
      | ok v =>
        simp only [hvalue]
        refine ⟨_, ?_, .valued hs hread (Expr.map_step?_operatorNodes hvalue) hvalue⟩
        rw [List.map_append, List.map_append, map_record_skipped, map_record_token, map_record_step, List.append_assoc]
  · obtain ⟨hstrict, hne⟩ := Classical.not_imp.1 hs
    obtain ⟨w, more, hw⟩ := List.exists_cons_of_ne_nil hne
    rw [ofText_of_strict hstrict hw, hstrict]
    refine ⟨_, ?_, .refused hw⟩
    rw [List.map_append, map_record_skipped]
    rfl

/-- The log of a run is its warnings, in the order of the text, and a trail that fits the result. A run fails exactly if
there is one error record, which has the text of the failure, and there is never more than one. With a value, it traces
one operation for each operator of the postfix form, in this order: as many operations as the text has operators, one
less than it has numbers. -/
theorem records_ofText (settings : Settings) (text : List Char) :
    let scan := Scan.ofText text
    let report := ofText settings text
    let records := report.events.map Event.record
    scan.warnings.Pairwise (fun v w => v.span.Before w.span) ∧
    (∃ behind, records = Log.skipped scan ++ behind ∧
      Log.Trail text scan settings.strict behind report.result) ∧
    ((∃ e, report.result = .error e) ↔ records.countP (·.severity = .error) = 1) ∧
    records.countP (·.severity = .error) ≤ 1 ∧
    (∀ e, report.result = .error e → records.filter (·.severity = .error) = [⟨.error, Log.mainSource, e.message⟩]) ∧
    ∀ answer, report.result = .ok answer →
      (∃ e steps, Expr.ofTokens scan.tokens = .ok e ∧ steps.map Step.op = e.toPostfix.filterMap Postfix.operator? ∧
        records.filter (·.severity = .trace) = Log.workings steps) ∧
      records.countP (·.severity = .trace) = operators scan.tokens ∧
      operators scan.tokens + 1 = numbers scan.tokens := by
  intro scan report records
  obtain ⟨behind, hrecords, htrail⟩ := exists_trail settings text
  have hwarn : ∀ s, s ≠ .warn → records.filter (·.severity = s) = behind.filter (·.severity = s) := by
    intro s hs
    rw [show records = _ from hrecords, List.filter_append, Log.filter_skipped _ hs, List.nil_append]
  have herrors : records.filter (·.severity = .error) = Log.errors report.result :=
    (hwarn .error (by decide)).trans htrail.filter_error
  refine ⟨(Scan.lossless_tokens_warnings text).warningsInOrder, ⟨behind, hrecords, htrail⟩, ?_, ?_, fun e he => ?_,
    fun answer hanswer => ?_⟩
  · rw [List.countP_eq_length_filter, herrors]
    cases report.result <;> simp [Log.errors]
  · rw [List.countP_eq_length_filter, herrors]
    cases report.result <;> simp [Log.errors]
  · rw [herrors, he]
    rfl
  · rw [show (ofText settings text).result = _ from hanswer] at htrail
    obtain ⟨e, steps, hread, htraced, hfilter⟩ := htrail.filter_trace
    obtain ⟨hnodes, hnumbers⟩ := Scan.operators_ofText hread
    have htrace := (hwarn .trace (by decide)).trans hfilter
    have hlength := congrArg List.length htraced
    rw [List.length_map, List.length_map, ← hnodes] at hlength
    refine ⟨⟨e, steps, hread, Expr.map_op_eq_toPostfix htraced, htrace⟩, ?_, hnumbers⟩
    rw [List.countP_eq_length_filter, htrace, Log.workings, List.length_map, ← hlength]

end Report

end Calculator
