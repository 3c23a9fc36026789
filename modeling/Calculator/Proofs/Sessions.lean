import Calculator.Command
import Calculator.Proofs.Doubles
import Calculator.Proofs.Input
import Calculator.Proofs.Layout
import Calculator.Proofs.Operations
import Calculator.Proofs.Outcome

/-!
# Sessions and single runs

A session answers each of its lines as if it were the only one: `Setup.run_converse` is a turn of its loop on a console,
and `Setup.stdout_converse` the whole run. The main statement, `World.run_answers_lines`, says what stands on the
standard output behind a session, and that it is the same a file or an argument with the line would give.
-/

namespace Calculator

/-! ### Texts without a value -/

namespace Scan

/-- Where an answer comes from. -/
private theorem exists_ofTokens_of_outcome {scan : Scan} {strict : Bool} {answer : Answer}
    (h : scan.outcome strict = .ok answer) : ∃ e, Expr.ofTokens scan.tokens = .ok e := by
  unfold outcome at h
  split at h
  · cases h
  · unfold lenientOutcome at h
    split at h
    · cases h
    · next e he => exact ⟨e, he⟩

/-- The only token of a gap is the end of the input. -/
private theorem numbers_gap {text : List Char} (h : IsGap text) : numbers (ofText text).tokens = 0 := by
  have hlexemes := Lexeme.ofText_gap_append h []
  rw [List.append_nil, Lexeme.ofText_nil, List.append_nil] at hlexemes
  obtain ⟨s, t, htokens, hs, ht⟩ := exists_spells_ofLexemes (Lexeme.ofText text) .first
  rw [hlexemes, Spells, Lexeme.content_gap h, List.map_eq_nil_iff] at hs
  rw [ofText, htokens, hs, List.nil_append, numbers, List.countP_singleton, ht]
  rfl

end Scan

/-- A gap has no value. -/
private theorem Report.exists_error_of_gap (settings : Settings) {text : List Char} (h : IsGap text) :
    ∃ e, (ofText settings text).result = .error e := by
  rw [result_ofText]
  cases houtcome : (Scan.ofText text).outcome settings.strict with
  | error e => exact ⟨e, rfl⟩
  | ok answer =>
    obtain ⟨e, hread⟩ := Scan.exists_ofTokens_of_outcome houtcome
    obtain ⟨-, hcount⟩ := Scan.operators_ofText hread
    rw [Scan.numbers_gap h] at hcount
    cases hcount

/-- White space is neither a digit nor a mark. -/
private theorem Text.isGap_of_isBlank {text : List Char} (h : isBlank text = true) : IsGap text := by
  intro c hc
  have hwhite : isWhiteSpace c = true := List.all_eq_true.1 h c hc
  constructor
  · rw [isWhiteSpace, CodePoints.has_eq_any] at hwhite
    simp only [whiteSpace, List.any_cons, List.any_nil, Bool.or_false, Bool.or_eq_true, Bool.and_eq_true,
      decide_eq_true_eq] at hwhite
    rw [Bool.eq_false_iff]
    intro hdigit
    have hrange : 48 ≤ c.toNat ∧ c.toNat ≤ 57 := Char.isDigit_iff_toNat.1 hdigit
    omega
  · intro hmark
    simp only [List.mem_cons, List.not_mem_nil, or_false] at hmark
    rcases hmark with rfl | rfl | rfl | rfl | rfl | rfl <;> exact absurd hwhite (by decide)

/-! ### The standard output -/

namespace Output

@[simp] theorem stdout_append (a b : Output) : (a ++ b).stdout = a.stdout ++ b.stdout := rfl

@[simp] theorem stdout_empty : (∅ : Output).stdout = "" := rfl

end Output

private theorem Outcome.stdout_after {before : Output} (h : before.stdout = "") (o : Outcome) :
    (o.after before).output.stdout = o.output.stdout := by
  rw [after, Output.stdout_append, h, String.empty_append]

namespace Setup

variable {setup : Setup} {editor : Editor}

/-- What a text brings to the standard output: a line with its value, if it has one. -/
def shown (setup : Setup) (text : List Char) : String :=
  match (Report.ofText setup.settings text).result with
  | .ok answer => Double.display answer.value ++ "\n"
  | .error _ => ""

/-- The exit code of a single run on a text. -/
def exitCode (setup : Setup) (text : List Char) : Nat :=
  if (Report.ofText setup.settings text).result.isOk then 0 else 1

private theorem stdout_evaluate (setup : Setup) (text : List Char) :
    (setup.evaluate text).2.stdout = setup.shown text :=
  rfl

/-- A blank line, over which a session passes, has no value to be shown either. -/
private theorem stdout_respond (setup : Setup) (line : List Char) : (setup.respond line).stdout = setup.shown line := by
  unfold respond
  split
  · next hblank =>
    obtain ⟨e, he⟩ := Report.exists_error_of_gap setup.settings (Text.isGap_of_isBlank hblank)
    rw [Output.stdout_empty, shown, he]
  · exact setup.stdout_evaluate line

end Setup

/-! ### The loop -/

namespace Console

/-- The console behind a prompt that may be shown. -/
def prompted (console : Console) (prompt : String) (shown : Bool) : Console :=
  ⟨console.unread.tail, if shown then console.written ++ ⟨prompt, ""⟩ else console.written⟩

private theorem stdout_prompted (console : Console) (prompt : String) (shown : Bool) :
    (console.prompted prompt shown).written.stdout = console.written.stdout ++ if shown then prompt else "" := by
  cases shown
  · exact String.append_empty.symm
  · rfl

private theorem run_ask (editor : Editor) (terminal : Option String) (prompt : String) (console : Console) :
    (editor.ask streams terminal prompt).run console =
      (console.unread.head?.map editor.lineOf, console.prompted prompt (editor.prompts terminal)) := by
  unfold Editor.ask prompted
  cases editor.prompts terminal <;> rfl

end Console

namespace Setup

variable {setup : Setup} {editor : Editor}

/-- The prompt as an editor shows it. -/
def promptOn (setup : Setup) (editor : Editor) : String :=
  if editor.prompts setup.terminal then setup.settings.prompt else ""

/-- The standard output of a session on lines. -/
def dialogue (setup : Setup) (editor : Editor) (lines : List (List Char)) : String :=
  String.join (lines.map fun line => setup.promptOn editor ++ setup.shown line) ++ setup.promptOn editor

/-- A session over some lines and more goes on where one over the lines shows its last prompt. -/
private theorem dialogue_append (setup : Setup) (editor : Editor) (lines lines' : List (List Char)) :
    setup.dialogue editor (lines ++ lines') =
      String.join (lines.map fun line => setup.promptOn editor ++ setup.shown line) ++
        setup.dialogue editor lines' := by
  rw [dialogue, dialogue, List.map_append, String.join_append, String.append_assoc]

private theorem dialogue_cons (setup : Setup) (editor : Editor) (line : List Char) (lines : List (List Char)) :
    setup.dialogue editor (line :: lines) =
      setup.promptOn editor ++ setup.shown line ++ setup.dialogue editor lines := by
  rw [← List.singleton_append, dialogue_append]
  simp

/-- One turn of the loop. -/
theorem run_converse (setup : Setup) (editor : Editor) (console : Console) :
    (setup.converse editor Console.streams).run console =
      let asked := console.prompted setup.settings.prompt (editor.prompts setup.terminal)
      match console.unread.head?.map editor.lineOf with
      | none => (0, asked)
      | some (.error stop) => (stop.exitCode, { asked with written := asked.written ++ ⟨"", stop.line⟩ })
      | some (.ok line) =>
        (setup.converse editor Console.streams).run { asked with written := asked.written ++ setup.respond line } := by
  conv => lhs; rw [converse, repeatM_eq_of_monadTail]
  simp only [repeatM.body]
  rw [StateT.run_bind, StateT.run_bind, Console.run_ask]
  cases console.unread.head?.map editor.lineOf with
  | none => rfl
  | some handed => cases handed <;> rfl

/-- A session shows what each line brings that is handed over to it, up to what stops it. -/
theorem stdout_converse (setup : Setup) {unread : List (List UInt8)} {lines : List (List Char)} {stop : Option Stop}
    {rest : List (Except Stop (List Char))}
    (h : unread.map editor.lineOf = lines.map .ok ++ stop.toList.map .error ++ rest) (hnone : stop = none → rest = [])
    (written : Output) :
    ∃ console, (setup.converse editor Console.streams).run ⟨unread, written⟩ = (stop.elim 0 Stop.exitCode, console) ∧
      console.written.stdout = written.stdout ++ setup.dialogue editor lines := by
  have hasked : ∀ console : Console,
      (console.prompted setup.settings.prompt (editor.prompts setup.terminal)).written.stdout =
        console.written.stdout ++ setup.promptOn editor :=
    fun console => console.stdout_prompted _ _
  induction lines generalizing unread written with
  | nil =>
    have hlast : setup.dialogue editor [] = setup.promptOn editor := String.empty_append
    rw [run_converse, hlast]
    cases stop with
    | none =>
      obtain rfl : unread = [] := by simpa [hnone rfl] using h
      exact ⟨_, rfl, hasked _⟩
    | some stop =>
      obtain ⟨bytes, unread, rfl, hbytes, -⟩ := List.map_eq_cons_iff.1 h
      simp only [List.head?_cons, Option.map_some, hbytes]
      exact ⟨_, rfl, String.append_empty.trans (hasked _)⟩
  | cons line lines ih =>
    obtain ⟨bytes, unread, rfl, hbytes, hunread⟩ := List.map_eq_cons_iff.1 h
    rw [run_converse]
    simp only [List.head?_cons, Option.map_some, hbytes]
    obtain ⟨console, hrun, hstdout⟩ := ih hunread _
    refine ⟨console, hrun, hstdout.trans ?_⟩
    rw [Output.stdout_append, hasked, stdout_respond, dialogue_cons]
    simp only [String.append_assoc]

/-- A session shows what each line of its input brings. -/
private theorem session_of_input (setup : Setup) {input : List UInt8} {lines : List (List Char)} {stop : Option Stop}
    (h : Input input lines stop) (hkeeps : editor.Keeps lines) :
    (setup.session editor input).output.stdout = setup.dialogue editor lines ∧
      (setup.session editor input).exitCode = if stop = none then 0 else 1 := by
  obtain ⟨rest, hlines, hnone⟩ := Editor.map_lineOf_lines h hkeeps
  obtain ⟨console, hrun, hstdout⟩ := setup.stdout_converse hlines hnone ∅
  simp only [session, hrun]
  refine ⟨hstdout.trans String.empty_append, ?_⟩
  cases stop with
  | none => rfl
  | some s =>
    obtain rfl := h.eq_lineNotText
    rfl

/-- A single run shows the same as a line of a session, and its exit code says whether there is a value. -/
private theorem once_eq (setup : Setup) (text : List Char) :
    (setup.once text).output.stdout = setup.shown text ∧ (setup.once text).exitCode = setup.exitCode text := by
  cases h : setup.evaluate text with
  | mk result output =>
    have hresult : (Report.ofText setup.settings text).result = result := congrArg Prod.fst h
    have hshown : setup.shown text = output.stdout := congrArg (·.2.stdout) h
    simp only [once, h, exitCode, hresult, hshown]
    cases result with
    | ok answer => exact ⟨rfl, rfl⟩
    | error e => exact ⟨String.append_empty, rfl⟩

private theorem onFile_encode (setup : Setup) (text : List Char) :
    setup.onFile (.ok (Text.encode text)) = setup.once text := by
  simp only [onFile, Text.decode?_encode]

/-! ### Setting up -/

private theorem stdout_announce (setup : Setup) (command : Command) : (setup.announce command).stdout = "" := by
  cases command <;> rfl

/-- A setup is that of its variables, and nothing goes to the standard output on the way to it. -/
private theorem eq_of_ofEnvironment {setup : Setup} {environment : Environment} {assignments : Option (List UInt8)}
    {opening : Output} (h : ofEnvironment environment assignments = .ok (setup, opening)) :
    setup = (ofVariables (environment.assignFile assignments).1).1 ∧ opening.stdout = "" := by
  unfold ofEnvironment at h
  simp only at h
  split at h
  · cases h
  · cases h
    exact ⟨rfl, rfl⟩

private theorem settings_ofVariables (vars : Environment) :
    (ofVariables vars).1.settings.prompt = (vars.get? "CALC_PROMPT").getD ">> " ∧
      (ofVariables vars).1.settings.strict = (vars.get? "CALC_STRICT").any Settings.isOn ∧
      (ofVariables vars).1.terminal = vars.get? "TERM" := by
  refine ⟨rfl, ?_, rfl⟩
  show ((vars.get? "CALC_STRICT").map Settings.isOn).getD false = _
  cases vars.get? "CALC_STRICT" <;> rfl

end Setup

namespace World

variable {w : World} {setup : Setup} {opening : Output}

/-- Nothing that is written before a command is carried out goes to the standard output. -/
private theorem run_of_command {command : Command} (editor : Editor)
    (hsetup : Setup.ofEnvironment w.environment w.assignments = .ok (setup, opening))
    (hcommand : Command.ofArguments? w.arguments = some command) :
    let outcome := match command with
      | .prompt => setup.session editor w.input
      | .file path => setup.onFile (w.read path)
      | .expression text => setup.once text.toList
    (w.run editor).output.stdout = outcome.output.stdout ∧ (w.run editor).exitCode = outcome.exitCode := by
  have hbefore : (opening ++ setup.announce command).stdout = "" := by
    rw [Output.stdout_append, (Setup.eq_of_ofEnvironment hsetup).2, setup.stdout_announce, String.empty_append]
  unfold run
  simp only [hsetup, hcommand]
  exact ⟨Outcome.stdout_after hbefore _, rfl⟩

/-- Every input holds lines, and if the editor keeps them, a session shows the prompt and then what the line brings, for
one line after the other, and the prompt once more. The prompt is the configured one if the editor shows it on the
terminal, and nothing otherwise. What a line brings is a text that is read as its value, if it has one, and the same
whatever lines stand around it: what a single run on a file or on an argument with this text shows. It is nothing for
blank lines, over which the session passes, since they have no value. So a session can be split behind each of its
lines: the second part goes on where the first one shows its last prompt. A session ends well unless there is a line
that is no text, and a single run if there is a value. -/
theorem run_answers_lines {environment : Environment} {assignments : Option (List UInt8)} {setup : Setup}
    {opening : Output} (hsetup : Setup.ofEnvironment environment assignments = .ok (setup, opening)) (editor : Editor)
    (read : String → Except FileError (List UInt8)) :
    let vars := (environment.assignFile assignments).1
    let prompt := if editor.prompts setup.terminal then setup.settings.prompt else ""
    let run (arguments : List String) (input : List UInt8) :=
      World.run ⟨arguments, environment, assignments, read, input⟩ editor
    (setup.settings.prompt = (vars.get? "CALC_PROMPT").getD ">> " ∧
      setup.settings.strict = (vars.get? "CALC_STRICT").any Settings.isOn ∧
      setup.terminal = vars.get? "TERM") ∧
    (∀ input, ∃ lines stop, Input input lines stop) ∧
    (∀ arguments ∈ [[], ["-i"]], ∀ input lines stop, Input input lines stop → editor.Keeps lines →
      (run arguments input).output.stdout = String.join (lines.map fun line => prompt ++ setup.shown line) ++ prompt ∧
      (run arguments input).exitCode = if stop = none then 0 else 1) ∧
    (∀ arguments ∈ [[], ["-i"]], ∀ a b lines lines' stop, Input a lines none → editor.Keeps lines →
      (a = [] ∨ a.getLast? = some 10) → Input b lines' stop → editor.Keeps lines' →
      (∃ front, (run arguments a).output.stdout = front ++ prompt ∧
        (run arguments (a ++ b)).output.stdout = front ++ (run arguments b).output.stdout) ∧
      (run arguments (a ++ b)).exitCode = (run arguments b).exitCode) ∧
    (∀ text answer, (Report.ofText setup.settings text).result = .ok answer →
      ∃ value, setup.shown text = value ++ "\n" ∧ Double.readSigned? value.toList = some answer.value) ∧
    (∀ text e, (Report.ofText setup.settings text).result = .error e → setup.shown text = "") ∧
    (∀ text, Text.isBlank text = true → ∃ e, (Report.ofText setup.settings text).result = .error e) ∧
    (∀ text path input, read path = .ok (Text.encode text) →
      (run ["-f", path] input).output.stdout = setup.shown text ∧
      (run ["-f", path] input).exitCode = setup.exitCode text) ∧
    ∀ text input,
      (run ["-e", String.ofList text] input).output.stdout = setup.shown text ∧
      (run ["-e", String.ofList text] input).exitCode = setup.exitCode text := by
  intro vars prompt run
  have hsession : ∀ arguments ∈ [[], ["-i"]], ∀ input lines stop, Input input lines stop → editor.Keeps lines →
      (run arguments input).output.stdout = setup.dialogue editor lines ∧
        (run arguments input).exitCode = if stop = none then 0 else 1 := by
    intro arguments harguments input lines stop hinput hkeeps
    have hcommand : Command.ofArguments? arguments = some .prompt := by
      simp only [List.mem_cons, List.not_mem_nil, or_false] at harguments
      rcases harguments with rfl | rfl <;> rfl
    obtain ⟨hstdout, hexit⟩ :=
      run_of_command (w := ⟨arguments, environment, assignments, read, input⟩) editor hsetup hcommand
    obtain ⟨hstdout', hexit'⟩ := setup.session_of_input hinput hkeeps
    exact ⟨hstdout.trans hstdout', hexit.trans hexit'⟩
  refine ⟨?_, exists_input, hsession, ?_, ?_, ?_, ?_, ?_, ?_⟩
  · rw [(Setup.eq_of_ofEnvironment hsetup).1]
    exact Setup.settings_ofVariables vars
  · intro arguments harguments a b lines lines' stop ha hlines hend hb hlines'
    obtain ⟨hstdout, hexit⟩ := hsession arguments harguments _ _ _ (ha.append hend hb) (hlines.append hlines')
    obtain ⟨hstdoutA, -⟩ := hsession arguments harguments _ _ _ ha hlines
    obtain ⟨hstdoutB, hexitB⟩ := hsession arguments harguments _ _ _ hb hlines'
    rw [hstdout, hstdoutA, hstdoutB, hexit, hexitB]
    exact ⟨⟨_, rfl, setup.dialogue_append editor lines lines'⟩, rfl⟩
  · intro text answer hanswer
    refine ⟨Double.display answer.value, ?_, Double.readSigned?_display answer.value⟩
    rw [Setup.shown, hanswer]
  · intro text e he
    rw [Setup.shown, he]
  · intro text hblank
    exact Report.exists_error_of_gap setup.settings (Text.isGap_of_isBlank hblank)
  · intro text path input hread
    obtain ⟨hstdout, hexit⟩ :=
      run_of_command (w := ⟨["-f", path], environment, assignments, read, input⟩) editor hsetup rfl
    simp only [hread, Setup.onFile_encode, setup.once_eq text] at hstdout hexit
    exact ⟨hstdout, hexit⟩
  · intro text input
    obtain ⟨hstdout, hexit⟩ :=
      run_of_command (w := ⟨["-e", String.ofList text], environment, assignments, read, input⟩) editor hsetup rfl
    simp only [String.toList_ofList, setup.once_eq text] at hstdout hexit
    exact ⟨hstdout, hexit⟩

/-- Lines with `1`, a blank and `2+` on a terminal that is shown a prompt of its own, and a file with `1` in a
directory. -/
theorem run_answers_lines_blank :
    let environment := [("TERM", "dumb"), ("CALC_PROMPT", "? ")]
    let setup := (Setup.ofVariables environment).1
    let input := [49, 10, 32, 13, 10, 50, 43]
    let directory : Directory := ⟨Entry.insert (Text.encode ['1']) (Directory.components "sums/one") [], []⟩
    (∃ opening, Setup.ofEnvironment environment none = .ok (setup, opening)) ∧
    Input input [['1'], [' '], ['2', '+']] none ∧
    Editor.direct.Keeps [['1'], [' '], ['2', '+']] ∧
    (run ⟨[], environment, none, directory.read, input⟩).output.stdout =
      "? " ++ setup.shown ['1'] ++ ("? " ++ ("? " ++ setup.shown ['2', '+'])) ++ "? " ∧
    (run ⟨["-f", "sums/one"], environment, none, directory.read, input⟩).output.stdout = setup.shown ['1'] := by
  intro environment setup input directory
  have hsetup : ∃ opening, Setup.ofEnvironment environment none = .ok (setup, opening) := ⟨_, rfl⟩
  have hend : Input (Text.encode ['2', '+']) [['2', '+']] none := .last (by decide) (by decide)
  have hblankLine := @Input.returnFeed [' '] _ _ _ (by decide) hend
  have hinput : Input input [['1'], [' '], ['2', '+']] none :=
    @Input.feed ['1'] _ _ _ (by decide) (by decide) hblankLine
  have hkeeps : Editor.direct.Keeps [['1'], [' '], ['2', '+']] := Editor.keeps_direct (by decide)
  have hfile : directory.read "sums/one" = .ok (Text.encode ['1']) :=
    Directory.read_insert _ (by decide +kernel) (by decide +kernel) (by decide) (by decide +kernel) (by decide +kernel)
      [] []
  have hprompt : (if Editor.direct.prompts setup.terminal then setup.settings.prompt else "") = "? " := by
    decide +kernel
  obtain ⟨opening, hopening⟩ := id hsetup
  obtain ⟨-, -, hsession, -, -, hnothing, hblank, hread, -⟩ := run_answers_lines hopening .direct directory.read
  obtain ⟨e, he⟩ := hblank [' '] (by decide)
  have hstdout := (hsession [] List.mem_cons_self _ _ _ hinput hkeeps).1
  refine ⟨hsetup, hinput, hkeeps, ?_, (hread ['1'] "sums/one" input hfile).1⟩
  rw [hstdout, hprompt]
  simp [hnothing [' '] e he]

end World

end Calculator
