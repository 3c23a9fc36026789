import Calculator.Editor
import Calculator.Log.Filter

/-!
# Prompt sessions

A session prompts for a line, answers it, and prompts again until the input ends. Every line is a text of its own: a
failure is only logged, and blank lines are passed over. A line that cannot be read ends the session. The loop is the
same for the streams of a process and for a console that is held in memory.
-/

namespace Calculator

/-- How a program has been set up: what its variables configure, and the name of the terminal. -/
structure Setup where
  settings : Settings
  filter : Log.Filter
  terminal : Option String

/-- The lines that are still to be read and the output that has been written. -/
structure Console where
  unread : List (List UInt8)
  written : Output

namespace Console

-- a loop over states can be unfolded only if there is one
instance : Nonempty Console :=
  ⟨⟨[], ∅⟩⟩

/-- The streams of a console. -/
def streams : Streams (StateM Console) where
  next console := (console.unread.head?, { console with unread := console.unread.tail })
  write output console := ((), { console with written := console.written ++ output })

end Console

namespace Setup

/-- What is written when the calculator is run on a text: its value if it has one, and the log. -/
def evaluate (setup : Setup) (text : List Char) : Except Failure Answer × Output :=
  let report := Report.ofText setup.settings text
  let value := match report.result with
    | .ok answer => Double.display answer.value ++ "\n"
    | .error _ => ""
  (report.result, ⟨value, setup.filter.render (report.events.map Event.record)⟩)

/-- The answer to a line at the prompt. -/
def respond (setup : Setup) (line : List Char) : Output :=
  if Text.isBlank line then ∅ else (setup.evaluate line).2

/-- Asks for lines and answers them, up to the end of the input or to a line that cannot be read. The result is the exit
code. -/
def converse {m : Type → Type} [Monad m] (setup : Setup) (editor : Editor) (streams : Streams m) : m Nat :=
  repeatM (fun _ : Unit => do
    match ← editor.ask streams setup.terminal setup.settings.prompt with
    | none => return .inr 0
    | some (.error stop) =>
      streams.write ⟨"", stop.line⟩
      return .inr stop.exitCode
    | some (.ok line) =>
      streams.write (setup.respond line)
      return .inl ()) ()

/-- A session on an input. -/
def session (setup : Setup) (editor : Editor) (input : List UInt8) : Outcome :=
  let (exitCode, console) := (setup.converse editor Console.streams).run ⟨Text.lines input, ∅⟩
  ⟨console.written, exitCode⟩

/-- The calculator run once on a text. -/
def once (setup : Setup) (text : List Char) : Outcome :=
  let (result, output) := setup.evaluate text
  match result with
  | .ok _ => ⟨output, 0⟩
  | .error e => (Stop.failure e).outcome output

/-- The calculator run once on what a file holds. -/
def onFile (setup : Setup) (content : Except FileError (List UInt8)) : Outcome :=
  match content with
  | .error e => (Stop.file e).outcome ∅
  | .ok bytes =>
    match Text.decode? bytes with
    | none => Stop.fileNotText.outcome ∅
    | some text => setup.once text

end Setup

end Calculator
