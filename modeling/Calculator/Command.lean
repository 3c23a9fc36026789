import Calculator.Environment.Assignments
import Calculator.Session

/-!
# The command line

The arguments say where expressions come from: a prompt, a file or an argument. The environment, to which a file of
assignments may add, holds the settings, the log filter and the name of the terminal.
-/

namespace Calculator

/-- What the arguments ask for. -/
inductive Command
  | prompt
  | file (path : String)
  | expression (text : String)
deriving DecidableEq, Repr

namespace Command

def ofArguments? : List String → Option Command
  | [] => some prompt
  | ["-i"] => some prompt
  | ["-f", path] => some (file path)
  | ["-e", text] => some (expression text)
  | _ => none

def usage : String :=
  "usage: calc-rust [-i | -f <file> | -e <expression>]\n"

/-- The exit code for arguments that ask for nothing known. -/
def usageCode : Nat :=
  64

/-- The variable that holds the log filter. -/
def filterVariable : String :=
  "RUST_LOG"

/-- The filter where the variable is not set. -/
def defaultFilter : String :=
  "warn"

/-- The variable that holds the name of the terminal. -/
def terminalVariable : String :=
  "TERM"

end Command

namespace Settings

/-- The settings with all that they hold. -/
def detail (s : Settings) : String :=
  "Config \x7b prompt: " ++ Text.quoted s.prompt.toList ++ ", strict: " ++ toString s.strict ++ " \x7d"

end Settings

namespace Setup

/-- The setup that an environment gives. -/
def ofVariables (env : Environment) : Setup × List String :=
  let (filter, complaints) := Log.Filter.ofText ((env.get? Command.filterVariable).getD Command.defaultFilter).toList
  (⟨Settings.ofLookup env.get?, filter, env.get? Command.terminalVariable⟩, complaints)

/-- The setup that an environment and a file of assignments give, and what is written on the way. -/
def ofEnvironment (env : Environment) (assignments : Option (List UInt8)) : Except Stop (Setup × Output) :=
  let (env, problem) := env.assignFile assignments
  if problem = some .unstorable then .error .brokenOff
  else
    let (setup, complaints) := ofVariables env
    let unread := problem.toList.map fun e =>
      (⟨.debug, Log.mainSource, "dotenvy load with error " ++ e.message⟩ : Log.Record)
    let records := unread ++ [⟨.debug, Log.mainSource, setup.settings.detail⟩]
    .ok (setup, ⟨"", String.join (complaints.map (· ++ "\n")) ++ setup.filter.render records⟩)

/-- The announcement of a command in the log. -/
def announce (setup : Setup) : Command → Output
  | .prompt => ⟨"", setup.filter.render [⟨.info, Log.mainSource, "Running in REPL mode"⟩]⟩
  | .file path => ⟨"", setup.filter.render [⟨.info, Log.mainSource, "Read from file " ++ path⟩]⟩
  | .expression _ => ∅

end Setup

/-- All that a program can see of the world when it starts. -/
structure World where
  arguments : List String
  environment : Environment
  assignments : Option (List UInt8)
  read : String → Except FileError (List UInt8)
  input : List UInt8

namespace World

/-- A whole run of the program. Its prompt reads lines through an editor. -/
def run (w : World) (editor : Editor := .direct) : Outcome :=
  match Setup.ofEnvironment w.environment w.assignments with
  | .error stop => stop.outcome ∅
  | .ok (setup, opening) =>
    match Command.ofArguments? w.arguments with
    | none => ⟨opening ++ ⟨"", Command.usage⟩, Command.usageCode⟩
    | some command =>
      let rest := match command with
        | .prompt => setup.session editor w.input
        | .file path => setup.onFile (w.read path)
        | .expression text => setup.once text.toList
      rest.after (opening ++ setup.announce command)

end World

end Calculator
