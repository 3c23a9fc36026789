import Calculator.Command

/-!
# The program

Shows the world to the library and writes what the library answers. At the prompt lines are answered as they come.
-/

namespace Calculator

/-- Writes an output to the streams of the process. -/
def Output.write (o : Output) : IO Unit := do
  let stdout ← IO.getStdout
  stdout.putStr o.stdout
  stdout.flush
  (← IO.getStderr).putStr o.stderr

def FileError.ofIO : IO.Error → FileError
  | .inappropriateType _ 20 _ => .notDirectory
  | .inappropriateType _ _ _ => .isDirectory
  | .invalidArgument _ 36 _ => .nameTooLong
  | .permissionDenied _ _ _ => .denied
  | _ => .notFound

/-- What a file holds. -/
def readFile (path : String) : IO (Except FileError (List UInt8)) := do
  try
    return .ok (← IO.FS.readBinFile path).toList
  catch e =>
    return .error (.ofIO e)

/-- The assignment file of the working directory or of the nearest directory above that has one. -/
def readAssignments : IO (Option (List UInt8)) := do
  let mut path := ".env"
  for _ in (← IO.currentDir).toString.splitOn "/" do
    match ← readFile path with
    | .ok bytes => return some bytes
    | .error _ => path := "../" ++ path
  return none

/-- The variables of the process that matter: those of the settings, and all whose names occur in a file. -/
def readEnvironment (assignments : Option (List UInt8)) : IO Environment := do
  let text := (Text.decode? (assignments.getD [])).getD []
  let words := (text.splitOnP fun c => !(Text.isAlphanumeric c || c = '_' || c = '.')).map String.ofList
  let mut env : Environment := []
  let own := [Settings.promptVariable, Settings.strictVariable, Command.filterVariable, Command.terminalVariable]
  for name in own ++ words do
    if let some value ← IO.getEnv name then
      env := env.define name value
  return env

/-- The next line of the standard input with its ending, nothing at the end of the input. -/
def readLine : IO (Option (List UInt8)) := do
  let stdin ← IO.getStdin
  let mut bytes : Array UInt8 := #[]
  repeat
    let next ← stdin.read 1
    match next.data[0]? with
    | none => break
    | some byte =>
      bytes := bytes.push byte
      if byte = 10 then break
  return if bytes.isEmpty then none else some bytes.toList

/-- The streams of the process. -/
def Streams.process : Streams IO :=
  ⟨readLine, Output.write⟩

end Calculator

open Calculator in
def main (arguments : List String) : IO UInt32 := do
  let assignments ← readAssignments
  let environment ← readEnvironment assignments
  match Command.ofArguments? arguments, Setup.ofEnvironment environment assignments with
  | some .prompt, .ok (setup, opening) =>
    (opening ++ setup.announce .prompt).write
    let shown ← (← IO.getStdin).isTty
    let editor := { Editor.direct with prompts := fun terminal => shown || Editor.direct.prompts terminal }
    return (← setup.converse editor .process).toUInt32
  | command, _ =>
    let content ← match command with
      | some (.file path) => readFile path
      | _ => pure (.error .notFound)
    let outcome := World.run ⟨arguments, environment, assignments, fun _ => content, []⟩
    outcome.output.write
    return outcome.exitCode.toUInt32
