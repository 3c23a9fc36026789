import Calculator.Stop
import Calculator.Text.Erased
import Calculator.Text.Lines

/-!
# Line editors

A session reads its input through a line editor, which shows the prompt and hands over one line after the other, without
its ending. Where the prompt is shown and what can be changed in a line while it is typed depend on the editor.
-/

namespace Calculator

/-- A line editor. Terminals are known by their names, if they have one. -/
structure Editor where
  /-- Whether the prompt is shown on a terminal. -/
  prompts : Option String → Bool
  /-- What is handed over of a line that is typed, unless the editor breaks off. -/
  edited? : List Char → Option (List Char)

/-- Where a session reads bytes and writes its output. -/
structure Streams (m : Type → Type) where
  /-- The next line with its ending, nothing at the end of the input. -/
  next : m (Option (List UInt8))
  write : Output → m Unit

namespace Editor

/-- The line that some bytes hold, as it is handed over. -/
def lineOf (editor : Editor) (bytes : List UInt8) : Except Stop (List Char) :=
  match Text.decode? bytes with
  | none => .error .lineNotText
  | some line =>
    match editor.edited? (Text.content line) with
    | none => .error .brokenOff
    | some text => .ok text

/-- Asks for the next line with a prompt. -/
def ask {m : Type → Type} [Monad m] (editor : Editor) (streams : Streams m) (terminal : Option String)
    (prompt : String) : m (Option (Except Stop (List Char))) := do
  if editor.prompts terminal then
    streams.write ⟨prompt, ""⟩
  return (← streams.next).map editor.lineOf

/-- The terminals on which lines cannot be edited, in letters of either case. -/
def plainTerminals : List String :=
  ["dumb", "cons25", "emacs"]

/-- The editor for an input that is no terminal. It shows the prompt only on terminals on which lines cannot be edited,
and changes nothing in a line but what backspaces erase. -/
def direct : Editor where
  prompts terminal := terminal.any fun name => plainTerminals.contains (String.ofList (name.toList.map Char.toLower))
  edited? := Text.erased?

end Editor

end Calculator
