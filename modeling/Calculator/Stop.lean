import Calculator.Failure
import Calculator.Files
import Calculator.Output
import Calculator.Text.Quoted

/-!
# How the program stops

When the program cannot go on, its last line names the cause in full: what failed, with all details as they are held.
-/

namespace Calculator

namespace Span

/-- The span with its fields named. -/
def detail (s : Span) : String :=
  "Span \x7b start: " ++ toString s.start ++ ", end: " ++ toString s.stop ++ " \x7d"

end Span

namespace Failure

/-- The failure with all that it holds. -/
def detail : Failure → String
  | lexical w => s!"Lex(UnrecognizedCharacter({Text.quotedChar w.char}, {w.line}, {w.span.detail}))"
  | parse (.unexpected kind span) => s!"Parse(UnexpectedToken({kind.name}, {span.detail}))"
  | parse (.unclosed opening kind span) =>
    s!"Parse(MissingClosingParen({opening.detail}, {kind.name}, {span.detail}))"
  | parse (.valueless span) => s!"Parse(ParseToNumber({span.detail}))"
  | parse (.tooDeep span) => s!"Parse(NestingTooDeep({span.detail}))"
  | parse .outOfTokens => "Parse(Eof)"
  | parse (.leftover kind span) => s!"Parse(Unfinished({kind.name}, {span.detail}))"
  | evaluation .divisionByZero => "Interpret(DivideByZero)"
  | evaluation .emptyStack => "Interpret(EmptyStack)"

end Failure

namespace FileError

/-- The code, the class and the text of an error. -/
def detail : FileError → String
  | notFound => "Os \x7b code: 2, kind: NotFound, message: \"No such file or directory\" \x7d"
  | isDirectory => "Os \x7b code: 21, kind: IsADirectory, message: \"Is a directory\" \x7d"
  | notDirectory => "Os \x7b code: 20, kind: NotADirectory, message: \"Not a directory\" \x7d"
  | nameTooLong => "Os \x7b code: 36, kind: InvalidFilename, message: \"File name too long\" \x7d"
  | denied => "Os \x7b code: 13, kind: PermissionDenied, message: \"Permission denied\" \x7d"

end FileError

/-- Why the program stops before its work is done. It breaks off, without a word on the cause, where a character would
have to be cut in two or a variable to hold a NUL character. -/
inductive Stop
  | failure (e : Failure)
  | file (e : FileError)
  | fileNotText
  | lineNotText
  | brokenOff
deriving DecidableEq, Repr

namespace Stop

/-- What is said of bytes that are no text. -/
def notText : String :=
  "Error \x7b kind: InvalidData, message: \"stream did not contain valid UTF-8\" \x7d"

def detail : Stop → String
  | failure e => e.detail
  | file e => e.detail
  | fileNotText => notText
  | lineNotText => s!"Io({notText})"
  | brokenOff => ""

/-- The last line of a program that stops. -/
def line : Stop → String
  | brokenOff => ""
  | s => s!"Error: {s.detail}\n"

/-- The exit code of a program that stops. -/
def exitCode : Stop → Nat
  | brokenOff => 101
  | _ => 1

/-- The outcome of a program that stops when it has written something. -/
def outcome (s : Stop) (before : Output) : Outcome :=
  ⟨before ++ ⟨"", s.line⟩, s.exitCode⟩

end Stop

end Calculator
