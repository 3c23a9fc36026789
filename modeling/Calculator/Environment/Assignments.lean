import Calculator.Environment
import Calculator.Text.Alphanumeric
import Calculator.Text.Blank
import Calculator.Text.Lines
import Calculator.Text.Offset

/-!
# Assignment files

A file of lines `NAME=VALUE` gives values to variables that have none. `export` may stand before a name, and a comment
starts with `#` at the start of a line or behind white space. Values may be quoted, and quoted values may hold line
feeds; `$NAME` and `${NAME}` stand for the value of a variable except between single quotes. Reading stops at the
first line that is wrong, and what stands before it counts. A value with a NUL character, which no variable can hold,
breaks the program off.
-/

namespace Calculator

/-- Why an assignment file was not read to its end. -/
inductive AssignmentError
  | noFile
  | notText
  | malformed (line : List Char) (index : Nat)
  | unstorable
deriving DecidableEq, Repr

namespace AssignmentError

def message : AssignmentError → String
  | noFile => "path not found"
  | notText => "stream did not contain valid UTF-8"
  | malformed line index => s!"Error parsing line: '{String.ofList line}', error at line index: {index}"
  | unstorable => "a value holds a NUL character"

end AssignmentError

namespace Environment

/-! ### Lines that belong together -/

/-- What the end of a piece of a line is inside of. -/
inductive Quoting
  | plain
  | blank
  | escape
  | single
  | singleEscape
  | double
  | doubleEscape
deriving DecidableEq, Repr

namespace Quoting

/-- The state that a quote or backslash outside of quotes leads to. -/
def opened (c : Char) : Quoting :=
  if c = '\\' then escape else if c = '"' then double else if c = '\'' then single else plain

/-- The state behind a character, or `none` if the character starts a comment. -/
def next (q : Quoting) (c : Char) : Option Quoting :=
  match q with
  | plain => if Text.isWhiteSpace c && c ≠ '\n' && c ≠ '\r' then some blank else some (opened c)
  | blank => if c = '#' then none else some (opened c)
  | escape => some plain
  | single => some (if c = '\\' then singleEscape else if c = '\'' then plain else single)
  | singleEscape => some single
  | double => some (if c = '\\' then doubleEscape else if c = '"' then plain else double)
  | doubleEscape => some double

/-- The state behind a piece of a line, `none` if it ends in a comment, and the piece without the comment. -/
def behind (q : Quoting) (kept : List Char) : List Char → Option Quoting × List Char
  | [] => (some q, kept.reverse)
  | c :: rest =>
    match q.next c with
    | none => (none, kept.reverse)
    | some q => q.behind (c :: kept) rest

end Quoting

/-- Puts lines together until no quote is open, and takes comments and line endings away. A line that is no text, or a
quote that is never closed, is an error and ends the list. -/
def logicalLines (q : Quoting) (before : List Char) :
    List (Option (List Char)) → List (Except AssignmentError (List Char))
  | [] => if q = .plain then [] else [.error (.malformed before (Text.byteSize before))]
  | none :: _ => [.error .notText]
  | some line :: rest =>
    let whole := before ++ line
    if (Text.trimStart whole).head? = some '#' then .ok [] :: logicalLines .plain [] rest
    else
      match q.behind [] line with
      | (none, kept) => .ok (before ++ kept) :: logicalLines .plain [] rest
      | (some .plain, _) => .ok (Text.content whole) :: logicalLines .plain [] rest
      | (some q, _) => logicalLines q whole rest

/-! ### Values -/

/-- What a value is read in the middle of. A name behind `$` consists of letters and numbers of any script, one in
braces of all that stands before the closing brace. The names are kept last character first. -/
inductive ValueState
  | plain
  | escaped
  | single
  | variable (name : List Char)
  | braced (name : List Char)
  | finished

/-- The value of a variable, last character first. -/
def reversedValue (env : Environment) (name : List Char) : List Char :=
  ((env.get? (String.ofList name.reverse)).getD "").toList.reverse

/-- The value that is read when the text ends. -/
def endValue (env : Environment) (text : List Char) (inDouble : Bool) (value : List Char) :
    ValueState → Except AssignmentError (List Char)
  | .single => .error (.malformed text (Text.byteSize text - 1))
  | .braced _ => .error (.malformed text (Text.byteSize text - 1))
  | .variable name =>
    if inDouble then .error (.malformed text (Text.byteSize text - 1))
    else .ok (env.reversedValue name ++ value).reverse
  | .plain => if inDouble then .error (.malformed text (Text.byteSize text - 1)) else .ok value.reverse
  | .escaped => if inDouble then .error (.malformed text (Text.byteSize text - 1)) else .ok value.reverse
  | .finished => .ok value.reverse

/-- Reads a value from the characters of `text` from the `index`-th on; `value` is what has been read, last character
first, and `inDouble` says whether double quotes are open. -/
def readValue (env : Environment) (text : List Char) (index : Nat) (inDouble : Bool) (value : List Char)
    (state : ValueState) : List Char → Except AssignmentError (List Char)
  | [] => endValue env text inDouble value state
  | c :: rest =>
    match state with
    | .finished =>
      if c = ' ' || c = '\t' then readValue env text (index + 1) inDouble value .finished rest
      else if c = '#' then endValue env text inDouble value .finished
      else .error (.malformed text index)
    | .escaped =>
      if c = '\\' || c = '\'' || c = '"' || c = '$' || c = ' ' then
        readValue env text (index + 1) inDouble (c :: value) .plain rest
      else if c = 'n' then readValue env text (index + 1) inDouble ('\n' :: value) .plain rest
      else .error (.malformed text index)
    | .single =>
      if c = '\'' then readValue env text (index + 1) inDouble value .plain rest
      else readValue env text (index + 1) inDouble (c :: value) .single rest
    | .variable name =>
      if Text.isAlphanumeric c then readValue env text (index + 1) inDouble value (.variable (c :: name)) rest
      else if c = '\x7b' && name.isEmpty then readValue env text (index + 1) inDouble value (.braced []) rest
      else if c = '$' then
        readValue env text (index + 1) inDouble (env.reversedValue name ++ value) (.variable []) rest
      else readValue env text (index + 1) inDouble (c :: (env.reversedValue name ++ value)) .plain rest
    | .braced name =>
      if c = '\x7d' then readValue env text (index + 1) inDouble (env.reversedValue name ++ value) .plain rest
      else readValue env text (index + 1) inDouble value (.braced (c :: name)) rest
    | .plain =>
      if c = '$' then readValue env text (index + 1) inDouble value (.variable []) rest
      else if c = '\\' then readValue env text (index + 1) inDouble value .escaped rest
      else if c = '"' then readValue env text (index + 1) (!inDouble) value .plain rest
      else if inDouble then readValue env text (index + 1) inDouble (c :: value) .plain rest
      else if c = '\'' then readValue env text (index + 1) inDouble value .single rest
      else if c = ' ' || c = '\t' then readValue env text (index + 1) inDouble value .finished rest
      else readValue env text (index + 1) inDouble (c :: value) .plain rest

/-! ### Assignments -/

/-- A name at the start of a text, and the rest. -/
def splitName? (text : List Char) : Option (List Char × List Char) :=
  if text.head?.any fun c => c.isAlpha || c = '_' then
    some (text.span fun c => c.isAlphanum || c = '_' || c = '.')
  else none

/-- Reads an assignment, if the line holds one. An error counts the bytes in front of it. -/
def readAssignment (env : Environment) (line : List Char) : Except AssignmentError (Option (String × String)) :=
  let text := Text.trimEnd line
  let wrong (rest : List Char) := AssignmentError.malformed line (Text.byteSize text - Text.byteSize rest)
  let assign (name rest : List Char) : Except AssignmentError (Option (String × String)) :=
    match Text.trimStart rest with
    | [] => .ok (some (String.ofList name, ""))
    | '#' :: _ => .ok (some (String.ofList name, ""))
    | rest => do
      let value ← readValue env rest 0 false [] .plain rest
      return some (String.ofList name, String.ofList value)
  match Text.trimStart text with
  | [] => .ok none
  | '#' :: _ => .ok none
  | start =>
    match splitName? start with
    | none => .error (wrong start)
    | some (name, rest) =>
      match Text.trimStart rest with
      | '=' :: rest => assign name rest
      | rest =>
        if name = "export".toList then
          match splitName? rest with
          | none => .error (wrong rest)
          | some (name, rest) =>
            match Text.trimStart rest with
            | '=' :: rest => assign name rest
            | rest => .error (wrong rest)
        else .error (wrong rest)

/-- Carries out the assignments of lines up to the first error. -/
def assignLines (env : Environment) :
    List (Except AssignmentError (List Char)) → Environment × Option AssignmentError
  | [] => (env, none)
  | .error e :: _ => (env, some e)
  | .ok line :: rest =>
    match env.readAssignment line with
    | .error e => (env, some e)
    | .ok none => env.assignLines rest
    | .ok (some (name, value)) =>
      if (env.get? name).isNone && value.toList.contains '\x00' then (env, some .unstorable)
      else (env.define name value).assignLines rest

/-- The environment with the assignments of a file, if there is one. A byte order mark at its start is ignored. -/
def assignFile (env : Environment) (file : Option (List UInt8)) : Environment × Option AssignmentError :=
  match file with
  | none => (env, some .noFile)
  | some bytes =>
    let bytes := if [0xEF, 0xBB, 0xBF].isPrefixOf bytes then bytes.drop 3 else bytes
    env.assignLines (logicalLines .plain [] ((Text.lines bytes).map Text.decode?))

end Environment

end Calculator
