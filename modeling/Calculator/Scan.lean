import Calculator.Lexeme
import Calculator.Position

/-!
# Scans

A scan lists the tokens of a text and the characters that had to be skipped, each with its span and line. It never
fails, and its last token is the end of the input. The places of the lexemes are running totals of what stands before.
-/

namespace Calculator

/-- A character that means nothing in an expression, and where it stands. -/
structure Warning where
  char : Char
  line : Nat
  span : Span
deriving DecidableEq, Repr

namespace Warning

def message (w : Warning) : String :=
  s!"Character `{w.char}` on line {w.line} at position {w.span.text} is not recognized"

end Warning

/-- A byte offset and the number of the line that it lies on. -/
structure Place where
  offset : Nat
  line : Nat
deriving DecidableEq, Repr

namespace Place

/-- The place where a text starts. -/
def first : Place :=
  ⟨0, 1⟩

/-- The place behind a lexeme. -/
def after (p : Place) (lexeme : Lexeme) : Place :=
  ⟨p.offset + Text.byteSize lexeme.text, p.line + lexeme.text.count '\n'⟩

end Place

namespace Lexeme

/-- The span of a lexeme that starts at a place. -/
def span (lexeme : Lexeme) (p : Place) : Span :=
  ⟨p.offset, p.offset + Text.byteSize lexeme.text⟩

/-- The token that a lexeme makes. -/
def token? (lexeme : Lexeme) (p : Place) : Option Token :=
  match lexeme with
  | numeral text => some ⟨.number, text, Double.read? text, p.line, lexeme.span p⟩
  | mark c kind => some ⟨kind, [c], none, p.line, lexeme.span p⟩
  | blank _ => none
  | stray _ => none

/-- The warning that a lexeme causes. -/
def warning? (lexeme : Lexeme) (p : Place) : Option Warning :=
  match lexeme with
  | stray c => some ⟨c, p.line, lexeme.span p⟩
  | numeral _ => none
  | mark _ _ => none
  | blank _ => none

/-- The lexemes of a text, each with the place where it starts. -/
def placed (lexemes : List Lexeme) (start : Place) : List (Lexeme × Place) :=
  lexemes.zip (lexemes.scanl Place.after start)

@[simp] theorem placed_nil (start : Place) : placed [] start = [] := by
  simp [placed]

@[simp] theorem placed_cons (lexeme : Lexeme) (lexemes : List Lexeme) (start : Place) :
    placed (lexeme :: lexemes) start = (lexeme, start) :: placed lexemes (start.after lexeme) := by
  simp [placed]

end Lexeme

structure Scan where
  tokens : List Token
  warnings : List Warning
deriving DecidableEq

namespace Scan

/-- The token that ends every scan. -/
def eofToken (p : Place) : Token :=
  ⟨.eof, [], none, p.line, .empty p.offset⟩

/-- The scan of lexemes that start at a place. -/
def ofLexemes (lexemes : List Lexeme) (start : Place) : Scan :=
  let placed := Lexeme.placed lexemes start
  { tokens := placed.filterMap (fun (lexeme, p) => lexeme.token? p) ++ [eofToken (lexemes.foldl Place.after start)]
    warnings := placed.filterMap fun (lexeme, p) => lexeme.warning? p }

def ofText (text : List Char) : Scan :=
  ofLexemes (Lexeme.ofText text) .first

theorem ofLexemes_nil (start : Place) : ofLexemes [] start = ⟨[eofToken start], []⟩ := by
  simp [ofLexemes]

theorem ofLexemes_cons (lexeme : Lexeme) (lexemes : List Lexeme) (start : Place) :
    ofLexemes (lexeme :: lexemes) start =
      let rest := ofLexemes lexemes (start.after lexeme)
      ⟨(lexeme.token? start).toList ++ rest.tokens, (lexeme.warning? start).toList ++ rest.warnings⟩ := by
  cases lexeme <;> simp [ofLexemes, Lexeme.token?, Lexeme.warning?]

end Scan

end Calculator
