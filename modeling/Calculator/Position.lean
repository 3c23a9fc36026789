import Calculator.Span

/-!
# Rows and columns

A position counts rows and columns from one. A line feed ends a row; every other character, whatever its size, takes
one column.
-/

namespace Calculator

structure Position where
  row : Nat
  column : Nat
deriving DecidableEq, Repr, Inhabited

namespace Position

/-- The position of the first character of a text. -/
def origin : Position :=
  ⟨1, 1⟩

/-- The position behind a character. -/
def next (p : Position) (c : Char) : Position :=
  if c = '\n' then ⟨p.row + 1, 1⟩ else ⟨p.row, p.column + 1⟩

/-- The position behind a text that starts at the origin. -/
def behind (text : List Char) : Position :=
  text.foldl next origin

@[simp] theorem behind_nil : behind [] = origin := rfl

theorem behind_append (a b : List Char) : behind (a ++ b) = b.foldl next (behind a) := by
  simp [behind]

/-- The form in which a trace shows a position, as in `(1, 7)`. -/
def text (p : Position) : String :=
  s!"({p.row}, {p.column})"

end Position

/-- The position at which a span starts in a text. A start that is no boundary of the text counts as its end. -/
def Span.position (s : Span) (text : List Char) : Position :=
  .behind <| match Text.splitAt? text s.start with
    | some (before, _) => before
    | none => text

end Calculator
