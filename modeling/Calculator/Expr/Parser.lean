import Calculator.Expr
import Calculator.Position

/-!
# Reading expressions from tokens

The grammar has three levels: a sum of products of operands, where an operand is a number or a sum in parentheses.
Chains of operators of one level associate to the left. Groups may be nested 256 deep, and nothing behind the first
end of the input is looked at.
-/

namespace Calculator

/-- Why tokens are no expression. -/
inductive ParseError
  | unexpected (kind : Kind) (span : Span)
  | unclosed (opening : Span) (kind : Kind) (span : Span)
  | valueless (span : Span)
  | tooDeep (span : Span)
  | outOfTokens
  | leftover (kind : Kind) (span : Span)
deriving DecidableEq, Repr

namespace ParseError

def message : ParseError → String
  | unexpected kind span => s!"Unexpected token `{kind.text}` at position {span.text}, expected a number or `(`"
  | unclosed opening kind span =>
    s!"Missing closing paren for `(` at position {opening.text}, found `{kind.text}` at position {span.text}"
  | valueless span => s!"Number token at position {span.text} carries no value"
  | tooDeep span => s!"Parentheses nested too deep at position {span.text}"
  | outOfTokens => "Unable to parse the next value because the tokens ended without EOF"
  | leftover kind span => s!"Leftover tokens starting with `{kind.text}` at {span.text}"

/-- The place where reading stopped. For a group that is not closed this is the token found in place of the closing
parenthesis, not the opening one. -/
def span? : ParseError → Option Span
  | unexpected _ span => some span
  | unclosed _ _ span => some span
  | valueless span => some span
  | tooDeep span => some span
  | outOfTokens => none
  | leftover _ span => some span

/-- The row and column of the place where reading stopped, both zero if the tokens ran out. -/
def position (e : ParseError) (text : List Char) : Position :=
  match e.span? with
  | some span => span.position text
  | none => ⟨0, 0⟩

end ParseError

/-- How many groups may be open at a time. -/
def maxDepth : Nat :=
  256

/-- The tokens still to be read, and the number of open groups. -/
structure Cursor where
  rest : List Token
  depth : Nat

/-- The levels of the grammar, loosest first. -/
inductive Level
  | sum
  | product
  | operand
deriving DecidableEq, Repr

namespace Level

/-- The level of the operands of a chain. -/
def lower : Level → Level
  | sum => product
  | product => operand
  | operand => operand

/-- The operator that continues a chain of some level. -/
def operator? : Level → Kind → Option Operator
  | sum, .plus => some .plus
  | sum, .minus => some .minus
  | product, .star => some .star
  | product, .slash => some .slash
  | _, _ => none

/-- How many levels lie below. -/
@[simp] def rank : Level → Nat
  | sum => 2
  | product => 1
  | operand => 0

end Level

namespace Cursor

/-- A cursor strictly further on than `c`. -/
abbrev Past (c : Cursor) : Type :=
  { d : Cursor // d.rest.length < c.rest.length }

/-- Steps over an opening parenthesis, if another group may be opened. -/
def enter (opening : Token) (c : Cursor) : Except ParseError Cursor :=
  if maxDepth ≤ c.depth then .error (.tooDeep opening.span) else .ok ⟨c.rest, c.depth + 1⟩

theorem rest_enter {opening : Token} {c d : Cursor} (h : enter opening c = .ok d) : d.rest = c.rest := by
  unfold enter at h
  split at h
  · simp at h
  · injection h with h; rw [← h]

/-- Ends a group at the closing parenthesis that has to follow. -/
def leave (opening : Token) (c : Cursor) : Except ParseError c.Past :=
  match c with
  | ⟨[], _⟩ => .error .outOfTokens
  | ⟨t :: rest, depth⟩ =>
    if t.kind = .rightParen then .ok ⟨⟨rest, depth - 1⟩, Nat.lt_succ_self _⟩
    else .error (.unclosed opening.span t.kind t.span)

mutual

/-- Reads as much as belongs to one phrase of a level. -/
def parse (level : Level) (c : Cursor) : Except ParseError (Expr × c.Past) :=
  match level, c with
  | .operand, ⟨[], _⟩ => .error .outOfTokens
  | .operand, ⟨t :: rest, depth⟩ =>
    match t.kind with
    | .number =>
      match t.literal with
      | some value => .ok (.literal value, ⟨⟨rest, depth⟩, Nat.lt_succ_self _⟩)
      | none => .error (.valueless t.span)
    | .leftParen =>
      match h : enter t ⟨rest, depth⟩ with
      | .error e => .error e
      | .ok inner =>
        have hinner : inner.rest.length < (t :: rest).length := by rw [rest_enter h]; exact Nat.lt_succ_self _
        match parse .sum inner with
        | .error e => .error e
        | .ok (e, d) =>
          match leave t d.1 with
          | .error e => .error e
          | .ok d' => .ok (e, ⟨d'.1, Nat.lt_trans d'.2 (Nat.lt_trans d.2 hinner)⟩)
    | kind => .error (.unexpected kind t.span)
  | .product, c =>
    match parse .operand c with
    | .error e => .error e
    | .ok (e, d) => more .product c e d
  | .sum, c =>
    match parse .product c with
    | .error e => .error e
    | .ok (e, d) => more .sum c e d
termination_by (c.rest.length, level.rank)

/-- Continues a chain that began at `c` and has been read as `left` up to `d`. -/
def more (level : Level) (c : Cursor) (left : Expr) (d : c.Past) : Except ParseError (Expr × c.Past) :=
  match d with
  | ⟨⟨[], depth⟩, h⟩ => .ok (left, ⟨⟨[], depth⟩, h⟩)
  | ⟨⟨t :: rest, depth⟩, h⟩ =>
    match level.operator? t.kind with
    | none => .ok (left, ⟨⟨t :: rest, depth⟩, h⟩)
    | some op =>
      match parse level.lower ⟨rest, depth⟩ with
      | .error e => .error e
      | .ok (right, d') =>
        have : d'.1.rest.length < rest.length + 1 := Nat.lt_succ_of_lt d'.2
        more level c (.binary left op right) ⟨d'.1, Nat.lt_trans this h⟩
termination_by (d.1.rest.length, 0)

end

end Cursor

namespace Expr

/-- The expression that tokens stand for, up to the first end of the input. -/
def ofTokens (tokens : List Token) : Except ParseError Expr :=
  match Cursor.parse .sum ⟨tokens, 0⟩ with
  | .error e => .error e
  | .ok (e, d) =>
    match d.1.rest with
    | [] => .error .outOfTokens
    | t :: _ => if t.kind = .eof then .ok e else .error (.leftover t.kind t.span)

end Expr

end Calculator
