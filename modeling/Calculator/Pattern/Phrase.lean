import Calculator.Position

/-!
# Phrases of patterns

A pattern as it is written: literals, classes of characters, assertions, repetitions, groups and flags, each with the
extent that it takes in the text of the pattern.
-/

namespace Calculator.Pattern

/-- A part of the text of a pattern, from a position up to another one. -/
structure Extent where
  start : Position
  stop : Position
deriving DecidableEq, Repr, Inhabited

namespace Extent

/-- The empty extent at a position. -/
def empty (p : Position) : Extent :=
  ⟨p, p⟩

end Extent

/-- What a flag changes. -/
inductive Flag
  | caseInsensitive
  | multiLine
  | dotLineFeed
  | swapGreed
  | unicode
  | carriageReturn
  | spacious
deriving DecidableEq, Repr

/-- What can stand in a list of flags: a flag, or the sign that turns off the flags behind it. -/
inductive FlagItem
  | off
  | flag (f : Flag)
deriving DecidableEq, Repr

/-- The state that a list of flags gives to a flag, if it names it. -/
def flagState? (f : Flag) (items : List FlagItem) : Option Bool :=
  go true items
where
  go (on : Bool) : List FlagItem → Option Bool
    | [] => none
    | .off :: rest => go false rest
    | .flag g :: rest => if g = f then some on else go on rest

/-- A character that stands for itself. `byte` says that it was written as a byte, by two hexadecimal digits. -/
structure Literal where
  extent : Extent
  char : Char
  byte : Bool
deriving DecidableEq, Repr

/-- The classes that a backslash and a letter stand for. -/
inductive Shorthand
  | digit
  | space
  | word
deriving DecidableEq, Repr

/-- What has to hold at a place without a character being read. -/
inductive Assertion
  | startLine
  | endLine
  | startText
  | endText
  | wordBoundary
  | noWordBoundary
  | wordStart
  | wordEnd
  | wordStartHalf
  | wordEndHalf
deriving DecidableEq, Repr

/-- The operations on classes. -/
inductive ClassOperation
  | intersection
  | difference
  | symmetricDifference
deriving DecidableEq, Repr

/-- What can stand in a class between brackets. -/
inductive ClassItem
  | nothing (extent : Extent)
  | literal (l : Literal)
  | range (first last : Literal)
  | named (extent : Extent) (ranges : List (Nat × Nat)) (negated : Bool)
  | shorthand (extent : Extent) (kind : Shorthand) (negated : Bool)
  | property (extent : Extent) (name : Option (List Char))
  | bracketed (extent : Extent) (negated : Bool) (item : ClassItem)
  | union (extent : Extent) (items : List ClassItem)
  | operation (op : ClassOperation) (left right : ClassItem)

namespace ClassItem

def extent : ClassItem → Extent
  | nothing e => e
  | literal l => l.extent
  | range first last => ⟨first.extent.start, last.extent.stop⟩
  | named e _ _ => e
  | shorthand e _ _ => e
  | property e _ => e
  | bracketed e _ _ => e
  | union e _ => e
  | operation _ left right => ⟨left.extent.start, right.extent.stop⟩

end ClassItem

/-- A pattern, or a part of one, as it is written. A repetition is greedy if no question mark follows it, and a group
is kept if its matches can be asked for. -/
inductive Phrase
  | empty (extent : Extent)
  | flags (extent : Extent) (items : List FlagItem)
  | literal (l : Literal)
  | dot (extent : Extent)
  | assertion (extent : Extent) (kind : Assertion)
  | shorthand (extent : Extent) (kind : Shorthand) (negated : Bool)
  | property (extent : Extent) (name : Option (List Char))
  | bracketed (extent : Extent) (negated : Bool) (item : ClassItem)
  | repetition (extent : Extent) (least : Nat) (most : Option Nat) (greedy : Bool) (body : Phrase)
  | group (extent : Extent) (kept : Bool) (flags : List FlagItem) (body : Phrase)
  | alternation (extent : Extent) (branches : List Phrase)
  | concatenation (extent : Extent) (parts : List Phrase)
deriving Inhabited

namespace Phrase

def extent : Phrase → Extent
  | empty e => e
  | flags e _ => e
  | literal l => l.extent
  | dot e => e
  | assertion e _ => e
  | shorthand e _ _ => e
  | property e _ => e
  | bracketed e _ _ => e
  | repetition e _ _ _ _ => e
  | group e _ _ _ => e
  | alternation e _ => e
  | concatenation e _ => e

end Phrase

end Calculator.Pattern
