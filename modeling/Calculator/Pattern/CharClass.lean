import Calculator.Pattern.Ranges

/-!
# Classes of characters

A class is a set of characters, together with what is known of the cases of its letters. Without tables of letters that
is little: a class is known to hold its letters in both cases if it is empty or the complement of an empty one, and as
long as it is only combined with classes of which that is known.
-/

namespace Calculator.Pattern

/-- A set of characters. `caseless` says that it is known to hold with a letter that of the other case. -/
structure CharClass where
  ranges : Ranges
  caseless : Bool
deriving DecidableEq, Repr

namespace CharClass

def empty : CharClass :=
  ⟨[], true⟩

/-- Adds a range that was written out. -/
def insert (range : Nat × Nat) (a : CharClass) : CharClass :=
  ⟨a.ranges.insert range, false⟩

/-- The set of some ranges that were written out. -/
def ofRanges (ranges : Ranges) : CharClass :=
  ⟨ranges, ranges = []⟩

/-- Adds the characters of another class. Nothing else becomes known if there are none, or if both hold the same. -/
def union (a b : CharClass) : CharClass :=
  if b.ranges = [] || a.ranges = b.ranges then a else ⟨a.ranges.union b.ranges, a.caseless && b.caseless⟩

def intersection (a b : CharClass) : CharClass :=
  if a.ranges = [] then a
  else if b.ranges = [] then empty
  else ⟨a.ranges.intersection b.ranges, a.caseless && b.caseless⟩

def difference (a b : CharClass) : CharClass :=
  if a.ranges = [] || b.ranges = [] then a else ⟨a.ranges.difference b.ranges, a.caseless && b.caseless⟩

def symmetricDifference (a b : CharClass) : CharClass :=
  (a.union b).difference (a.intersection b)

/-- All characters up to a limit that a class lacks. -/
def complement (limit : Nat) (a : CharClass) : CharClass :=
  ⟨a.ranges.complement limit, a.caseless || a.ranges = []⟩

end CharClass

end Calculator.Pattern
