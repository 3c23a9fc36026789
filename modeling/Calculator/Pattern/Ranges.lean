import Calculator.Text.CodePoints

/-!
# Sets of characters as ranges

Sets that classes in patterns build up: ordered ranges of code points that do not touch, up to a limit. Surrogates are
no characters, so that U+E000 comes next after U+D7FF; ranges that end and start there do not touch all the same.
-/

namespace Calculator.Pattern

/-- Ranges of code points, each with its first and last one. -/
abbrev Ranges : Type :=
  List (Nat × Nat)

namespace Ranges

/-- The character behind one. -/
def next (c : Nat) : Nat :=
  if c = 0xD7FF then 0xE000 else c + 1

/-- The character before one. -/
def previous (c : Nat) : Nat :=
  if c = 0xE000 then 0xD7FF else c - 1

/-- Adds a range, together with all that it touches. -/
def insert (range : Nat × Nat) : Ranges → Ranges
  | [] => [range]
  | other :: rest =>
    if range.2 + 1 < other.1 then range :: other :: rest
    else if other.2 + 1 < range.1 then other :: insert range rest
    else insert (min range.1 other.1, max range.2 other.2) rest

def union (a b : Ranges) : Ranges :=
  b.foldl (fun set range => insert range set) a

/-- What lies between two ranges, from the character behind the one to the character before the other. Where that is
nothing but surrogates, the two characters beside them are taken for it. -/
def between (last first : Nat) : Nat × Nat :=
  (min (next last) (previous first), max (next last) (previous first))

/-- All code points up to a limit that are in none of the ranges. -/
def complement (limit : Nat) : Ranges → Ranges
  | [] => [(0, limit)]
  | range :: rest => (if 0 < range.1 then [(0, previous range.1)] else []) ++ go range.2 rest
where
  /-- The gaps behind a range with some last code point. -/
  go (last : Nat) : Ranges → Ranges
    | [] => if last < limit then [(next last, limit)] else []
    | range :: rest => between last range.1 :: go range.2 rest

def intersection (a b : Ranges) : Ranges :=
  a.flatMap fun r => b.filterMap fun s =>
    if max r.1 s.1 ≤ min r.2 s.2 then some (max r.1 s.1, min r.2 s.2) else none

/-- What is left of one range without others. -/
def without (range : Nat × Nat) : Ranges → Ranges
  | [] => [range]
  | other :: rest =>
    if other.2 < range.1 then without range rest
    else if range.2 < other.1 then [range]
    else
      (if range.1 < other.1 then [(range.1, previous other.1)] else []) ++
        if other.2 < range.2 then without (next other.2, range.2) rest else []

def difference (a b : Ranges) : Ranges :=
  a.flatMap (without · b)

/-- Whether all characters are ASCII. -/
def isAscii (a : Ranges) : Bool :=
  a.all (·.2 < 0x80)

/-- The part of the ranges between two code points, moved by some distance up or down. -/
def moved (first last : Nat) (move : Nat → Nat) (a : Ranges) : Ranges :=
  a.filterMap fun range =>
    let start := max first range.1
    let stop := min last range.2
    if start ≤ stop then some (move start, move stop) else none

/-- Adds the ASCII letters of the other case. -/
def foldCase (a : Ranges) : Ranges :=
  union (union a (moved 0x41 0x5A (· + 32) a)) (moved 0x61 0x7A (· - 32) a)

end Ranges

end Calculator.Pattern
