/-!
# Sets of code points

Tables of characters are lists of ranges, in order and apart from each other. The main statement, `has_eq_any`, says
that looking into such a table may stop at the first range behind the character.
-/

namespace Calculator.Text

/-- Whether all ranges start at a code point or behind it, in order and apart from each other. -/
def orderedFrom (start : Nat) : List (Nat × Nat) → Bool
  | [] => true
  | (first, last) :: rest => start ≤ first && first ≤ last && orderedFrom (last + 1) rest

/-- A set of characters, as ranges of code points with the first and the last of each. -/
structure CodePoints where
  ranges : List (Nat × Nat)
  ordered : orderedFrom 0 ranges = true := by decide +kernel

namespace CodePoints

/-- Whether a character is in one of the ranges. Those behind the character are not looked at. -/
def hasIn (c : Char) : List (Nat × Nat) → Bool
  | [] => false
  | (first, last) :: rest => first ≤ c.toNat && (c.toNat ≤ last || hasIn c rest)

/-- Whether a set has a character. -/
def has (set : CodePoints) (c : Char) : Bool :=
  hasIn c set.ranges

private theorem any_eq_false {start : Nat} {ranges : List (Nat × Nat)} {c : Char} (h : orderedFrom start ranges)
    (hc : c.toNat < start) : (ranges.any fun r => r.1 ≤ c.toNat && c.toNat ≤ r.2) = false := by
  induction ranges generalizing start with
  | nil => rfl
  | cons r rest ih =>
    simp only [orderedFrom, Bool.and_eq_true, decide_eq_true_eq] at h
    rw [List.any_cons, ih h.2 (by omega), decide_eq_false (by omega : ¬ r.1 ≤ c.toNat)]
    rfl

private theorem hasIn_eq_any {start : Nat} {ranges : List (Nat × Nat)} {c : Char} (h : orderedFrom start ranges) :
    hasIn c ranges = ranges.any fun r => r.1 ≤ c.toNat && c.toNat ≤ r.2 := by
  induction ranges generalizing start with
  | nil => rfl
  | cons r rest ih =>
    simp only [orderedFrom, Bool.and_eq_true, decide_eq_true_eq] at h
    simp only [hasIn, List.any_cons, ih h.2]
    by_cases hr : r.1 ≤ c.toNat
    · simp [hr]
    · simp [hr, any_eq_false h.2 (by omega : c.toNat < r.2 + 1)]

/-- A set has a character exactly if one of its ranges does. -/
theorem has_eq_any (set : CodePoints) (c : Char) :
    set.has c = set.ranges.any fun r => r.1 ≤ c.toNat && c.toNat ≤ r.2 :=
  hasIn_eq_any set.ordered

end CodePoints

end Calculator.Text
