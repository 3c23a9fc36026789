/-!
# Magnitudes of doubles

A finite double without its sign is a whole number of units of 2^-1074: a mantissa of at most 53 bits, shifted left.
The bit pattern of a magnitude counts 2^52 patterns for each place shifted, and the mantissa on top of that, so that
patterns are ordered as the values are.
-/

namespace Calculator

/-- The number `mantissa <<< shift`, in units of 2^-1074. -/
structure Magnitude where
  mantissa : Nat
  shift : Nat
deriving DecidableEq, Repr

namespace Magnitude

/-- The weight of the first of 53 bits, which patterns leave out: 2^52. -/
def leadingBit : Nat :=
  0x10000000000000

/-- The pattern of infinity, the first one behind those of finite magnitudes: 2047 times 2^52. -/
def infinity : Nat :=
  0x7FF0000000000000

/-- The magnitude with a given bit pattern; only those below the leading bit do without it. -/
def ofPattern (pattern : Nat) : Magnitude :=
  if pattern < leadingBit then ⟨pattern, 0⟩
  else ⟨leadingBit + pattern % leadingBit, pattern / leadingBit - 1⟩

/-- The bit pattern of a magnitude. A mantissa of 54 bits carries into the next shift. -/
def toPattern (x : Magnitude) : Nat :=
  x.shift * leadingBit + x.mantissa

theorem toPattern_ofPattern (pattern : Nat) : (ofPattern pattern).toPattern = pattern := by
  unfold ofPattern toPattern leadingBit
  split
  · simp
  · simp only
    omega

/-- A magnitude that a pattern stands for has a mantissa of 53 bits, or of fewer if it is not shifted. -/
theorem mantissa_ofPattern (pattern : Nat) :
    (ofPattern pattern).mantissa < 2 * leadingBit ∧
      ((ofPattern pattern).shift = 0 ∨ leadingBit ≤ (ofPattern pattern).mantissa) := by
  unfold ofPattern leadingBit
  split
  · exact ⟨by simp only; omega, .inl rfl⟩
  · exact ⟨by simp only; omega, .inr (by simp only; omega)⟩

end Magnitude

end Calculator
