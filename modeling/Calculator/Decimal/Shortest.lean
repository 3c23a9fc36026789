import Calculator.Decimal.Magnitude

/-!
# Shortest decimals

The reals that round to a magnitude form an interval around it, which holds its ends exactly if the mantissa is even.
The shortest decimal is taken from the coarsest power-of-ten grid that has a point in the interval: of the two grid
points around the magnitude the one inside, of two inside the nearer, and of two equally near the larger.
-/

namespace Calculator

/-- The number `coefficient * 10^exponent`. -/
structure Decimal where
  coefficient : Nat
  exponent : Int
deriving DecidableEq, Repr

/-- Powers of ten. -/
def tenTo (n : Nat) : Nat :=
  Nat.pow 10 n

namespace Magnitude

/-- The lower end of the rounding interval in quarters of a unit. Below a power of two the next magnitude is only half
as far away. -/
def lowerEnd (x : Magnitude) : Nat :=
  (if x.mantissa = leadingBit ∧ 0 < x.shift then 4 * x.mantissa - 1 else 4 * x.mantissa - 2) <<< x.shift

/-- The upper end of the rounding interval in quarters of a unit. -/
def upperEnd (x : Magnitude) : Nat :=
  (4 * x.mantissa + 2) <<< x.shift

/-- The magnitude itself in quarters of a unit. -/
def quarters (x : Magnitude) : Nat :=
  (4 * x.mantissa) <<< x.shift

/-- Whether `n / d` quarters of a unit lie in the rounding interval. -/
def rounds (x : Magnitude) (n d : Nat) : Bool :=
  if x.mantissa % 2 = 0 then x.lowerEnd * d ≤ n && n ≤ x.upperEnd * d
  else x.lowerEnd * d < n && n < x.upperEnd * d

/-- The best point in the rounding interval on the grid of multiples of `10^exponent`, which are `n / d` quarters of a
unit apart. -/
def onGrid? (x : Magnitude) (exponent : Int) : Option Decimal :=
  let n := tenTo exponent.toNat <<< 1076
  let d := tenTo (-exponent).toNat
  let below := x.quarters * d / n
  let above := below + 1
  let offBelow := x.quarters * d - below * n
  let offAbove := above * n - x.quarters * d
  match x.rounds (below * n) d, x.rounds (above * n) d with
  | true, true => some ⟨if offBelow < offAbove then below else above, exponent⟩
  | true, false => some ⟨below, exponent⟩
  | false, true => some ⟨above, exponent⟩
  | false, false => none

/-- An exponent of ten above the magnitude, from its number of bits and log10 2 = 0.30103. -/
def topExponent (x : Magnitude) : Int :=
  ((x.mantissa.log2 + 1 + x.shift : Int) - 1074) * 30103 / 100000 + 1

/-- All digits of the magnitude: a unit is 5^1074 times 10^-1074. -/
def exactDecimal (x : Magnitude) : Decimal :=
  ⟨x.mantissa <<< x.shift * Nat.pow 5 1074, -1074⟩

/-- The shortest decimal that rounds to a magnitude. Grids finer than those of seventeen digits are not needed, since
the steps of the seventeenth are narrower than the interval. -/
def shortest (x : Magnitude) : Decimal :=
  ((List.range 20).findSome? fun (i : Nat) => x.onGrid? (x.topExponent - i)).getD x.exactDecimal

end Magnitude

end Calculator
