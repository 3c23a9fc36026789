import Calculator.Decimal.Magnitude

/-!
# Rounding to the nearest double

`Magnitude.nearest` gives the bit pattern of the double nearest to a fraction of natural numbers, a tie going to the
even mantissa. All of it is exact arithmetic on natural numbers.
-/

namespace Calculator

/-- The quotient rounded to the nearest whole number, a tie to the even one. -/
def roundQuotient (n d : Nat) : Nat :=
  if 2 * (n % d) < d then n / d
  else if d < 2 * (n % d) then n / d + 1
  else n / d + n / d % 2

namespace Magnitude

/-- The pattern of the double nearest to `n / d`, infinity if that is beyond the largest one. The shift leaves the
quotient a mantissa of 53 bits, or fewer where no smaller shift exists. -/
def nearest (n d : Nat) : Nat :=
  let units := n <<< 1074
  let shift := (units / d).log2 - 52
  min infinity (toPattern ⟨roundQuotient units (d <<< shift), shift⟩)

end Magnitude

end Calculator
