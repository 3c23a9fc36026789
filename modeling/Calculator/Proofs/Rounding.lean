import Calculator.Decimal.Nearest
import Calculator.Decimal.Shortest

/-!
# Rounding back

A fraction in the rounding interval of a magnitude is rounded to the pattern of this magnitude
(`Magnitude.nearest_of_rounds`), and the shortest decimal of a magnitude lies in the interval
(`Magnitude.rounds_shortest`).
-/

namespace Calculator

namespace Decimal

/-- A decimal as a fraction of whole numbers, one of the two a power of ten. -/
def numerator (x : Decimal) : Nat :=
  x.coefficient * tenTo x.exponent.toNat

def denominator (x : Decimal) : Nat :=
  tenTo (-x.exponent).toNat

variable (coefficient n : Nat)

theorem numerator_ofNat : numerator ⟨coefficient, .ofNat n⟩ = coefficient * tenTo n := rfl

theorem denominator_ofNat : denominator ⟨coefficient, .ofNat n⟩ = 1 := by
  cases n <;> rfl

theorem numerator_negSucc : numerator ⟨coefficient, .negSucc n⟩ = coefficient :=
  Nat.mul_one coefficient

theorem denominator_negSucc : denominator ⟨coefficient, .negSucc n⟩ = tenTo (n + 1) := rfl

end Decimal

/-- A quotient is rounded to a whole number that is at most half a unit off, and less than that if it is odd. -/
private theorem roundQuotient_eq {n d m : Nat} (hlow : 2 * (d * m) ≤ 2 * n + d) (hhigh : 2 * n ≤ 2 * (d * m) + d)
    (hodd : m % 2 = 1 → 2 * (d * m) < 2 * n + d ∧ 2 * n < 2 * (d * m) + d) (hd : 0 < d) : roundQuotient n d = m := by
  have hdiv := Nat.div_add_mod n d
  have hrest := Nat.mod_lt n hd
  have hle : n / d ≤ m := by
    refine Nat.le_of_lt_succ (Nat.lt_of_mul_lt_mul_left (a := d) ?_)
    rw [Nat.mul_succ]
    omega
  have hge : m ≤ n / d + 1 := by
    refine Nat.le_of_lt_succ (Nat.lt_of_mul_lt_mul_left (a := d) ?_)
    rw [Nat.mul_succ, Nat.mul_succ]
    omega
  -- so `m` is the quotient rounded up or rounded down
  unfold roundQuotient
  rcases Nat.lt_or_ge (n / d) m with hlt | hge'
  · obtain rfl : m = n / d + 1 := by omega
    rw [Nat.mul_succ] at hlow hhigh hodd
    rw [if_neg (by omega)]
    split <;> omega
  · obtain rfl : m = n / d := by omega
    split
    · rfl
    · rw [if_neg (by omega)]
      omega

namespace Magnitude

variable {x : Magnitude} {units n d : Nat}

/-! ### The interval -/

/-- The ends of the rounding interval count only for an even mantissa. -/
private theorem rounds_iff : x.rounds n d = true ↔
    x.lowerEnd * d ≤ n ∧ n ≤ x.upperEnd * d ∧
      (x.mantissa % 2 = 1 → x.lowerEnd * d < n ∧ n < x.upperEnd * d) := by
  unfold rounds
  split
  · next heven =>
    rw [Bool.and_eq_true, decide_eq_true_eq, decide_eq_true_eq]
    omega
  · next hodd =>
    rw [Bool.and_eq_true, decide_eq_true_eq, decide_eq_true_eq]
    omega

private theorem shiftLeft_mul (a s d : Nat) : a <<< s * d = a * d <<< s := by
  rw [Nat.shiftLeft_eq, Nat.shiftLeft_eq, Nat.mul_assoc, Nat.mul_comm (2 ^ s)]

private theorem shiftLeft_pos (hd : 0 < d) (s : Nat) : 0 < d <<< s := by
  rw [Nat.shiftLeft_eq]
  exact Nat.mul_pos hd (Nat.two_pow_pos s)

private theorem upperEnd_mul (x : Magnitude) (d : Nat) :
    x.upperEnd * d = 4 * (d <<< x.shift * x.mantissa) + 2 * d <<< x.shift := by
  rw [upperEnd, shiftLeft_mul, Nat.add_mul, Nat.mul_assoc, Nat.mul_comm x.mantissa]

/-- Below a power of two the interval is only half as wide as elsewhere. -/
private theorem lowerEnd_mul (x : Magnitude) (d : Nat) :
    4 * (d <<< x.shift * x.mantissa) ≤ x.lowerEnd * d + 2 * d <<< x.shift ∧
      (x.mantissa = leadingBit → 0 < x.shift →
        4 * (d <<< x.shift * x.mantissa) = x.lowerEnd * d + d <<< x.shift) := by
  have hmul : 4 * x.mantissa * d <<< x.shift = 4 * (d <<< x.shift * x.mantissa) := by
    rw [Nat.mul_assoc, Nat.mul_comm x.mantissa]
  unfold lowerEnd
  split
  · next h =>
    have hone : 1 * d <<< x.shift ≤ 4 * x.mantissa * d <<< x.shift :=
      Nat.mul_le_mul_right _ (by rw [h.1]; decide)
    rw [shiftLeft_mul (_ - 1), Nat.sub_mul]
    omega
  · next h =>
    rw [shiftLeft_mul (_ - 2), Nat.sub_mul]
    exact ⟨by omega, fun hm hs => absurd ⟨hm, hs⟩ h⟩

/-! ### Rounding to the mantissa -/

/-- With the shift of the magnitude, a fraction in its interval is rounded to its mantissa. -/
private theorem roundQuotient_of_rounds (h : x.rounds (4 * units) d = true) (hd : 0 < d) :
    roundQuotient units (d <<< x.shift) = x.mantissa := by
  obtain ⟨hlow, hhigh, hodd⟩ := rounds_iff.1 h
  obtain ⟨hlower, -⟩ := x.lowerEnd_mul d
  rw [x.upperEnd_mul] at hhigh hodd
  have hpos := shiftLeft_pos hd x.shift
  refine roundQuotient_eq (by omega) (by omega) (fun hm => ?_) hpos
  have hstrict := hodd hm
  omega

/-- The shift that leaves a quotient 53 bits, or fewer if there is no smaller shift. -/
private theorem log2_div {s : Nat} (hhigh : units < d <<< s * (2 * leadingBit))
    (hlow : s = 0 ∨ d <<< s * leadingBit ≤ units) (hd : 0 < d) : (units / d).log2 - 52 = s := by
  have hend : d <<< s * (2 * leadingBit) = 2 ^ (s + 53) * d := by
    rw [Nat.shiftLeft_eq, Nat.pow_add, Nat.mul_comm _ d, Nat.mul_assoc]
    rfl
  have hstart : d <<< s * leadingBit = 2 ^ (s + 52) * d := by
    rw [Nat.shiftLeft_eq, Nat.pow_add, Nat.mul_comm _ d, Nat.mul_assoc]
    rfl
  rw [hend] at hhigh
  rw [hstart] at hlow
  have hlt : units / d < 2 ^ (s + 53) := (Nat.div_lt_iff_lt_mul hd).2 hhigh
  have hle : s = 0 ∨ 2 ^ (s + 52) ≤ units / d := hlow.imp_right (Nat.le_div_iff_mul_le hd).2
  by_cases hzero : units / d = 0
  · have hpos := Nat.two_pow_pos (s + 52)
    rw [hzero, Nat.log2_zero]
    omega
  · have hlog := (Nat.log2_lt hzero).2 hlt
    have hlog' : s = 0 ∨ s + 52 ≤ (units / d).log2 := hle.imp_right (Nat.le_log2 hzero).2
    omega

/-- The interval of a magnitude ends below the next binade. -/
private theorem lt_of_rounds (h : x.rounds (4 * units) d = true) (hd : 0 < d)
    (hmantissa : x.mantissa < 2 * leadingBit) : units < d <<< x.shift * (2 * leadingBit) := by
  obtain ⟨-, hhigh, -⟩ := rounds_iff.1 h
  have hpos := shiftLeft_pos hd x.shift
  have hle := Nat.mul_le_mul_left (d <<< x.shift) (Nat.succ_le_of_lt hmantissa)
  rw [x.upperEnd_mul] at hhigh
  generalize d <<< x.shift = step at *
  rw [Nat.mul_succ] at hle
  omega

/-- It starts in its own binade, but for that of a power of two. -/
private theorem le_of_rounds (h : x.rounds (4 * units) d = true) (hmantissa : leadingBit < x.mantissa) :
    d <<< x.shift * leadingBit ≤ units := by
  obtain ⟨hlow, -, -⟩ := rounds_iff.1 h
  obtain ⟨hlower, -⟩ := x.lowerEnd_mul d
  have hle := Nat.mul_le_mul_left (d <<< x.shift) (Nat.succ_le_of_lt hmantissa)
  generalize d <<< x.shift = step at *
  rw [Nat.mul_succ] at hle
  omega

/-- The interval of a power of two starts less than half a unit of the binade below in front of its end. -/
private theorem le_of_rounds_power {s : Nat} (h : x.rounds (4 * units) d = true) (hmantissa : x.mantissa = leadingBit)
    (hshift : x.shift = s + 1) : 2 * (d <<< s * (2 * leadingBit)) ≤ 2 * units + d <<< s := by
  obtain ⟨hlow, -, -⟩ := rounds_iff.1 h
  obtain ⟨-, hpower⟩ := x.lowerEnd_mul d
  have hdouble : d <<< x.shift = 2 * d <<< s := by
    rw [hshift, Nat.shiftLeft_succ]
  have heq := hpower hmantissa (by omega)
  rw [hmantissa, hdouble] at heq
  generalize d <<< s = step at *
  unfold leadingBit at heq ⊢
  omega

/-- A fraction in the interval of a magnitude is rounded to its pattern. -/
private theorem toPattern_of_rounds (h : x.rounds (4 * units) d = true) (hd : 0 < d)
    (hmantissa : x.mantissa < 2 * leadingBit) (hshift : x.shift = 0 ∨ leadingBit ≤ x.mantissa) :
    let shift := (units / d).log2 - 52
    toPattern ⟨roundQuotient units (d <<< shift), shift⟩ = x.toPattern := by
  intro shift
  by_cases hstart : x.shift = 0 ∨ d <<< x.shift * leadingBit ≤ units
  · -- with the shift of the magnitude, the quotient is its mantissa
    have hsame : shift = x.shift := log2_div (lt_of_rounds h hd hmantissa) hstart hd
    rw [hsame, roundQuotient_of_rounds h hd]
  · -- only below a power of two does the shift differ, and there the quotient is rounded up to this power
    obtain ⟨hne, hlt⟩ := not_or.1 hstart
    obtain ⟨s, hs⟩ := Nat.exists_eq_succ_of_ne_zero hne
    have hm : x.mantissa = leadingBit :=
      Nat.le_antisymm (Nat.le_of_not_lt fun hlt' => hlt (le_of_rounds h hlt')) (hshift.resolve_left hne)
    have hlow := le_of_rounds_power h hm hs
    have hpos := shiftLeft_pos hd s
    have hhigh : units < d <<< s * (2 * leadingBit) := by
      rw [hs, Nat.shiftLeft_succ, Nat.mul_comm 2, Nat.mul_assoc] at hlt
      exact Nat.lt_of_not_le hlt
    have hbelow : shift = s := by
      refine log2_div hhigh (.inr ?_) hd
      generalize d <<< s = step at *
      unfold leadingBit at hlow ⊢
      omega
    have hround : roundQuotient units (d <<< s) = 2 * leadingBit :=
      roundQuotient_eq hlow (by omega) (fun hodd => absurd hodd (by decide)) hpos
    rw [hbelow, hround]
    simp only [toPattern, hs, hm, Nat.succ_mul]
    omega

/-- A fraction in the rounding interval of a finite magnitude is rounded to the pattern of this magnitude. -/
theorem nearest_of_rounds {pattern : Nat} (hfinite : pattern < infinity)
    (h : (ofPattern pattern).rounds (n <<< 1076) d = true) (hd : 0 < d) : nearest n d = pattern := by
  have hunits : n <<< 1076 = 4 * n <<< 1074 := by
    rw [Nat.shiftLeft_eq, Nat.shiftLeft_eq]
    omega
  rw [hunits] at h
  obtain ⟨hmantissa, hshift⟩ := mantissa_ofPattern pattern
  have hpattern := toPattern_of_rounds h hd hmantissa hshift
  simp only [toPattern_ofPattern] at hpattern
  rw [nearest]
  simp only [hpattern]
  omega

/-! ### Shortest decimals -/

/-- Grid points are taken only from the rounding interval. -/
private theorem rounds_of_onGrid? {exponent : Int} {decimal : Decimal} (h : x.onGrid? exponent = some decimal) :
    x.rounds (decimal.numerator <<< 1076) decimal.denominator = true := by
  have hscale : ∀ c t : Nat, (c * t) <<< 1076 = c * t <<< 1076 := by
    intro c t
    rw [Nat.shiftLeft_eq, Nat.shiftLeft_eq, Nat.mul_assoc]
  simp only [onGrid?] at h
  rw [Decimal.numerator, hscale]
  split at h
  · next hbelow habove =>
    rw [← Option.some.inj h]
    split
    · exact hbelow
    · exact habove
  · next hbelow _ =>
    rw [← Option.some.inj h]
    exact hbelow
  · next _ habove =>
    rw [← Option.some.inj h]
    exact habove
  · cases h

private theorem lowerEnd_le (x : Magnitude) :
    x.lowerEnd ≤ x.quarters ∧ (x.mantissa % 2 = 1 → x.lowerEnd < x.quarters) := by
  unfold lowerEnd quarters
  rw [Nat.shiftLeft_eq, Nat.shiftLeft_eq]
  constructor
  · refine Nat.mul_le_mul_right _ ?_
    split <;> omega
  · intro hodd
    refine Nat.mul_lt_mul_of_pos_right ?_ (Nat.two_pow_pos _)
    split <;> omega

private theorem quarters_lt (x : Magnitude) : x.quarters < x.upperEnd := by
  unfold upperEnd quarters
  rw [Nat.shiftLeft_eq, Nat.shiftLeft_eq]
  exact Nat.mul_lt_mul_of_pos_right (by omega) (Nat.two_pow_pos _)

/-- A magnitude lies in its own interval. -/
private theorem rounds_quarters (x : Magnitude) (hd : 0 < d) : x.rounds (x.quarters * d) d = true := by
  obtain ⟨hle, hlt⟩ := x.lowerEnd_le
  have hupper := Nat.mul_lt_mul_of_pos_right x.quarters_lt hd
  exact rounds_iff.2 ⟨Nat.mul_le_mul_right d hle, Nat.le_of_lt hupper,
    fun hodd => ⟨Nat.mul_lt_mul_of_pos_right (hlt hodd) hd, hupper⟩⟩

private theorem numerator_shiftLeft (c : Nat) {k l : Nat} (hl : l = k + 2) :
    (⟨c * Nat.pow 5 k, -k⟩ : Decimal).numerator <<< l = 4 * c * (⟨c * Nat.pow 5 k, -k⟩ : Decimal).denominator := by
  have hten : tenTo k = Nat.pow 5 k * Nat.pow 2 k := Nat.mul_pow 5 2 k
  have hwhole : (-(k : Int)).toNat = 0 := by omega
  have htwo : 2 ^ l = 4 * Nat.pow 2 k := by
    rw [hl, Nat.pow_add, Nat.mul_comm]
    rfl
  rw [Decimal.numerator, Decimal.denominator, hwhole, Int.neg_neg, Int.toNat_natCast, Nat.shiftLeft_eq, hten, htwo]
  show c * Nat.pow 5 k * 1 * (4 * Nat.pow 2 k) = 4 * c * (Nat.pow 5 k * Nat.pow 2 k)
  rw [Nat.mul_one]
  simp only [Nat.mul_assoc, Nat.mul_left_comm, Nat.mul_comm]

private theorem rounds_exactDecimal (x : Magnitude) :
    x.rounds (x.exactDecimal.numerator <<< 1076) x.exactDecimal.denominator = true := by
  have hquarters : x.quarters = 4 * x.mantissa <<< x.shift := by
    rw [quarters, Nat.shiftLeft_eq, Nat.shiftLeft_eq, Nat.mul_assoc]
  -- as variables, since these powers should not be computed
  obtain ⟨k, hk⟩ : ∃ k, k = 1074 := ⟨_, rfl⟩
  obtain ⟨l, hl⟩ : ∃ l, l = 1076 := ⟨_, rfl⟩
  have hexact : x.exactDecimal = ⟨x.mantissa <<< x.shift * Nat.pow 5 k, -k⟩ := by
    have hexponent : (-1074 : Int) = -k := by omega
    rw [exactDecimal, hexponent, ← hk]
  have hscale : l = k + 2 := by omega
  rw [← hl, hexact, numerator_shiftLeft _ hscale, ← hquarters]
  exact x.rounds_quarters (Nat.pow_pos (by decide))

/-- The shortest decimal of a magnitude lies in the rounding interval. -/
theorem rounds_shortest (x : Magnitude) :
    x.rounds (x.shortest.numerator <<< 1076) x.shortest.denominator = true := by
  unfold shortest
  cases h : (List.range 20).findSome? fun (i : Nat) => x.onGrid? (x.topExponent - i) with
  | none => exact x.rounds_exactDecimal
  | some decimal =>
    obtain ⟨i, -, hi⟩ := List.exists_of_findSome?_eq_some h
    exact rounds_of_onGrid? hi

end Magnitude

end Calculator
