import Calculator.Decimal
import Calculator.Proofs.Rounding

/-!
# Reading what has been written

A decimal is written as a numeral that stands for it (`Decimal.fraction?_text`). The text of a finite magnitude is a
numeral, and it is read as this magnitude (`Double.read?_magnitudeText`).
-/

namespace Calculator

namespace Decimal

private theorem length_padded {places n : Nat} (hpos : 0 < places) (h : n < tenTo places) :
    (padded places n).length = places := by
  have hle := (Nat.length_toDigits_le_iff (by decide) hpos).2 h
  rw [padded, List.length_append, List.length_replicate]
  omega

private theorem ofDigitChars_padded (places n : Nat) : Nat.ofDigitChars 10 (padded places n) 0 = n := by
  rw [padded, Nat.ofDigitChars_append, Nat.ofDigitChars_replicate_zero, Nat.mul_zero, Nat.ofDigitChars_ten_toDigits]

/-- The numeral that a decimal is written as stands for this decimal. -/
theorem fraction?_text (x : Decimal) : fraction? x.text = some (x.numerator, x.denominator) := by
  obtain ⟨coefficient, exponent⟩ := x
  cases exponent with
  | ofNat zeros =>
    rw [text, fraction?_whole (digitRun_zeros coefficient zeros), Nat.ofDigitChars_append,
      Nat.ofDigitChars_replicate_zero, Nat.ofDigitChars_ten_toDigits, Nat.mul_comm, numerator_ofNat,
      denominator_ofNat]
    rfl
  | negSucc n =>
    have hlt : coefficient % tenTo (n + 1) < tenTo (n + 1) := Nat.mod_lt _ (Nat.pow_pos (by decide))
    have hlength := length_padded (Nat.succ_pos n) hlt
    have hdigits : Nat.ofDigitChars 10
        (Nat.toDigits 10 (coefficient / tenTo (n + 1)) ++ padded (n + 1) (coefficient % tenTo (n + 1))) 0 =
          coefficient := by
      rw [Nat.ofDigitChars_append, Nat.ofDigitChars_ten_toDigits, Nat.ofDigitChars_eq_ofDigitChars_zero, hlength,
        ofDigitChars_padded]
      exact Nat.div_add_mod coefficient (tenTo (n + 1))
    rw [text, fraction?_point (digitRun_toDigits _) (digitRun_padded _ _), hdigits, hlength, numerator_negSucc,
      denominator_negSucc]

end Decimal

namespace Double

/-- The text of a finite magnitude is a numeral. -/
theorem numeral_magnitudeText {pattern : Nat} (h : pattern < Magnitude.infinity) : Numeral (magnitudeText pattern) := by
  unfold magnitudeText
  rw [if_neg (Nat.ne_of_lt h)]
  split
  · exact .whole (by decide)
  · exact Decimal.numeral_text _

/-- The text of a finite magnitude is read as this magnitude. -/
theorem read?_magnitudeText {pattern : Nat} (h : pattern < Magnitude.infinity) :
    read? (magnitudeText pattern) = some (ofPattern pattern) := by
  unfold magnitudeText
  rw [if_neg (Nat.ne_of_lt h)]
  split
  · next hzero =>
    rw [hzero]
    decide +kernel
  · have hpos : 0 < (Magnitude.ofPattern pattern).shortest.denominator := Nat.pow_pos (by decide)
    have hnearest := Magnitude.nearest_of_rounds h (Magnitude.rounds_shortest _) hpos
    rw [read?, Decimal.fraction?_text, Option.map_some]
    exact congrArg (some ∘ ofPattern) hnearest

end Double

end Calculator
