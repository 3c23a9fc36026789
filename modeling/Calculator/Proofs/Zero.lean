import Calculator.Decimal

/-!
# The two zeros

Doubles are compared as numbers, so that a double equals zero exactly if it is one of the two zeros
(`beq_zero_iff`). Their bit patterns are the ones with nothing set but the sign.
-/

namespace Calculator.Double

open Float.Model UnpackedFloat

/-- Doubles with the same bit pattern are the same. -/
theorem eq_of_toBits {x y : Float} (h : x.toModel.toBits.toNat = y.toModel.toBits.toNat) : x = y := by
  obtain ⟨⟨a, ha⟩⟩ := x
  obtain ⟨⟨b, hb⟩⟩ := y
  have hab : a = b := UInt64.toNat_inj.1 h
  subst hab
  rfl

private theorem fields_of_unpack_eq_zero {b : BitVec 64} {s : Sign}
    (h : UnpackedFloat.unpack Format.binary64 b = .zero s) :
    @unpackExponent Format.binary64 b = 0#_ ∧ @unpackMantissa Format.binary64 b = 0#_ := by
  unfold UnpackedFloat.unpack at h
  dsimp only at h
  by_cases hones : @unpackExponent Format.binary64 b = -1#_
  · rw [if_pos hones] at h
    by_cases hmantissa : @unpackMantissa Format.binary64 b = 0#_
    · rw [if_pos hmantissa] at h
      cases h
    · rw [if_neg hmantissa] at h
      cases h
  · rw [if_neg hones] at h
    by_cases hexponent : @unpackExponent Format.binary64 b = 0#_
    · rw [if_pos hexponent] at h
      by_cases hmantissa : @unpackMantissa Format.binary64 b = 0#_
      · exact ⟨hexponent, hmantissa⟩
      · rw [dif_neg hmantissa] at h
        cases h
    · rw [if_neg hexponent] at h
      cases h

private theorem pattern_of_unpack_eq_zero {b : BitVec 64} {s : Sign}
    (h : UnpackedFloat.unpack Format.binary64 b = .zero s) : b.toNat = 0 ∨ b.toNat = signBit := by
  obtain ⟨hexponent, hmantissa⟩ := fields_of_unpack_eq_zero h
  have he := congrArg BitVec.toNat hexponent
  have hm := congrArg BitVec.toNat hmantissa
  simp [unpackExponent, unpackMantissa, BitVec.extractLsb_toNat, Nat.shiftRight_eq_div_pow] at he hm
  have hb := b.isLt
  unfold signBit
  omega

private theorem compare_zero_iff {u : UnpackedFloat} :
    (u.compare (.zero .positive) == some .eq) = true ↔ ∃ s, u = .zero s := by
  constructor
  · intro h
    cases u with
    | zero s => exact ⟨s, rfl⟩
    | infinity s => cases s <;> cases h
    | finite s => cases s <;> cases h
    | notANumber => cases h
  · rintro ⟨s, rfl⟩
    rfl

/-- What equals zero is a zero, of either sign. -/
theorem beq_zero_iff {x : Float} : (x == 0) = true ↔ x = 0 ∨ x = -0 := by
  show (x.toModel.unpack.compare (.zero .positive) == some .eq) = true ↔ _
  rw [compare_zero_iff]
  constructor
  · rintro ⟨s, hs⟩
    rcases pattern_of_unpack_eq_zero hs with h | h
    · exact .inl (eq_of_toBits h)
    · exact .inr (eq_of_toBits h)
  · rintro (rfl | rfl)
    · exact ⟨.positive, rfl⟩
    · exact ⟨.negative, rfl⟩

end Calculator.Double
