import Mathlib
import Calculator.Proofs.Lexing
import Calculator.Proofs.Numerals
import Calculator.Proofs.Zero

/-!
# Doubles and their patterns

A finite double has the pattern of a finite magnitude (`magnitudePattern_lt_of_isFinite`). If its sign is not set, it is
the double with this pattern, and if it is and the double is not zero, zero minus that. The main statement is
`readSigned?_display`, that the text of any double is read as this double.
-/

namespace Calculator.Double

open Float.Model UnpackedFloat

/-! ### Fields of a bit pattern -/

private theorem toNat_unpackExponent (b : BitVec 64) :
    (@unpackExponent Format.binary64 b).toNat = b.toNat / 2 ^ 52 % 2 ^ 11 := by
  simp [unpackExponent, BitVec.extractLsb_toNat, Nat.shiftRight_eq_div_pow]

private theorem toNat_unpackMantissa (b : BitVec 64) :
    (@unpackMantissa Format.binary64 b).toNat = b.toNat % 2 ^ 52 := by
  simp [unpackMantissa, BitVec.extractLsb_toNat]

private theorem toNat_unpackSign (b : BitVec 64) : (@unpackSign Format.binary64 b).toNat = b.toNat / 2 ^ 63 % 2 := by
  simp [unpackSign, BitVec.extractLsb_toNat, Nat.shiftRight_eq_div_pow]

private theorem sign_of_lt {b : BitVec 64} (h : b.toNat < signBit) :
    Sign.ofBitVec (@unpackSign Format.binary64 b) = .positive := by
  have hsign : @unpackSign Format.binary64 b = 0#1 := by
    apply BitVec.eq_of_toNat_eq
    rw [toNat_unpackSign]
    unfold signBit at h
    show b.toNat / 2 ^ 63 % 2 = 0
    omega
  rw [hsign]
  rfl

private theorem sign_of_le {b : BitVec 64} (h : signBit ≤ b.toNat) :
    Sign.ofBitVec (@unpackSign Format.binary64 b) = .negative := by
  have hsign : @unpackSign Format.binary64 b = 1#1 := by
    apply BitVec.eq_of_toNat_eq
    have hlt := b.isLt
    rw [toNat_unpackSign]
    unfold signBit at h
    show b.toNat / 2 ^ 63 % 2 = 1
    omega
  rw [hsign]
  rfl

/-- Two patterns with the same magnitude are unpacked alike but for the sign. -/
private theorem unpack_of_magnitude {b b' : BitVec 64} (h : b'.toNat % signBit = b.toNat % signBit) {s : Sign} {m : Nat}
    {e : Int} {hm : 0 < m} (hb : UnpackedFloat.unpack Format.binary64 b = .finite s m e hm) :
    UnpackedFloat.unpack Format.binary64 b' =
      .finite (.ofBitVec (@unpackSign Format.binary64 b')) m e hm := by
  have hexponent : @unpackExponent Format.binary64 b' = @unpackExponent Format.binary64 b := by
    apply BitVec.eq_of_toNat_eq
    rw [toNat_unpackExponent, toNat_unpackExponent]
    unfold signBit at h
    omega
  have hmantissa : @unpackMantissa Format.binary64 b' = @unpackMantissa Format.binary64 b := by
    apply BitVec.eq_of_toNat_eq
    rw [toNat_unpackMantissa, toNat_unpackMantissa]
    unfold signBit at h
    omega
  -- a mantissa comes with a proof that it is positive, so it can be rewritten only when a case is left
  unfold UnpackedFloat.unpack at hb ⊢
  dsimp only at hb ⊢
  rw [hexponent]
  split at hb
  · split at hb <;> cases hb
  · next hones =>
    rw [if_neg hones]
    split at hb
    · next hzero =>
      rw [if_pos hzero]
      split at hb
      · cases hb
      · next hne =>
        rw [dif_neg (hmantissa ▸ hne)]
        cases hb
        simp only [hmantissa]
    · next hzero =>
      rw [if_neg hzero]
      cases hb
      simp only [hmantissa]

private theorem exponent_of_isFinite {b : BitVec 64} (h : (UnpackedFloat.unpack Format.binary64 b).isFinite = true) :
    @unpackExponent Format.binary64 b ≠ -1#_ := by
  intro hones
  unfold UnpackedFloat.unpack at h
  dsimp only at h
  rw [if_pos hones] at h
  split at h <;> cases h

/-- All bits of the exponent are set in the patterns of infinity and NaN, and only there. -/
private theorem exponent_eq_ones_iff (v : Float) :
    @unpackExponent Format.binary64 v.toBits.toBitVec = -1#_ ↔ Magnitude.infinity ≤ magnitudePattern v := by
  have hbits : v.toBits.toBitVec.toNat = v.toBits.toNat := rfl
  have hones : @unpackExponent Format.binary64 v.toBits.toBitVec = -1#_ ↔ v.toBits.toNat / 2 ^ 52 % 2 ^ 11 = 2047 := by
    rw [← hbits, ← toNat_unpackExponent]
    exact ⟨fun h => congrArg BitVec.toNat h, fun h => BitVec.eq_of_toNat_eq h⟩
  rw [hones]
  unfold magnitudePattern signBit Magnitude.infinity
  omega

/-- The pattern of a finite double is in front of that of infinity. -/
theorem magnitudePattern_lt_of_isFinite {v : Float} (h : v.isFinite = true) :
    magnitudePattern v < Magnitude.infinity :=
  Nat.lt_of_not_le fun hle => exponent_of_isFinite h ((exponent_eq_ones_iff v).2 hle)

/-- A finite double that does not equal zero is unpacked as a sign, a mantissa and an exponent. -/
private theorem exists_unpack_eq_finite {v : Float} (h : v.isFinite = true) (hzero : (v == 0) = false) :
    ∃ s m e hm, v.toModel.unpack = .finite s m e hm := by
  have hfinite : v.toModel.unpack.isFinite = true := h
  have hcompare : (v.toModel.unpack.compare (.zero .positive) == some .eq) = false := hzero
  cases hv : v.toModel.unpack with
  | finite s m e hm => exact ⟨s, m, e, hm, rfl⟩
  | zero s =>
    rw [hv] at hcompare
    cases s <;> cases hcompare
  | infinity s =>
    rw [hv] at hfinite
    cases hfinite
  | notANumber =>
    rw [hv] at hfinite
    cases hfinite

/-! ### Doubles with a given pattern -/

/-- A double whose sign is not set is the one with the pattern of its magnitude. -/
theorem ofPattern_magnitudePattern {v : Float} (h : isNegative v = false) : ofPattern (magnitudePattern v) = v := by
  have hlt : v.toBits.toNat < signBit := by
    unfold isNegative at h
    rwa [decide_eq_false_iff_not, Nat.not_le] at h
  rw [ofPattern, magnitudePattern, Nat.mod_eq_of_lt hlt, Nat.toUInt64, UInt64.ofNat_toNat, Float.ofBits_toBits]

/-- The double with a pattern is unpacked as the pattern is, if that is not one of a NaN. -/
private theorem unpack_ofBits {pattern : UInt64} (h : @unpackExponent Format.binary64 pattern.toBitVec ≠ -1#_) :
    (Float.ofBits pattern).toModel.unpack = UnpackedFloat.unpack Format.binary64 pattern.toBitVec :=
  congrArg (UnpackedFloat.unpack Format.binary64) (pack_unpack_of_valid ⟨fun hones => absurd hones h⟩)

/-- Zero minus a positive double has its fields, but for the sign. -/
private theorem zero_sub_of_unpack {x y : Float} {m : Nat} {e : Int} {hm : 0 < m}
    (hx : x.toModel.unpack = .finite .positive m e hm) (hy : y.toModel.unpack = .finite .negative m e hm) :
    0 - x = y := by
  have hdifference :
      UnpackedFloat.sub Format.binary64 (0 : Float).toModel.unpack x.toModel.unpack = y.toModel.unpack := by
    rw [hx, hy]
    rfl
  have hpack : Float.ofModel (.pack y.toModel.unpack) = y := Float.ofBits_toBits y
  rw [← hpack, ← hdifference]
  rfl

/-- A finite double that is less than zero has the fields of the one with the pattern of its magnitude, but for the
sign. -/
private theorem exists_unpack_of_isNegative {v : Float} (hfinite : v.isFinite = true) (h : isNegative v = true)
    (hzero : (v == 0) = false) :
    ∃ m e hm, (ofPattern (magnitudePattern v)).toModel.unpack = .finite .positive m e hm ∧
      v.toModel.unpack = .finite .negative m e hm := by
  obtain ⟨s, m, e, hm, hv⟩ := exists_unpack_eq_finite hfinite hzero
  have hset : signBit ≤ v.toModel.toBits.toBitVec.toNat := of_decide_eq_true h
  have hclear : magnitudePattern v < signBit := Nat.mod_lt _ (by decide)
  have hbits : (magnitudePattern v).toUInt64.toBitVec.toNat = magnitudePattern v :=
    Nat.mod_eq_of_lt (Nat.lt_trans hclear (by decide))
  have hmagnitude :
      (magnitudePattern v).toUInt64.toBitVec.toNat % signBit = v.toModel.toBits.toBitVec.toNat % signBit := by
    rw [hbits, magnitudePattern, Nat.mod_mod]
    rfl
  have hnegative := unpack_of_magnitude rfl hv
  have hpositive := unpack_of_magnitude hmagnitude hv
  rw [sign_of_le hset] at hnegative
  rw [sign_of_lt (by rwa [hbits])] at hpositive
  refine ⟨m, e, hm, ?_, hnegative⟩
  rw [← hpositive]
  exact unpack_ofBits (exponent_of_isFinite (by rw [hpositive]; rfl))

/-- A finite double that is less than zero is zero minus the one with the pattern of its magnitude. -/
theorem zero_sub_ofPattern {v : Float} (hfinite : v.isFinite = true) (h : isNegative v = true)
    (hzero : (v == 0) = false) : 0 - ofPattern (magnitudePattern v) = v := by
  obtain ⟨m, e, hm, hpositive, hnegative⟩ := exists_unpack_of_isNegative hfinite h hzero
  exact zero_sub_of_unpack hpositive hnegative

/-! ### Reading texts of doubles -/

/-- A double whose pattern is in front of that of infinity is finite. -/
private theorem isFinite_of_magnitudePattern_lt {v : Float} (h : magnitudePattern v < Magnitude.infinity) :
    v.isFinite = true := by
  have hexponent : @unpackExponent Format.binary64 v.toBits.toBitVec ≠ -1#_ :=
    fun hones => Nat.not_le.2 h ((exponent_eq_ones_iff v).1 hones)
  show (UnpackedFloat.unpack Format.binary64 v.toBits.toBitVec).isFinite = true
  unfold UnpackedFloat.unpack
  dsimp only
  rw [if_neg hexponent]
  split
  · split <;> rfl
  · rfl

/-- There is one NaN only. -/
private theorem eq_of_isNaN {v : Float} (h : isNaN v = true) : v = 0 / 0 := by
  have hlt : Magnitude.infinity < magnitudePattern v := of_decide_eq_true h
  have hones := (exponent_eq_ones_iff v).2 (Nat.le_of_lt hlt)
  have hmantissa : @unpackMantissa Format.binary64 v.toModel.toBits.toBitVec ≠ 0#_ := by
    intro hzero
    have hbits : v.toModel.toBits.toBitVec.toNat = v.toBits.toNat := rfl
    have hrange := v.toModel.toBits.toBitVec.isLt
    have hnat := congrArg BitVec.toNat hzero
    rw [toNat_unpackMantissa, hbits] at hnat
    have hfield : v.toBits.toNat % 2 ^ 52 = 0 := hnat
    unfold magnitudePattern signBit Magnitude.infinity at hlt
    omega
  have hpacked := v.toModel.valid.eq_packedNaN hones hmantissa
  have hquotient : (0 / 0 : Float).toModel.toBits.toBitVec = packedNaN Format.binary64 := by decide +kernel
  exact eq_of_toBits (congrArg BitVec.toNat (hpacked.trans hquotient.symm))

/-- A double whose sign is set is the negative of the one with the pattern of its magnitude. -/
private theorem neg_ofPattern {v : Float} (h : isNegative v = true) (hnumber : isNaN v = false) :
    -ofPattern (magnitudePattern v) = v := by
  have hle : magnitudePattern v ≤ Magnitude.infinity := Nat.le_of_not_lt (of_decide_eq_false hnumber)
  rcases Nat.lt_or_eq_of_le hle with hlt | heq
  · cases hzero : v == 0 with
    | true =>
      rcases beq_zero_iff.1 hzero with rfl | rfl
      · exact absurd h (by decide +kernel)
      · decide +kernel
    | false =>
      obtain ⟨m, e, hm, hpositive, hnegative⟩ :=
        exists_unpack_of_isNegative (isFinite_of_magnitudePattern_lt hlt) h hzero
      have hpack : Float.ofModel (.pack v.toModel.unpack) = v := Float.ofBits_toBits v
      have hneg : (ofPattern (magnitudePattern v)).toModel.unpack.neg = v.toModel.unpack := by
        rw [hpositive, hnegative]
        rfl
      rw [← hneg] at hpack
      exact hpack
  · -- only minus infinity is left
    have hset : signBit ≤ v.toBits.toNat := of_decide_eq_true h
    have hrange := v.toModel.toBits.toBitVec.isLt
    have hbits : v.toModel.toBits.toBitVec.toNat = v.toBits.toNat := rfl
    unfold magnitudePattern signBit Magnitude.infinity at heq
    unfold signBit at hset
    obtain rfl : v = Float.ofBits 0xFFF0000000000000 := by
      apply eq_of_toBits
      show v.toBits.toNat = 0xFFF0000000000000
      omega
    decide +kernel

private theorem readUnsigned?_of_read? {numeral : List Char} {v : Float} (h : read? numeral = some v) :
    readSigned?.readUnsigned? numeral = some v := by
  have hread : ∀ {word : List Char}, read? word = none → numeral ≠ word := by
    rintro word hnone rfl
    rw [h] at hnone
    cases hnone
  rw [readSigned?.readUnsigned?, if_neg (hread (by decide +kernel)), if_neg (hread (by decide +kernel)), h]

private theorem readUnsigned?_magnitudeText {pattern : Nat} (h : pattern ≤ Magnitude.infinity) :
    readSigned?.readUnsigned? (magnitudeText pattern) = some (ofPattern pattern) := by
  rcases Nat.lt_or_eq_of_le h with hlt | rfl
  · exact readUnsigned?_of_read? (read?_magnitudeText hlt)
  · rfl

private theorem readSigned?_of_ne_minus {text : List Char} (h : text.head? ≠ some '-') :
    readSigned? text = readSigned?.readUnsigned? text := by
  unfold readSigned?
  split
  · exact absurd rfl h
  · rfl

private theorem head?_magnitudeText {pattern : Nat} (h : pattern ≤ Magnitude.infinity) :
    (magnitudeText pattern).head? ≠ some '-' := by
  rcases Nat.lt_or_eq_of_le h with hlt | rfl
  · obtain ⟨c, rest, htext, hc⟩ := Lexeme.exists_cons_of_numeral (numeral_magnitudeText hlt)
    rw [htext, List.head?_cons]
    rintro hminus
    rw [Option.some.inj hminus] at hc
    exact absurd hc (by decide)
  · decide

/-- The text of a double, whatever it is, is read as this double. -/
theorem readSigned?_display (v : Float) : readSigned? (display v).toList = some v := by
  rw [display, String.toList_ofList, text]
  cases hnumber : isNaN v with
  | true =>
    rw [eq_of_isNaN hnumber]
    rfl
  | false =>
    have hle : magnitudePattern v ≤ Magnitude.infinity := Nat.le_of_not_lt (of_decide_eq_false hnumber)
    simp only [Bool.false_eq_true, if_false]
    cases hsign : isNegative v with
    | true =>
      simp only [if_true, readSigned?]
      rw [readUnsigned?_magnitudeText hle, Option.map_some, neg_ofPattern hsign hnumber]
    | false =>
      simp only [Bool.false_eq_true, if_false]
      rw [readSigned?_of_ne_minus (head?_magnitudeText hle), readUnsigned?_magnitudeText hle,
        ofPattern_magnitudePattern hsign]

end Calculator.Double
