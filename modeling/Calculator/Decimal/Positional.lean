import Calculator.Decimal.Shortest

/-!
# Positional decimals

A numeral is a run of digits, which a point and a second run may follow. `Numeral` says so, `Decimal.text` writes
every decimal as one, without an exponent, and `fraction?` reads one as a fraction of natural numbers.
-/

namespace Calculator

/-- One digit or more. -/
def DigitRun (text : List Char) : Prop :=
  text ≠ [] ∧ ∀ c ∈ text, c.isDigit

instance (text : List Char) : Decidable (DigitRun text) :=
  @instDecidableAnd _ _ _ (List.decidableBAll _ text)

/-- Digits, or digits, a point and digits. -/
inductive Numeral : List Char → Prop
  | whole {digits : List Char} : DigitRun digits → Numeral digits
  | point {digits places : List Char} : DigitRun digits → DigitRun places → Numeral (digits ++ '.' :: places)

namespace Decimal

/-- The digits of a number below `10^places`, with zeros in front to fill all places. -/
def padded (places n : Nat) : List Char :=
  let digits := Nat.toDigits 10 n
  List.replicate (places - digits.length) '0' ++ digits

/-- All digits of a decimal, and a point only if there are places behind it. -/
def text : Decimal → List Char
  | ⟨coefficient, .ofNat zeros⟩ => Nat.toDigits 10 coefficient ++ List.replicate zeros '0'
  | ⟨coefficient, .negSucc n⟩ =>
    Nat.toDigits 10 (coefficient / tenTo (n + 1)) ++ '.' :: padded (n + 1) (coefficient % tenTo (n + 1))

/-- The numerator and denominator that a numeral stands for. -/
def fraction? (text : List Char) : Option (Nat × Nat) :=
  match text.takeWhile Char.isDigit, text.dropWhile Char.isDigit with
  | digits, [] => if DigitRun digits then some (Nat.ofDigitChars 10 digits 0, 1) else none
  | digits, c :: places =>
    if c = '.' ∧ DigitRun digits ∧ DigitRun places then
      some (Nat.ofDigitChars 10 (digits ++ places) 0, tenTo places.length)
    else none

theorem digitRun_toDigits (n : Nat) : DigitRun (Nat.toDigits 10 n) :=
  ⟨Nat.toDigits_ne_nil, fun _ hc => Nat.isDigit_of_mem_toDigits (by decide) (by decide) hc⟩

theorem digitRun_zeros (n zeros : Nat) : DigitRun (Nat.toDigits 10 n ++ List.replicate zeros '0') := by
  refine ⟨by simp [Nat.toDigits_ne_nil], fun c hc => ?_⟩
  rcases List.mem_append.1 hc with h | h
  · exact (digitRun_toDigits n).2 c h
  · rw [List.eq_of_mem_replicate h]; rfl

theorem digitRun_padded (places n : Nat) : DigitRun (padded places n) := by
  refine ⟨by simp [padded, Nat.toDigits_ne_nil], fun c hc => ?_⟩
  rcases List.mem_append.1 hc with h | h
  · rw [List.eq_of_mem_replicate h]; rfl
  · exact (digitRun_toDigits n).2 c h

/-- A decimal is written as a numeral. -/
theorem numeral_text (x : Decimal) : Numeral x.text := by
  obtain ⟨coefficient, exponent⟩ := x
  cases exponent with
  | ofNat zeros => exact .whole (digitRun_zeros coefficient zeros)
  | negSucc n => exact .point (digitRun_toDigits _) (digitRun_padded _ _)

theorem fraction?_whole {digits : List Char} (h : DigitRun digits) :
    fraction? digits = some (Nat.ofDigitChars 10 digits 0, 1) := by
  have h₁ : (digits ++ []).takeWhile Char.isDigit = digits ++ [] := List.takeWhile_append_of_pos h.2
  have h₂ : (digits ++ []).dropWhile Char.isDigit = [] := List.dropWhile_append_of_pos h.2
  rw [List.append_nil] at h₁ h₂
  simp [fraction?, h₁, h₂, h]

theorem fraction?_point {digits places : List Char} (h : DigitRun digits) (h' : DigitRun places) :
    fraction? (digits ++ '.' :: places) =
      some (Nat.ofDigitChars 10 (digits ++ places) 0, tenTo places.length) := by
  simp [fraction?, List.takeWhile_append_of_pos h.2, List.dropWhile_append_of_pos h.2,
    show Char.isDigit '.' = false by decide, h, h']

/-- Numerals, and nothing else, stand for a fraction. -/
theorem isSome_fraction?_iff {text : List Char} : (fraction? text).isSome ↔ Numeral text := by
  constructor
  · intro h
    have hsplit := List.takeWhile_append_dropWhile (p := Char.isDigit) (l := text)
    unfold fraction? at h
    split at h
    · next hd =>
      rw [hd, List.append_nil] at hsplit
      by_cases hr : DigitRun (text.takeWhile Char.isDigit)
      · rw [← hsplit]; exact .whole hr
      · simp [hr] at h
    · next c places hd =>
      split at h
      · next hr =>
        rw [hd, hr.1] at hsplit
        rw [← hsplit]; exact .point hr.2.1 hr.2.2
      · simp at h
  · intro h
    cases h with
    | whole hd => rw [fraction?_whole hd, Option.isSome_some]
    | point hd hp => rw [fraction?_point hd hp, Option.isSome_some]

end Decimal

end Calculator
