import Calculator.Scan

/-!
# Lexing from the left

A character that is no digit is a lexeme of its own, whatever stands around it (`ofText_cons_of_not_isDigit`). A numeral
is cut off in front of a text that it cannot go on with (`ofText_numeral_append`).
-/

namespace Calculator

namespace Lexeme

/-- A text does not go on with a digit. -/
def NoDigit (rest : List Char) : Prop :=
  ∀ c ∈ rest.head?, c.isDigit = false

/-- A text does not go on with a point and a digit. -/
def NoPlaces (rest : List Char) : Prop :=
  ∀ d more, rest = '.' :: d :: more → d.isDigit = false

theorem ofText_cons_of_not_isDigit {c : Char} (h : c.isDigit = false) (rest : List Char) :
    ofText (c :: rest) = ofChar c :: ofText rest := by
  rw [ofText_cons, first, h]
  rfl

/-- Text without digits is cut into single characters. -/
theorem ofText_append_of_not_isDigit {a : List Char} (h : ∀ c ∈ a, c.isDigit = false) (rest : List Char) :
    ofText (a ++ rest) = a.map ofChar ++ ofText rest := by
  induction a with
  | nil => rfl
  | cons c a ih =>
    rw [List.forall_mem_cons] at h
    rw [List.cons_append, ofText_cons_of_not_isDigit h.1, ih h.2]
    rfl

/-! ### Numerals -/

private theorem takeWhile_digits {digits rest : List Char} (h : ∀ c ∈ digits, c.isDigit) (hrest : NoDigit rest) :
    (digits ++ rest).takeWhile Char.isDigit = digits := by
  rw [List.takeWhile_append_of_pos h]
  cases rest with
  | nil => simp
  | cons c rest => simp [hrest c rfl]

private theorem dropWhile_digits {digits rest : List Char} (h : ∀ c ∈ digits, c.isDigit) (hrest : NoDigit rest) :
    (digits ++ rest).dropWhile Char.isDigit = rest := by
  rw [List.dropWhile_append_of_pos h]
  cases rest with
  | nil => rfl
  | cons c rest => simp [hrest c rfl]

private theorem noDigit_point (rest : List Char) : NoDigit ('.' :: rest) := by
  intro c hc
  rw [← Option.some.inj hc]
  decide

/-- A run of digits ends in front of anything but a digit, or a point and a digit. -/
theorem splitNumeral_whole {digits rest : List Char} (h : DigitRun digits) (hd : NoDigit rest) (hp : NoPlaces rest) :
    splitNumeral (digits ++ rest) = (digits, rest) := by
  unfold splitNumeral
  rw [takeWhile_digits h.2 hd, dropWhile_digits h.2 hd]
  split
  · next d more => rw [hp d more rfl]; rfl
  · rfl

/-- Behind a point a run of digits ends in front of anything but a digit. -/
theorem splitNumeral_point {digits places rest : List Char} (h : DigitRun digits) (h' : DigitRun places)
    (hd : NoDigit rest) : splitNumeral (digits ++ '.' :: places ++ rest) = (digits ++ '.' :: places, rest) := by
  obtain ⟨d, more, rfl⟩ := List.exists_cons_of_ne_nil h'.1
  have hdigit : d.isDigit = true := h'.2 d (by simp)
  have hcut : digits ++ '.' :: (d :: more) ++ rest = digits ++ '.' :: d :: (more ++ rest) := by simp
  unfold splitNumeral
  rw [hcut, takeWhile_digits h.2 (noDigit_point _), dropWhile_digits h.2 (noDigit_point _)]
  simp only [hdigit, if_true]
  rw [← List.cons_append, takeWhile_digits h'.2 hd, dropWhile_digits h'.2 hd]

private theorem splitNumeral_append_of_numeral {numeral rest : List Char} (h : Numeral numeral) (hd : NoDigit rest)
    (hp : NoPlaces rest) : splitNumeral (numeral ++ rest) = (numeral, rest) := by
  cases h with
  | whole hdigits => exact splitNumeral_whole hdigits hd hp
  | point hdigits hplaces => exact splitNumeral_point hdigits hplaces hd

theorem exists_cons_of_numeral {numeral : List Char} (h : Numeral numeral) :
    ∃ c more, numeral = c :: more ∧ c.isDigit = true := by
  cases h with
  | whole hdigits =>
    obtain ⟨c, more, rfl⟩ := List.exists_cons_of_ne_nil hdigits.1
    exact ⟨c, more, rfl, hdigits.2 c (by simp)⟩
  | point hdigits _ =>
    obtain ⟨c, more, rfl⟩ := List.exists_cons_of_ne_nil hdigits.1
    exact ⟨c, _, rfl, hdigits.2 c (by simp)⟩

/-- A numeral is one lexeme in front of a text that it cannot go on with. -/
theorem ofText_numeral_append {text rest : List Char} (h : Numeral text) (hd : NoDigit rest) (hp : NoPlaces rest) :
    ofText (text ++ rest) = numeral text :: ofText rest := by
  have hsplit := splitNumeral_append_of_numeral h hd hp
  obtain ⟨c, more, rfl, hc⟩ := exists_cons_of_numeral h
  rw [List.cons_append] at hsplit ⊢
  rw [ofText_cons, first, hc, if_pos rfl, hsplit]

end Lexeme

end Calculator
