import Calculator.Proofs.Classification

/-!
# Where lexemes end

Only a numeral could go on with the text behind it: with a digit, or, while it has no point, with a point and a digit
(`Ends`). So lexemes that are written one after the other are cut apart again exactly if each of them ends in front of
the next (`cut_cons_iff`), and what comes behind them can change to anything that starts neither with a digit nor with a
point and a digit (`Cut.of_noDigit`).
-/

namespace Calculator.Lexeme

/-! ### Lexemes in front of a text -/

/-- A lexeme does not go on with a text. -/
def Ends (x : Lexeme) (rest : List Char) : Prop :=
  match x with
  | numeral text => NoDigit rest ∧ ('.' ∈ text ∨ NoPlaces rest)
  | mark _ _ | blank _ | stray _ => True

/-- Every lexeme ends in front of a character that no numeral has. -/
theorem Ends.cons (x : Lexeme) {c : Char} (hd : c.isDigit = false) (hp : c ≠ '.') (rest : List Char) :
    x.Ends (c :: rest) := by
  cases x with
  | numeral text =>
    refine ⟨fun d h => ?_, .inr fun d more h => ?_⟩
    · rw [← Option.some.inj h]
      exact hd
    · exact absurd (List.cons.inj h).1 hp
  | mark _ _ | blank _ | stray _ => trivial

private theorem noDigit_append {a rest rest' : List Char} (h : NoDigit (a ++ rest)) (hd : NoDigit rest') :
    NoDigit (a ++ rest') := by
  cases a with
  | nil => exact hd
  | cons c a => exact h

/-- Whether a lexeme ends does not depend on more than the next two characters. -/
private theorem Ends.of_noDigit {x : Lexeme} {a rest rest' : List Char} (h : x.Ends (a ++ rest)) (hd : NoDigit rest')
    (hp : NoPlaces rest') : x.Ends (a ++ rest') := by
  cases x with
  | numeral text =>
    refine ⟨noDigit_append h.1 hd, h.2.imp_right fun hplaces d more heq => ?_⟩
    rcases a with _ | ⟨c, _ | ⟨c', a⟩⟩
    · exact hp d more heq
    · obtain ⟨-, hrest⟩ := List.cons.inj (show c :: rest' = '.' :: d :: more from heq)
      exact hd d (by rw [hrest]; rfl)
    · obtain ⟨rfl, hmore⟩ := List.cons.inj heq
      exact hplaces d (a ++ rest) (by rw [← (List.cons.inj hmore).1]; rfl)
  | mark _ _ | blank _ | stray _ => trivial

private theorem point_not_mem_digitRun {digits : List Char} (h : DigitRun digits) : '.' ∉ digits :=
  fun hmem => absurd (h.2 _ hmem) (by decide)

private theorem splitNumeral_append_of_ends {text rest : List Char} (h : Numeral text)
    (hends : (numeral text).Ends rest) :
    splitNumeral (text ++ rest) = (text, rest) := by
  cases h with
  | whole hdigits => exact splitNumeral_whole hdigits hends.1 (hends.2.resolve_left (point_not_mem_digitRun hdigits))
  | point hdigits hplaces => exact splitNumeral_point hdigits hplaces hends.1

/-- A lexeme is cut off where it ends. -/
private theorem ofText_text_append {x : Lexeme} {rest : List Char} (hx : x.Valid) (h : x.Ends rest) :
    ofText (x.text ++ rest) = x :: ofText rest := by
  cases hx with
  | numeral isNumeral =>
    have hsplit := splitNumeral_append_of_ends isNumeral h
    obtain ⟨c, more, rfl, hc⟩ := exists_cons_of_numeral isNumeral
    rw [List.cons_append] at hsplit
    rw [text, List.cons_append, ofText_cons, first, if_pos hc, hsplit]
  | mark isMark =>
    rw [text, List.singleton_append, ofText_cons_of_not_isDigit (not_digit_nor_point isMark).1, ofChar_of_mark isMark]
  | blank isBlank =>
    rw [text, List.singleton_append, ofText_cons_of_not_isDigit (not_digit_nor_point_of_blank isBlank).1,
      ofChar_of_blank isBlank]
  | stray notDigit notMark notBlank =>
    rw [text, List.singleton_append, ofText_cons_of_not_isDigit notDigit, ofChar_of_stray notMark notBlank]

private theorem numeral_append_digit {text : List Char} (h : Numeral text) {d : Char} (hd : d.isDigit = true) :
    Numeral (text ++ [d]) := by
  have hrun : ∀ {run : List Char}, DigitRun run → DigitRun (run ++ [d]) := fun hrun =>
    ⟨by simp, List.forall_mem_append.2 ⟨hrun.2, List.forall_mem_singleton.2 hd⟩⟩
  cases h with
  | whole hdigits => exact .whole (hrun hdigits)
  | point hdigits hplaces =>
    rw [List.append_assoc, List.cons_append]
    exact .point hdigits (hrun hplaces)

private theorem numeral_append_places {text : List Char} (h : Numeral text) (hp : '.' ∉ text) {d : Char}
    (hd : d.isDigit = true) : Numeral (text ++ ['.', d]) := by
  cases h with
  | whole hdigits => exact .point hdigits ⟨by simp, List.forall_mem_singleton.2 hd⟩
  | point _ _ => exact absurd (by simp) hp

/-- In a text, every lexeme ends in front of the rest: a numeral that went on would be a longer one. -/
private theorem Stands.ends {text a b : List Char} {x : Lexeme} (h : Stands text a x b) : x.Ends b := by
  cases h.valid with
  | @numeral numeral isNumeral =>
    have hmax : ∀ m, m ≠ [] → m <+: b → ¬ Numeral (numeral ++ m) := by
      intro m hne hm hnumeral
      have hle := length_le_splitNumeral hnumeral ((List.prefix_append_right_inj numeral).2 hm)
      have hpos := List.length_pos_iff.2 hne
      simp only [h.splitNumeral_eq, List.length_append] at hle
      omega
    constructor
    · intro d hd
      obtain ⟨more, rfl⟩ := List.head?_eq_some_iff.1 hd
      rw [← Bool.not_eq_true]
      exact fun hdigit => hmax [d] (by simp) (by simp) (numeral_append_digit isNumeral hdigit)
    · by_cases hpoint : '.' ∈ numeral
      · exact .inl hpoint
      · refine .inr fun d more hb => ?_
        rw [← Bool.not_eq_true]
        exact fun hdigit => hmax ['.', d] (by simp) (by simp [hb]) (numeral_append_places isNumeral hpoint hdigit)
  | mark _ | blank _ | stray _ _ _ => trivial

/-! ### Lists of lexemes -/

/-- Lexemes that are written in front of a text are what is cut off from the whole first. -/
def Cut (lexemes : List Lexeme) (rest : List Char) : Prop :=
  ofText (lexemes.flatMap Lexeme.text ++ rest) = lexemes ++ ofText rest

theorem cut_ofText (text : List Char) : Cut (ofText text) [] := by
  rw [Cut, List.append_nil, flatMap_text_ofText, ofText_nil, List.append_nil]

theorem Cut.nil (rest : List Char) : Cut [] rest :=
  rfl

/-- Lexemes can be cut apart exactly if each of them ends in front of the next. -/
theorem cut_cons_iff {x : Lexeme} {lexemes : List Lexeme} {rest : List Char} :
    Cut (x :: lexemes) rest ↔ x.Valid ∧ x.Ends (lexemes.flatMap Lexeme.text ++ rest) ∧ Cut lexemes rest := by
  simp only [Cut, List.flatMap_cons, List.append_assoc, List.cons_append]
  constructor
  · intro h
    obtain ⟨b, hb, hstands⟩ := exists_stands_of_mem (h.trans (List.nil_append _).symm)
    have hrest : lexemes.flatMap Lexeme.text ++ rest = b := List.append_cancel_left hstands.eq_append
    rw [hrest]
    exact ⟨hstands.valid, hstands.ends, hb.symm⟩
  · rintro ⟨hx, hends, hcut⟩
    rw [ofText_text_append hx hends, hcut]

namespace Cut

variable {lexemes : List Lexeme} {rest rest' : List Char}

theorem valid (h : Cut lexemes rest) : ∀ x ∈ lexemes, x.Valid := by
  induction lexemes with
  | nil => exact List.forall_mem_nil _
  | cons x lexemes ih =>
    obtain ⟨hx, -, hcut⟩ := cut_cons_iff.1 h
    exact List.forall_mem_cons.2 ⟨hx, ih hcut⟩

/-- Lexemes can be cut off in front of anything with no digit, and no point and digit, at its start. -/
theorem of_noDigit (h : Cut lexemes rest) (hd : NoDigit rest') (hp : NoPlaces rest') : Cut lexemes rest' := by
  induction lexemes with
  | nil => exact .nil rest'
  | cons x lexemes ih =>
    obtain ⟨hx, hends, hcut⟩ := cut_cons_iff.1 h
    exact cut_cons_iff.2 ⟨hx, hends.of_noDigit hd hp, ih hcut⟩

end Cut

/-! ### Blanks -/

theorem flatMap_text_map_blank (w : List Char) : (w.map blank).flatMap Lexeme.text = w := by
  induction w with
  | nil => rfl
  | cons c w ih =>
    rw [List.map_cons, List.flatMap_cons, ih]
    rfl

/-- Blanks end in front of everything. -/
theorem Cut.map_blank_append {w : List Char} (hw : ∀ c ∈ w, c ∈ [' ', '\t', '\r', '\n']) {lexemes : List Lexeme}
    {rest : List Char} (h : Cut lexemes rest) : Cut (w.map blank ++ lexemes) rest := by
  induction w with
  | nil => exact h
  | cons c w ih =>
    rw [List.forall_mem_cons] at hw
    exact cut_cons_iff.2 ⟨.blank hw.1, trivial, ih hw.2⟩

theorem made_map_blank {β : Type} {item : Lexeme → Place → Option β} (hblank : ∀ c p, item (blank c) p = none)
    (w : List Char) (p : Place) : made item (w.map blank) p = [] := by
  induction w generalizing p with
  | nil => exact made_nil p
  | cons c w ih => rw [List.map_cons, made_cons, hblank, ih]; rfl

end Calculator.Lexeme
