import Calculator.Proofs.Cutting
import Calculator.Proofs.Lossless
import Calculator.Proofs.Outcome

/-!
# Blanking what is skipped

A character that a scan warns about may as well be a space, or as many spaces as it has bytes. The main statement,
`ofText_blanked`, says that a text that is blanked in this way has the same tokens and no warnings, so that runs on it,
strict or not, come to what a run that is not strict makes of the text itself. The reason is that a character that is
skipped stands alone, so that no lexeme next to it goes on over the spaces (`Cut.blanks`).
-/

namespace Calculator

/-- A character, or as many spaces as it has bytes if a scan warns about it. -/
def Scan.blankedPiece (scan : Scan) (p : Piece) : List Char :=
  if p ∈ scan.warnings.map Piece.ofWarning then List.replicate (Text.byteSize p.text) ' ' else p.text

/-- The text with spaces in place of all characters that its scan warns about. -/
def Text.blanked (text : List Char) : List Char :=
  (Piece.characters 0 text).flatMap (Scan.ofText text).blankedPiece

private theorem Piece.flatMap_characters {text : List Char} {offset : Nat} {f : Piece → List Char}
    (h : ∀ p ∈ characters offset text, f p = p.text) : (characters offset text).flatMap f = text := by
  induction text generalizing offset with
  | nil => rfl
  | cons c text ih =>
    rw [characters, List.forall_mem_cons] at h
    rw [characters, List.flatMap_cons, h.1, ih h.2]
    rfl

/-! ### Spaces for a skipped character -/

namespace Lexeme

/-- The lexemes of spaces in place of a skipped character. -/
def blanks : Lexeme → List Lexeme
  | stray c => (List.replicate c.utf8Size ' ').map blank
  | numeral text => [numeral text]
  | mark c kind => [mark c kind]
  | blank c => [blank c]

/-- The text of a lexeme, or spaces in place of a skipped character. -/
def blankedText (x : Lexeme) : List Char :=
  x.blanks.flatMap Lexeme.text

private theorem blankedText_stray (c : Char) : (stray c).blankedText = List.replicate c.utf8Size ' ' :=
  flatMap_text_map_blank _

private theorem blankedText_of_ne_stray {x : Lexeme} (h : ∀ c, x ≠ stray c) : x.blankedText = x.text := by
  cases x with
  | stray c => exact absurd rfl (h c)
  | numeral _ | mark _ _ | blank _ => exact List.flatMap_singleton _ _

private theorem flatMap_text_blanks (lexemes : List Lexeme) :
    (lexemes.flatMap blanks).flatMap Lexeme.text = lexemes.flatMap blankedText :=
  List.flatMap_assoc

/-! ### Cutting the blanked text -/

/-- A lexeme ends in front of the next one when this is blanked, too. -/
private theorem ends_blanked {x : Lexeme} {lexemes : List Lexeme} (h : x.Ends (lexemes.flatMap Lexeme.text))
    (hvalid : ∀ y ∈ lexemes, y.Valid) : x.Ends (lexemes.flatMap blankedText) := by
  cases lexemes with
  | nil => exact h
  | cons y lexemes =>
    rw [List.flatMap_cons] at h ⊢
    cases hvalid y List.mem_cons_self with
    | numeral isNumeral =>
      -- a numeral starts with a digit, so `x` is none
      obtain ⟨c, more, rfl, hc⟩ := exists_cons_of_numeral isNumeral
      cases x with
      | numeral text => rw [h.1 c rfl] at hc; cases hc
      | mark _ _ | blank _ | stray _ => trivial
    | mark isMark =>
      obtain ⟨hd, hp⟩ := not_digit_nor_point isMark
      exact .cons x hd hp _
    | blank isBlank =>
      obtain ⟨hd, hp⟩ := not_digit_nor_point_of_blank isBlank
      exact .cons x hd hp _
    | @stray c _ _ _ =>
      obtain ⟨n, hn⟩ := Nat.exists_eq_succ_of_ne_zero (Nat.pos_iff_ne_zero.1 c.utf8Size_pos)
      rw [blankedText_stray, hn, List.replicate_succ]
      exact .cons x (by decide) (by decide) _

/-- Blanked lexemes can be cut apart as before. -/
theorem Cut.blanks {lexemes : List Lexeme} (h : Cut lexemes []) : Cut (lexemes.flatMap Lexeme.blanks) [] := by
  induction lexemes with
  | nil => exact h
  | cons x lexemes ih =>
    have hvalid := h.valid
    obtain ⟨hx, hends, hcut⟩ := cut_cons_iff.1 h
    rw [List.forall_mem_cons] at hvalid
    rw [List.append_nil] at hends
    have hends' := ends_blanked hends hvalid.2
    rw [← flatMap_text_blanks, ← List.append_nil (List.flatMap _ _)] at hends'
    rw [List.flatMap_cons]
    cases x with
    | stray c =>
      refine Cut.map_blank_append (fun d hd => ?_) (ih hcut)
      rw [List.eq_of_mem_replicate hd]
      decide
    | numeral _ | mark _ _ | blank _ => exact cut_cons_iff.2 ⟨hx, hends', ih hcut⟩

/-! ### What blanked lexemes make -/

/-- Spaces take the place of the character: as many bytes, and no line feed. -/
private theorem behind_blankedText {x : Lexeme} (h : x.Valid) (p : Place) :
    p.behind x.blankedText = p.behind x.text := by
  cases h with
  | @stray c _ _ notBlank =>
    have hline : c ≠ '\n' := by rintro rfl; simp at notBlank
    have hsize : ∀ n, Text.byteSize (List.replicate n ' ') = n := by
      intro n
      induction n with
      | zero => rfl
      | succ n ih => rw [List.replicate_succ, Text.byteSize_cons, ih, Nat.add_comm]; rfl
    rw [blankedText_stray]
    simp [Place.behind, text, hsize, List.count_replicate, hline]
  | numeral _ | mark _ | blank _ => rw [blankedText_of_ne_stray fun c => Lexeme.noConfusion]

private theorem behind_flatMap_blankedText {lexemes : List Lexeme} (h : ∀ x ∈ lexemes, x.Valid) (p : Place) :
    p.behind (lexemes.flatMap blankedText) = p.behind (lexemes.flatMap Lexeme.text) := by
  induction lexemes generalizing p with
  | nil => rfl
  | cons x lexemes ih =>
    rw [List.forall_mem_cons] at h
    rw [List.flatMap_cons, List.flatMap_cons, Place.behind_append, Place.behind_append, behind_blankedText h.1,
      ih h.2]

private theorem made_token?_blanks {lexemes : List Lexeme} (h : ∀ x ∈ lexemes, x.Valid) (p : Place) :
    made token? (lexemes.flatMap blanks) p = made token? lexemes p := by
  induction lexemes generalizing p with
  | nil => rfl
  | cons x lexemes ih =>
    rw [List.forall_mem_cons] at h
    have hx : made token? x.blanks p = (x.token? p).toList := by
      cases x with
      | stray c => exact made_map_blank (fun _ _ => rfl) _ p
      | numeral _ | mark _ _ | blank _ => rw [blanks, made_cons, made_nil, List.append_nil]
    rw [List.flatMap_cons, made_append, made_cons, hx, ← ih h.2]
    exact congrArg (_ ++ made token? _ ·) (behind_blankedText h.1 p)

private theorem made_warning?_blanks (lexemes : List Lexeme) (p : Place) :
    made warning? (lexemes.flatMap blanks) p = [] := by
  induction lexemes generalizing p with
  | nil => exact made_nil p
  | cons x lexemes ih =>
    have hx : made warning? x.blanks p = [] := by
      cases x with
      | stray c => exact made_map_blank (fun _ _ => rfl) _ p
      | numeral _ | mark _ _ | blank _ => rw [blanks, made_cons, made_nil]; rfl
    rw [List.flatMap_cons, made_append, hx, ih, List.append_nil]

/-! ### Warnings and lexemes -/

/-- A character is warned about exactly if it is a lexeme that is skipped. -/
private theorem Stands.mem_warnings_iff {text a b u v : List Char} {x : Lexeme} {c : Char} (h : Stands text a x b)
    (hx : x.text = u ++ c :: v) :
    ⟨⟨Text.byteSize (a ++ u), Text.byteSize (a ++ u) + c.utf8Size⟩, [c]⟩ ∈
      (Scan.ofText text).warnings.map Piece.ofWarning ↔ x = stray c := by
  rw [List.mem_map]
  constructor
  · rintro ⟨w, hw, hpiece⟩
    have hspan : w.span = ⟨Text.byteSize (a ++ u), Text.byteSize (a ++ u) + c.utf8Size⟩ := congrArg Piece.span hpiece
    have hcovers : w.span.Covers (Text.byteSize (a ++ u)) := by
      have := c.utf8Size_pos
      rw [hspan]
      exact ⟨Nat.le_refl _, by simp only; omega⟩
    have hhere : w ∈ (Scan.ofText text).warningsAt (Text.byteSize (a ++ u)) :=
      List.mem_filter.2 ⟨hw, decide_eq_true hcovers⟩
    rw [Scan.warningsAt_of_stands h hx, Option.mem_toList] at hhere
    cases x with
    | stray d =>
      rcases List.singleton_eq_append_iff.1 hx with ⟨-, hcons⟩ | ⟨-, hcons⟩
      · rw [(List.cons.inj hcons).1]
      · cases hcons
    | numeral _ | mark _ _ | blank _ => cases hhere
  · rintro rfl
    obtain rfl : u = [] := by
      rcases List.singleton_eq_append_iff.1 hx with ⟨hu, -⟩ | ⟨-, hcons⟩
      · exact hu
      · cases hcons
    refine ⟨_, Scan.mem_warnings_ofText.2 ⟨a, stray c, b, h, rfl⟩, ?_⟩
    simp [Piece.ofWarning, Lexeme.span, Lexeme.text, Place.first_behind]

/-- Blanking a lexeme character by character leaves it as it is, or is to blank the one character of it. -/
private theorem flatMap_blankedPiece {text a b : List Char} {x : Lexeme} (h : Stands text a x b) :
    (Piece.characters (Text.byteSize a) x.text).flatMap (Scan.ofText text).blankedPiece = x.blankedText := by
  by_cases hstray : ∃ c, x = stray c
  · obtain ⟨c, rfl⟩ := hstray
    have hmem := (h.mem_warnings_iff (List.nil_append [c]).symm).2 rfl
    rw [List.append_nil] at hmem
    rw [blankedText_stray, Lexeme.text, Piece.characters, Piece.characters, List.flatMap_singleton, Scan.blankedPiece,
      if_pos hmem, Text.byteSize_cons, Text.byteSize_nil, Nat.add_zero]
  · have hne : ∀ c, x ≠ stray c := fun c hc => hstray ⟨c, hc⟩
    rw [blankedText_of_ne_stray hne]
    refine Piece.flatMap_characters fun p hp => if_neg fun hmem => ?_
    obtain ⟨u, c, v, hx, rfl⟩ := Piece.mem_characters hp
    rw [← Text.byteSize_append] at hmem
    exact hne c ((h.mem_warnings_iff hx).1 hmem)

/-- What comes before is a parameter, since the scan is that of the whole text. -/
private theorem flatMap_blankedPiece_append {text : List Char} {before lexemes : List Lexeme}
    (h : ofText text = before ++ lexemes) :
    (Piece.characters (Text.byteSize (before.flatMap Lexeme.text)) (lexemes.flatMap Lexeme.text)).flatMap
      (Scan.ofText text).blankedPiece = lexemes.flatMap blankedText := by
  induction lexemes generalizing before with
  | nil => rfl
  | cons x lexemes ih =>
    obtain ⟨b, -, hstands⟩ := exists_stands_of_mem h
    have happend : ofText text = (before ++ [x]) ++ lexemes := by rw [h]; simp
    have hnext := ih happend
    rw [List.flatMap_append, Text.byteSize_append, List.flatMap_singleton] at hnext
    rw [List.flatMap_cons, Piece.characters_append, List.flatMap_append, List.flatMap_cons, hnext,
      flatMap_blankedPiece hstands]

/-- Blanking a text is blanking its lexemes. -/
private theorem blanked_eq_flatMap (text : List Char) : Text.blanked text = (ofText text).flatMap blankedText := by
  have h := flatMap_blankedPiece_append (List.nil_append (ofText text)).symm
  rwa [flatMap_text_ofText] at h

end Lexeme

/-! ### Scans and runs -/

namespace Scan

/-- A blanked text has the tokens of the text, and nothing in it is warned about. -/
private theorem ofText_blanked_eq (text : List Char) : ofText (Text.blanked text) = ⟨(ofText text).tokens, []⟩ := by
  have hcut := Lexeme.cut_ofText text
  have hlexemes : Lexeme.ofText (Text.blanked text) = (Lexeme.ofText text).flatMap Lexeme.blanks := by
    have hblanks := hcut.blanks
    rwa [Lexeme.Cut, List.append_nil, Lexeme.ofText_nil, List.append_nil, Lexeme.flatMap_text_blanks,
      ← Lexeme.blanked_eq_flatMap] at hblanks
  have hend : Place.first.behind (Text.blanked text) = Place.first.behind text := by
    rw [Lexeme.blanked_eq_flatMap, Lexeme.behind_flatMap_blankedText hcut.valid, Lexeme.flatMap_text_ofText]
  have htokens : (ofText (Text.blanked text)).tokens = (ofText text).tokens := by
    rw [tokens_ofText, tokens_ofText, hlexemes, hend, Lexeme.made_token?_blanks hcut.valid]
  have hwarnings : (ofText (Text.blanked text)).warnings = [] := by
    rw [warnings_ofText, hlexemes, Lexeme.made_warning?_blanks]
  rw [← htokens, ← hwarnings]

end Scan

namespace Text

/-- What is not warned about is not blanked. -/
private theorem blanked_of_warnings_eq_nil {text : List Char} (h : (Scan.ofText text).warnings = []) :
    blanked text = text := by
  refine Piece.flatMap_characters fun p _ => if_neg fun hmem => ?_
  rw [h] at hmem
  cases hmem

/-- A blanked text has no warnings, the tokens of the text with their lexemes, literals, lines and spans, and in each
mode the result that the text has in a run that is not strict, but for the warnings. Blanking it again changes
nothing. -/
theorem ofText_blanked (text : List Char) :
    (Scan.ofText (blanked text)).warnings = [] ∧
    (Scan.ofText (blanked text)).tokens = (Scan.ofText text).tokens ∧
    (∀ prompt strict, (Report.ofText ⟨prompt, strict⟩ (blanked text)).result =
      (Report.ofText ⟨prompt, false⟩ text).result.map fun answer => ⟨answer.value, []⟩) ∧
    blanked (blanked text) = blanked text := by
  have hscan := Scan.ofText_blanked_eq text
  refine ⟨by rw [hscan], by rw [hscan], fun prompt strict => ?_, blanked_of_warnings_eq_nil (by rw [hscan])⟩
  rw [Report.result_ofText, Report.result_ofText, hscan, Scan.outcome_of_lenient fun _ => rfl,
    Scan.outcome_of_lenient fun h => Bool.noConfusion h]
  exact Scan.map_lenientOutcome_of_tokens rfl

end Text

end Calculator
