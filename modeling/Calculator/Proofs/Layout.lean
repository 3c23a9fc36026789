import Calculator.Proofs.Contents
import Calculator.Proofs.Lexing

/-!
# Laying out lexemes

Marks and numerals, no two numerals side by side, are written one after the other with gaps before, between and behind
them. Whatever the gaps are, the lexemes of that text have the same contents, and what they warn about comes from the
gaps (`Layout.contents_ofText`). Points are the danger: one right behind a numeral lies in a gap,
so no digit follows it.
-/

namespace Calculator

/-- Text without digits, operator signs and parentheses. -/
def IsGap (text : List Char) : Prop :=
  ∀ c ∈ text, c.isDigit = false ∧ c ∉ ['+', '-', '*', '/', '(', ')']

instance (text : List Char) : Decidable (IsGap text) :=
  List.decidableBAll _ text

/-- Marks and numerals that stay apart in whatever way they are laid out: no numeral follows a numeral. -/
inductive Separate : List Lexeme → Prop
  | nil : Separate []
  | mark {c : Char} {kind : Kind} {lexemes : List Lexeme} (isMark : Kind.ofChar? c = some kind)
      (rest : Separate lexemes) : Separate (.mark c kind :: lexemes)
  | numeral {text : List Char} {lexemes : List Lexeme} (isNumeral : Numeral text)
      (apart : ∀ text', lexemes.head? ≠ some (.numeral text')) (rest : Separate lexemes) :
      Separate (.numeral text :: lexemes)

/-- `Layout lexemes text inserted`: the text is the lexemes in order, with gaps before, between and behind them, and the
gaps one after the other are `inserted`. -/
inductive Layout : List Lexeme → List Char → List Char → Prop
  | last {gap : List Char} (isGap : IsGap gap) : Layout [] gap gap
  | next {gap text inserted : List Char} {lexeme : Lexeme} {lexemes : List Lexeme} (isGap : IsGap gap)
      (rest : Layout lexemes text inserted) :
      Layout (lexeme :: lexemes) (gap ++ (lexeme.text ++ text)) (gap ++ inserted)

theorem Kind.ofChar?_eq_none_iff {c : Char} : Kind.ofChar? c = none ↔ c ∉ ['+', '-', '*', '/', '(', ')'] := by
  unfold Kind.ofChar?
  split <;> simp_all

namespace Lexeme

theorem isBlank_eq (c : Char) : isBlank c = decide (c ∈ [' ', '\t', '\r', '\n']) := by
  simp [isBlank, Bool.or_assoc]

/-! ### Marks -/

theorem ofChar_of_mark {c : Char} {kind : Kind} (h : Kind.ofChar? c = some kind) : ofChar c = mark c kind := by
  rw [ofChar, h]

theorem not_digit_nor_point {c : Char} {kind : Kind} (h : Kind.ofChar? c = some kind) :
    c.isDigit = false ∧ c ≠ '.' := by
  unfold Kind.ofChar? at h
  split at h <;> first | decide | cases h

/-! ### Gaps -/

private theorem content?_ofChar {c : Char} (h : Kind.ofChar? c = none) : (ofChar c).content? = none := by
  rw [ofChar, h]
  by_cases hc : isBlank c <;> simp [hc, content?]

private theorem stray?_ofChar {c : Char} (h : Kind.ofChar? c = none) :
    (ofChar c).stray? = if isBlank c then none else some c := by
  rw [ofChar, h]
  by_cases hc : isBlank c <;> simp [hc, stray?]

theorem content_gap {gap : List Char} (h : IsGap gap) : (gap.map ofChar).filterMap content? = [] := by
  rw [List.filterMap_map, List.filterMap_eq_nil_iff]
  intro c hc
  exact content?_ofChar (Kind.ofChar?_eq_none_iff.2 (h c hc).2)

private theorem stray_gap {gap : List Char} (h : IsGap gap) :
    (gap.map ofChar).filterMap stray? = gap.filter (· ∉ [' ', '\t', '\r', '\n']) := by
  induction gap with
  | nil => rfl
  | cons c gap ih =>
    have hc : Kind.ofChar? c = none := Kind.ofChar?_eq_none_iff.2 (h c (by simp)).2
    have hgap : IsGap gap := fun d hd => h d (List.mem_cons_of_mem c hd)
    rw [List.map_cons, List.filterMap_cons, stray?_ofChar hc, ih hgap, List.filter_cons, isBlank_eq]
    by_cases hb : c ∈ [' ', '\t', '\r', '\n'] <;> simp [hb]

theorem ofText_gap_append {gap : List Char} (h : IsGap gap) (rest : List Char) :
    ofText (gap ++ rest) = gap.map ofChar ++ ofText rest :=
  ofText_append_of_not_isDigit (fun c hc => (h c hc).1) rest

end Lexeme

/-! ### Texts behind a numeral -/

private theorem noDigit_gap {gap rest : List Char} (h : IsGap gap) (hrest : Lexeme.NoDigit rest) :
    Lexeme.NoDigit (gap ++ rest) := by
  cases gap with
  | nil => exact hrest
  | cons c gap =>
    intro d hd
    rw [← Option.some.inj hd]
    exact (h c (by simp)).1

/-- A gap may start with a point, but no digit comes behind that, not even where the gap ends there. -/
private theorem noPlaces_gap {gap rest : List Char} (h : IsGap gap) (hd : Lexeme.NoDigit rest)
    (hp : Lexeme.NoPlaces rest) : Lexeme.NoPlaces (gap ++ rest) := by
  cases gap with
  | nil => exact hp
  | cons c gap =>
    intro d more hmore
    have hgap : Lexeme.NoDigit (gap ++ rest) := noDigit_gap (fun x hx => h x (List.mem_cons_of_mem c hx)) hd
    rw [List.cons_append, List.cons.injEq] at hmore
    exact hgap d (by rw [hmore.2]; rfl)

namespace Layout

variable {lexemes : List Lexeme} {text inserted : List Char}

/-- A numeral cannot go on with a text that has no numeral first. -/
private theorem ends_numeral (h : Layout lexemes text inserted) (hs : Separate lexemes)
    (apart : ∀ text', lexemes.head? ≠ some (.numeral text')) : Lexeme.NoDigit text ∧ Lexeme.NoPlaces text := by
  cases h with
  | last isGap =>
    have hd : Lexeme.NoDigit [] := by intro c hc; cases hc
    have hp : Lexeme.NoPlaces [] := by intro d more hmore; cases hmore
    rw [← List.append_nil text]
    exact ⟨noDigit_gap isGap hd, noPlaces_gap isGap hd hp⟩
  | @next gap rest inserted lexeme lexemes isGap _ =>
    cases hs with
    | @mark c kind _ isMark _ =>
      obtain ⟨hdigit, hpoint⟩ := Lexeme.not_digit_nor_point isMark
      have hd : Lexeme.NoDigit (c :: rest) := by
        intro d hd
        rw [← Option.some.inj hd]
        exact hdigit
      have hp : Lexeme.NoPlaces (c :: rest) := by
        intro d more hmore
        exact absurd (List.cons.inj hmore).1 hpoint
      exact ⟨noDigit_gap isGap hd, noPlaces_gap isGap hd hp⟩
    | @numeral text _ _ _ _ => exact absurd rfl (apart text)

/-- The first lexeme is cut off from what is laid out behind it. -/
private theorem ofText_text_append {lexeme : Lexeme} (h : Layout lexemes text inserted)
    (hs : Separate (lexeme :: lexemes)) :
    Separate lexemes ∧ Lexeme.ofText (lexeme.text ++ text) = lexeme :: Lexeme.ofText text := by
  cases hs with
  | @mark c kind _ isMark rest =>
    refine ⟨rest, ?_⟩
    rw [Lexeme.text, List.singleton_append,
      Lexeme.ofText_cons_of_not_isDigit (Lexeme.not_digit_nor_point isMark).1, Lexeme.ofChar_of_mark isMark]
  | numeral isNumeral apart rest =>
    obtain ⟨hd, hp⟩ := h.ends_numeral rest apart
    exact ⟨rest, Lexeme.ofText_numeral_append isNumeral hd hp⟩

/-- However lexemes are laid out, the text has their contents, and the gaps alone are warned about. -/
theorem contents_ofText (h : Layout lexemes text inserted) (hs : Separate lexemes) :
    (Lexeme.ofText text).filterMap Lexeme.content? = lexemes.filterMap Lexeme.content? ∧
      (Lexeme.ofText text).filterMap Lexeme.stray? = inserted.filter (· ∉ [' ', '\t', '\r', '\n']) := by
  induction h with
  | @last gap isGap =>
    have hcut := Lexeme.ofText_gap_append isGap []
    rw [List.append_nil, Lexeme.ofText_nil, List.append_nil] at hcut
    rw [hcut]
    exact ⟨Lexeme.content_gap isGap, Lexeme.stray_gap isGap⟩
  | @next gap text inserted lexeme lexemes isGap rest ih =>
    obtain ⟨hlexemes, hcut⟩ := rest.ofText_text_append hs
    obtain ⟨hcontent, hstray⟩ := ih hlexemes
    -- marks and numerals warn about nothing
    have hnone : lexeme.stray? = none := by cases hs <;> rfl
    rw [Lexeme.ofText_gap_append isGap, hcut, List.filterMap_append, List.filterMap_append, List.filter_append,
      Lexeme.content_gap isGap, Lexeme.stray_gap isGap, List.filterMap_cons_none hnone, hstray]
    refine ⟨?_, rfl⟩
    rw [List.nil_append, List.filterMap_cons, List.filterMap_cons, hcontent]

end Layout

end Calculator
