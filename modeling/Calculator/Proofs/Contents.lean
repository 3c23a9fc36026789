import Calculator.Scan

/-!
# Scans without places

A token is a content at a place. The contents of a scan's tokens, and the characters of its warnings, come from its
lexemes one by one (`Scan.map_content_ofLexemes`, `Scan.map_char_ofLexemes`); the places do not matter for them.
-/

namespace Calculator

/-- What a token says about an expression: its kind, and the double that a numeral stands for. -/
def Token.content (t : Token) : Kind × Option Float :=
  (t.kind, t.literal)

namespace Lexeme

/-- The content of the token that a lexeme makes. -/
def content? : Lexeme → Option (Kind × Option Float)
  | numeral text => some (.number, Double.read? text)
  | mark _ kind => some (kind, none)
  | blank _ => none
  | stray _ => none

/-- The character that a lexeme warns about. -/
def stray? : Lexeme → Option Char
  | stray c => some c
  | numeral _ => none
  | mark _ _ => none
  | blank _ => none

private theorem map_content_token? (lexeme : Lexeme) (p : Place) :
    (lexeme.token? p).map Token.content = lexeme.content? := by
  cases lexeme <;> rfl

private theorem map_char_warning? (lexeme : Lexeme) (p : Place) :
    (lexeme.warning? p).map Warning.char = lexeme.stray? := by
  cases lexeme <;> rfl

private theorem map_fst_placed (lexemes : List Lexeme) (start : Place) :
    (placed lexemes start).map Prod.fst = lexemes := by
  induction lexemes generalizing start with
  | nil => simp
  | cons lexeme lexemes ih => simp [ih]

end Lexeme

/-! ### Tokens with given contents -/

/-- Tokens have the contents of the tokens that lexemes make. -/
def Spells (tokens : List Token) (lexemes : List Lexeme) : Prop :=
  tokens.map Token.content = lexemes.filterMap Lexeme.content?

namespace Spells

variable {tokens : List Token} {lexemes lexemes' : List Lexeme}

theorem eq_nil (h : Spells tokens []) : tokens = [] :=
  List.map_eq_nil_iff.1 h

theorem exists_append (h : Spells tokens (lexemes ++ lexemes')) :
    ∃ s s', tokens = s ++ s' ∧ Spells s lexemes ∧ Spells s' lexemes' := by
  rw [Spells, List.filterMap_append, List.map_eq_append_iff] at h
  exact h

theorem exists_mark {c : Char} {kind : Kind} (h : Spells tokens (.mark c kind :: lexemes)) :
    ∃ t s, tokens = t :: s ∧ t.kind = kind ∧ Spells s lexemes := by
  obtain ⟨t, s, rfl, ht, hs⟩ := List.map_eq_cons_iff.1 h
  exact ⟨t, s, rfl, congrArg Prod.fst ht, hs⟩

theorem exists_numeral {text : List Char} (h : Spells tokens (.numeral text :: lexemes)) :
    ∃ t s, tokens = t :: s ∧ t.kind = .number ∧ t.literal = Double.read? text ∧ Spells s lexemes := by
  obtain ⟨t, s, rfl, ht, hs⟩ := List.map_eq_cons_iff.1 h
  exact ⟨t, s, rfl, congrArg Prod.fst ht, congrArg Prod.snd ht, hs⟩

end Spells

/-! ### Scans -/

namespace Scan

/-- The last token aside, tokens have the contents of the lexemes. -/
theorem map_content_ofLexemes (lexemes : List Lexeme) (start : Place) :
    (ofLexemes lexemes start).tokens.map Token.content = lexemes.filterMap Lexeme.content? ++ [(.eof, none)] := by
  have h := List.filterMap_map (l := Lexeme.placed lexemes start) (f := Prod.fst) (g := Lexeme.content?)
  rw [Lexeme.map_fst_placed] at h
  rw [ofLexemes, List.map_append, List.map_filterMap, h]
  simp only [Lexeme.map_content_token?]
  rfl

/-- The end of the input stands behind the tokens of the lexemes. -/
theorem exists_spells_ofLexemes (lexemes : List Lexeme) (start : Place) :
    ∃ s t, (ofLexemes lexemes start).tokens = s ++ [t] ∧ Spells s lexemes ∧ t.kind = .eof := by
  obtain ⟨s, rest, htokens, hs, hrest⟩ := List.map_eq_append_iff.1 (map_content_ofLexemes lexemes start)
  obtain ⟨t, rfl, ht⟩ := List.map_eq_singleton_iff.1 hrest
  exact ⟨s, t, htokens, hs, congrArg Prod.fst ht⟩

theorem map_char_ofLexemes (lexemes : List Lexeme) (start : Place) :
    (ofLexemes lexemes start).warnings.map Warning.char = lexemes.filterMap Lexeme.stray? := by
  have h := List.filterMap_map (l := Lexeme.placed lexemes start) (f := Prod.fst) (g := Lexeme.stray?)
  rw [Lexeme.map_fst_placed] at h
  rw [ofLexemes, List.map_filterMap, h]
  simp only [Lexeme.map_char_warning?]
  rfl

end Scan

end Calculator
