import Calculator.Proofs.Scanner

/-!
# Scans lose nothing

The tokens and warnings of a scan are pieces of the text, each with its span. The main statement, `lossless_ofText`,
says that they do not overlap, that white space alone lies outside of them, and that together with the white space they
are the text. `perm_pieces` is the reason: every lexeme makes one token, one warning, or one piece of white space.
-/

namespace Calculator

/-- Two spans have no byte in common. -/
def Span.Disjoint (s t : Span) : Prop :=
  s.stop ≤ t.start ∨ t.stop ≤ s.start

/-- A part of a text, and where it stands. -/
structure Piece where
  span : Span
  text : List Char
deriving DecidableEq, Repr

namespace Piece

def ofToken (t : Token) : Piece :=
  ⟨t.span, t.lexeme⟩

def ofWarning (w : Warning) : Piece :=
  ⟨w.span, [w.char]⟩

/-- The characters of a text that starts at an offset, one by one. -/
def characters (offset : Nat) : List Char → List Piece
  | [] => []
  | c :: text => ⟨⟨offset, offset + c.utf8Size⟩, [c]⟩ :: characters (offset + c.utf8Size) text

/-- Spaces, tabs, carriage returns and line feeds. -/
def isWhiteSpace (p : Piece) : Bool :=
  p.text.all (· ∈ [' ', '\t', '\r', '\n'])

/-- The characters of a text that are white space. -/
def whiteSpace (text : List Char) : List Piece :=
  (characters 0 text).filter isWhiteSpace

/-- The text of pieces, in the order in which they start. -/
def merge (pieces : List Piece) : List Char :=
  (pieces.mergeSort fun p q => p.span.start ≤ q.span.start).flatMap Piece.text

end Piece

namespace Scan

/-- The tokens of a scan, without the end of the input, and then its warnings, as pieces of the text. -/
def pieces (scan : Scan) : List Piece :=
  (scan.tokens.filter (·.kind ≠ .eof)).map Piece.ofToken ++ scan.warnings.map Piece.ofWarning

/-- A scan has every byte of a text, once and in order. -/
structure Lossless (scan : Scan) (text : List Char) : Prop where
  /-- The last token, and no other one, is the end of the input, behind the last byte. -/
  eof : ∃ tokens line, scan.tokens = tokens ++ [⟨.eof, [], none, line, .empty (Text.byteSize text)⟩] ∧
    ∀ t ∈ tokens, t.kind ≠ .eof
  /-- The span of a token lies between boundaries of the text and covers the lexeme. -/
  lexeme : ∀ t ∈ scan.tokens, t.span.slice? text = some t.lexeme
  /-- Numbers alone have a literal. -/
  literal : ∀ t ∈ scan.tokens, t.literal.isSome → t.kind = .number
  /-- The span of a warning lies between boundaries of the text and covers the character. -/
  char : ∀ w ∈ scan.warnings, w.span.slice? text = some [w.char]
  nonempty : ∀ p ∈ scan.pieces, p.span.start < p.span.stop
  disjoint : scan.pieces.Pairwise fun p q => p.span.Disjoint q.span
  tokensInOrder : scan.tokens.Pairwise fun t u => t.span.Before u.span
  warningsInOrder : scan.warnings.Pairwise fun v w => v.span.Before w.span
  /-- A byte outside all pieces belongs to a space, a tab, a carriage return or a line feed. -/
  outside : ∀ a c b, text = a ++ c :: b → ∀ i, Text.byteSize a ≤ i → i < Text.byteSize (a ++ [c]) →
    (∀ p ∈ scan.pieces, ¬ p.span.Covers i) → c ∈ [' ', '\t', '\r', '\n']
  /-- The pieces and the white space make up the text. -/
  whole : Piece.merge (scan.pieces ++ Piece.whiteSpace text) = text

end Scan

/-! ### Characters -/

namespace Piece

theorem characters_append (a b : List Char) (offset : Nat) :
    characters offset (a ++ b) = characters offset a ++ characters (offset + Text.byteSize a) b := by
  induction a generalizing offset with
  | nil => rfl
  | cons c a ih =>
    rw [List.cons_append, characters, ih, characters, Text.byteSize_cons, Nat.add_assoc]
    rfl

theorem mem_characters {text : List Char} {offset : Nat} {q : Piece} (h : q ∈ characters offset text) :
    ∃ a c b, text = a ++ c :: b ∧
      q = ⟨⟨offset + Text.byteSize a, offset + Text.byteSize a + c.utf8Size⟩, [c]⟩ := by
  induction text generalizing offset with
  | nil => simp [characters] at h
  | cons c text ih =>
    rw [characters, List.mem_cons] at h
    rcases h with rfl | h
    · exact ⟨[], c, text, rfl, rfl⟩
    · obtain ⟨a, d, b, rfl, rfl⟩ := ih h
      exact ⟨c :: a, d, b, rfl, by simp [Nat.add_assoc]⟩

end Piece

/-! ### The pieces of lexemes -/

namespace Lexeme

/-- A lexeme that starts at a place, as a piece of the text. -/
def piece (x : Lexeme) (p : Place) : Piece :=
  ⟨x.span p, x.text⟩

/-- The piece of a lexeme that is white space. -/
def blank? (x : Lexeme) (p : Place) : Option Piece :=
  match x with
  | blank c => some (piece (blank c) p)
  | numeral _ => none
  | mark _ _ => none
  | stray _ => none

private theorem ofToken_of_token? {x : Lexeme} {p : Place} {t : Token} (h : x.token? p = some t) :
    Piece.ofToken t = x.piece p := by
  cases x <;> simp only [token?, Option.some.injEq, reduceCtorEq] at h <;> rw [← h] <;> rfl

private theorem ofWarning_of_warning? {x : Lexeme} {p : Place} {w : Warning} (h : x.warning? p = some w) :
    Piece.ofWarning w = x.piece p := by
  cases x <;> simp only [warning?, Option.some.injEq, reduceCtorEq] at h
  rw [← h]
  rfl

private theorem kind_ne_eof_of_token? {x : Lexeme} {p : Place} {t : Token} (hx : x.Valid) (h : x.token? p = some t) :
    t.kind ≠ .eof := by
  cases hx with
  | numeral _ => rw [← Option.some.inj h]; exact Kind.noConfusion
  | mark isMark =>
    rw [← Option.some.inj h]
    exact (not_number_nor_eof isMark).2
  | blank _ | stray _ _ _ => cases h

private theorem kind_eq_number_of_literal {x : Lexeme} {p : Place} {t : Token} (h : x.token? p = some t)
    (hliteral : t.literal.isSome) : t.kind = .number := by
  cases x with
  | numeral _ => rw [← Option.some.inj h]
  | mark _ _ => rw [← Option.some.inj h] at hliteral; cases hliteral
  | blank _ | stray _ => cases h

private theorem valid_of_mem_ofText {text : List Char} {x : Lexeme} (h : x ∈ ofText text) : x.Valid := by
  obtain ⟨before, after, hmem⟩ := List.append_of_mem h
  obtain ⟨b, -, hstands⟩ := exists_stands_of_mem hmem
  exact hstands.valid

/-- What the lexemes of a text make stands in order. -/
private theorem pairwise_made_ofText {β : Type} {item : Lexeme → Place → Option β} {span : β → Span}
    (hspan : ∀ x p t, item x p = some t → span t = x.span p) (text : List Char) (p : Place) :
    (made item (ofText text) p).Pairwise fun t u => (span t).Before (span u) := by
  have hne : ∀ x ∈ ofText text, x.text ≠ [] := fun x hx => (valid_of_mem_ofText hx).text_ne_nil
  exact pairwise_made hspan hne p

/-- All pieces of lexemes that start at a place. -/
def pieces (lexemes : List Lexeme) (p : Place) : List Piece :=
  made (fun x q => some (x.piece q)) lexemes p

private theorem flatMap_pieces (lexemes : List Lexeme) (p : Place) :
    (pieces lexemes p).flatMap Piece.text = lexemes.flatMap Lexeme.text := by
  induction lexemes generalizing p with
  | nil => rw [pieces, made_nil]; rfl
  | cons x lexemes ih =>
    have h := ih (p.behind x.text)
    rw [pieces] at h ⊢
    rw [made_cons, List.flatMap_append, h, List.flatMap_cons]
    simp [piece]

/-- Every lexeme makes a token, a warning, or a piece of white space. -/
theorem perm_pieces (lexemes : List Lexeme) (p : Place) :
    ((made token? lexemes p).map Piece.ofToken ++ (made warning? lexemes p).map Piece.ofWarning ++
      made blank? lexemes p).Perm (pieces lexemes p) := by
  induction lexemes generalizing p with
  | nil => simp [pieces, made_nil]
  | cons x lexemes ih =>
    have h := ih (p.behind x.text)
    rw [pieces] at h ⊢
    simp only [made_cons]
    cases x with
    | numeral text => exact h.cons _
    | mark c kind => exact h.cons _
    | blank c => exact List.perm_middle.trans (h.cons _)
    | stray c => exact (List.perm_middle.append_right _).trans (h.cons _)

private theorem pairwise_pieces (text : List Char) (p : Place) :
    (pieces (ofText text) p).Pairwise fun q r => q.span.Before r.span := by
  refine pairwise_made_ofText (fun x p q h => ?_) text p
  rw [← Option.some.inj h]
  rfl

/-! ### White space -/

private theorem isWhiteSpace_eq {p : Piece} {c : Char} (h : p.text = [c]) :
    p.isWhiteSpace = decide (c ∈ [' ', '\t', '\r', '\n']) := by
  rw [Piece.isWhiteSpace, h, List.all_cons, List.all_nil, Bool.and_true]

private theorem not_mem_white {x : Lexeme} (hx : x.Valid) {p : Place} (h : x.blank? p = none) {c : Char}
    (hc : c ∈ x.text) : c ∉ [' ', '\t', '\r', '\n'] := by
  intro hwhite
  cases hx with
  | numeral isNumeral =>
    have hd := isDigit_or_eq_point_of_mem isNumeral hc
    simp only [List.mem_cons, List.not_mem_nil, or_false] at hwhite
    rcases hwhite with rfl | rfl | rfl | rfl <;> revert hd <;> decide
  | mark isMark =>
    rw [List.mem_singleton.1 hc] at hwhite
    simp only [List.mem_cons, List.not_mem_nil, or_false] at hwhite
    rcases hwhite with rfl | rfl | rfl | rfl <;> cases isMark
  | blank _ => cases h
  | stray _ _ notBlank => exact notBlank (List.mem_singleton.1 hc ▸ hwhite)

/-- The white space of a lexeme is all of it or nothing. -/
private theorem whiteSpace_text {x : Lexeme} (hx : x.Valid) (p : Place) :
    (Piece.characters p.offset x.text).filter Piece.isWhiteSpace = (x.blank? p).toList := by
  cases h : x.blank? p with
  | none =>
    rw [Option.toList_none, List.filter_eq_nil_iff]
    intro q hq
    obtain ⟨a, c, b, htext, rfl⟩ := Piece.mem_characters hq
    rw [isWhiteSpace_eq rfl, decide_eq_true_eq]
    exact not_mem_white hx h (by rw [htext]; simp)
  | some q =>
    cases hx with
    | @blank c isBlank =>
      have hwhite : Piece.isWhiteSpace ⟨⟨p.offset, p.offset + c.utf8Size⟩, [c]⟩ = true := by
        rw [isWhiteSpace_eq rfl, decide_eq_true_eq]
        exact isBlank
      rw [← Option.some.inj h, Lexeme.text, Piece.characters, Piece.characters, List.filter_cons_of_pos hwhite]
      simp [piece, Lexeme.span, Lexeme.text]
    | numeral _ | mark _ | stray _ _ _ => cases h

private theorem whiteSpace_flatMap {lexemes : List Lexeme} (h : ∀ x ∈ lexemes, x.Valid) (p : Place) :
    (Piece.characters p.offset (lexemes.flatMap Lexeme.text)).filter Piece.isWhiteSpace =
      made blank? lexemes p := by
  induction lexemes generalizing p with
  | nil => rw [made_nil]; rfl
  | cons x lexemes ih =>
    rw [List.forall_mem_cons] at h
    rw [List.flatMap_cons, Piece.characters_append, List.filter_append, whiteSpace_text h.1, made_cons,
      ← ih h.2 (p.behind x.text)]
    rfl

private theorem whiteSpace_eq_made (text : List Char) :
    Piece.whiteSpace text = made blank? (ofText text) .first := by
  have hvalid : ∀ x ∈ ofText text, x.Valid := fun x hx => valid_of_mem_ofText hx
  have h := whiteSpace_flatMap hvalid .first
  rwa [flatMap_text_ofText] at h

end Lexeme

/-! ### Merging -/

namespace Piece

private theorem eq_of_start_eq {l : List Piece} (h : l.Pairwise fun p q => p.span.start < q.span.start) {p q : Piece}
    (hp : p ∈ l) (hq : q ∈ l) (heq : p.span.start = q.span.start) : p = q := by
  induction l with
  | nil => simp at hp
  | cons r l ih =>
    rw [List.pairwise_cons] at h
    rcases List.mem_cons.1 hp with hpr | hpl <;> rcases List.mem_cons.1 hq with hqr | hql
    · rw [hpr, hqr]
    · have := h.1 q hql; rw [← hpr] at this; omega
    · have := h.1 p hpl; rw [← hqr] at this; omega
    · exact ih h.2 hpl hql

/-- Pieces that are merged come in the one order in which their starts increase. -/
private theorem merge_of_perm {l l' : List Piece} (hl : l.Pairwise fun p q => p.span.start < q.span.start)
    (h : l'.Perm l) : merge l' = l.flatMap text := by
  let le (p q : Piece) : Bool := p.span.start ≤ q.span.start
  have hperm : (l'.mergeSort le).Perm l := (List.mergeSort_perm l' le).trans h
  have htrans : ∀ p q r, le p q = true → le q r = true → le p r = true := by
    intro p q r hpq hqr
    simp only [le, decide_eq_true_eq] at hpq hqr ⊢
    omega
  have htotal : ∀ p q, (le p q || le q p) = true := by
    intro p q
    simp only [le, Bool.or_eq_true, decide_eq_true_eq]
    omega
  have hstarts : l.Pairwise fun p q => le p q = true := hl.imp fun h => decide_eq_true (Nat.le_of_lt h)
  have hsorted : l'.mergeSort le = l := by
    refine List.Perm.eq_of_pairwise ?_ (List.pairwise_mergeSort htrans htotal l') hstarts hperm
    intro p q hp hq hle hge
    have heq := Nat.le_antisymm (of_decide_eq_true hle) (of_decide_eq_true hge)
    exact eq_of_start_eq hl (hperm.mem_iff.1 hp) hq heq
  rw [merge, hsorted]

end Piece

/-! ### The pieces of a scan -/

namespace Lexeme.Stands

variable {text a b : List Char} {x : Lexeme}

private theorem slice?_span (h : Stands text a x b) : (x.span (Place.first.behind a)).slice? text = some x.text :=
  Span.slice?_eq_some_iff.2 ⟨a, b, h.eq_append, by simp [Lexeme.span, Place.first],
    by simp [Lexeme.span, Place.first]⟩

private theorem start_lt_stop (h : Stands text a x b) (p : Place) : (x.span p).start < (x.span p).stop :=
  Nat.lt_add_of_pos_right (Text.byteSize_pos h.valid.text_ne_nil)

end Lexeme.Stands

namespace Scan

open Lexeme (made token? warning? Stands)

/-- The tokens of a scan without the end of the input are those that its lexemes make. -/
theorem filter_tokens_ofText (text : List Char) :
    (ofText text).tokens.filter (·.kind ≠ .eof) = made token? (Lexeme.ofText text) .first := by
  have hkinds : (made token? (Lexeme.ofText text) .first).filter (·.kind ≠ .eof) =
      made token? (Lexeme.ofText text) .first := by
    rw [List.filter_eq_self]
    intro t ht
    obtain ⟨a, x, b, hstands, hx⟩ := Lexeme.mem_made_ofText.1 ht
    exact decide_eq_true (Lexeme.kind_ne_eof_of_token? hstands.valid hx)
  rw [tokens_ofText, List.filter_append, hkinds]
  simp [eofToken]

private theorem pieces_ofText (text : List Char) :
    (ofText text).pieces = (made token? (Lexeme.ofText text) .first).map Piece.ofToken ++
      (made warning? (Lexeme.ofText text) .first).map Piece.ofWarning := by
  rw [pieces, filter_tokens_ofText, warnings_ofText]

private theorem perm_pieces_ofText (text : List Char) :
    ((ofText text).pieces ++ Piece.whiteSpace text).Perm (Lexeme.pieces (Lexeme.ofText text) .first) := by
  rw [pieces_ofText, Lexeme.whiteSpace_eq_made]
  exact Lexeme.perm_pieces _ _

private theorem mem_pieces_ofText {text : List Char} {p : Piece} (h : p ∈ (ofText text).pieces) :
    ∃ a x b, Stands text a x b ∧ p = x.piece (Place.first.behind a) := by
  have hmem := (perm_pieces_ofText text).mem_iff.1 (List.mem_append_left _ h)
  obtain ⟨a, x, b, hstands, hx⟩ := Lexeme.mem_made_ofText.1 hmem
  exact ⟨a, x, b, hstands, (Option.some.inj hx).symm⟩

/-- What is no piece of the scan is white space. -/
private theorem outside_ofText {text a b : List Char} {c : Char} (h : text = a ++ c :: b) {i : Nat}
    (hle : Text.byteSize a ≤ i) (hlt : i < Text.byteSize (a ++ [c]))
    (hi : ∀ p ∈ (ofText text).pieces, ¬ p.span.Covers i) : c ∈ [' ', '\t', '\r', '\n'] := by
  obtain ⟨a', x, b', u, v, hstands, hx, rfl, -⟩ := Lexeme.exists_stands h
  have hcovers : (x.piece (Place.first.behind a')).span.Covers i := by
    have hsize := congrArg Text.byteSize hx
    simp only [Text.byteSize_append, Text.byteSize_cons, Text.byteSize_nil, Nat.add_zero] at hsize hle hlt
    simp only [Lexeme.piece, Lexeme.span, Span.Covers, Place.first_behind]
    omega
  have hmem := (perm_pieces_ofText text).mem_iff.2 (Lexeme.mem_made_ofText.2 ⟨a', x, b', hstands, rfl⟩)
  rcases List.mem_append.1 hmem with hpiece | hwhite
  · exact absurd hcovers (hi _ hpiece)
  · have hall := (List.mem_filter.1 hwhite).2
    have hc : c ∈ (x.piece (Place.first.behind a')).text := by rw [Lexeme.piece, hx]; simp
    exact of_decide_eq_true (List.all_eq_true.1 hall c hc)

private theorem before_eofToken {text : List Char} {t : Token} (h : t ∈ made token? (Lexeme.ofText text) .first) :
    t.span.Before (eofToken (Place.first.behind text)).span := by
  obtain ⟨a, x, b, hstands, hx⟩ := Lexeme.mem_made_ofText.1 h
  have hspan := Lexeme.span_of_token? x _ t hx
  have hlt := hstands.start_lt_stop (Place.first.behind a)
  have hstop := (Lexeme.bounds_of_mem_made Lexeme.span_of_token? h).2
  rw [Lexeme.flatMap_text_ofText] at hstop
  rw [← hspan] at hlt
  exact ⟨Nat.lt_of_lt_of_le hlt hstop, hstop⟩

private theorem tokens_inOrder (text : List Char) :
    (ofText text).tokens.Pairwise fun t u => t.span.Before u.span := by
  have hmade := Lexeme.pairwise_made_ofText Lexeme.span_of_token? text .first
  rw [tokens_ofText, List.pairwise_append]
  refine ⟨hmade, List.pairwise_singleton _ _, fun t ht u hu => ?_⟩
  rw [List.mem_singleton.1 hu]
  exact before_eofToken ht

private theorem slice?_eofToken (text : List Char) :
    (eofToken (Place.first.behind text)).span.slice? text = some [] :=
  Span.slice?_eq_some_iff.2 ⟨text, [], by simp, by simp [eofToken, Span.empty, Place.first],
    by simp [eofToken, Span.empty, Place.first]⟩

theorem lossless_tokens_warnings (text : List Char) : (ofText text).Lossless text where
  eof := by
    refine ⟨made token? (Lexeme.ofText text) .first, 1 + text.count '\n', ?_, fun t ht => ?_⟩
    · rw [tokens_ofText, eofToken, Place.first_behind]
    · obtain ⟨a, x, b, hstands, hx⟩ := Lexeme.mem_made_ofText.1 ht
      exact Lexeme.kind_ne_eof_of_token? hstands.valid hx
  lexeme := by
    intro t ht
    rcases mem_tokens_ofText.1 ht with ⟨a, x, b, hstands, hx⟩ | rfl
    · have hspan := Lexeme.span_of_token? x _ t hx
      have htext : t.lexeme = x.text := congrArg Piece.text (Lexeme.ofToken_of_token? hx)
      rw [hspan, htext, hstands.slice?_span]
    · exact slice?_eofToken text
  literal := by
    intro t ht hliteral
    rcases mem_tokens_ofText.1 ht with ⟨a, x, b, -, hx⟩ | rfl
    · exact Lexeme.kind_eq_number_of_literal hx hliteral
    · cases hliteral
  char := by
    intro w hw
    obtain ⟨a, x, b, hstands, hx⟩ := mem_warnings_ofText.1 hw
    have hspan := Lexeme.span_of_warning? x _ w hx
    have htext : [w.char] = x.text := congrArg Piece.text (Lexeme.ofWarning_of_warning? hx)
    rw [hspan, htext, hstands.slice?_span]
  nonempty := by
    intro p hp
    obtain ⟨a, x, b, hstands, rfl⟩ := mem_pieces_ofText hp
    exact hstands.start_lt_stop _
  disjoint := by
    have hpairwise := (Lexeme.pairwise_pieces text .first).imp (S := fun p q => p.span.Disjoint q.span)
      fun h => .inl h.2
    have hperm := (perm_pieces_ofText text).symm.pairwise hpairwise (fun h => h.symm)
    exact (List.pairwise_append.1 hperm).1
  tokensInOrder := tokens_inOrder text
  warningsInOrder := Lexeme.pairwise_made_ofText Lexeme.span_of_warning? text .first
  outside := fun a c b h i hle hlt hi => outside_ofText h hle hlt hi
  whole := by
    have hpairwise := (Lexeme.pairwise_pieces text .first).imp (S := fun p q => p.span.start < q.span.start)
      fun h => h.1
    rw [Piece.merge_of_perm hpairwise (perm_pieces_ofText text), Lexeme.flatMap_pieces, Lexeme.flatMap_text_ofText]

/-- Scanning by offsets comes to an end, no slice fails, and the scan has every byte of the text. -/
theorem lossless_ofText (text : List Char) :
    Scanner.scan? text = some (ofText text) ∧ (ofText text).Lossless text :=
  ⟨Scanner.scan?_eq_ofText text, lossless_tokens_warnings text⟩

end Scan

end Calculator
