import Calculator.Proofs.Layout

/-!
# Where lexemes stand

`Stands text a x b` says that cutting a text into lexemes puts `x` between `a` and `b`. Each character belongs to one
such lexeme (`exists_stands`), and this lexeme decides alone what a scan has at the character's offset
(`Scan.tokensAt_of_stands`, `Scan.warningsAt_of_stands`). The tokens and warnings of a scan are what its lexemes make at
the places where they stand (`Scan.mem_tokens_ofText`, `Scan.mem_warnings_ofText`).
-/

namespace Calculator

/-! ### Spans and places -/

namespace Span

/-- A byte offset lies in a span. -/
def Covers (s : Span) (i : Nat) : Prop :=
  s.start ≤ i ∧ i < s.stop

instance (s : Span) (i : Nat) : Decidable (s.Covers i) :=
  inferInstanceAs (Decidable (_ ∧ _))

/-- A span starts, and has ended, before another one starts. -/
def Before (s t : Span) : Prop :=
  s.start < t.start ∧ s.stop ≤ t.start

end Span

namespace Place

/-- The place behind a text that starts at a place. -/
def behind (p : Place) (text : List Char) : Place :=
  ⟨p.offset + Text.byteSize text, p.line + text.count '\n'⟩

@[simp] theorem behind_nil (p : Place) : p.behind [] = p := rfl

theorem behind_append (p : Place) (a b : List Char) : p.behind (a ++ b) = (p.behind a).behind b := by
  simp [behind, Nat.add_assoc]

@[simp] theorem offset_behind (p : Place) (text : List Char) :
    (p.behind text).offset = p.offset + Text.byteSize text := rfl

theorem first_behind (text : List Char) : first.behind text = ⟨Text.byteSize text, 1 + text.count '\n'⟩ := by
  simp [behind, first]

private theorem after_eq_behind (p : Place) (x : Lexeme) : p.after x = p.behind x.text := rfl

private theorem foldl_after (lexemes : List Lexeme) (p : Place) :
    lexemes.foldl after p = p.behind (lexemes.flatMap Lexeme.text) := by
  induction lexemes generalizing p with
  | nil => rfl
  | cons x lexemes ih => rw [List.foldl_cons, ih, List.flatMap_cons, behind_append, after_eq_behind]

end Place

namespace Lexeme

/-! ### The lexemes that a text can have -/

/-- What the lexemes of a text are. -/
inductive Valid : Lexeme → Prop
  | numeral {text : List Char} (isNumeral : Numeral text) : Valid (.numeral text)
  | mark {c : Char} {kind : Kind} (isMark : Kind.ofChar? c = some kind) : Valid (.mark c kind)
  | blank {c : Char} (isBlank : c ∈ [' ', '\t', '\r', '\n']) : Valid (.blank c)
  | stray {c : Char} (notDigit : c.isDigit = false) (notMark : Kind.ofChar? c = none)
      (notBlank : c ∉ [' ', '\t', '\r', '\n']) : Valid (.stray c)

/-- A character makes no number and no end of the input. -/
theorem not_number_nor_eof {c : Char} {kind : Kind} (h : Kind.ofChar? c = some kind) :
    kind ≠ .number ∧ kind ≠ .eof := by
  unfold Kind.ofChar? at h
  split at h <;> cases h <;> decide

theorem ofChar_of_blank {c : Char} (h : c ∈ [' ', '\t', '\r', '\n']) : ofChar c = blank c := by
  simp only [List.mem_cons, List.not_mem_nil, or_false] at h
  rcases h with rfl | rfl | rfl | rfl <;> rfl

theorem not_digit_nor_point_of_blank {c : Char} (h : c ∈ [' ', '\t', '\r', '\n']) : c.isDigit = false ∧ c ≠ '.' := by
  simp only [List.mem_cons, List.not_mem_nil, or_false] at h
  rcases h with rfl | rfl | rfl | rfl <;> decide

theorem ofChar_of_stray {c : Char} (hm : Kind.ofChar? c = none) (hb : c ∉ [' ', '\t', '\r', '\n']) :
    ofChar c = stray c := by
  rw [ofChar, hm, isBlank_eq]
  simp [hb]

private theorem valid_ofChar {c : Char} (h : c.isDigit = false) : (ofChar c).Valid := by
  cases hm : Kind.ofChar? c with
  | some kind => rw [ofChar_of_mark hm]; exact .mark hm
  | none =>
    by_cases hb : c ∈ [' ', '\t', '\r', '\n']
    · rw [ofChar_of_blank hb]; exact .blank hb
    · rw [ofChar_of_stray hm hb]; exact .stray h hm hb

private theorem digitRun_takeWhile {c : Char} (h : c.isDigit = true) (rest : List Char) :
    DigitRun ((c :: rest).takeWhile Char.isDigit) :=
  ⟨by simp [h], List.all_eq_true.1 List.all_takeWhile⟩

/-- What starts with a digit starts with a numeral. -/
theorem numeral_splitNumeral {c : Char} (h : c.isDigit = true) (rest : List Char) :
    Numeral (splitNumeral (c :: rest)).1 := by
  have hdigits := digitRun_takeWhile h rest
  unfold splitNumeral
  split
  · next d more _ =>
    split
    · next hd => exact .point hdigits (digitRun_takeWhile hd more)
    · exact .whole hdigits
  · exact .whole hdigits

private theorem valid_first (c : Char) (rest : List Char) : (first c rest).1.Valid := by
  unfold first
  split
  · next hc => exact .numeral (numeral_splitNumeral hc rest)
  · next hc => exact valid_ofChar (by simpa using hc)

theorem isDigit_or_eq_point_of_mem {numeral : List Char} (h : Numeral numeral) {c : Char} (hc : c ∈ numeral) :
    c.isDigit = true ∨ c = '.' := by
  cases h with
  | whole hdigits => exact .inl (hdigits.2 c hc)
  | point hdigits hplaces =>
    rcases List.mem_append.1 hc with hc | hc
    · exact .inl (hdigits.2 c hc)
    · rcases List.mem_cons.1 hc with rfl | hc
      · exact .inr rfl
      · exact .inl (hplaces.2 c hc)

/-- A lexeme takes something of the text. -/
theorem Valid.text_ne_nil {x : Lexeme} (h : x.Valid) : x.text ≠ [] := by
  cases h with
  | numeral isNumeral =>
    obtain ⟨c, more, rfl, -⟩ := exists_cons_of_numeral isNumeral
    exact List.cons_ne_nil c more
  | mark _ | blank _ | stray _ _ _ => exact List.cons_ne_nil _ _

/-! ### Standing in a text -/

/-- Cutting a text into lexemes puts `x` between `a` and `b`. -/
def Stands (text a : List Char) (x : Lexeme) (b : List Char) : Prop :=
  ∃ before, before.flatMap Lexeme.text = a ∧ ofText text = before ++ x :: ofText b

/-- Behind some of the lexemes of a text are those of the rest of it. -/
private theorem exists_ofText_eq {text : List Char} {before after : List Lexeme} (h : ofText text = before ++ after) :
    ∃ b, text = before.flatMap Lexeme.text ++ b ∧ after = ofText b := by
  induction before generalizing text with
  | nil => exact ⟨text, rfl, h.symm⟩
  | cons x before ih =>
    cases text with
    | nil => simp at h
    | cons c rest =>
      rw [ofText_cons, List.cons_append, List.cons.injEq] at h
      obtain ⟨b, hrest, hafter⟩ := ih h.2
      refine ⟨b, ?_, hafter⟩
      rw [List.flatMap_cons, List.append_assoc, ← hrest, ← h.1, first_append]

theorem exists_stands_of_mem {text : List Char} {before after : List Lexeme} {x : Lexeme}
    (h : ofText text = before ++ x :: after) :
    ∃ b, after = ofText b ∧ Stands text (before.flatMap Lexeme.text) x b := by
  have h' : ofText text = (before ++ [x]) ++ after := by rw [h]; simp
  obtain ⟨b, -, rfl⟩ := exists_ofText_eq h'
  exact ⟨b, rfl, before, rfl, h⟩

namespace Stands

variable {text a b : List Char} {x : Lexeme}

theorem eq_append (h : Stands text a x b) : text = a ++ x.text ++ b := by
  obtain ⟨before, rfl, h⟩ := h
  rw [← flatMap_text_ofText text, h, List.flatMap_append, List.flatMap_cons, flatMap_text_ofText, List.append_assoc]

/-- A lexeme is the first one of what starts with it. -/
theorem ofText_eq (h : Stands text a x b) : ofText (x.text ++ b) = x :: ofText b := by
  have htext := h.eq_append
  obtain ⟨before, rfl, h⟩ := h
  obtain ⟨b', hb', hafter⟩ := exists_ofText_eq h
  rw [htext, List.append_assoc, List.append_cancel_left_eq] at hb'
  rw [hb', ← hafter]

theorem first_eq {c : Char} {more : List Char} (h : Stands text a x b) (hx : x.text = c :: more) :
    first c (more ++ b) = (x, b) := by
  have hfirst := h.ofText_eq
  rw [hx, List.cons_append, ofText_cons, List.cons.injEq] at hfirst
  have happend := first_append c (more ++ b)
  rw [hfirst.1, hx, List.cons_append, List.cons.injEq] at happend
  exact Prod.ext hfirst.1 (List.append_cancel_left happend.2)

/-- Behind a lexeme stands the first one of the rest. -/
theorem next {c : Char} {rest : List Char} (h : Stands text a x (c :: rest)) :
    Stands text (a ++ x.text) (first c rest).1 (first c rest).2 := by
  obtain ⟨before, rfl, h⟩ := h
  refine ⟨before ++ [x], by simp, ?_⟩
  rw [h, ofText_cons, List.append_assoc, List.singleton_append]

theorem valid (h : Stands text a x b) : x.Valid := by
  have hfirst := h.ofText_eq
  cases hx : x.text ++ b with
  | nil => rw [hx] at hfirst; simp at hfirst
  | cons c rest =>
    rw [hx, ofText_cons, List.cons.injEq] at hfirst
    rw [← hfirst.1]
    exact valid_first c rest

end Stands

private theorem exists_of_flatMap_eq {lexemes : List Lexeme} {a b : List Char} {c : Char}
    (h : lexemes.flatMap Lexeme.text = a ++ c :: b) :
    ∃ before x after u v, lexemes = before ++ x :: after ∧ x.text = u ++ c :: v ∧
      a = before.flatMap Lexeme.text ++ u ∧ b = v ++ after.flatMap Lexeme.text := by
  induction lexemes generalizing a with
  | nil => simp at h
  | cons x lexemes ih =>
    rw [List.flatMap_cons] at h
    rcases List.append_eq_append_iff.1 h with ⟨a', rfl, h'⟩ | ⟨w, hx, hw⟩
    · obtain ⟨before, y, after, u, v, rfl, hy, rfl, rfl⟩ := ih h'
      exact ⟨x :: before, y, after, u, v, rfl, hy, by simp, rfl⟩
    · cases w with
      | nil =>
        -- the character is the first one behind `x`
        obtain ⟨before, y, after, u, v, rfl, hy, hu, rfl⟩ := ih (a := []) hw.symm
        refine ⟨x :: before, y, after, u, v, rfl, hy, ?_, rfl⟩
        rw [List.flatMap_cons, List.append_assoc, ← hu, hx, List.append_nil, List.append_nil]
      | cons d v =>
        rw [List.cons_append, List.cons.injEq] at hw
        rw [← hw.1] at hx
        exact ⟨[], x, lexemes, a, v, rfl, hx, rfl, hw.2⟩

/-- Every character of a text lies in a lexeme. -/
theorem exists_stands {text a b : List Char} {c : Char} (h : text = a ++ c :: b) :
    ∃ a' x b' u v, Stands text a' x b' ∧ x.text = u ++ c :: v ∧ a = a' ++ u ∧ b = v ++ b' := by
  have hflat := (flatMap_text_ofText text).trans h
  obtain ⟨before, x, after, u, v, hlexemes, hx, ha, hb⟩ := exists_of_flatMap_eq hflat
  obtain ⟨b', rfl, hstands⟩ := exists_stands_of_mem hlexemes
  rw [flatMap_text_ofText] at hb
  exact ⟨_, x, b', u, v, hstands, hx, ha, hb⟩

/-! ### What lexemes make -/

section Made

variable {β : Type}

/-- What lexemes make that start at a place, one after the other. -/
def made (item : Lexeme → Place → Option β) (lexemes : List Lexeme) (p : Place) : List β :=
  (placed lexemes p).filterMap fun (x, q) => item x q

variable {item : Lexeme → Place → Option β}

theorem made_nil (p : Place) : made item [] p = [] := by
  simp [made]

theorem made_cons (x : Lexeme) (lexemes : List Lexeme) (p : Place) :
    made item (x :: lexemes) p = (item x p).toList ++ made item lexemes (p.behind x.text) := by
  rw [← p.after_eq_behind x]
  cases h : item x p <;> simp [made, h]

theorem made_append (a b : List Lexeme) (p : Place) :
    made item (a ++ b) p = made item a p ++ made item b (p.behind (a.flatMap Lexeme.text)) := by
  induction a generalizing p with
  | nil => simp [made_nil]
  | cons x a ih =>
    rw [List.cons_append, made_cons, made_cons, ih, List.flatMap_cons, p.behind_append, List.append_assoc]

theorem mem_made {lexemes : List Lexeme} {p : Place} {t : β} :
    t ∈ made item lexemes p ↔
      ∃ before x after, lexemes = before ++ x :: after ∧ item x (p.behind (before.flatMap Lexeme.text)) = some t := by
  induction lexemes generalizing p with
  | nil => simp [made_nil]
  | cons x lexemes ih =>
    rw [made_cons, List.mem_append, Option.mem_toList, ih]
    constructor
    · rintro (h | ⟨before, y, after, rfl, h⟩)
      · exact ⟨[], x, lexemes, rfl, h⟩
      · refine ⟨x :: before, y, after, rfl, ?_⟩
        rwa [List.flatMap_cons, p.behind_append]
    · rintro ⟨before, y, after, hlexemes, h⟩
      cases before with
      | nil =>
        rw [List.nil_append, List.cons.injEq] at hlexemes
        rw [← hlexemes.1] at h
        exact .inl h
      | cons z before =>
        rw [List.cons_append, List.cons.injEq] at hlexemes
        rw [← hlexemes.1, List.flatMap_cons, p.behind_append] at h
        exact .inr ⟨before, y, after, hlexemes.2, h⟩

/-- In the lexemes of a text each item comes from a lexeme that stands in it. -/
theorem mem_made_ofText {text : List Char} {p : Place} {t : β} :
    t ∈ made item (ofText text) p ↔ ∃ a x b, Stands text a x b ∧ item x (p.behind a) = some t := by
  rw [mem_made]
  constructor
  · rintro ⟨before, x, after, h, ht⟩
    obtain ⟨b, -, hstands⟩ := exists_stands_of_mem h
    exact ⟨_, x, b, hstands, ht⟩
  · rintro ⟨a, x, b, ⟨before, rfl, h⟩, ht⟩
    exact ⟨before, x, _, h, ht⟩

variable {span : β → Span} (hspan : ∀ x p t, item x p = some t → span t = x.span p)
include hspan

/-- What lexemes make lies between the ends of their text. -/
theorem bounds_of_mem_made {lexemes : List Lexeme} {p : Place} {t : β} (h : t ∈ made item lexemes p) :
    p.offset ≤ (span t).start ∧ (span t).stop ≤ p.offset + Text.byteSize (lexemes.flatMap Lexeme.text) := by
  obtain ⟨before, x, after, rfl, ht⟩ := mem_made.1 h
  rw [hspan _ _ _ ht]
  simp only [Lexeme.span, Place.offset_behind, List.flatMap_append, List.flatMap_cons, Text.byteSize_append]
  omega

/-- Lexemes that are not empty make things in the order of their spans, which do not overlap. -/
theorem pairwise_made {lexemes : List Lexeme} (hne : ∀ x ∈ lexemes, x.text ≠ []) (p : Place) :
    (made item lexemes p).Pairwise fun t u => (span t).Before (span u) := by
  induction lexemes generalizing p with
  | nil => rw [made_nil]; exact .nil
  | cons x lexemes ih =>
    rw [List.forall_mem_cons] at hne
    rw [made_cons, List.pairwise_append]
    refine ⟨?_, ih hne.2 _, fun t ht u hu => ?_⟩
    · cases item x p with
      | none => exact .nil
      | some t => exact List.pairwise_singleton _ t
    · have hbound := (bounds_of_mem_made hspan hu).1
      have hpos := Text.byteSize_pos hne.1
      rw [Option.mem_toList] at ht
      rw [Place.offset_behind] at hbound
      rw [hspan _ _ _ ht]
      exact ⟨by simp only [Lexeme.span]; omega, hbound⟩

/-- Lexemes make nothing at an offset outside of their text. -/
private theorem filter_covers_eq_nil {lexemes : List Lexeme} {p : Place} {i : Nat}
    (hi : i < p.offset ∨ p.offset + Text.byteSize (lexemes.flatMap Lexeme.text) ≤ i) :
    (made item lexemes p).filter (fun t => (span t).Covers i) = [] := by
  rw [List.filter_eq_nil_iff]
  intro t ht
  have := bounds_of_mem_made hspan ht
  rw [decide_eq_true_eq, Span.Covers]
  omega

/-- At an offset within a lexeme there is what this lexeme makes, and nothing else. -/
private theorem filter_covers_made {text a b : List Char} {x : Lexeme} (h : Stands text a x b) (p : Place)
    {u v : List Char} {c : Char} (hx : x.text = u ++ c :: v) :
    (made item (ofText text) p).filter (fun t => (span t).Covers (p.offset + Text.byteSize (a ++ u))) =
      (item x (p.behind a)).toList := by
  obtain ⟨before, rfl, h⟩ := h
  have hc := c.utf8Size_pos
  have hsize : Text.byteSize x.text = Text.byteSize u + (c.utf8Size + Text.byteSize v) := by rw [hx]; simp
  have hhere : (item x (p.behind (before.flatMap Lexeme.text))).toList.filter
      (fun t => (span t).Covers (p.offset + Text.byteSize (before.flatMap Lexeme.text ++ u))) =
        (item x (p.behind (before.flatMap Lexeme.text))).toList := by
    rw [List.filter_eq_self]
    intro t ht
    rw [Option.mem_toList] at ht
    rw [hspan _ _ _ ht]
    simp only [Span.Covers, Lexeme.span, Place.offset_behind, Text.byteSize_append, decide_eq_true_eq]
    omega
  rw [h, made_append, made_cons, List.filter_append, List.filter_append, hhere, filter_covers_eq_nil hspan,
    filter_covers_eq_nil hspan, List.nil_append, List.append_nil]
  · -- behind the lexeme
    simp only [Place.offset_behind, Text.byteSize_append]
    omega
  · -- in front of it
    simp only [Text.byteSize_append]
    omega

end Made

end Lexeme

/-! ### What scans make -/

namespace Scan

/-- The tokens of a scan that cover a byte offset. -/
def tokensAt (scan : Scan) (i : Nat) : List Token :=
  scan.tokens.filter (·.span.Covers i)

/-- The warnings of a scan that cover a byte offset. -/
def warningsAt (scan : Scan) (i : Nat) : List Warning :=
  scan.warnings.filter (·.span.Covers i)

end Scan

namespace Lexeme

theorem span_of_token? (x : Lexeme) (p : Place) (t : Token) (h : x.token? p = some t) : t.span = x.span p := by
  cases x <;> simp only [token?, Option.some.injEq, reduceCtorEq] at h <;> rw [← h]

theorem span_of_warning? (x : Lexeme) (p : Place) (w : Warning) (h : x.warning? p = some w) : w.span = x.span p := by
  cases x <;> simp only [warning?, Option.some.injEq, reduceCtorEq] at h
  rw [← h]

end Lexeme

namespace Scan

variable {text : List Char}

theorem tokens_ofText (text : List Char) :
    (ofText text).tokens =
      Lexeme.made Lexeme.token? (Lexeme.ofText text) .first ++ [eofToken (Place.first.behind text)] := by
  rw [ofText, ofLexemes, Place.foldl_after, Lexeme.flatMap_text_ofText]
  rfl

theorem warnings_ofText (text : List Char) :
    (ofText text).warnings = Lexeme.made Lexeme.warning? (Lexeme.ofText text) .first :=
  rfl

/-- A token is made by a lexeme that stands in the text, or is the end of the input. -/
theorem mem_tokens_ofText {t : Token} :
    t ∈ (ofText text).tokens ↔
      (∃ a x b, Lexeme.Stands text a x b ∧ x.token? (Place.first.behind a) = some t) ∨
        t = eofToken (Place.first.behind text) := by
  rw [tokens_ofText, List.mem_append, Lexeme.mem_made_ofText, List.mem_singleton]

theorem mem_warnings_ofText {w : Warning} :
    w ∈ (ofText text).warnings ↔
      ∃ a x b, Lexeme.Stands text a x b ∧ x.warning? (Place.first.behind a) = some w := by
  rw [warnings_ofText, Lexeme.mem_made_ofText]

variable {a b u v : List Char} {x : Lexeme} {c : Char}

theorem tokensAt_of_stands (h : Lexeme.Stands text a x b) (hx : x.text = u ++ c :: v) :
    (ofText text).tokensAt (Text.byteSize (a ++ u)) = (x.token? (Place.first.behind a)).toList := by
  have hmade := Lexeme.filter_covers_made Lexeme.span_of_token? h .first hx
  have heof : [eofToken (Place.first.behind text)].filter (·.span.Covers (Text.byteSize (a ++ u))) = [] := by
    rw [List.filter_eq_nil_iff]
    intro t ht
    rw [List.mem_singleton.1 ht]
    simp [eofToken, Span.empty, Span.Covers]
  rw [Place.first, Nat.zero_add] at hmade
  rw [tokensAt, tokens_ofText, List.filter_append, heof, List.append_nil]
  exact hmade

theorem warningsAt_of_stands (h : Lexeme.Stands text a x b) (hx : x.text = u ++ c :: v) :
    (ofText text).warningsAt (Text.byteSize (a ++ u)) = (x.warning? (Place.first.behind a)).toList := by
  have hmade := Lexeme.filter_covers_made Lexeme.span_of_warning? h .first hx
  rw [Place.first, Nat.zero_add] at hmade
  exact hmade

end Scan

end Calculator
