import Calculator.Proofs.Placement

/-!
# Scanning by byte offsets

A scan can be made with two byte offsets into the text: where the lexeme under way starts, and how far the text has been
read. The text is seen through slices only, and a slice that is out of range or cuts a character in two breaks the scan
off. The main statement, `scan?_eq_ofText`, says that no slice ever does, and that the scan is the one of the lexemes.
-/

namespace Calculator

/-- The text from a byte offset on, if that is a boundary. -/
def Text.from? (text : List Char) (offset : Nat) : Option (List Char) :=
  (splitAt? text offset).map Prod.snd

private theorem Text.from?_eq_some_iff {text rest : List Char} {offset : Nat} :
    from? text offset = some rest ↔ ∃ a, text = a ++ rest ∧ byteSize a = offset := by
  simp only [from?, Option.map_eq_some_iff, Prod.exists, splitAt?_eq_some_iff]
  constructor
  · rintro ⟨a, b, h, rfl⟩; exact ⟨a, h⟩
  · rintro ⟨a, h⟩; exact ⟨a, rest, h, rfl⟩

private theorem Text.from?_append (a b : List Char) : from? (a ++ b) (byteSize a) = some b :=
  from?_eq_some_iff.2 ⟨a, rfl, rfl⟩

/-- A scan under way. -/
structure Scanner where
  start : Nat
  current : Nat
  line : Nat
  tokens : List Token
  warnings : List Warning

namespace Scanner

/-! ### The steps of a scan -/

/-- Behind the digits that come next. -/
def skipDigits? (text : List Char) (current : Nat) : Option Nat :=
  match _h : Text.from? text current with
  | none => none
  | some [] => some current
  | some (c :: _) => if c.isDigit then skipDigits? text (current + c.utf8Size) else some current
termination_by Text.byteSize text - current
decreasing_by
  obtain ⟨a, rfl, rfl⟩ := Text.from?_eq_some_iff.1 _h
  have := c.utf8Size_pos
  simp only [Text.byteSize_append, Text.byteSize_cons]
  omega

/-- Behind a numeral whose first digit has been read. -/
def skipNumeral? (text : List Char) (current : Nat) : Option Nat := do
  let behind ← skipDigits? text current
  match ← Text.from? text behind with
  | '.' :: d :: _ => if d.isDigit then skipDigits? text (behind + '.'.utf8Size) else some behind
  | _ => some behind

/-- The span of the lexeme under way, if it ends at an offset. -/
def spanTo (s : Scanner) (current : Nat) : Span :=
  ⟨s.start, current⟩

/-- Reads one lexeme. -/
def step? (text : List Char) (s : Scanner) : Option Scanner := do
  match ← Text.from? text s.current with
  | [] => some s
  | c :: _ =>
    let current := s.current + c.utf8Size
    match Kind.ofChar? c with
    | some kind =>
      let lexeme ← (s.spanTo current).slice? text
      let token := ⟨kind, lexeme, none, s.line, s.spanTo current⟩
      some { s with current, tokens := s.tokens ++ [token] }
    | none =>
      if c.isDigit then
        let current ← skipNumeral? text current
        let lexeme ← (s.spanTo current).slice? text
        let token := ⟨.number, lexeme, Double.read? lexeme, s.line, s.spanTo current⟩
        some { s with current, tokens := s.tokens ++ [token] }
      else if c = '\n' then some { s with current, line := s.line + 1 }
      else if c = ' ' || c = '\t' || c = '\r' then some { s with current }
      else some { s with current, warnings := s.warnings ++ [⟨c, s.line, s.spanTo current⟩] }

/-! ### Every step moves on -/

private theorem le_of_skipDigits? {text : List Char} {i j : Nat} (h : skipDigits? text i = some j) : i ≤ j := by
  fun_induction skipDigits? text i with
  | case1 => simp at h
  | case2 => exact Nat.le_of_eq (Option.some.inj h)
  | case3 i c rest _ _ ih => exact Nat.le_trans (Nat.le_add_right _ _) (ih h)
  | case4 => exact Nat.le_of_eq (Option.some.inj h)

private theorem le_of_skipNumeral? {text : List Char} {i j : Nat} (h : skipNumeral? text i = some j) : i ≤ j := by
  simp only [skipNumeral?, Option.bind_eq_bind, Option.bind_eq_some_iff] at h
  obtain ⟨behind, hbehind, rest, -, h⟩ := h
  have hle := le_of_skipDigits? hbehind
  split at h
  · split at h
    · exact Nat.le_trans hle (Nat.le_trans (Nat.le_add_right _ _) (le_of_skipDigits? h))
    · rwa [← Option.some.inj h]
  · rwa [← Option.some.inj h]

private theorem current_lt_of_step? {text : List Char} {s s' : Scanner} (hs : s.current < Text.byteSize text)
    (h : step? text s = some s') : s.current < s'.current := by
  simp only [step?, Option.bind_eq_bind, Option.bind_eq_some_iff] at h
  obtain ⟨rest, hrest, h⟩ := h
  cases rest with
  | nil =>
    obtain ⟨a, rfl, ha⟩ := Text.from?_eq_some_iff.1 hrest
    rw [List.append_nil] at hs
    omega
  | cons c rest =>
    have hc := c.utf8Size_pos
    simp only at h
    split at h
    · obtain ⟨lexeme, -, h⟩ := Option.bind_eq_some_iff.1 h
      rw [← Option.some.inj h]
      simp only
      omega
    · split at h
      · obtain ⟨behind, hbehind, h⟩ := Option.bind_eq_some_iff.1 h
        obtain ⟨lexeme, -, h⟩ := Option.bind_eq_some_iff.1 h
        have := le_of_skipNumeral? hbehind
        rw [← Option.some.inj h]
        simp only
        omega
      · split at h
        · rw [← Option.some.inj h]
          simp only
          omega
        · split at h <;> rw [← Option.some.inj h] <;> simp only <;> omega

/-- Reads lexemes up to the end of the text. -/
def loop? (text : List Char) (s : Scanner) : Option Scanner :=
  if _hs : s.current < Text.byteSize text then
    match _h : step? text { s with start := s.current } with
    | none => none
    | some s' => loop? text s'
  else some s
termination_by Text.byteSize text - s.current
decreasing_by
  have : s.current < s'.current := current_lt_of_step? (s := { s with start := s.current }) _hs _h
  omega

/-- The scan at the end of the text. -/
def finish (text : List Char) (s : Scanner) : Scan :=
  ⟨s.tokens ++ [⟨.eof, [], none, s.line, .empty (Text.byteSize text)⟩], s.warnings⟩

/-- The scan of a text, unless a slice breaks it off. -/
def scan? (text : List Char) : Option Scan :=
  (loop? text ⟨0, 0, 1, [], []⟩).map (finish text)

/-! ### At a boundary no slice fails -/

private theorem skipDigits?_of_nil {text : List Char} {current : Nat} (h : Text.from? text current = some []) :
    skipDigits? text current = some current := by
  rw [skipDigits?]
  split
  · next h' => rw [h] at h'; cases h'
  · rfl
  · next h' => rw [h] at h'; cases h'

private theorem skipDigits?_of_cons {text rest : List Char} {c : Char} {current : Nat}
    (h : Text.from? text current = some (c :: rest)) :
    skipDigits? text current = if c.isDigit then skipDigits? text (current + c.utf8Size) else some current := by
  rw [skipDigits?]
  split
  · next h' => rw [h] at h'; cases h'
  · next h' => rw [h] at h'; cases h'
  · next h' => rw [h] at h'; cases h'; rfl

private theorem skipDigits?_append (a rest : List Char) :
    skipDigits? (a ++ rest) (Text.byteSize a) = some (Text.byteSize (a ++ rest.takeWhile Char.isDigit)) := by
  induction rest generalizing a with
  | nil => rw [skipDigits?_of_nil (Text.from?_append a []), List.takeWhile_nil, List.append_nil]
  | cons c rest ih =>
    rw [skipDigits?_of_cons (Text.from?_append a (c :: rest)), List.takeWhile_cons]
    by_cases hc : c.isDigit
    · have hnext := ih (a ++ [c])
      rw [List.append_assoc, List.append_assoc, List.singleton_append, List.singleton_append] at hnext
      simpa [hc] using hnext
    · simp [hc]

private theorem splitNumeral_of_point {text more : List Char} {d : Char} (hd : d.isDigit = true)
    (h : text.dropWhile Char.isDigit = '.' :: d :: more) :
    (Lexeme.splitNumeral text).1 = text.takeWhile Char.isDigit ++ '.' :: (d :: more).takeWhile Char.isDigit := by
  simp only [Lexeme.splitNumeral, h, hd, if_true]

private theorem splitNumeral_of_noPlaces {text : List Char} (h : Lexeme.NoPlaces (text.dropWhile Char.isDigit)) :
    (Lexeme.splitNumeral text).1 = text.takeWhile Char.isDigit := by
  unfold Lexeme.splitNumeral
  split
  · next d more hd => rw [h d more hd]; rfl
  · rfl

private theorem skipNumeral?_append {c : Char} (hc : c.isDigit = true) (a rest : List Char) :
    skipNumeral? (a ++ c :: rest) (Text.byteSize (a ++ [c])) =
      some (Text.byteSize (a ++ (Lexeme.splitNumeral (c :: rest)).1)) := by
  have htake : (c :: rest).takeWhile Char.isDigit = c :: rest.takeWhile Char.isDigit := List.takeWhile_cons_of_pos hc
  have hdrop : (c :: rest).dropWhile Char.isDigit = rest.dropWhile Char.isDigit := List.dropWhile_cons_of_pos hc
  have hsplit := List.takeWhile_append_dropWhile (p := Char.isDigit) (l := rest)
  have hdigits := skipDigits?_append (a ++ [c]) rest
  rw [List.append_assoc, List.singleton_append] at hdigits
  have hbehind := Text.from?_append (a ++ c :: rest.takeWhile Char.isDigit) (rest.dropWhile Char.isDigit)
  rw [List.append_assoc, List.cons_append, hsplit] at hbehind
  rw [skipNumeral?, hdigits, Option.bind_eq_bind, Option.bind_some, List.append_assoc, List.singleton_append, hbehind,
    Option.bind_eq_bind, Option.bind_some]
  by_cases hp : Lexeme.NoPlaces (rest.dropWhile Char.isDigit)
  · rw [splitNumeral_of_noPlaces (hdrop.symm ▸ hp), htake]
    split
    · next d more hd => rw [hp d more hd]; rfl
    · rfl
  · -- the point and the digits behind it belong to the numeral
    obtain ⟨d, more, hd, hdigit⟩ : ∃ d more, rest.dropWhile Char.isDigit = '.' :: d :: more ∧ d.isDigit = true := by
      simpa [Lexeme.NoPlaces] using hp
    have hplaces := skipDigits?_append (a ++ c :: rest.takeWhile Char.isDigit ++ ['.']) (d :: more)
    have htext : a ++ c :: rest.takeWhile Char.isDigit ++ ['.'] ++ d :: more = a ++ c :: rest := by
      have happend := congrArg (fun r => a ++ c :: r) hsplit
      rw [hd] at happend
      simpa using happend
    have hpoint : Text.byteSize ['.'] = '.'.utf8Size := rfl
    rw [htext, Text.byteSize_append (a ++ c :: rest.takeWhile Char.isDigit), hpoint] at hplaces
    rw [splitNumeral_of_point hdigit (hdrop.trans hd), htake, hd]
    simp only [hdigit, if_true, hplaces]
    simp

/-! ### Steps and lexemes -/

private theorem count_newline_of_numeral {numeral : List Char} (h : Numeral numeral) : numeral.count '\n' = 0 := by
  rw [List.count_eq_zero]
  intro hmem
  rcases Lexeme.isDigit_or_eq_point_of_mem h hmem with hc | hc <;> revert hc <;> decide

/-- A scan behind a lexeme that starts where it stands. -/
def behind (s : Scanner) (x : Lexeme) : Scanner where
  start := s.start
  current := s.start + Text.byteSize x.text
  line := s.line + x.text.count '\n'
  tokens := s.tokens ++ (x.token? ⟨s.start, s.line⟩).toList
  warnings := s.warnings ++ (x.warning? ⟨s.start, s.line⟩).toList

section Step

variable {s : Scanner} {a : List Char} {c : Char} (hstart : s.start = Text.byteSize a)
  (hcurrent : s.current = Text.byteSize a)
include hstart hcurrent

private theorem slice?_spanTo (m b : List Char) :
    (s.spanTo (s.current + Text.byteSize m)).slice? (a ++ m ++ b) = some m :=
  Span.slice?_eq_some_iff.2 ⟨a, b, rfl, hstart.symm, by rw [hcurrent, Text.byteSize_append]; rfl⟩

private theorem step?_numeral (hc : c.isDigit = true) (rest : List Char) :
    step? (a ++ c :: rest) s = some (s.behind (.numeral (Lexeme.splitNumeral (c :: rest)).1)) := by
  have hmark : Kind.ofChar? c = none := by
    cases hm : Kind.ofChar? c with
    | none => rfl
    | some kind => rw [(Lexeme.not_digit_nor_point hm).1] at hc; cases hc
  have hskip := skipNumeral?_append hc a rest
  have hslice := slice?_spanTo hstart hcurrent (Lexeme.splitNumeral (c :: rest)).1 (Lexeme.splitNumeral (c :: rest)).2
  rw [List.append_assoc, Lexeme.splitNumeral_append] at hslice
  simp only [Text.byteSize_append, Text.byteSize_cons, Text.byteSize_nil, Nat.add_zero, ← hcurrent] at hskip
  simp only [step?, hcurrent ▸ Text.from?_append a (c :: rest), Option.bind_eq_bind, Option.bind_some, hmark, hc,
    if_true, hskip, hslice]
  simp [behind, Lexeme.token?, Lexeme.warning?, Lexeme.span, Lexeme.text, spanTo, hstart, hcurrent,
    count_newline_of_numeral (Lexeme.numeral_splitNumeral hc rest)]

private theorem step?_char (hc : c.isDigit = false) (rest : List Char) :
    step? (a ++ c :: rest) s = some (s.behind (Lexeme.ofChar c)) := by
  have hslice := slice?_spanTo hstart hcurrent [c] rest
  rw [List.append_assoc, List.singleton_append] at hslice
  simp only [Text.byteSize_cons, Text.byteSize_nil, Nat.add_zero] at hslice
  simp only [step?, hcurrent ▸ Text.from?_append a (c :: rest), Option.bind_eq_bind, Option.bind_some, hc,
    Bool.false_eq_true, if_false, hslice]
  cases hmark : Kind.ofChar? c with
  | some kind =>
    have hline : c ≠ '\n' := by rintro rfl; cases hmark
    simp [Lexeme.ofChar_of_mark hmark, behind, Lexeme.token?, Lexeme.warning?, Lexeme.span, Lexeme.text, spanTo,
      hstart, hcurrent, hline]
  | none =>
    by_cases hblank : c ∈ [' ', '\t', '\r', '\n']
    · rw [Lexeme.ofChar_of_blank hblank]
      simp only [List.mem_cons, List.not_mem_nil, or_false] at hblank
      rcases hblank with rfl | rfl | rfl | rfl <;>
        simp [behind, Lexeme.token?, Lexeme.warning?, Lexeme.text, hstart, hcurrent]
    · rw [Lexeme.ofChar_of_stray hmark hblank]
      simp only [List.mem_cons, List.not_mem_nil, or_false, not_or] at hblank
      simp [behind, Lexeme.token?, Lexeme.warning?, Lexeme.span, Lexeme.text, spanTo, hstart, hcurrent, hblank]

/-- A step that starts at a boundary reads the next lexeme. -/
private theorem step?_append (rest : List Char) :
    step? (a ++ c :: rest) s = some (s.behind (Lexeme.first c rest).1) := by
  unfold Lexeme.first
  split
  · next hc => exact step?_numeral hstart hcurrent hc rest
  · next hc => exact step?_char hstart hcurrent (by simpa using hc) rest

end Step

/-! ### The whole text -/

private theorem loop?_of_end {text : List Char} {s : Scanner} (h : s.current = Text.byteSize text) :
    loop? text s = some s := by
  rw [loop?, dif_neg (by omega)]

private theorem loop?_of_step? {text : List Char} {s s' : Scanner} (hs : s.current < Text.byteSize text)
    (h : step? text { s with start := s.current } = some s') : loop? text s = loop? text s' := by
  rw [loop?, dif_pos hs]
  split
  · next h' => rw [h] at h'; cases h'
  · next h' => rw [h] at h'; cases h'; rfl

/-- From a boundary on, the loop makes what the lexemes of the rest make there. -/
private theorem loop?_append (rest : List Char) {a : List Char} {s : Scanner} (h : s.current = Text.byteSize a) :
    (loop? (a ++ rest) s).map (finish (a ++ rest)) =
      let scan := Scan.ofLexemes (Lexeme.ofText rest) ⟨s.current, s.line⟩
      some ⟨s.tokens ++ scan.tokens, s.warnings ++ scan.warnings⟩ := by
  match rest with
  | [] =>
    rw [List.append_nil, loop?_of_end h]
    simp [finish, Scan.ofLexemes_nil, Scan.eofToken, h]
  | c :: rest =>
    have hlt : s.current < Text.byteSize (a ++ c :: rest) := by
      have := c.utf8Size_pos
      rw [h, Text.byteSize_append, Text.byteSize_cons]
      omega
    -- one step reads the first lexeme of what is left, and the loop goes on behind it
    have hstep := step?_append (s := { s with start := s.current }) h h (c := c) rest
    have hnext : (behind { s with start := s.current } (Lexeme.first c rest).1).current =
        Text.byteSize (a ++ (Lexeme.first c rest).1.text) := by
      rw [Text.byteSize_append, ← h]
      rfl
    have ih := loop?_append (Lexeme.first c rest).2 hnext
    rw [List.append_assoc, Lexeme.first_append] at ih
    rw [loop?_of_step? hlt hstep, ih, Lexeme.ofText_cons, Scan.ofLexemes_cons]
    simp [behind, Place.after]
termination_by rest.length
decreasing_by exact Lexeme.length_first_lt c rest

/-- No slice breaks a scan off, and the scan has what the lexemes of the text make. -/
theorem scan?_eq_ofText (text : List Char) : scan? text = some (Scan.ofText text) := by
  have h := loop?_append text (a := []) (s := ⟨0, 0, 1, [], []⟩) rfl
  rw [List.nil_append] at h
  rw [scan?, h, Scan.ofText]
  rfl

end Scanner

end Calculator
