import Calculator.Proofs.Placement

/-!
# What becomes of each character

The main statement, `classifies_ofText`, says for every character of a text which token or warning it leads to, and that
numbers are as long as possible. Whether a point belongs to a number depends on all that comes before it, back to the
start of the digits, but the lexeme in which it stands settles this: a point in a numeral has digits on both sides, and
any other one is a lexeme of its own (`Stands.eq_ofChar`).
-/

namespace Calculator

namespace Scan

/-- A scan makes of each character of a text what it has to. -/
structure Classifies (scan : Scan) (text : List Char) : Prop where
  /-- A number is the longest numeral that the text has where the number starts. -/
  numeral : ∀ t ∈ scan.tokens, t.kind = .number →
    Numeral t.lexeme ∧ ∃ a b, text = a ++ t.lexeme ++ b ∧ Text.byteSize a = t.span.start ∧
      ∀ m, Numeral m → m <+: t.lexeme ++ b → m.length ≤ t.lexeme.length
  /-- A digit lies in one number. -/
  digit : ∀ a c b, text = a ++ c :: b → c.isDigit = true →
    ∃ t, scan.tokensAt (Text.byteSize a) = [t] ∧ t.kind = .number ∧ scan.warningsAt (Text.byteSize a) = []
  /-- A point lies within one number, between two digits, or it is warned about. -/
  point : ∀ a b, text = a ++ '.' :: b →
    (∃ t, scan.tokensAt (Text.byteSize a) = [t] ∧ t.kind = .number ∧ t.span.start < Text.byteSize a ∧
      Text.byteSize (a ++ ['.']) < t.span.stop ∧ (∃ d, a.getLast? = some d ∧ d.isDigit = true) ∧
      (∃ d, b.head? = some d ∧ d.isDigit = true) ∧ scan.warningsAt (Text.byteSize a) = []) ∨
    (scan.tokensAt (Text.byteSize a) = [] ∧ scan.warningsAt (Text.byteSize a) =
      [⟨'.', 1 + a.count '\n', ⟨Text.byteSize a, Text.byteSize (a ++ ['.'])⟩⟩])
  /-- A point right behind a number is warned about, whether or not the number has a point already. -/
  pointBehind : ∀ t ∈ scan.tokens, t.kind = .number → ∀ a b, text = a ++ '.' :: b → Text.byteSize a = t.span.stop →
    scan.warningsAt (Text.byteSize a) =
      [⟨'.', 1 + a.count '\n', ⟨Text.byteSize a, Text.byteSize (a ++ ['.'])⟩⟩]
  /-- An operator sign or a parenthesis makes one token of its kind. -/
  mark : ∀ a c b kind, text = a ++ c :: b →
    (c, kind) ∈ [('+', Kind.plus), ('-', .minus), ('*', .star), ('/', .slash), ('(', .leftParen), (')', .rightParen)] →
    scan.tokensAt (Text.byteSize a) =
        [⟨kind, [c], none, 1 + a.count '\n', ⟨Text.byteSize a, Text.byteSize (a ++ [c])⟩⟩] ∧
      scan.warningsAt (Text.byteSize a) = []
  /-- White space leads to nothing. -/
  blank : ∀ a c b, text = a ++ c :: b → c ∈ [' ', '\t', '\r', '\n'] →
    scan.tokensAt (Text.byteSize a) = [] ∧ scan.warningsAt (Text.byteSize a) = []
  /-- Any other character is warned about once. -/
  stray : ∀ a c b, text = a ++ c :: b → c.isDigit = false → c ≠ '.' → c ∉ ['+', '-', '*', '/', '(', ')'] →
    c ∉ [' ', '\t', '\r', '\n'] →
    scan.tokensAt (Text.byteSize a) = [] ∧ scan.warningsAt (Text.byteSize a) =
      [⟨c, 1 + a.count '\n', ⟨Text.byteSize a, Text.byteSize (a ++ [c])⟩⟩]

end Scan

/-! ### The longest numeral -/

namespace Lexeme

private theorem takeWhile_prefix_splitNumeral (text : List Char) :
    text.takeWhile Char.isDigit <+: (splitNumeral text).1 := by
  unfold splitNumeral
  split
  · split
    · exact List.prefix_append _ _
    · exact List.prefix_rfl
  · exact List.prefix_rfl

private theorem noDigit_dropWhile (text : List Char) : NoDigit (text.dropWhile Char.isDigit) := by
  intro c hc
  have h := List.head?_dropWhile_not Char.isDigit text
  rw [Option.mem_def.1 hc] at h
  exact h

private theorem digitRun_append_takeWhile {places : List Char} (h : DigitRun places) (rest : List Char) :
    DigitRun (places ++ rest.takeWhile Char.isDigit) := by
  refine ⟨by simp [h.1], fun c hc => ?_⟩
  rcases List.mem_append.1 hc with hc | hc
  · exact h.2 c hc
  · exact List.all_eq_true.1 List.all_takeWhile c hc

/-- No numeral at the start of a text is longer than the one that is cut off. -/
theorem length_le_splitNumeral {text numeral : List Char} (h : Numeral numeral) (hstarts : numeral <+: text) :
    numeral.length ≤ (splitNumeral text).1.length := by
  obtain ⟨rest, rfl⟩ := hstarts
  cases h with
  | whole hdigits =>
    have hle := (takeWhile_prefix_splitNumeral (numeral ++ rest)).length_le
    rw [List.takeWhile_append_of_pos hdigits.2, List.length_append] at hle
    omega
  | @point digits places hdigits hplaces =>
    -- what is cut off has the same point, and goes on as far as there are digits
    have hsplit := splitNumeral_point hdigits (digitRun_append_takeWhile hplaces rest) (noDigit_dropWhile rest)
    have htext : digits ++ '.' :: (places ++ rest.takeWhile Char.isDigit) ++ rest.dropWhile Char.isDigit =
        digits ++ '.' :: places ++ rest := by
      simp [List.append_assoc, List.takeWhile_append_dropWhile]
    rw [htext] at hsplit
    rw [hsplit]
    simp only [List.length_append, List.length_cons]
    omega

/-- A point in a numeral stands between its two runs of digits. -/
private theorem digitRun_of_point {numeral u v : List Char} (h : Numeral numeral) (heq : numeral = u ++ '.' :: v) :
    DigitRun u ∧ DigitRun v := by
  have hpoint : ∀ {run : List Char}, DigitRun run → '.' ∉ run := fun hrun hmem => absurd (hrun.2 _ hmem) (by decide)
  cases h with
  | whole hdigits =>
    refine absurd ?_ (hpoint hdigits)
    rw [heq]
    simp
  | @point digits places hdigits hplaces =>
    rcases List.append_eq_append_iff.1 heq with ⟨w, rfl, hw⟩ | ⟨w, rfl, hw⟩
    · cases w with
      | nil => exact ⟨by simpa using hdigits, (List.cons.inj hw).2 ▸ hplaces⟩
      | cons d w =>
        refine absurd ?_ (hpoint hplaces)
        rw [(List.cons.inj hw).2]
        simp
    · cases w with
      | nil => exact ⟨by simpa using hdigits, (List.cons.inj hw).2 ▸ hplaces⟩
      | cons d w =>
        refine absurd ?_ (hpoint hdigits)
        rw [← (List.cons.inj hw).1]
        simp

/-! ### The lexeme of a character -/

theorem exists_numeral_of_kind {x : Lexeme} {p : Place} {t : Token} (hx : x.Valid) (h : x.token? p = some t)
    (hk : t.kind = .number) : x = .numeral t.lexeme := by
  cases hx with
  | numeral _ => rw [← Option.some.inj h]
  | mark isMark =>
    rw [← Option.some.inj h] at hk
    exact absurd hk (not_number_nor_eof isMark).1
  | blank _ | stray _ _ _ => cases h

namespace Stands

variable {text a b u v : List Char} {x : Lexeme} {c : Char}

theorem splitNumeral_eq {numeral : List Char} (h : Stands text a (.numeral numeral) b) :
    splitNumeral (numeral ++ b) = (numeral, b) := by
  cases h.valid with
  | numeral isNumeral =>
    obtain ⟨c, more, rfl, hc⟩ := exists_cons_of_numeral isNumeral
    have hfirst := h.first_eq rfl
    rw [first, if_pos hc, Prod.mk.injEq, numeral.injEq] at hfirst
    exact Prod.ext hfirst.1 hfirst.2

/-- A lexeme that is no numeral is a single character. -/
theorem eq_ofChar (h : Stands text a x b) (hx : x.text = u ++ c :: v) (hne : ∀ numeral, x ≠ .numeral numeral) :
    u = [] ∧ v = [] ∧ c.isDigit = false ∧ x = ofChar c := by
  obtain ⟨d, more, hd⟩ := List.exists_cons_of_ne_nil h.valid.text_ne_nil
  have hfirst := h.first_eq hd
  unfold first at hfirst
  split at hfirst
  · exact absurd (Prod.mk.inj hfirst).1.symm (hne _)
  · next hdigit =>
    have hofChar : x = ofChar d := (Prod.mk.inj hfirst).1.symm
    rw [hofChar, text_ofChar, List.singleton_eq_append_iff] at hx
    rcases hx with ⟨rfl, hcons⟩ | ⟨-, hcons⟩
    · obtain ⟨rfl, rfl⟩ := List.cons.inj hcons
      exact ⟨rfl, rfl, by simpa using hdigit, hofChar⟩
    · cases hcons

private theorem exists_numeral_of_isDigit (h : Stands text a x b) (hx : x.text = u ++ c :: v) (hc : c.isDigit = true) :
    ∃ numeral, x = .numeral numeral := by
  by_cases hnumeral : ∃ numeral, x = .numeral numeral
  · exact hnumeral
  · obtain ⟨-, -, hdigit, -⟩ := h.eq_ofChar hx fun numeral heq => hnumeral ⟨numeral, heq⟩
    rw [hc] at hdigit
    cases hdigit

/-- A character that no numeral has is a lexeme of its own. -/
private theorem eq_ofChar_of_ne (h : Stands text a x b) (hx : x.text = u ++ c :: v) (hd : c.isDigit = false)
    (hp : c ≠ '.') : u = [] ∧ x = ofChar c := by
  have hne : ∀ numeral, x ≠ .numeral numeral := by
    rintro numeral rfl
    cases h.valid with
    | numeral isNumeral =>
      have hc : c ∈ numeral := by rw [show numeral = u ++ c :: v from hx]; simp
      rcases isDigit_or_eq_point_of_mem isNumeral hc with hc | hc
      · rw [hd] at hc; cases hc
      · exact hp hc
  obtain ⟨hu, -, -, hofChar⟩ := h.eq_ofChar hx hne
  exact ⟨hu, hofChar⟩

end Stands

end Lexeme

/-! ### Scans -/

namespace Scan

variable {text a b : List Char} {c : Char}

/-- What a scan has at a character that no numeral has. -/
private theorem at_ofChar (h : text = a ++ c :: b) (hd : c.isDigit = false) (hp : c ≠ '.') :
    (ofText text).tokensAt (Text.byteSize a) = ((Lexeme.ofChar c).token? (Place.first.behind a)).toList ∧
      (ofText text).warningsAt (Text.byteSize a) = ((Lexeme.ofChar c).warning? (Place.first.behind a)).toList := by
  obtain ⟨a', x, b', u, v, hstands, hx, rfl, -⟩ := Lexeme.exists_stands h
  obtain ⟨rfl, rfl⟩ := hstands.eq_ofChar_of_ne hx hd hp
  have htokens := tokensAt_of_stands hstands hx
  have hwarnings := warningsAt_of_stands hstands hx
  rw [List.append_nil] at htokens hwarnings ⊢
  exact ⟨htokens, hwarnings⟩

/-- The warning about a character. -/
private theorem warning?_stray (c : Char) (a : List Char) :
    (Lexeme.stray c).warning? (Place.first.behind a) =
      some ⟨c, 1 + a.count '\n', ⟨Text.byteSize a, Text.byteSize (a ++ [c])⟩⟩ := by
  simp [Lexeme.warning?, Lexeme.span, Lexeme.text, Place.first_behind]

/-- A point in a numeral has digits on both sides. -/
private theorem point_within {numeral u v : List Char} (h : Lexeme.Stands text a (.numeral numeral) b)
    (hx : numeral = u ++ '.' :: v) :
    ∃ t, (ofText text).tokensAt (Text.byteSize (a ++ u)) = [t] ∧ t.kind = .number ∧
      t.span.start < Text.byteSize (a ++ u) ∧ Text.byteSize (a ++ u ++ ['.']) < t.span.stop ∧
      (∃ d, (a ++ u).getLast? = some d ∧ d.isDigit = true) ∧ (∃ d, (v ++ b).head? = some d ∧ d.isDigit = true) ∧
      (ofText text).warningsAt (Text.byteSize (a ++ u)) = [] := by
  have hruns : DigitRun u ∧ DigitRun v := by
    cases h.valid with
    | numeral isNumeral => exact Lexeme.digitRun_of_point isNumeral hx
  have hu := Text.byteSize_pos hruns.1.1
  have hv := Text.byteSize_pos hruns.2.1
  rw [tokensAt_of_stands h hx, warningsAt_of_stands h hx]
  refine ⟨_, rfl, rfl, ?_, ?_, ?_, ?_, rfl⟩
  · simp only [Lexeme.span, Place.first_behind, Text.byteSize_append]
    omega
  · simp only [Lexeme.span, Lexeme.text, hx, Place.first_behind, Text.byteSize_append, Text.byteSize_cons,
      Text.byteSize_nil]
    omega
  · have hlast := List.getLast?_eq_some_getLast hruns.1.1
    exact ⟨_, by rw [List.getLast?_append, hlast, Option.some_or], hruns.1.2 _ (List.getLast_mem hruns.1.1)⟩
  · obtain ⟨d, more, rfl⟩ := List.exists_cons_of_ne_nil hruns.2.1
    exact ⟨d, rfl, hruns.2.2 d (by simp)⟩

/-- Any other point is warned about. -/
private theorem point_stray (h : Lexeme.Stands text a (.stray '.') b) :
    (ofText text).tokensAt (Text.byteSize a) = [] ∧ (ofText text).warningsAt (Text.byteSize a) =
      [⟨'.', 1 + a.count '\n', ⟨Text.byteSize a, Text.byteSize (a ++ ['.'])⟩⟩] := by
  have htokens := tokensAt_of_stands (u := []) h rfl
  have hwarnings := warningsAt_of_stands (u := []) h rfl
  rw [List.append_nil] at htokens hwarnings
  rw [htokens, hwarnings, warning?_stray]
  exact ⟨rfl, rfl⟩

/-- In a text that is scanned, every character is made of what it has to be. -/
theorem classifies_ofText (text : List Char) : (ofText text).Classifies text where
  numeral := by
    intro t ht hk
    rcases mem_tokens_ofText.1 ht with ⟨a, x, b, hstands, hx⟩ | rfl
    · have hspan := Lexeme.span_of_token? x _ t hx
      obtain rfl := Lexeme.exists_numeral_of_kind hstands.valid hx hk
      refine ⟨?_, a, b, hstands.eq_append, ?_, fun m hm hstarts => ?_⟩
      · cases hstands.valid with
        | numeral isNumeral => exact isNumeral
      · rw [hspan, Place.first_behind]
        rfl
      · have hle := Lexeme.length_le_splitNumeral hm hstarts
        rwa [hstands.splitNumeral_eq] at hle
    · cases hk
  digit := by
    intro a c b h hc
    obtain ⟨a', x, b', u, v, hstands, hx, rfl, -⟩ := Lexeme.exists_stands h
    obtain ⟨numeral, rfl⟩ := hstands.exists_numeral_of_isDigit hx hc
    rw [tokensAt_of_stands hstands hx, warningsAt_of_stands hstands hx]
    exact ⟨_, rfl, rfl, rfl⟩
  point := by
    intro a b h
    obtain ⟨a', x, b', u, v, hstands, hx, rfl, rfl⟩ := Lexeme.exists_stands h
    by_cases hnumeral : ∃ numeral, x = .numeral numeral
    · obtain ⟨numeral, rfl⟩ := hnumeral
      exact .inl (point_within hstands hx)
    · obtain ⟨rfl, -, -, rfl⟩ := hstands.eq_ofChar hx fun numeral heq => hnumeral ⟨numeral, heq⟩
      rw [List.append_nil]
      exact .inr (point_stray hstands)
  pointBehind := by
    intro t ht hk a b h hstop
    rcases mem_tokens_ofText.1 ht with ⟨a', x, b', hstands, hx⟩ | rfl
    · have hspan := Lexeme.span_of_token? x _ t hx
      rw [hspan, Place.first_behind, Lexeme.span, ← Text.byteSize_append] at hstop
      obtain ⟨rfl, rfl⟩ := Text.append_inj_of_byteSize (h.symm.trans hstands.eq_append) hstop
      exact (point_stray hstands.next).2
    · cases hk
  mark := by
    intro a c b kind h hmem
    have hmark : Kind.ofChar? c = some kind := by
      simp only [List.mem_cons, Prod.mk.injEq, List.not_mem_nil, or_false] at hmem
      rcases hmem with ⟨rfl, rfl⟩ | ⟨rfl, rfl⟩ | ⟨rfl, rfl⟩ | ⟨rfl, rfl⟩ | ⟨rfl, rfl⟩ | ⟨rfl, rfl⟩ <;> rfl
    obtain ⟨hd, hp⟩ := Lexeme.not_digit_nor_point hmark
    obtain ⟨htokens, hwarnings⟩ := at_ofChar h hd hp
    rw [htokens, hwarnings, Lexeme.ofChar_of_mark hmark]
    simp [Lexeme.token?, Lexeme.warning?, Lexeme.span, Lexeme.text, Place.first_behind]
  blank := by
    intro a c b h hblank
    have hne : c.isDigit = false ∧ c ≠ '.' := by
      simp only [List.mem_cons, List.not_mem_nil, or_false] at hblank
      rcases hblank with rfl | rfl | rfl | rfl <;> decide
    obtain ⟨htokens, hwarnings⟩ := at_ofChar h hne.1 hne.2
    rw [htokens, hwarnings, Lexeme.ofChar_of_blank hblank]
    exact ⟨rfl, rfl⟩
  stray := by
    intro a c b h hd hp hmark hblank
    obtain ⟨htokens, hwarnings⟩ := at_ofChar h hd hp
    rw [htokens, hwarnings, Lexeme.ofChar_of_stray (Kind.ofChar?_eq_none_iff.2 hmark) hblank, warning?_stray]
    exact ⟨rfl, rfl⟩

end Scan

end Calculator
