import Calculator.Proofs.Cutting
import Calculator.Proofs.Relocation

/-!
# White space

White space can be written anywhere but within a number. The main statement, `ofText_insert_whiteSpace`, says that this
moves what stands behind it and changes nothing else, and that taking it out again moves everything back. Points are the
danger, since a numeral looks at the two characters behind it: but those two make no difference when neither a digit
nor a point comes first (`Lexeme.Cut.of_noDigit`).
-/

namespace Calculator

namespace Relocation

/-- What `w` does to the places of a text when it is written in at an offset. -/
def insertion (offset : Nat) (w : List Char) : Relocation where
  span s := if offset ≤ s.start then ⟨s.start + Text.byteSize w, s.stop + Text.byteSize w⟩ else s
  line s n := if offset ≤ s.start then n + w.count '\n' else n

/-- What it does to the places of a text to take out `w`, which stands at an offset. -/
def deletion (offset : Nat) (w : List Char) : Relocation where
  span s :=
    if offset + Text.byteSize w ≤ s.start then ⟨s.start - Text.byteSize w, s.stop - Text.byteSize w⟩ else s
  line s n := if offset + Text.byteSize w ≤ s.start then n - w.count '\n' else n

private theorem deletion_undoes_insertion (offset : Nat) (w : List Char) :
    (deletion offset w).Undoes (insertion offset w) where
  span s := by
    by_cases h : offset ≤ s.start
    · simp [insertion, deletion, h]
    · have h' : ¬ offset + Text.byteSize w ≤ s.start := by omega
      simp [insertion, deletion, h, h']
  line s n := by
    by_cases h : offset ≤ s.start
    · simp [insertion, deletion, h]
    · have h' : ¬ offset + Text.byteSize w ≤ s.start := by omega
      simp [insertion, deletion, h, h']

variable {offset : Nat} {w : List Char}

private theorem token_insertion_of_lt {t : Token} (h : t.span.start < offset) : (insertion offset w).token t = t := by
  simp [token, insertion, Nat.not_le.2 h]

private theorem warning_insertion_of_lt {v : Warning} (h : v.span.start < offset) :
    (insertion offset w).warning v = v := by
  simp [warning, insertion, Nat.not_le.2 h]

end Relocation

theorem Place.behind_comm (p : Place) (a b : List Char) : (p.behind a).behind b = (p.behind b).behind a := by
  simp only [behind, Nat.add_right_comm]

namespace Lexeme

/-! ### Moving lexemes -/

section Made

variable {β : Type} {item : Lexeme → Place → Option β}

/-- Lexemes that start further behind make the same things, moved in the way in which each of them is moved. -/
theorem made_behind {f : β → β} {offset : Nat} {w : List Char}
    (h : ∀ x q, offset ≤ q.offset → item x (q.behind w) = (item x q).map f) (lexemes : List Lexeme) {p : Place}
    (hp : offset ≤ p.offset) : made item lexemes (p.behind w) = (made item lexemes p).map f := by
  induction lexemes generalizing p with
  | nil => rw [made_nil, made_nil]; rfl
  | cons x lexemes ih =>
    have hnext : offset ≤ (p.behind x.text).offset := Nat.le_trans hp (Nat.le_add_right _ _)
    rw [made_cons, made_cons, h x p hp, p.behind_comm, ih hnext, List.map_append]
    cases item x p <;> rfl

/-- What lexemes make starts in front of what comes behind them. -/
private theorem start_lt_of_mem_made {span : β → Span} (hspan : ∀ x p t, item x p = some t → span t = x.span p)
    {lexemes : List Lexeme} (hvalid : ∀ x ∈ lexemes, x.Valid) {p : Place} {t : β} (h : t ∈ made item lexemes p) :
    (span t).start < p.offset + Text.byteSize (lexemes.flatMap Lexeme.text) := by
  obtain ⟨before, x, after, rfl, ht⟩ := mem_made.1 h
  have hpos := Text.byteSize_pos (hvalid x (by simp)).text_ne_nil
  rw [hspan _ _ _ ht]
  simp only [Lexeme.span, Place.offset_behind, List.flatMap_append, List.flatMap_cons, Text.byteSize_append]
  omega

/-- What lexemes make when blanks are put in at an offset: in front of it the same things, behind it moved ones. -/
private theorem made_insert {span : β → Span} (hspan : ∀ x p t, item x p = some t → span t = x.span p)
    (hblank : ∀ c p, item (blank c) p = none) {f : β → β} {offset : Nat} {w : List Char}
    (hfix : ∀ t, (span t).start < offset → f t = t)
    (hmove : ∀ x q, offset ≤ q.offset → item x (q.behind w) = (item x q).map f) {lexemes : List Lexeme}
    (hvalid : ∀ x ∈ lexemes, x.Valid) (rest : List Lexeme) {p : Place}
    (hp : p.offset + Text.byteSize (lexemes.flatMap Lexeme.text) = offset) :
    made item (lexemes ++ (w.map blank ++ rest)) p = (made item (lexemes ++ rest) p).map f := by
  have hfront : (made item lexemes p).map f = made item lexemes p := by
    have hid : (made item lexemes p).map f = (made item lexemes p).map id :=
      List.map_congr_left fun t ht => hfix t (hp ▸ start_lt_of_mem_made hspan hvalid ht)
    rw [hid, List.map_id]
  have hback := made_behind hmove rest (p := p.behind (lexemes.flatMap Lexeme.text)) (Nat.le_of_eq hp.symm)
  rw [made_append, made_append, made_append, made_map_blank hblank, List.nil_append, flatMap_text_map_blank, hback,
    List.map_append, hfront]

end Made

theorem token?_behind {x : Lexeme} {q : Place} {offset : Nat} (h : offset ≤ q.offset) (w : List Char) :
    x.token? (q.behind w) = (x.token? q).map (Relocation.insertion offset w).token := by
  cases x <;> simp [token?, Lexeme.span, Relocation.token, Relocation.insertion, Place.behind, h, Nat.add_right_comm]

theorem warning?_behind {x : Lexeme} {q : Place} {offset : Nat} (h : offset ≤ q.offset) (w : List Char) :
    x.warning? (q.behind w) = (x.warning? q).map (Relocation.insertion offset w).warning := by
  cases x <;>
    simp [warning?, Lexeme.span, Relocation.warning, Relocation.insertion, Place.behind, h, Nat.add_right_comm]

/-! ### Where white space can stand -/

/-- A boundary that lies within no number lies between two lexemes. -/
private theorem exists_cut {a b : List Char}
    (h : ∀ t ∈ (Scan.ofText (a ++ b)).tokens, t.kind = .number →
      ¬ (t.span.start < Text.byteSize a ∧ Text.byteSize a < t.span.stop)) :
    ∃ lexemes, lexemes.flatMap Lexeme.text = a ∧ Cut lexemes b := by
  cases b with
  | nil => exact ⟨ofText a, flatMap_text_ofText a, cut_ofText a⟩
  | cons c b =>
    obtain ⟨a', x, b', u, v, hstands, hx, rfl, rfl⟩ := exists_stands (Eq.refl (a ++ c :: b))
    by_cases hu : u = []
    · obtain ⟨before, rfl, hbefore⟩ := id hstands
      have hrest := hstands.ofText_eq
      rw [hx, hu, List.nil_append, List.cons_append] at hrest
      rw [hu, List.append_nil] at hbefore ⊢
      refine ⟨before, rfl, ?_⟩
      rw [Cut, hbefore, hrest]
    · -- a lexeme of more than one character is a numeral, so a number lies around the boundary
      obtain ⟨text, rfl⟩ : ∃ text, x = .numeral text :=
        Classical.byContradiction fun hne => hu (hstands.eq_ofChar hx fun text heq => hne ⟨text, heq⟩).1
      have hmem := Scan.mem_tokens_ofText.2 (.inl ⟨a', .numeral text, b', hstands, rfl⟩)
      have hsize := congrArg Text.byteSize hx
      have hpos := Text.byteSize_pos hu
      have hc := c.utf8Size_pos
      simp only [Text.byteSize_append, Text.byteSize_cons] at hsize
      refine absurd ?_ (h _ hmem rfl)
      simp only [Lexeme.span, Place.first_behind, Text.byteSize_append]
      omega

/-- White space between two lexemes becomes lexemes of its own. -/
private theorem Cut.ofText_insert {lexemes : List Lexeme} {b w : List Char} (h : Cut lexemes b)
    (hw : ∀ c ∈ w, c ∈ [' ', '\t', '\r', '\n']) :
    ofText (lexemes.flatMap Lexeme.text ++ w ++ b) = lexemes ++ (w.map blank ++ ofText b) := by
  have hblanks : ofText (w ++ b) = w.map blank ++ ofText b := by
    have hcut : Cut (w.map blank ++ []) b := .map_blank_append hw (.nil b)
    rwa [List.append_nil, Cut, flatMap_text_map_blank] at hcut
  have hcut : Cut lexemes (w ++ b) := by
    cases w with
    | nil => exact h
    | cons c w =>
      obtain ⟨hdigit, hpoint⟩ := not_digit_nor_point_of_blank (hw c List.mem_cons_self)
      refine h.of_noDigit (fun d hd => ?_) (fun d more heq => ?_)
      · rw [← Option.some.inj hd]
        exact hdigit
      · exact absurd (List.cons.inj heq).1 hpoint
  rw [Cut] at hcut
  rw [List.append_assoc, hcut, hblanks]

end Lexeme

/-! ### Scans and runs -/

namespace Scan

/-- White space between two lexemes moves what stands behind it. -/
private theorem ofText_insert {lexemes : List Lexeme} {a b w : List Char} (ha : lexemes.flatMap Lexeme.text = a)
    (h : Lexeme.Cut lexemes b) (hw : ∀ c ∈ w, c ∈ [' ', '\t', '\r', '\n']) :
    ofText (a ++ w ++ b) = (Relocation.insertion (Text.byteSize a) w).scan (ofText (a ++ b)) := by
  have hinsert := h.ofText_insert hw
  have hvalid := h.valid
  rw [Lexeme.Cut] at h
  rw [ha] at hinsert h
  have hsize : Place.first.offset + Text.byteSize (lexemes.flatMap Lexeme.text) = Text.byteSize a := by
    rw [ha, Place.first, Nat.zero_add]
  have htokens : (ofText (a ++ w ++ b)).tokens =
      (ofText (a ++ b)).tokens.map (Relocation.insertion (Text.byteSize a) w).token := by
    have hmade := Lexeme.made_insert Lexeme.span_of_token? (fun _ _ => rfl)
      (fun t => Relocation.token_insertion_of_lt) (fun x q hq => Lexeme.token?_behind hq w) hvalid
      (Lexeme.ofText b) hsize
    have hend : eofToken (Place.first.behind (a ++ w ++ b)) =
        (Relocation.insertion (Text.byteSize a) w).token (eofToken (Place.first.behind (a ++ b))) := by
      simp [eofToken, Place.first_behind, Span.empty, Relocation.token, Relocation.insertion, Nat.add_assoc,
        Nat.add_comm, Nat.add_left_comm]
    rw [tokens_ofText, tokens_ofText, hinsert, h, hmade, hend, List.map_append, List.map_singleton]
  have hwarnings : (ofText (a ++ w ++ b)).warnings =
      (ofText (a ++ b)).warnings.map (Relocation.insertion (Text.byteSize a) w).warning := by
    rw [warnings_ofText, warnings_ofText, hinsert, h]
    exact Lexeme.made_insert Lexeme.span_of_warning? (fun _ _ => rfl)
      (fun v => Relocation.warning_insertion_of_lt) (fun x q hq => Lexeme.warning?_behind hq w) hvalid
      (Lexeme.ofText b) hsize
  rw [Relocation.scan, ← htokens, ← hwarnings]

end Scan

/-- White space written into a text at a boundary that lies within no number leaves kinds, lexemes, literals and
skipped characters as they are. It moves what starts there or further behind by its bytes and lines, and nothing else,
in the scan and in the result of a run in each mode. Taking it out moves everything back. -/
theorem Report.ofText_insert_whiteSpace {a b w : List Char} (hw : ∀ c ∈ w, c ∈ [' ', '\t', '\r', '\n'])
    (h : ∀ t ∈ (Scan.ofText (a ++ b)).tokens, t.kind = .number →
      ¬ (t.span.start < Text.byteSize a ∧ Text.byteSize a < t.span.stop)) :
    let insertion := Relocation.insertion (Text.byteSize a) w
    let deletion := Relocation.deletion (Text.byteSize a) w
    let contents (t : Token) := (t.kind, t.lexeme, t.literal)
    (Scan.ofText (a ++ w ++ b)).tokens.map contents = (Scan.ofText (a ++ b)).tokens.map contents ∧
    (Scan.ofText (a ++ w ++ b)).warnings.map Warning.char = (Scan.ofText (a ++ b)).warnings.map Warning.char ∧
    Scan.ofText (a ++ w ++ b) = insertion.scan (Scan.ofText (a ++ b)) ∧
    Scan.ofText (a ++ b) = deletion.scan (Scan.ofText (a ++ w ++ b)) ∧
    ∀ settings, (ofText settings (a ++ w ++ b)).result = insertion.result (ofText settings (a ++ b)).result ∧
      (ofText settings (a ++ b)).result = deletion.result (ofText settings (a ++ w ++ b)).result := by
  intro insertion deletion contents
  obtain ⟨lexemes, ha, hcut⟩ := Lexeme.exists_cut h
  have hscan : Scan.ofText (a ++ w ++ b) = insertion.scan (Scan.ofText (a ++ b)) := Scan.ofText_insert ha hcut hw
  have hundoes : deletion.Undoes insertion := Relocation.deletion_undoes_insertion _ _
  refine ⟨?_, ?_, hscan, by rw [hscan, hundoes.scan], fun settings => ?_⟩
  · rw [hscan, Relocation.scan, List.map_map]
    rfl
  · rw [hscan, Relocation.scan, List.map_map]
    rfl
  · have hresult : (ofText settings (a ++ w ++ b)).result = insertion.result (ofText settings (a ++ b)).result := by
      rw [result_ofText, result_ofText, hscan, insertion.outcome_scan]
    exact ⟨hresult, by rw [hresult, hundoes.result]⟩

/-- In `1.2.3` white space can stand in front of the second point, which belongs to no number. -/
theorem Report.ofText_insert_whiteSpace_point :
    let a := ['1', '.', '2']
    let b := ['.', '3']
    let w := [' ', '\n']
    (∀ c ∈ w, c ∈ [' ', '\t', '\r', '\n']) ∧
    (∀ t ∈ (Scan.ofText (a ++ b)).tokens, t.kind = .number →
      ¬ (t.span.start < Text.byteSize a ∧ Text.byteSize a < t.span.stop)) ∧
    (Scan.ofText (a ++ w ++ b)).warnings = [⟨'.', 2, ⟨5, 6⟩⟩] ∧
    ∀ settings, (ofText settings (a ++ w ++ b)).result =
      (Relocation.insertion 3 w).result (ofText settings (a ++ b)).result := by
  intro a b w
  have hw : ∀ c ∈ w, c ∈ [' ', '\t', '\r', '\n'] := by simp [w]
  have hlexemes : Lexeme.ofText (a ++ b) = [.numeral ['1', '.', '2'], .stray '.', .numeral ['3']] := by
    simp [a, b, Lexeme.ofText_cons, Lexeme.first, Lexeme.splitNumeral, Char.isDigit, Lexeme.ofChar, Kind.ofChar?,
      Lexeme.isBlank]
  have hnumber : ∀ t ∈ (Scan.ofText (a ++ b)).tokens, t.kind = .number →
      ¬ (t.span.start < Text.byteSize a ∧ Text.byteSize a < t.span.stop) := by
    rw [Scan.ofText, hlexemes]
    simp [a, Scan.ofLexemes, Lexeme.token?, Lexeme.span, Lexeme.text, Place.first, Place.after, Char.utf8Size,
      Scan.eofToken, Span.empty]
  have hwarnings : (Scan.ofText (a ++ b)).warnings = [⟨'.', 1, ⟨3, 4⟩⟩] := by
    rw [Scan.ofText, hlexemes]
    rfl
  obtain ⟨-, -, hscan, -, hresult⟩ := ofText_insert_whiteSpace hw hnumber
  refine ⟨hw, hnumber, ?_, fun settings => (hresult settings).1⟩
  rw [hscan, Relocation.scan, hwarnings]
  rfl

end Calculator
