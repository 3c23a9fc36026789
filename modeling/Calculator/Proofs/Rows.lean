import Calculator.Proofs.Lossless

/-!
# Rows, columns and lines

A position can be read off the text in front of it: the row from the number of line feeds, the column from what is
behind the last of them (`points_behind`). Positions increase from one boundary of a text to the next
(`before_behind_append`).

A scan counts lines on its way, whenever it reads a line feed. The main statement, `lines_ofText`, says that the line of
a token or a warning is nevertheless the row of its span: nothing but white space has a line feed.
-/

namespace Calculator

/-- Of two boundaries of a text, the one with the smaller offset comes first. -/
theorem Text.prefix_of_byteSize_le {a b a' b' : List Char} (h : a ++ b = a' ++ b') (hsize : byteSize a ≤ byteSize a') :
    a <+: a' := by
  rcases List.append_eq_append_iff.1 h with ⟨w, rfl, -⟩ | ⟨w, rfl, -⟩
  · exact List.prefix_append a w
  · have hw : w = [] := by
      apply Classical.byContradiction
      intro hne
      have hpos := byteSize_pos hne
      rw [byteSize_append] at hsize
      omega
    exact ⟨[], by rw [hw, List.append_nil, List.append_nil]⟩

namespace Position

/-- The position behind a text: its row is one more than the number of line feeds in the text, and its column one more
than the number of characters behind the last of them. -/
structure Points (p : Position) (before : List Char) : Prop where
  row : p.row = 1 + before.count '\n'
  column : p.column = 1 + (before.reverse.takeWhile (· ≠ '\n')).length

/-- One place comes before another: in an earlier row, or in the same row in an earlier column. -/
def Before (p q : Position) : Prop :=
  p.row < q.row ∨ p.row = q.row ∧ p.column < q.column

private theorem points_behind_reverse (text : List Char) : (behind text.reverse).Points text.reverse := by
  induction text with
  | nil => exact ⟨rfl, rfl⟩
  | cons c text ih =>
    have hnext : behind (c :: text).reverse = (behind text.reverse).next c := by
      rw [List.reverse_cons, behind_append]
      rfl
    rw [hnext, next]
    by_cases hc : c = '\n'
    · rw [if_pos hc]
      constructor
      · simp [ih.row, hc, Nat.add_assoc]
      · simp [hc]
    · rw [if_neg hc]
      constructor
      · simp [ih.row, hc]
      · have hcolumn := ih.column
        rw [List.reverse_reverse] at hcolumn
        simp [hcolumn, hc, Nat.add_comm]

/-- The position behind a text can be read off the text. -/
theorem points_behind (text : List Char) : (behind text).Points text := by
  have h := points_behind_reverse text.reverse
  rwa [List.reverse_reverse] at h

theorem row_behind (text : List Char) : (behind text).row = 1 + text.count '\n' :=
  (points_behind text).row

private theorem before_next (p : Position) (c : Char) : p.Before (p.next c) := by
  unfold next
  split
  · exact .inl (Nat.lt_succ_self _)
  · exact .inr ⟨rfl, Nat.lt_succ_self _⟩

private theorem Before.trans {p q r : Position} (hpq : p.Before q) (hqr : q.Before r) : p.Before r := by
  unfold Before at *
  omega

theorem Before.ne {p q : Position} (h : p.Before q) : p ≠ q := by
  rintro rfl
  unfold Before at h
  omega

private theorem before_foldl_next (p : Position) (c : Char) (text : List Char) :
    p.Before ((c :: text).foldl next p) := by
  induction text generalizing p c with
  | nil => exact before_next p c
  | cons d text ih => exact (before_next p c).trans (ih (p.next c) d)

/-- Going on in a text, one comes to later positions only. -/
theorem before_behind_append (a : List Char) {m : List Char} (hm : m ≠ []) :
    (behind a).Before (behind (a ++ m)) := by
  obtain ⟨c, text, rfl⟩ := List.exists_cons_of_ne_nil hm
  rw [behind_append]
  exact before_foldl_next _ c text

end Position

namespace Span

variable {s : Span} {text a b : List Char}

/-- A span that starts at a boundary has the position of the text before it. -/
theorem position_eq_behind (htext : text = a ++ b) (hstart : Text.byteSize a = s.start) :
    s.position text = .behind a := by
  have hcut := Text.splitAt?_eq_some_iff.2 ⟨htext, hstart⟩
  simp only [position, hcut]

/-- A span lies within a line of a text: the line has a number that is one more than the line feeds in front of the
span, it is the row of both ends of the span, and the span has no line feed. -/
structure LiesOn (s : Span) (text : List Char) (line : Nat) : Prop where
  counted : ∃ a m b, text = a ++ m ++ b ∧ Text.byteSize a = s.start ∧ Text.byteSize (a ++ m) = s.stop ∧
    line = 1 + a.count '\n' ∧ '\n' ∉ m
  start : (s.position text).row = line
  stop : ((empty s.stop).position text).row = line

private theorem liesOn_of_append {m : List Char} (hstart : Text.byteSize a = s.start)
    (hstop : Text.byteSize (a ++ m) = s.stop) (hm : '\n' ∉ m) : s.LiesOn (a ++ m ++ b) (1 + a.count '\n') where
  counted := ⟨a, m, b, rfl, hstart, hstop, rfl, hm⟩
  start := by
    have htext : a ++ m ++ b = a ++ (m ++ b) := List.append_assoc a m b
    rw [position_eq_behind htext hstart, Position.row_behind]
  stop := by
    have hnone : m.count '\n' = 0 := List.count_eq_zero.2 hm
    rw [position_eq_behind (s := empty s.stop) rfl hstop, Position.row_behind, List.count_append, hnone]
    rfl

end Span

namespace Lexeme

/-- A line feed in a lexeme makes it a blank, which makes nothing. -/
private theorem newline_not_mem_of_made {x : Lexeme} (hx : x.Valid) (h : ∀ c, x ≠ blank c) : '\n' ∉ x.text := by
  intro hmem
  cases hx with
  | numeral isNumeral =>
    have hc := isDigit_or_eq_point_of_mem isNumeral hmem
    revert hc
    decide
  | mark isMark =>
    rw [← List.mem_singleton.1 hmem] at isMark
    cases isMark
  | @blank c _ => exact h c rfl
  | stray _ _ notBlank =>
    rw [← List.mem_singleton.1 hmem] at notBlank
    exact notBlank (by decide)

end Lexeme

namespace Scan

open Lexeme (Stands)

variable {text : List Char}

private theorem liesOn_of_stands {a b : List Char} {x : Lexeme} (h : Stands text a x b) (hx : ∀ c, x ≠ .blank c) :
    (x.span (Place.first.behind a)).LiesOn text (Place.first.behind a).line := by
  rw [h.eq_append, Place.first_behind]
  exact Span.liesOn_of_append rfl (Text.byteSize_append a x.text) (Lexeme.newline_not_mem_of_made h.valid hx)

private theorem liesOn_of_mem_tokens {t : Token} (h : t ∈ (ofText text).tokens) : t.span.LiesOn text t.line := by
  rcases mem_tokens_ofText.1 h with ⟨a, x, b, hstands, hx⟩ | rfl
  · have hline : t.line = (Place.first.behind a).line := by
      cases x <;> simp only [Lexeme.token?, Option.some.injEq, reduceCtorEq] at hx <;> rw [← hx]
    rw [Lexeme.span_of_token? x _ t hx, hline]
    refine liesOn_of_stands hstands ?_
    rintro c rfl
    cases hx
  · have hsize : Text.byteSize (text ++ []) = Text.byteSize text := by rw [List.append_nil]
    have heof := Span.liesOn_of_append (s := .empty (Text.byteSize text)) (b := []) rfl hsize List.not_mem_nil
    rw [List.append_nil, List.append_nil] at heof
    rwa [eofToken, Place.first_behind]

private theorem liesOn_of_mem_warnings {w : Warning} (h : w ∈ (ofText text).warnings) : w.span.LiesOn text w.line := by
  obtain ⟨a, x, b, hstands, hx⟩ := mem_warnings_ofText.1 h
  have hline : w.line = (Place.first.behind a).line := by
    cases x <;> simp only [Lexeme.warning?, Option.some.injEq, reduceCtorEq] at hx
    rw [← hx]
  rw [Lexeme.span_of_warning? x _ w hx, hline]
  refine liesOn_of_stands hstands ?_
  rintro c rfl
  cases hx

/-- Of two spans that start one after the other, the second one lies on no earlier line. -/
private theorem line_le_of_before {s t : Span} {l m : Nat} (hs : s.LiesOn text l) (ht : t.LiesOn text m)
    (h : s.Before t) : l ≤ m := by
  obtain ⟨a, v, b, htext, hstart, -, rfl, -⟩ := hs.counted
  obtain ⟨a', v', b', htext', hstart', -, rfl, -⟩ := ht.counted
  have hsize : Text.byteSize a ≤ Text.byteSize a' := by
    have hlt := h.1
    omega
  rw [htext, List.append_assoc, List.append_assoc] at htext'
  obtain ⟨w, rfl⟩ := Text.prefix_of_byteSize_le htext' hsize
  rw [List.count_append]
  omega

/-- Scanning by offsets, which counts a line feed when it reads one, gives every token and every warning the line that
is the row of its span, from its start to its end. Lines do not decrease along the tokens or along the warnings. -/
theorem lines_ofText (text : List Char) :
    Scanner.scan? text = some (ofText text) ∧
    (∀ t ∈ (ofText text).tokens, t.span.LiesOn text t.line) ∧
    (∀ w ∈ (ofText text).warnings, w.span.LiesOn text w.line) ∧
    (ofText text).tokens.Pairwise (fun t u => t.line ≤ u.line) ∧
    (ofText text).warnings.Pairwise (fun v w => v.line ≤ w.line) := by
  have hlossless := lossless_tokens_warnings text
  refine ⟨Scanner.scan?_eq_ofText text, fun t => liesOn_of_mem_tokens, fun w => liesOn_of_mem_warnings, ?_, ?_⟩
  · refine hlossless.tokensInOrder.imp_of_mem fun ht hu h => ?_
    exact line_le_of_before (liesOn_of_mem_tokens ht) (liesOn_of_mem_tokens hu) h
  · refine hlossless.warningsInOrder.imp_of_mem fun hv hw h => ?_
    exact line_le_of_before (liesOn_of_mem_warnings hv) (liesOn_of_mem_warnings hw) h

end Scan

end Calculator
