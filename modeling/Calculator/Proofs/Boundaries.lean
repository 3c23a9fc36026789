import Mathlib.Data.List.Induction
import Calculator.Proofs.Rows

/-!
# Rows and columns identify boundaries

A position stands for the boundary behind whole lines and some characters of one more line. The main statement,
`charted`, says that positions increase along a text, that a boundary can be read back from its row and column, and
that offsets that are no boundaries have the position of the end of the text. Reading back comes from writing the text
in front of the boundary as lines (`exists_lines`), which are also lines of the whole text (`splitOn_ofLines_append`).
-/

namespace Calculator

namespace Text

/-! ### Boundaries -/

/-- A text can be cut at an offset. -/
def IsBoundary (text : List Char) (offset : Nat) : Prop :=
  ∃ a b, text = a ++ b ∧ byteSize a = offset

/-- An offset lies past the end of a text, or inside one of its characters. -/
def IsMissed (text : List Char) (offset : Nat) : Prop :=
  byteSize text < offset ∨
    ∃ a c b, text = a ++ c :: b ∧ byteSize a < offset ∧ offset < byteSize (a ++ [c])

private theorem isBoundary_cons {c : Char} {text : List Char} {offset : Nat} (h : IsBoundary text offset) :
    IsBoundary (c :: text) (c.utf8Size + offset) := by
  obtain ⟨a, b, rfl, rfl⟩ := h
  exact ⟨c :: a, b, rfl, byteSize_cons c a⟩

private theorem isMissed_cons {c : Char} {text : List Char} {offset : Nat} (h : IsMissed text offset) :
    IsMissed (c :: text) (c.utf8Size + offset) := by
  rcases h with h | ⟨a, d, b, rfl, hstart, hstop⟩
  · refine .inl ?_
    rw [byteSize_cons]
    omega
  · refine .inr ⟨c :: a, d, b, rfl, ?_, ?_⟩
    · rw [byteSize_cons]
      omega
    · rw [List.cons_append, byteSize_cons]
      omega

/-- There is no third kind of offset. -/
private theorem isBoundary_or_isMissed (text : List Char) (offset : Nat) :
    IsBoundary text offset ∨ IsMissed text offset := by
  induction text generalizing offset with
  | nil =>
    rcases Nat.eq_zero_or_pos offset with rfl | hpos
    · exact .inl ⟨[], [], rfl, rfl⟩
    · exact .inr (.inl hpos)
  | cons c text ih =>
    rcases Nat.eq_zero_or_pos offset with rfl | hpos
    · exact .inl ⟨[], c :: text, rfl, rfl⟩
    · by_cases hc : offset < c.utf8Size
      · exact .inr (.inr ⟨[], c, text, rfl, hpos, by simpa using hc⟩)
      · obtain ⟨rest, rfl⟩ : ∃ rest, offset = c.utf8Size + rest := ⟨offset - c.utf8Size, by omega⟩
        exact (ih rest).imp isBoundary_cons isMissed_cons

private theorem IsMissed.not_isBoundary {text : List Char} {offset : Nat} (h : IsMissed text offset) :
    ¬ IsBoundary text offset := by
  rintro ⟨a, b, htext, rfl⟩
  rcases h with h | ⟨u, c, v, hcut, hstart, hstop⟩
  · rw [htext, byteSize_append] at h
    omega
  · -- `a` would lie between `u` and `u` with one more character
    rw [htext] at hcut
    obtain ⟨m, rfl⟩ := prefix_of_byteSize_le hcut.symm (Nat.le_of_lt hstart)
    rw [List.append_assoc, List.append_cancel_left_eq] at hcut
    cases m with
    | nil => simp at hstart
    | cons d m =>
      rw [List.cons_append, List.cons.injEq] at hcut
      simp only [byteSize_append, byteSize_cons, byteSize_nil, hcut.1] at hstop
      omega

/-! ### Lines -/

/-- Lines one after the other, each with a line feed behind it. -/
def ofLines (lines : List (List Char)) : List Char :=
  lines.flatMap (· ++ ['\n'])

private theorem ofLines_append (lines lines' : List (List Char)) :
    ofLines (lines ++ lines') = ofLines lines ++ ofLines lines' :=
  List.flatMap_append

/-- A text is some lines with their line feeds and the start of one more line, and the position behind it counts
them. -/
theorem exists_lines (text : List Char) :
    ∃ lines last, text = ofLines lines ++ last ∧ (∀ line ∈ lines, '\n' ∉ line) ∧ '\n' ∉ last ∧
      Position.behind text = ⟨lines.length + 1, last.length + 1⟩ := by
  induction text using List.reverseRecOn with
  | nil => exact ⟨[], [], rfl, List.forall_mem_nil _, List.not_mem_nil, rfl⟩
  | append_singleton text c ih =>
    obtain ⟨lines, last, htext, hlines, hlast, hbehind⟩ := ih
    have hnext : Position.behind (text ++ [c]) = (Position.behind text).next c := Position.behind_append text [c]
    rw [hbehind, Position.next] at hnext
    by_cases hc : c = '\n'
    · refine ⟨lines ++ [last], [], ?_, ?_, List.not_mem_nil, ?_⟩
      · rw [htext, ofLines_append, hc]
        simp [ofLines]
      · exact List.forall_mem_append.2 ⟨hlines, List.forall_mem_singleton.2 hlast⟩
      · rw [hnext, if_pos hc, List.length_append]
        rfl
    · refine ⟨lines, last ++ [c], ?_, hlines, ?_, ?_⟩
      · rw [htext, List.append_assoc]
      · simp [hlast, Ne.symm hc]
      · rw [hnext, if_neg hc, List.length_append]
        rfl

/-- Cutting a text at its line feeds gives back the lines that it starts with. -/
theorem splitOn_ofLines_append {lines : List (List Char)} (h : ∀ line ∈ lines, '\n' ∉ line) (rest : List Char) :
    (ofLines lines ++ rest).splitOn '\n' = lines ++ rest.splitOn '\n' := by
  induction lines with
  | nil => rfl
  | cons line lines ih =>
    rw [List.forall_mem_cons] at h
    have htext : ofLines (line :: lines) ++ rest = line ++ '\n' :: (ofLines lines ++ rest) := by simp [ofLines]
    rw [htext, List.splitOn_append_cons_self_of_not_mem h.1, ih h.2, List.cons_append]

/-- Text without line feeds belongs to the first line of what comes behind it. -/
private theorem exists_splitOn_append {a : List Char} (h : '\n' ∉ a) (b : List Char) :
    ∃ line lines, (a ++ b).splitOn '\n' = (a ++ line) :: lines := by
  induction a with
  | nil => exact List.exists_cons_of_ne_nil (List.splitOn_ne_nil '\n' b)
  | cons c a ih =>
    rw [List.mem_cons, not_or] at h
    obtain ⟨line, lines, hsplit⟩ := ih h.2
    have hc : (c == '\n') = false := beq_eq_false_iff_ne.2 (Ne.symm h.1)
    refine ⟨line, lines, ?_⟩
    rw [List.cons_append, List.splitOn_cons_eq_if_modifyHead, hc, if_neg Bool.false_ne_true, hsplit]
    rfl

end Text

namespace Position

/-- What stands in front of a position in a text: the lines of the rows before it, with their line feeds, and as many
characters of its own line as there are columns before it. -/
def before? (p : Position) (text : List Char) : Option (List Char) :=
  let lines := text.splitOn '\n'
  match lines[p.row - 1]? with
  | none => none
  | some line =>
    if p.column - 1 ≤ line.length then
      some (Text.ofLines (lines.take (p.row - 1)) ++ line.take (p.column - 1))
    else none

/-- The text in front of a boundary can be read back from its position. -/
private theorem before?_behind (a b : List Char) : (behind a).before? (a ++ b) = some a := by
  obtain ⟨lines, last, rfl, hlines, hlast, hbehind⟩ := Text.exists_lines a
  obtain ⟨line, more, hsplit⟩ := Text.exists_splitOn_append hlast b
  have hall : (Text.ofLines lines ++ last ++ b).splitOn '\n' = lines ++ (last ++ line) :: more := by
    rw [List.append_assoc, Text.splitOn_ofLines_append hlines, hsplit]
  rw [before?, hbehind, hall]
  simp

end Position

/-! ### Positions of spans -/

namespace Text

/-- Rows and columns tell apart the places of a text. -/
structure Charted (text : List Char) : Prop where
  /-- Of two boundaries the first one has the smaller row, or the same row and the smaller column. -/
  increasing : ∀ s t : Span, IsBoundary text s.start → IsBoundary text t.start → s.start < t.start →
    (s.position text).row < (t.position text).row ∨
      (s.position text).row = (t.position text).row ∧ (s.position text).column < (t.position text).column
  /-- Different boundaries have different positions. -/
  distinct : ∀ s t : Span, IsBoundary text s.start → IsBoundary text t.start →
    s.position text = t.position text → s.start = t.start
  /-- Rows and columns count from one, and what they count out of the lines of the text is what stands in front of the
  boundary. -/
  recovered : ∀ (s : Span) (a b : List Char), text = a ++ b → byteSize a = s.start →
    1 ≤ (s.position text).row ∧ 1 ≤ (s.position text).column ∧ (s.position text).before? text = some a
  /-- Every offset is a boundary, or past the end, or inside a character. -/
  boundaries : ∀ offset, IsBoundary text offset ↔ ¬ IsMissed text offset
  /-- Past the end or inside a character the position is that of the end. -/
  missed : ∀ s : Span, IsMissed text s.start → s.position text = (Span.empty (byteSize text)).position text
  /-- Only the start of a span has a say. -/
  stop : ∀ s t : Span, s.start = t.start → s.position text = t.position text

variable {text : List Char}

private theorem isBoundary_iff_not_isMissed {offset : Nat} : IsBoundary text offset ↔ ¬ IsMissed text offset :=
  ⟨fun h hmissed => hmissed.not_isBoundary h, (isBoundary_or_isMissed text offset).resolve_right⟩

private theorem before_of_start_lt {s t : Span} (hs : IsBoundary text s.start) (ht : IsBoundary text t.start)
    (h : s.start < t.start) : (s.position text).Before (t.position text) := by
  obtain ⟨a, b, htext, ha⟩ := hs
  obtain ⟨a', b', htext', ha'⟩ := ht
  rw [Span.position_eq_behind htext ha, Span.position_eq_behind htext' ha']
  have hle : byteSize a ≤ byteSize a' := by omega
  obtain ⟨m, rfl⟩ := prefix_of_byteSize_le (htext.symm.trans htext') hle
  refine Position.before_behind_append a ?_
  rintro rfl
  rw [List.append_nil] at ha'
  omega

private theorem position_of_isMissed {s : Span} (h : IsMissed text s.start) :
    s.position text = (Span.empty (byteSize text)).position text := by
  have hcut : splitAt? text s.start = none := by
    rw [Option.eq_none_iff_forall_ne_some]
    rintro ⟨a, b⟩ hcut
    obtain ⟨htext, ha⟩ := splitAt?_eq_some_iff.1 hcut
    exact h.not_isBoundary ⟨a, b, htext, ha⟩
  have hend : (Span.empty (byteSize text)).position text = .behind text :=
    Span.position_eq_behind (List.append_nil text).symm rfl
  rw [hend, Span.position, hcut]

/-- The positions of a text increase along its boundaries, and each boundary can be read back from its row and column.
Offsets that are no boundaries have the position of the end. -/
theorem charted (text : List Char) : Charted text where
  increasing s t hs ht h := before_of_start_lt hs ht h
  distinct s t hs ht h := by
    rcases Nat.lt_trichotomy s.start t.start with hlt | heq | hgt
    · exact absurd h (before_of_start_lt hs ht hlt).ne
    · exact heq
    · exact absurd h.symm (before_of_start_lt ht hs hgt).ne
  recovered s a b htext ha := by
    rw [Span.position_eq_behind htext ha]
    refine ⟨?_, ?_, ?_⟩
    · rw [Position.row_behind]
      omega
    · rw [(Position.points_behind a).column]
      omega
    · rw [htext, Position.before?_behind]
  boundaries offset := isBoundary_iff_not_isMissed
  missed s h := position_of_isMissed h
  stop s t h := by rw [Span.position, Span.position, h]

-- An offset inside a character is taken for the end.
example :
    Span.position ⟨4, 5⟩ ['a', '\n', 'é', 'x'] = ⟨2, 2⟩ ∧ Span.position ⟨3, 5⟩ ['a', '\n', 'é', 'x'] = ⟨2, 3⟩ := by
  decide

end Text

end Calculator
