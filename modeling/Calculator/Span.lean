import Calculator.Text.Offset

/-!
# Spans

A span is a half-open range of byte offsets. It may be any pair of numbers; `slice?` gives the text it covers if it
lies inside the text and both ends are boundaries.
-/

namespace Calculator

structure Span where
  start : Nat
  stop : Nat
deriving DecidableEq, Repr, Inhabited

namespace Span

/-- The empty span at an offset. -/
def empty (offset : Nat) : Span :=
  ⟨offset, offset⟩

/-- The form in which messages name a span, as in `[2:5]`. -/
def text (s : Span) : String :=
  s!"[{s.start}:{s.stop}]"

/-- The part of a text that a span covers. -/
def slice? (s : Span) (text : List Char) : Option (List Char) :=
  if s.stop < s.start then none
  else (Text.splitAt? text s.stop).bind fun cut => (Text.splitAt? cut.1 s.start).map (·.2)

/-- A span covers `m` exactly if the text is some bytes before its start, then `m` up to its end. -/
theorem slice?_eq_some_iff {s : Span} {text m : List Char} :
    s.slice? text = some m ↔
      ∃ a b, text = a ++ m ++ b ∧ Text.byteSize a = s.start ∧ Text.byteSize (a ++ m) = s.stop := by
  unfold slice?
  constructor
  · intro h
    split at h
    · simp at h
    · obtain ⟨⟨before, b⟩, h₁, h⟩ := Option.bind_eq_some_iff.1 h
      obtain ⟨⟨a, covered⟩, h₂, rfl⟩ := Option.map_eq_some_iff.1 h
      obtain ⟨rfl, hs⟩ := Text.splitAt?_eq_some_iff.1 h₁
      obtain ⟨rfl, ha⟩ := Text.splitAt?_eq_some_iff.1 h₂
      exact ⟨a, b, rfl, ha, hs⟩
  · rintro ⟨a, b, rfl, ha, hs⟩
    have hle : ¬ s.stop < s.start := by rw [Text.byteSize_append] at hs; omega
    have h₁ := (Text.splitAt?_eq_some_iff (b := b)).2 ⟨rfl, hs⟩
    have h₂ := (Text.splitAt?_eq_some_iff (b := m)).2 ⟨rfl, ha⟩
    rw [if_neg hle, h₁, Option.bind_some, h₂, Option.map_some]

end Span

end Calculator
