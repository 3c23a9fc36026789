/-!
# Byte offsets

A text is a list of characters. Places in it are counted in bytes of its UTF-8 encoding, and only those between two
characters, its boundaries, can be cut at. The main statement, `splitAt?_eq_some_iff`, says that `splitAt?` finds the
two halves at a boundary and refuses every other offset.
-/

namespace Calculator.Text

/-- The number of bytes that a text takes in UTF-8. -/
def byteSize (text : List Char) : Nat :=
  text.foldl (fun size c => size + c.utf8Size) 0

private theorem foldl_utf8Size (text : List Char) (n : Nat) :
    text.foldl (fun size c => size + c.utf8Size) n = n + byteSize text := by
  induction text generalizing n with
  | nil => rfl
  | cons c text ih =>
    have h : byteSize (c :: text) = 0 + c.utf8Size + byteSize text := by rw [byteSize, List.foldl_cons, ih]
    rw [List.foldl_cons, ih, h]; omega

@[simp] theorem byteSize_nil : byteSize [] = 0 := rfl

@[simp] theorem byteSize_cons (c : Char) (text : List Char) :
    byteSize (c :: text) = c.utf8Size + byteSize text := by
  rw [byteSize, List.foldl_cons, foldl_utf8Size]; omega

@[simp] theorem byteSize_append (a b : List Char) : byteSize (a ++ b) = byteSize a + byteSize b := by
  rw [byteSize, List.foldl_append, foldl_utf8Size]; rfl

theorem byteSize_pos {text : List Char} (h : text ≠ []) : 0 < byteSize text := by
  cases text with
  | nil => exact absurd rfl h
  | cons c text =>
    have := c.utf8Size_pos
    rw [byteSize_cons]
    omega

/-- The text before a byte offset and the text after it, if the offset is a boundary. -/
def splitAt? (text : List Char) (offset : Nat) : Option (List Char × List Char) :=
  go [] text offset
where
  /-- Moves characters over to `before`, last one first, until no byte is left to skip. -/
  go (before : List Char) : List Char → Nat → Option (List Char × List Char)
    | rest, 0 => some (before.reverse, rest)
    | [], _ + 1 => none
    | c :: rest, n + 1 =>
      if c.utf8Size ≤ n + 1 then go (c :: before) rest (n + 1 - c.utf8Size) else none

private theorem splitAt?_go (text before a b : List Char) (n : Nat) :
    splitAt?.go before text n = some (a, b) ↔ ∃ m, a = before.reverse ++ m ∧ text = m ++ b ∧ byteSize m = n := by
  induction text generalizing before n with
  | nil =>
    cases n with
    | zero =>
      simp only [splitAt?.go, Option.some.injEq, Prod.mk.injEq, List.nil_eq, List.append_eq_nil_iff]
      constructor
      · rintro ⟨rfl, rfl⟩; exact ⟨[], by simp⟩
      · rintro ⟨m, rfl, ⟨rfl, rfl⟩, -⟩; simp
    | succ n =>
      simp only [splitAt?.go, List.nil_eq, List.append_eq_nil_iff, false_iff, reduceCtorEq]
      rintro ⟨m, -, ⟨rfl, -⟩, h⟩
      simp at h
  | cons c text ih =>
    cases n with
    | zero =>
      simp only [splitAt?.go, Option.some.injEq, Prod.mk.injEq]
      constructor
      · rintro ⟨rfl, rfl⟩; exact ⟨[], by simp⟩
      · rintro ⟨m, rfl, h, h0⟩
        cases m with
        | nil => simp_all
        | cons d m => have := d.utf8Size_pos; simp at h0; omega
    | succ n =>
      simp only [splitAt?.go]
      split
      · next hc =>
        rw [ih]
        constructor
        · rintro ⟨m, rfl, rfl, h⟩; exact ⟨c :: m, by simp, by simp, by simp; omega⟩
        · rintro ⟨m, rfl, h, hm⟩
          cases m with
          | nil => simp at hm
          | cons d m =>
            simp only [List.cons_append, List.cons.injEq] at h
            obtain ⟨rfl, rfl⟩ := h
            exact ⟨m, by simp, rfl, by simp at hm; omega⟩
      · next hc =>
        simp only [false_iff, reduceCtorEq]
        rintro ⟨m, -, h, hm⟩
        cases m with
        | nil => simp at hm
        | cons d m =>
          simp only [List.cons_append, List.cons.injEq] at h
          obtain ⟨rfl, -⟩ := h
          simp at hm; omega

/-- An offset splits a text into `a` and `b` exactly if the text is `a` followed by `b` and `a` takes that many
bytes. -/
theorem splitAt?_eq_some_iff {text a b : List Char} {offset : Nat} :
    splitAt? text offset = some (a, b) ↔ text = a ++ b ∧ byteSize a = offset := by
  rw [splitAt?, splitAt?_go]
  constructor
  · rintro ⟨m, rfl, h, hm⟩; exact ⟨by simpa using h, by simpa using hm⟩
  · rintro ⟨h, hm⟩; exact ⟨a, by simp, h, hm⟩

/-- No two boundaries of a text have the same offset. -/
theorem append_inj_of_byteSize {a b a' b' : List Char} (h : a ++ b = a' ++ b') (hsize : byteSize a = byteSize a') :
    a = a' ∧ b = b' := by
  have h₁ : splitAt? (a ++ b) (byteSize a) = some (a, b) := splitAt?_eq_some_iff.2 ⟨rfl, rfl⟩
  have h₂ : splitAt? (a ++ b) (byteSize a) = some (a', b') := splitAt?_eq_some_iff.2 ⟨h, hsize.symm⟩
  rw [h₁, Option.some.injEq, Prod.mk.injEq] at h₂
  exact h₂

end Calculator.Text
