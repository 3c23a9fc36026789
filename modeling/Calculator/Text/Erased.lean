import Calculator.Text.Cluster
import Calculator.Text.Offset

/-!
# Erased text

A backspace in a line takes away the cluster before it. How many bytes a cluster has is remembered in one byte, so of a
cluster with 256 bytes or more only the remainder of the size is taken away; this fails if it cuts a character. The
main statement is `erased?_of_not_mem`, that a text without backspaces stays as it is.
-/

namespace Calculator.Text

namespace Erased

/-- What is left of a line so far, last character first, and the remembered sizes of its clusters, last one first. -/
structure Rest where
  text : List Char
  sizes : List Nat
deriving DecidableEq, Repr

/-- The number of values of a byte. -/
def byteValues : Nat :=
  256

/-- Takes account of a cluster. -/
def next (r : Rest) (cluster : List Char) : Option Rest :=
  if cluster = ['\x08'] then
    match r.sizes with
    | [] => some r
    | size :: sizes => (splitAt? r.text size).map fun cut => ⟨cut.2, sizes⟩
  else some ⟨cluster.reverse ++ r.text, byteSize cluster % byteValues :: r.sizes⟩

private theorem foldlM_next {clusters : List (List Char)} (h : '\x08' ∉ clusters.flatten) (r : Rest) :
    (clusters.foldlM next r).map (·.text.reverse) = some (r.text.reverse ++ clusters.flatten) := by
  induction clusters generalizing r with
  | nil => simp
  | cons cluster rest ih =>
    simp only [List.flatten_cons, List.mem_append, not_or] at h
    have hc : cluster ≠ ['\x08'] := by
      rintro rfl
      simp at h
    rw [List.foldlM_cons, next, if_neg hc]
    simpa using ih h.2 ⟨cluster.reverse ++ r.text, byteSize cluster % byteValues :: r.sizes⟩

end Erased

/-- The text that is left when all backspaces of a line have done their work. -/
def erased? (text : List Char) : Option (List Char) :=
  ((clusters text).foldlM Erased.next ⟨[], []⟩).map (·.text.reverse)

/-- A text without backspaces stays as it is. -/
theorem erased?_of_not_mem {text : List Char} (h : '\x08' ∉ text) : erased? text = some text := by
  rw [← flatten_clusters text] at h
  rw [erased?, Erased.foldlM_next h]
  simp [flatten_clusters]

end Calculator.Text
