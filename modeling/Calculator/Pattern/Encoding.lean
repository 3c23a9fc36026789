import Calculator.Pattern.Ranges

/-!
# Encoded characters

The UTF-8 forms of the characters of a set as sequences of ranges of bytes, and the tree in which sequences that begin
alike share their beginning. A node of the tree is what is left of the sequences that lead through it.
-/

namespace Calculator.Pattern

/-- Ranges of bytes, one for each byte of a character. -/
abbrev ByteRanges : Type :=
  List (Nat × Nat)

namespace ByteRanges

/-- The number of values of `n` bytes behind the first one of a character. -/
def values : Nat → Nat
  | 0 => 1
  | n + 1 => 64 * values n

/-- All values of `n` bytes behind the first one of a character. -/
def full (n : Nat) : ByteRanges :=
  List.replicate n (0x80, 0xBF)

/-- The sequences for the numbers between two, of a byte that starts at `mark` and `n` more. Numbers that share a byte
only with some of those that it begins have sequences of their own. -/
def ofNumbers (mark : Nat) : Nat → Nat → Nat → List ByteRanges
  | 0, first, last => [[(mark + first, mark + last)]]
  | n + 1, first, last =>
    let size := values (n + 1)
    let low := first / size
    let high := last / size
    let under (byte first last : Nat) := (ofNumbers 0x80 n first last).map ((mark + byte, mark + byte) :: ·)
    if low = high then under low (first % size) (last % size)
    else
      let wholeLow := if first % size = 0 then low else low + 1
      let wholeHigh := if last % size = size - 1 then high else high - 1
      (if wholeLow = low then [] else under low (first % size) (size - 1)) ++
        (if wholeLow ≤ wholeHigh then [(mark + wholeLow, mark + wholeHigh) :: full (n + 1)] else []) ++
        if wholeHigh = high then [] else under high 0 (last % size)

/-- The first and the last code points of the forms of characters, with the mark of the first byte and the number of
bytes behind it. -/
def forms : List (Nat × Nat × Nat × Nat) :=
  [(0x0000, 0x007F, 0x00, 0), (0x0080, 0x07FF, 0xC0, 1), (0x0800, 0xD7FF, 0xE0, 2), (0xE000, 0xFFFF, 0xE0, 2),
    (0x10000, 0x10FFFF, 0xF0, 3)]

/-- The sequences for the characters of a set, in order. -/
def ofRanges (ranges : Ranges) : List ByteRanges :=
  ranges.flatMap fun range => forms.flatMap fun (first, last, mark, n) =>
    if max range.1 first ≤ min range.2 last then ofNumbers mark n (max range.1 first) (min range.2 last) else []

/-- The nodes below a node, one for each range that sequences there begin with. -/
def below (node : List ByteRanges) : List (List ByteRanges) :=
  (node.splitBy fun a b => a.head? = b.head?).map fun row => row.map (·.tail)

/-- The nodes of a tree that is at most `n` bytes deep, without its leaves. -/
def nodes : Nat → List ByteRanges → List (List ByteRanges)
  | 0, _ => []
  | n + 1, node => if node.all (·.isEmpty) then [] else node :: (below node).flatMap (nodes n)

/-- The most bytes that a character has. -/
def maxBytes : Nat :=
  4

/-- The nodes of the tree of some sequences, without its leaves. -/
def tree (sequences : List ByteRanges) : List (List ByteRanges) :=
  nodes maxBytes sequences

end ByteRanges

end Calculator.Pattern
