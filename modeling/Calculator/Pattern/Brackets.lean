import Calculator.Pattern.Escape

/-!
# Classes between brackets

Reading a class such as `[a-z_]`: characters, ranges, named classes, classes within the class, and operations on what
stands before and behind them.
-/

namespace Calculator.Pattern

/-- The classes of ASCII characters that have a name. -/
def namedRanges? (name : List Char) : Option (List (Nat × Nat)) :=
  match String.ofList name with
  | "alnum" => some [(0x30, 0x39), (0x41, 0x5A), (0x61, 0x7A)]
  | "alpha" => some [(0x41, 0x5A), (0x61, 0x7A)]
  | "ascii" => some [(0x00, 0x7F)]
  | "blank" => some [(0x09, 0x09), (0x20, 0x20)]
  | "cntrl" => some [(0x00, 0x1F), (0x7F, 0x7F)]
  | "digit" => some [(0x30, 0x39)]
  | "graph" => some [(0x21, 0x7E)]
  | "lower" => some [(0x61, 0x7A)]
  | "print" => some [(0x20, 0x7E)]
  | "punct" => some [(0x21, 0x2F), (0x3A, 0x40), (0x5B, 0x60), (0x7B, 0x7E)]
  | "space" => some [(0x09, 0x0D), (0x20, 0x20)]
  | "upper" => some [(0x41, 0x5A)]
  | "word" => some [(0x30, 0x39), (0x41, 0x5A), (0x5F, 0x5F), (0x61, 0x7A)]
  | "xdigit" => some [(0x30, 0x39), (0x41, 0x46), (0x61, 0x66)]
  | _ => none

/-- Items that stand side by side in a class, last one first, and their extent. -/
structure Row where
  extent : Extent
  items : List ClassItem

namespace Row

/-- The row without items at a position. -/
def empty (p : Position) : Row :=
  ⟨.empty p, []⟩

/-- Adds an item at the end. -/
def push (row : Row) (item : ClassItem) : Row where
  extent := ⟨if row.items.isEmpty then item.extent.start else row.extent.start, item.extent.stop⟩
  items := item :: row.items

/-- The row as one item. -/
def item (row : Row) : ClassItem :=
  match row.items with
  | [] => .nothing row.extent
  | [item] => item
  | items => .union row.extent items.reverse

end Row

/-- What is unfinished around the row under way: a class, with the row that it stands in and the extent of its start,
or an operation that waits for its right side. -/
inductive ClassFrame
  | opened (outer : Row) (extent : Extent) (negated : Bool)
  | operation (op : ClassOperation) (left : ClassItem)

namespace ClassFrame

/-- Carries out the operation that waits for an item, if one does. -/
def complete (right : ClassItem) : List ClassFrame → ClassItem × List ClassFrame
  | operation op left :: frames => (.operation op left right, frames)
  | frames => (right, frames)

/-- The start of the innermost class that is not closed. -/
def innermost (otherwise : Extent) : List ClassFrame → Extent
  | [] => otherwise
  | opened _ extent _ :: _ => extent
  | operation _ _ :: frames => innermost otherwise frames

end ClassFrame

namespace Reader

/-- A class such as `[:alpha:]` within a class; the reader stands at its bracket. Anything else is no such class. -/
def namedClass? (r : Reader) : Option (ClassItem × Reader) :=
  let colon := r.bump
  if !colon.sees ':' || colon.bump.atEnd then none
  else
    let negated := colon.bump.sees '^'
    let start := if negated then colon.bump.bump else colon.bump
    let (name, stop) := collect bump (· ≠ ':') start
    match namedRanges? name, stop.after? ":]" with
    | some ranges, some behind => some (.named (behind.since r.position) ranges negated, behind)
    | _, _ => none

/-- Dashes at the start of a class, which stand for themselves. -/
def dashes (start : Position) : Nat → Row → Reader → Except Fault (Row × Reader)
  | 0, row, r => .ok (row, r)
  | n + 1, row, r =>
    if r.sees '-' then
      if r.step.atEnd then fault .classUnclosed (.empty start)
      else dashes start n (row.push (.literal ⟨r.hereChar, '-', false⟩)) r.step
    else .ok (row, r)

/-- The start of a class: its bracket, a caret that negates it, and dashes or a closing bracket that stand for
themselves. The frame is that of a class within a row. -/
def openClass (outer : Row) (r : Reader) : Except Fault (ClassFrame × Row × Reader) := do
  let start := r.position
  let inner := r.step
  if inner.atEnd then fault .classUnclosed (inner.since start)
  let negated := inner.sees '^'
  let inner := if negated then inner.step else inner
  if inner.atEnd then fault .classUnclosed (inner.since start)
  let (row, inner) ← inner.dashes start inner.rest.length (.empty inner.position)
  if row.items.isEmpty && inner.sees ']' then
    let row := row.push (.literal ⟨inner.hereChar, ']', false⟩)
    let inner := inner.step
    if inner.atEnd then fault .classUnclosed (inner.since start)
    return (.opened outer (inner.since start) negated, row, inner)
  else return (.opened outer (inner.since start) negated, row, inner)

/-- A single item, or a range if a dash follows that is not itself part of an end or of an operation. -/
def classRange (unclosed : Extent) (c : Char) (r : Reader) : Except Fault (ClassItem × Reader) := do
  let (first, r) ← r.classPrimitive c
  let r := r.space
  if r.atEnd then fault .classUnclosed unclosed
  if !r.sees '-' || r.peekBehindSpace? = some ']' || r.peekBehindSpace? = some '-' then
    return (← first.classItem, r)
  let r := r.step
  match r.rest with
  | [] => fault .classUnclosed unclosed
  | c :: _ =>
    let (last, r) ← r.classPrimitive c
    let start ← first.rangeEnd
    let stop ← last.rangeEnd
    if stop.char < start.char then fault .classRangeReversed ⟨start.extent.start, stop.extent.stop⟩
    return (.range start stop, r)

/-- The operation whose sign, a character twice, comes next. -/
def classOperation? (r : Reader) : Option ClassOperation :=
  match r.rest with
  | '&' :: '&' :: _ => some .intersection
  | '-' :: '-' :: _ => some .difference
  | '~' :: '~' :: _ => some .symmetricDifference
  | _ => none

/-- Reads on in the row under way within some frames, until the outermost class is closed. -/
def classRest (otherwise : Extent) :
    Nat → List ClassFrame → Row → Reader → Except Fault (Phrase × Reader)
  | 0, frames, _, _ => fault .classUnclosed (ClassFrame.innermost otherwise frames)
  | n + 1, frames, row, r => do
    let r := r.space
    let unclosed := ClassFrame.innermost otherwise frames
    match r.rest with
    | [] => fault .classUnclosed unclosed
    | '[' :: _ =>
      match r.namedClass? with
      | some (item, r) => classRest otherwise n frames (row.push item) r
      | none =>
        let (frame, row, r) ← r.openClass row
        classRest otherwise n (frame :: frames) row r
    | ']' :: _ =>
      let (item, frames) := ClassFrame.complete row.item frames
      match frames with
      | .opened outer extent negated :: frames =>
        let extent := ⟨extent.start, r.bump.position⟩
        if frames.isEmpty then return (.bracketed extent negated item, r.bump)
        else classRest otherwise n frames (outer.push (.bracketed extent negated item)) r.bump
      | _ => fault .classUnclosed unclosed
    | c :: _ =>
      match r.classOperation? with
      | some op =>
        let (left, frames) := ClassFrame.complete row.item frames
        let r := r.bumpBy 2
        classRest otherwise n (.operation op left :: frames) (.empty r.position) r
      | none =>
        let (item, r) ← r.classRange unclosed c
        classRest otherwise n frames (row.push item) r

/-- A class between brackets; the reader stands at the opening one. -/
def bracketed (r : Reader) : Except Fault (Phrase × Reader) := do
  let (frame, row, inner) ← r.openClass (.empty r.position)
  inner.classRest r.hereChar (inner.rest.length + 1) [frame] row

end Reader

end Calculator.Pattern
