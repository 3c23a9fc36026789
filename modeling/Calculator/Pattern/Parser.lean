import Calculator.Pattern.Brackets

/-!
# Reading patterns

Reading the text of a pattern from left to right, with the groups that are open and their alternatives on a stack. The
first fault that is met is the one reported; that a pattern is nested too deep is found only when all of it is read.
-/

namespace Calculator.Pattern

/-- Phrases one behind the other, last one first, and where they start. -/
structure Sequence where
  start : Position
  parts : List Phrase

namespace Sequence

def push (s : Sequence) (p : Phrase) : Sequence :=
  { s with parts := p :: s.parts }

/-- The sequence as one phrase that ends at a position. -/
def phrase (s : Sequence) (stop : Position) : Phrase :=
  match s.parts with
  | [] => .empty ⟨s.start, stop⟩
  | [p] => p
  | parts => .concatenation ⟨s.start, stop⟩ parts.reverse

end Sequence

/-- What is unfinished around the sequence under way: a group, with the sequence before it, the extent of its opening
parenthesis, whether it is kept, its flags and the writing outside of it; or alternatives, last one first, and where
they start. -/
inductive Frame
  | group (before : Sequence) (extent : Extent) (kept : Bool) (flags : List FlagItem) (spacious : Bool)
  | alternatives (start : Position) (branches : List Phrase)

namespace Frame

/-- The phrase of a sequence that ends, together with the alternatives before it, and the frames around. -/
def complete (stop : Position) (s : Sequence) : List Frame → Phrase × List Frame
  | alternatives start branches :: frames =>
    (.alternation ⟨start, stop⟩ ((s.phrase stop :: branches).reverse), frames)
  | frames => (s.phrase stop, frames)

end Frame

namespace Reader

/-! ### Groups and flags -/

def flag? : Char → Option Flag
  | 'i' => some .caseInsensitive
  | 'm' => some .multiLine
  | 's' => some .dotLineFeed
  | 'U' => some .swapGreed
  | 'u' => some .unicode
  | 'R' => some .carriageReturn
  | 'x' => some .spacious
  | _ => none

/-- Flags up to a colon or closing parenthesis. The items so far, last one first, are kept with their extents. -/
def flags : Nat → List (FlagItem × Extent) → Reader → Except Fault (List FlagItem × Reader)
  | 0, _, r => fault .flagUnfinished r.here
  | n + 1, items, r => do
    match r.rest with
    | [] => fault .flagUnfinished r.here
    | c :: _ =>
      if c = ':' || c = ')' then
        match items with
        | (.off, extent) :: _ => fault .flagOffDangling extent
        | _ => return (items.reverse.map (·.1), r)
      else
        let (item, twice) ← if c = '-' then pure (FlagItem.off, FaultKind.flagOffTwice) else
          match flag? c with
          | some f => pure (FlagItem.flag f, FaultKind.flagTwice)
          | none => fault .flagUnknown r.hereChar
        match items.find? (·.1 = item) with
        | some (_, extent) => .error ⟨twice, r.hereChar, some extent⟩
        | none => flags n ((item, r.hereChar) :: items) r.bump

/-- Whether a character can be part of the name of a group. -/
def isNameChar (first : Bool) (c : Char) : Bool :=
  if first then c = '_' || Text.isAlphabetic c
  else c = '_' || c = '.' || c = '[' || c = ']' || Text.isAlphanumeric c

/-- The name of a group up to a closing angle bracket. -/
def groupName (r : Reader) : Except Fault Reader :=
  let (name, stop) :=
    if r.rest.head?.any (isNameChar true) then
      let (others, stop) := collect bump (isNameChar false) r.bump
      (r.rest.take 1 ++ others, stop)
    else ([], r)
  if stop.atEnd then fault .groupNameUnfinished stop.here
  else if !stop.sees '>' then fault .groupNameInvalid stop.hereChar
  else if name.isEmpty then fault .groupNameEmpty r.here
  else
    match stop.names.lookup name with
    | some extent => .error ⟨.groupNameTwice, stop.since r.position, some extent⟩
    | none => .ok { stop.bump with names := (name, stop.since r.position) :: stop.names }

/-- What an opening parenthesis and the signs behind it begin. -/
inductive Opening
  | flags (items : List FlagItem)
  | group (kept : Bool) (items : List FlagItem)

/-- The start of a group, or flags between parentheses; the reader stands at the opening one. -/
def opening (r : Reader) : Except Fault (Opening × Reader) := do
  let inner := r.step
  match ["?=", "?!", "?<=", "?<!"].findSome? inner.after? with
  | some stop => fault .lookAround (stop.since r.position)
  | none =>
    match ["?P<", "?<"].findSome? inner.after? with
    | some name => return (.group true [], ← name.groupName)
    | none =>
      match inner.after? "?" with
      | none => return (.group true [], inner)
      | some start =>
        if start.atEnd then fault .groupUnclosed r.hereChar
        let (items, stop) ← start.flags (start.rest.length + 1) []
        if stop.sees ')' then
          if items.isEmpty then fault .repetitionOfNothing inner.here
          return (.flags items, stop.bump)
        else return (.group false items, stop.bump)

/-- The writing that flags ask for. -/
def spacing (r : Reader) (items : List FlagItem) : Bool :=
  (flagState? .spacious items).getD r.spacious

/-! ### Repetitions -/

/-- The phrase that a repetition is of: the last one of a sequence, if it can be repeated. -/
def repeated (r : Reader) (s : Sequence) : Except Fault (Phrase × Sequence) :=
  match s.parts with
  | [] => fault .repetitionOfNothing r.here
  | .empty _ :: _ => fault .repetitionOfNothing r.here
  | .flags _ _ :: _ => fault .repetitionOfNothing r.here
  | p :: parts => .ok (p, { s with parts })

/-- Whether no question mark comes next, and the reader behind it otherwise. -/
def greed (r : Reader) : Bool × Reader :=
  if r.sees '?' then (false, r.bump) else (true, r)

/-- The counts of a repetition between braces; the reader stands at the opening one. -/
def counts (r : Reader) : Except Fault (Nat × Option Nat × Bool × Reader) := do
  let start := r.position
  let inner := r.step
  if inner.atEnd then fault .countUnclosed (inner.since start)
  let (least, behind) := inner.decimal
  if behind.atEnd then fault .countUnclosed (behind.since start)
  let (least, most, stop) ←
    if behind.sees ',' then do
      let second := behind.step
      if second.atEnd then fault .countUnclosed (second.since start)
      if second.sees '\x7d' then pure (← least, none, second)
      else do
        let least ← least
        let (most, stop) := second.decimal
        pure (least, some (← most), stop)
    else do
      let count ← least
      pure (count, some count, behind)
  if !stop.sees '\x7d' then fault .countUnclosed (stop.since start)
  let (greedy, behind) := stop.step.greed
  if most.any (· < least) then fault .countReversed (behind.since start)
  return (least, most, greedy, behind)

/-- A repetition of the last phrase of a sequence by a sign, or by counts between braces. -/
def repetition (c : Char) (s : Sequence) (r : Reader) : Except Fault (Sequence × Reader) := do
  let (body, s) ← r.repeated s
  let (least, most, greedy, behind) ← match c with
    | '?' => pure (0, some 1, r.bump.greed)
    | '*' => pure (0, none, r.bump.greed)
    | '+' => pure (1, none, r.bump.greed)
    | _ => r.counts
  return (s.push (.repetition (behind.since body.extent.start) least most greedy body), behind)

/-! ### Whole patterns -/

/-- The phrase at the end of a pattern, where no group may be open. -/
def finish (frames : List Frame) (s : Sequence) (r : Reader) : Except Fault Phrase :=
  match Frame.complete r.position s frames with
  | (p, []) => .ok p
  | (_, .group _ extent _ _ _ :: _) => fault .groupUnclosed extent
  | (p, .alternatives _ _ :: _) => .ok p

/-- Reads on in the sequence under way within some frames, to the end of the pattern. -/
def phraseRest : Nat → List Frame → Sequence → Reader → Except Fault Phrase
  | 0, frames, s, r => finish frames s r
  | n + 1, frames, s, r => do
    let r := r.space
    match r.rest with
    | [] => finish frames s r
    | '(' :: _ =>
      match ← r.opening with
      | (.flags items, behind) =>
        phraseRest n frames (s.push (.flags (behind.since r.position) items))
          { behind with spacious := r.spacing items }
      | (.group kept items, behind) =>
        let inner := { behind with spacious := r.spacing items }
        phraseRest n (.group s r.hereChar kept items r.spacious :: frames) ⟨inner.position, []⟩ inner
    | ')' :: _ =>
      match Frame.complete r.position s frames with
      | (p, .group before extent kept items spacious :: frames) =>
        let behind := { r.bump with spacious }
        phraseRest n frames (before.push (.group ⟨extent.start, behind.position⟩ kept items p)) behind
      | _ => fault .groupUnopened r.hereChar
    | '|' :: _ =>
      let frames := match frames with
        | .alternatives start branches :: frames => .alternatives start (s.phrase r.position :: branches) :: frames
        | frames => .alternatives s.start [s.phrase r.position] :: frames
      phraseRest n frames ⟨r.bump.position, []⟩ r.bump
    | '[' :: _ =>
      let (p, behind) ← r.bracketed
      phraseRest n frames (s.push p) behind
    | c :: _ =>
      if c = '?' || c = '*' || c = '+' || c = '\x7b' then
        let (s, behind) ← r.repetition c s
        phraseRest n frames s behind
      else
        let (p, behind) ← r.primitive c
        phraseRest n frames (s.push p.phrase) behind

end Reader

/-! ### Nesting -/

mutual

/-- Finds the first class within a class that is nested too deep. -/
def ClassItem.nested (depth : Nat) (item : ClassItem) : Except Fault Unit :=
  match item with
  | .bracketed extent _ inner =>
    if maxNesting ≤ depth then Reader.fault .nestedTooDeep extent else inner.nested (depth + 1)
  | .union extent items =>
    if maxNesting ≤ depth then Reader.fault .nestedTooDeep extent else ClassItem.nestedAll (depth + 1) items
  | .operation op left right =>
    if maxNesting ≤ depth then Reader.fault .nestedTooDeep (ClassItem.operation op left right).extent
    else
      match left.nested (depth + 1) with
      | .error e => .error e
      | .ok () => right.nested (depth + 1)
  | _ => .ok ()

def ClassItem.nestedAll (depth : Nat) : List ClassItem → Except Fault Unit
  | [] => .ok ()
  | item :: rest =>
    match item.nested depth with
    | .error e => .error e
    | .ok () => ClassItem.nestedAll depth rest

end

mutual

/-- Finds the first part of a pattern that is nested too deep. -/
def Phrase.nested (depth : Nat) (p : Phrase) : Except Fault Unit :=
  match p with
  | .bracketed extent _ item =>
    if maxNesting ≤ depth then Reader.fault .nestedTooDeep extent else item.nested (depth + 1)
  | .repetition extent _ _ _ body =>
    if maxNesting ≤ depth then Reader.fault .nestedTooDeep extent else body.nested (depth + 1)
  | .group extent _ _ body =>
    if maxNesting ≤ depth then Reader.fault .nestedTooDeep extent else body.nested (depth + 1)
  | .alternation extent branches =>
    if maxNesting ≤ depth then Reader.fault .nestedTooDeep extent else Phrase.nestedAll (depth + 1) branches
  | .concatenation extent parts =>
    if maxNesting ≤ depth then Reader.fault .nestedTooDeep extent else Phrase.nestedAll (depth + 1) parts
  | _ => .ok ()

def Phrase.nestedAll (depth : Nat) : List Phrase → Except Fault Unit
  | [] => .ok ()
  | p :: rest =>
    match p.nested depth with
    | .error e => .error e
    | .ok () => Phrase.nestedAll depth rest

end

/-- The phrase that a pattern is written as. -/
def Phrase.ofText (pattern : List Char) : Except Fault Phrase := do
  let r := Reader.ofText pattern
  let p ← r.phraseRest (pattern.length + 1) [] ⟨r.position, []⟩
  p.nested 0
  return p

end Calculator.Pattern
