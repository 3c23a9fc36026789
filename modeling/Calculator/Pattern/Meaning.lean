import Calculator.Pattern.CharClass
import Calculator.Pattern.Matcher
import Calculator.Pattern.Phrase
import Calculator.Pattern.Fault

/-!
# What phrases mean

A phrase becomes a matcher under the flags that hold at it. Where flags ask for bytes instead of characters only what
is ASCII can be matched, and where they do not, classes and letter cases that need a Unicode table beyond the
characters themselves are not known.
-/

namespace Calculator.Pattern

/-- The flags that change what phrases mean. -/
structure Mode where
  caseInsensitive : Bool
  multiLine : Bool
  dotLineFeed : Bool
  swapGreed : Bool
  unicode : Bool
  carriageReturn : Bool

namespace Mode

/-- The flags at the start of a pattern. -/
def initial : Mode :=
  ⟨false, false, false, false, true, false⟩

/-- The flags behind a list that changes some. -/
def set (mode : Mode) (items : List FlagItem) : Mode where
  caseInsensitive := (flagState? .caseInsensitive items).getD mode.caseInsensitive
  multiLine := (flagState? .multiLine items).getD mode.multiLine
  dotLineFeed := (flagState? .dotLineFeed items).getD mode.dotLineFeed
  swapGreed := (flagState? .swapGreed items).getD mode.swapGreed
  unicode := (flagState? .unicode items).getD mode.unicode
  carriageReturn := (flagState? .carriageReturn items).getD mode.carriageReturn

/-- The last character that a class can hold. -/
def limit (mode : Mode) : Nat :=
  if mode.unicode then 0x10FFFF else 0xFF

end Mode

/-- What a phrase means, or why it means nothing. -/
abbrev Meaning (α : Type) : Type :=
  Except Fault α

namespace Meaning

def fault {α : Type} (kind : FaultKind) (extent : Extent) : Meaning α :=
  .error ⟨kind, extent, none⟩

/-! ### Classes -/

def shorthandRanges : Shorthand → Ranges
  | .digit => [(0x30, 0x39)]
  | .space => [(0x09, 0x0D), (0x20, 0x20)]
  | .word => [(0x30, 0x39), (0x41, 0x5A), (0x5F, 0x5F), (0x61, 0x7A)]

/-- A class behind a backslash; in bytes, its negation holds more than ASCII. -/
def shorthand (mode : Mode) (extent : Extent) (kind : Shorthand) (negated : Bool) : Meaning Ranges :=
  if mode.unicode then fault .shorthandUnknown extent
  else if negated then fault .invalidEncoding extent
  else .ok (shorthandRanges kind)

/-- The form of a name that does not depend on case and separators, and not on `is` at its start. -/
def plainName (name : List Char) : List Char :=
  let body := match name with
    | a :: b :: rest => if (a = 'i' || a = 'I') && (b = 's' || b = 'S') then rest else name
    | name => name
  (body.filter fun c => c.toNat < 0x80 && c ≠ ' ' && c ≠ '_' && c ≠ '-').map Char.toLower

/-- No property is known. Three names are at first taken for the value of one. -/
def property (mode : Mode) (extent : Extent) (name : Option (List Char)) : Meaning Ranges :=
  if !mode.unicode then fault .unicodeNotAllowed extent
  else
    match name.map fun name => String.ofList (plainName name) with
    | some "cf" => fault .propertyValueUnknown extent
    | some "sc" => fault .propertyValueUnknown extent
    | some "lc" => fault .propertyValueUnknown extent
    | _ => fault .propertyUnknown extent

/-- The character of a literal. -/
def character (mode : Mode) (l : Literal) : Meaning Char :=
  if !mode.unicode && l.byte && 0x80 ≤ l.char.toNat then fault .invalidEncoding l.extent else .ok l.char

/-- The code point of a literal within a class. -/
def classCharacter (mode : Mode) (l : Literal) : Meaning Nat := do
  let c ← character mode l
  if !mode.unicode && 0x80 ≤ c.toNat then fault .unicodeNotAllowed l.extent else return c.toNat

/-- The letters of a class in both cases, if case plays no role. In Unicode they are not known, unless the class is
already known to hold both. -/
def folded (mode : Mode) (extent : Extent) (a : CharClass) : Meaning CharClass :=
  if !mode.caseInsensitive then .ok a
  else if a.caseless || a.ranges = [] then .ok ⟨a.ranges, true⟩
  else if mode.unicode then fault .caseUnknown extent
  else .ok ⟨a.ranges.foldCase, true⟩

/-- A class that is complete, or the negation of one. -/
def completed (mode : Mode) (extent : Extent) (negated : Bool) (a : CharClass) : Meaning CharClass := do
  let a ← folded mode extent a
  let a := if negated then a.complement mode.limit else a
  if !mode.unicode && !a.ranges.isAscii then fault .invalidEncoding extent else return a

mutual

/-- Adds the characters of an item to a class. -/
def addItem (mode : Mode) (a : CharClass) (item : ClassItem) : Meaning CharClass :=
  match item with
  | .nothing _ => .ok a
  | .literal l => do
    let c ← classCharacter mode l
    return a.insert (c, c)
  | .range first last => do return a.insert (← classCharacter mode first, ← classCharacter mode last)
  | .named extent ranges negated => do return a.union (← completed mode extent negated (.ofRanges ranges))
  | .shorthand extent kind negated => do return a.union (.ofRanges (← shorthand mode extent kind negated))
  | .property extent name => do return a.union (.ofRanges (← property mode extent name))
  | .bracketed extent negated item => do
    return a.union (← completed mode extent negated (← addItem mode .empty item))
  | .union _ items => addItems mode a items
  | .operation op left right => do
    let b ← addItem mode .empty left
    let c ← addItem mode .empty right
    let c ← folded mode right.extent c
    let b ← folded mode left.extent b
    return a.union <| match op with
      | .intersection => b.intersection c
      | .difference => b.difference c
      | .symmetricDifference => b.symmetricDifference c

/-- Adds the characters of several items to a class. -/
def addItems (mode : Mode) (a : CharClass) (items : List ClassItem) : Meaning CharClass :=
  match items with
  | [] => .ok a
  | item :: rest =>
    match addItem mode a item with
    | .error e => .error e
    | .ok a => addItems mode a rest

end

/-! ### Phrases -/

def literal (mode : Mode) (l : Literal) : Meaning Matcher := do
  let c ← character mode l
  if !mode.caseInsensitive then return .literal [c]
  else if mode.unicode then fault .caseUnknown l.extent
  else return .ofRanges (Ranges.foldCase [(c.toNat, c.toNat)])

def dot (mode : Mode) (extent : Extent) : Meaning Matcher :=
  if !mode.unicode then fault .invalidEncoding extent
  else
    let excluded : Ranges :=
      if mode.dotLineFeed then [] else if mode.carriageReturn then [(0x0A, 0x0A), (0x0D, 0x0D)] else [(0x0A, 0x0A)]
    .ok (.ofRanges (excluded.complement mode.limit))

/-- The boundaries of words, which in Unicode are not known. -/
def boundary (mode : Mode) (p : Place) : Place :=
  if mode.unicode then .unicodeWord else p

def assertion (mode : Mode) : Assertion → Place
  | .startLine =>
    if !mode.multiLine then .textStart else if mode.carriageReturn then .returnedLineStart else .lineStart
  | .endLine => if !mode.multiLine then .textEnd else if mode.carriageReturn then .returnedLineEnd else .lineEnd
  | .startText => .textStart
  | .endText => .textEnd
  | .wordBoundary => boundary mode .wordBoundary
  | .noWordBoundary => boundary mode .noWordBoundary
  | .wordStart => boundary mode .wordStart
  | .wordEnd => boundary mode .wordEnd
  | .wordStartHalf => boundary mode .wordStartHalf
  | .wordEndHalf => boundary mode .wordEndHalf

mutual

/-- What a phrase means, and the flags behind it. Flags hold to the end of the group that they stand in. -/
def phrase (mode : Mode) (p : Phrase) : Meaning (Matcher × Mode) :=
  match p with
  | .empty _ => .ok (.empty, mode)
  | .flags _ items => .ok (.empty, mode.set items)
  | .literal l => do return (← literal mode l, mode)
  | .dot extent => do return (← dot mode extent, mode)
  | .assertion _ kind => .ok (.place (assertion mode kind), mode)
  | .shorthand extent kind negated => do return (.ofRanges (← shorthand mode extent kind negated), mode)
  | .property extent name => do return (.ofRanges (← property mode extent name), mode)
  | .bracketed extent negated item => do
    return (.ofRanges (← completed mode extent negated (← addItem mode .empty item)).ranges, mode)
  | .repetition _ least most greedy body => do
    let (m, mode) ← phrase mode body
    return (.repeated (greedy ≠ mode.swapGreed) least most m, mode)
  | .group extent kept items body => do
    let (m, _) ← phrase (mode.set items) body
    return (if kept then .group extent.start m else m, mode)
  | .alternation _ branches => do
    let (branches, mode) ← phrases mode [] branches
    return (.either branches, mode)
  | .concatenation _ parts => do
    let (parts, mode) ← phrases mode [] parts
    return (.inTurn parts, mode)

/-- What several phrases mean, behind those of which it is known, last one first. -/
def phrases (mode : Mode) (done : List Matcher) (ps : List Phrase) : Meaning (List Matcher × Mode) :=
  match ps with
  | [] => .ok (done.reverse, mode)
  | p :: rest =>
    match phrase mode p with
    | .error e => .error e
    | .ok (m, mode) => phrases mode (m :: done) rest

end

end Meaning

end Calculator.Pattern
