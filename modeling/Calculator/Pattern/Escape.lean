import Calculator.Pattern.Reader

/-!
# Single characters and escapes

The smallest parts of a pattern: a character, a dot, a caret or dollar sign, or a backslash and what it gives a meaning
to.
-/

namespace Calculator.Pattern

/-- The smallest part of a pattern. -/
inductive Primitive
  | literal (l : Literal)
  | assertion (extent : Extent) (kind : Assertion)
  | dot (extent : Extent)
  | shorthand (extent : Extent) (kind : Shorthand) (negated : Bool)
  | property (extent : Extent) (name : Option (List Char))

namespace Primitive

def extent : Primitive → Extent
  | literal l => l.extent
  | assertion e _ => e
  | dot e => e
  | shorthand e _ _ => e
  | property e _ => e

def phrase : Primitive → Phrase
  | literal l => .literal l
  | assertion e kind => .assertion e kind
  | dot e => .dot e
  | shorthand e kind negated => .shorthand e kind negated
  | property e name => .property e name

/-- A part of a class between brackets. -/
def classItem : Primitive → Except Fault ClassItem
  | literal l => .ok (.literal l)
  | shorthand e kind negated => .ok (.shorthand e kind negated)
  | property e name => .ok (.property e name)
  | p => Reader.fault .escapeInClass p.extent

/-- An end of a range. -/
def rangeEnd : Primitive → Except Fault Literal
  | literal l => .ok l
  | p => Reader.fault .classRangeOfClass p.extent

end Primitive

namespace Reader

/-- The characters that mean something in a pattern somewhere. -/
def isMeta (c : Char) : Bool :=
  "\\.+*?()|[]\x7b\x7d^$#&-~".toList.contains c

/-- Whether a character stands for itself behind a backslash. -/
def isEscapable (c : Char) : Bool :=
  isMeta c || (c.toNat < 0x80 && !c.isAlphanum && c ≠ '<' && c ≠ '>')

/-- The controls that have a letter of their own. -/
def control? : Char → Option Char
  | 'a' => some '\x07'
  | 'f' => some '\x0C'
  | 't' => some '\t'
  | 'n' => some '\n'
  | 'r' => some '\r'
  | 'v' => some '\x0B'
  | _ => none

/-- The assertions that have a letter or sign of their own. -/
def assertion? : Char → Option Assertion
  | 'A' => some .startText
  | 'z' => some .endText
  | 'b' => some .wordBoundary
  | 'B' => some .noWordBoundary
  | '<' => some .wordStart
  | '>' => some .wordEnd
  | _ => none

/-- The class of a letter, and whether it means all other characters. -/
def shorthand? : Char → Option (Shorthand × Bool)
  | 'd' => some (.digit, false)
  | 'D' => some (.digit, true)
  | 's' => some (.space, false)
  | 'S' => some (.space, true)
  | 'w' => some (.word, false)
  | 'W' => some (.word, true)
  | _ => none

/-- The boundaries that have a name. -/
def boundary? (name : List Char) : Option Assertion :=
  match String.ofList name with
  | "start" => some .wordStart
  | "end" => some .wordEnd
  | "start-half" => some .wordStartHalf
  | "end-half" => some .wordEndHalf
  | _ => none

/-- The name of a boundary between braces; nothing is read if the braces hold something else. `start` is where the
backslash stands. -/
def boundaryName (start : Position) (r : Reader) : Except Fault (Option (Assertion × Reader)) :=
  let isLetter (c : Char) : Bool := c.isAlpha || c = '-'
  let inner := r.step
  if inner.atEnd then fault .boundaryUnfinished (inner.since start)
  else if !inner.rest.head?.any isLetter then .ok none
  else
    let (name, stop) := collect step isLetter inner
    if !stop.sees '\x7d' then fault .boundaryUnclosed (stop.since r.position)
    else
      match boundary? name with
      | some kind => .ok (some (kind, stop.bump))
      | none => fault .boundaryUnknown (stop.since inner.position)

/-- A property behind a backslash and a letter; the reader stands at the letter. A name has no value of its own if one
is compared with it. -/
def property (start : Position) (r : Reader) : Except Fault (Primitive × Reader) :=
  let inner := r.step
  match inner.rest with
  | [] => fault .escapeUnfinished inner.here
  | '\x7b' :: _ =>
    let (name, stop) := collect step (· ≠ '\x7d') inner.step
    if stop.atEnd then fault .escapeUnfinished stop.here
    else
      let compared := name.contains ':' || name.contains '='
      .ok (.property (stop.bump.since start) (if compared then none else some name), stop.bump)
  | '\\' :: _ => fault .propertyInvalid inner.hereChar
  | c :: _ => .ok (.property (inner.step.since start) (some [c]), inner.step)

/-- What a backslash and the characters behind it stand for; the reader stands at the backslash. -/
def escape (r : Reader) : Except Fault (Primitive × Reader) :=
  let start := r.position
  let inner := r.bump
  match inner.rest with
  | [] => fault .escapeUnfinished (inner.since start)
  | c :: _ =>
    let behind := inner.bump
    let extent := behind.since start
    if c.isDigit then fault .backreference extent
    else if c = 'x' || c = 'u' || c = 'U' then do
      let (l, stop) ← inner.hex
      return (.literal { l with extent := ⟨start, l.extent.stop⟩ }, stop)
    else if c = 'p' || c = 'P' then inner.property start
    else
      match shorthand? c with
      | some (kind, negated) => .ok (.shorthand extent kind negated, behind)
      | none =>
        if isEscapable c then .ok (.literal ⟨extent, c, false⟩, behind)
        else
          match control? c, assertion? c with
          | some control, _ => .ok (.literal ⟨extent, control, false⟩, behind)
          | none, some .wordBoundary =>
            if behind.sees '\x7b' then do
              match ← behind.boundaryName start with
              | some (kind, stop) => return (.assertion (stop.since start) kind, stop)
              | none => return (.assertion extent .wordBoundary, behind)
            else .ok (.assertion extent .wordBoundary, behind)
          | none, some kind => .ok (.assertion extent kind, behind)
          | none, none => fault .escapeUnknown extent

/-- The smallest part of a pattern that starts with a character. -/
def primitive (c : Char) (r : Reader) : Except Fault (Primitive × Reader) :=
  match c with
  | '\\' => r.escape
  | '.' => .ok (.dot r.hereChar, r.bump)
  | '^' => .ok (.assertion r.hereChar .startLine, r.bump)
  | '$' => .ok (.assertion r.hereChar .endLine, r.bump)
  | c => .ok (.literal ⟨r.hereChar, c, false⟩, r.bump)

/-- The smallest part of a class between brackets, where only the backslash means something. -/
def classPrimitive (c : Char) (r : Reader) : Except Fault (Primitive × Reader) :=
  if c = '\\' then r.escape else .ok (.literal ⟨r.hereChar, c, false⟩, r.bump)

end Reader

end Calculator.Pattern
