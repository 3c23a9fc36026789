import Calculator.Pattern.Fault
import Calculator.Text.Alphanumeric
import Calculator.Text.Blank

/-!
# Reading along a pattern

A reader stands at a character of the text of a pattern. If it is spacious, white space and comments between the parts
of the pattern stand for nothing.
-/

namespace Calculator.Pattern

/-- The characters still to be read and where they start; whether they are written spaciously; and the names of groups
so far, each with the place where it stands. -/
structure Reader where
  rest : List Char
  position : Position
  spacious : Bool
  names : List (List Char × Extent)

namespace Reader

/-- The reader at the start of a pattern. -/
def ofText (pattern : List Char) : Reader :=
  ⟨pattern, .origin, false, []⟩

def atEnd (r : Reader) : Bool :=
  r.rest.isEmpty

/-- Whether the next character is a given one. -/
def sees (r : Reader) (c : Char) : Bool :=
  r.rest.head? = some c

/-- The reader behind the next character. -/
def bump (r : Reader) : Reader :=
  match r.rest with
  | [] => r
  | c :: rest => { r with rest, position := r.position.next c }

/-- The reader behind `n` characters. -/
def bumpBy (r : Reader) : Nat → Reader
  | 0 => r
  | n + 1 => r.bump.bumpBy n

/-- The characters behind white space and comments and where they start. A comment runs from a number sign to the end of
its line. -/
def skip (inComment : Bool) (p : Position) : List Char → List Char × Position
  | [] => ([], p)
  | c :: rest =>
    if inComment then skip (c ≠ '\n') (p.next c) rest
    else if Text.isWhiteSpace c then skip false (p.next c) rest
    else if c = '#' then skip true (p.next c) rest
    else (c :: rest, p)

/-- The reader behind white space and comments, if they stand for nothing. -/
def space (r : Reader) : Reader :=
  if r.spacious then
    let (rest, position) := skip false r.position r.rest
    { r with rest, position }
  else r

/-- The reader behind the next character and the white space behind it. -/
def step (r : Reader) : Reader :=
  r.bump.space

/-- The character behind the next one. -/
def peek? (r : Reader) : Option Char :=
  r.rest.tail.head?

/-- The first character behind white space, and behind a number sign in it; nothing if there is only white space. -/
def firstBehindSpace? (marked : Bool) : List Char → Option Char
  | [] => none
  | c :: rest =>
    if Text.isWhiteSpace c then firstBehindSpace? marked rest
    else if c = '#' && !marked then firstBehindSpace? true rest
    else some c

/-- The character behind the next one, white space apart. -/
def peekBehindSpace? (r : Reader) : Option Char :=
  if r.spacious then (firstBehindSpace? false r.rest.tail).or r.peek? else r.peek?

/-- The empty extent where the reader is. -/
def here (r : Reader) : Extent :=
  .empty r.position

/-- The extent of the next character. -/
def hereChar (r : Reader) : Extent :=
  ⟨r.position, r.bump.position⟩

/-- The extent from a position to the reader. -/
def since (r : Reader) (start : Position) : Extent :=
  ⟨start, r.position⟩

def fault {α : Type} (kind : FaultKind) (extent : Extent) : Except Fault α :=
  .error ⟨kind, extent, none⟩

/-- The reader behind a given text, if that comes next. -/
def after? (r : Reader) (text : String) : Option Reader :=
  if text.toList.isPrefixOf r.rest then some (r.bumpBy text.length) else none

/-- The characters up to the first that fails a test, and the reader there; `advance` is how it gets from one to the
next. -/
def collect (advance : Reader → Reader) (test : Char → Bool) (r : Reader) : List Char × Reader :=
  go r.rest.length [] r
where
  /-- Reads at most as many characters as there are. -/
  go : Nat → List Char → Reader → List Char × Reader
    | 0, seen, r => (seen.reverse, r)
    | n + 1, seen, r =>
      match r.rest with
      | [] => (seen.reverse, r)
      | c :: _ => if test c then go n (c :: seen) (advance r) else (seen.reverse, r)

/-! ### Numbers -/

/-- The largest count of a repetition. -/
def maxCount : Nat :=
  4294967295

/-- A count with white space around it, and the reader behind it in any case. -/
def decimal (r : Reader) : Except Fault Nat × Reader :=
  let start := (collect bump Text.isWhiteSpace r).2
  let (digits, stop) := collect step Char.isDigit start
  let value := Nat.ofDigitChars 10 digits 0
  let count :=
    if digits.isEmpty then fault .countEmpty (stop.since start.position)
    else if maxCount < value then fault .decimalInvalid (stop.since start.position)
    else .ok value
  (count, (collect step Text.isWhiteSpace stop).2)

def isHexDigit (c : Char) : Bool :=
  c.isDigit || ('a' ≤ c && c ≤ 'f') || ('A' ≤ c && c ≤ 'F')

def hexValue (digits : List Char) : Nat :=
  digits.foldl (fun n c => 16 * n + (if c.isDigit then c.toNat - 48 else c.toLower.toNat - 87)) 0

/-- The character with a code point. -/
def charOf? (n : Nat) : Option Char :=
  if n.isValidChar then some (Char.ofNat n) else none

/-- A character as hexadecimal digits of which there have to be `count`. -/
def hexDigits (count : Nat) (r : Reader) : Except Fault (Literal × Reader) :=
  go count [] r
where
  go : Nat → List Char → Reader → Except Fault (Literal × Reader)
    | 0, digits, stop =>
      match charOf? (hexValue digits.reverse) with
      | some c => .ok (⟨stop.since r.position, c, count = 2⟩, stop)
      | none => fault .hexInvalid (stop.since r.position)
    | n + 1, digits, now =>
      match now.rest with
      | [] => fault .escapeUnfinished now.here
      | c :: _ => if isHexDigit c then go n (c :: digits) now.step else fault .hexDigitInvalid now.hereChar

/-- A character as hexadecimal digits between braces; the reader stands at the opening one. -/
def hexBraces (r : Reader) : Except Fault (Literal × Reader) :=
  let (digits, stop) := collect step isHexDigit r.step
  if stop.atEnd then fault .escapeUnfinished (stop.since r.position)
  else if !stop.sees '\x7d' then fault .hexDigitInvalid stop.hereChar
  else if digits.isEmpty then fault .hexEmpty (stop.step.since r.position)
  else
    match charOf? (hexValue digits) with
    | some c => .ok (⟨stop.step.since r.bump.position, c, false⟩, stop.step)
    | none => fault .hexInvalid ⟨r.bump.position, stop.position⟩

/-- A character as hexadecimal digits; the reader stands at the letter that says how many. -/
def hex (r : Reader) : Except Fault (Literal × Reader) :=
  let count := if r.sees 'x' then 2 else if r.sees 'u' then 4 else 8
  let inner := r.step
  if inner.atEnd then fault .escapeUnfinished inner.here
  else if inner.sees '\x7b' then inner.hexBraces
  else inner.hexDigits count

end Reader

end Calculator.Pattern
