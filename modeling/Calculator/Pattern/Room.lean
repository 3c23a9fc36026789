import Calculator.Pattern.Encoding
import Calculator.Pattern.Matcher

/-!
# The room of a pattern

An automaton that looks for a pattern consists of states, which take up the same room each, with transitions to other
states under ranges of bytes and branches to other states without a byte. A pattern has two of them: one that reads a
text forwards and keeps account of groups, and one that reads it backwards. All repetitions are written out. The room of
an automaton is counted here without building it.
-/

namespace Calculator.Pattern

/-- The bytes that a state takes up. -/
def stateRoom : Nat :=
  32

/-- The bytes that a transition takes up, of those in states that have several. -/
def transitionRoom : Nat :=
  8

/-- The bytes that a branch takes up. -/
def branchRoom : Nat :=
  4

/-- The room of a state with branches. -/
def forkRoom (branches : Nat) : Nat :=
  stateRoom + branches * branchRoom

/-- The room of a state with transitions. -/
def switchRoom (transitions : Nat) : Nat :=
  stateRoom + transitions * transitionRoom

def total (rooms : List Nat) : Nat :=
  rooms.foldl (· + ·) 0

/-! ### Sets -/

/-- The room for a set of characters. Forwards, nodes of the tree of encoded characters with the same sequences are one
state. Backwards, every range of bytes is a state, and a fork leads to the last bytes of all sequences. In both there is
a state at the end. -/
def setRoom (backwards : Bool) (ranges : Ranges) : Nat :=
  if ranges.isAscii then stateRoom + switchRoom ranges.length
  else
    let sequences := ByteRanges.ofRanges ranges
    let tree := ByteRanges.tree sequences
    if backwards then
      stateRoom + forkRoom sequences.length + stateRoom * total (tree.map fun node => (ByteRanges.below node).length)
    else stateRoom + total (tree.eraseDups.map fun node => switchRoom (ByteRanges.below node).length)

/-! ### Literals -/

/-- What is left of literals that begin alike, which are looked for in order. One that has ended divides those before it
from those behind it; several that have ended before all others count once. -/
def literalRows (rests : List (List UInt8)) : List (List (List UInt8)) :=
  match rests with
  | [] :: _ => [] :: (rests.dropWhile (·.isEmpty)).splitOnP (·.isEmpty)
  | _ => rests.splitOnP (·.isEmpty)

/-- The rests of literals behind each of the bytes that they go on with. -/
def literalRests (row : List (List UInt8)) : List (List (List UInt8)) :=
  (row.filterMap (·.head?)).eraseDups.map fun byte =>
    row.filterMap fun
      | [] => none
      | first :: rest => if first = byte then some rest else none

/-- The room of the states at a node with some rows of literals: a state for each row that goes on, and a fork to these
and, wherever a literal has ended, to the end. -/
def literalNodeRoom (rows : List (List (List UInt8))) : Nat :=
  let running := rows.filter (· ≠ [])
  forkRoom (running.length + (rows.length - 1)) +
    total (running.map fun row =>
      match (literalRests row).length with
      | 1 => stateRoom
      | n => switchRoom n)

/-- Adds the room of some nodes and of those below them, down to a depth of `n` bytes. -/
def literalNodesRoom : Nat → Nat → List (List (List UInt8)) → Nat
  | 0, room, _ => room
  | n + 1, room, nodes =>
    let rows := (nodes.filter fun rests => rests.any (· ≠ [])).map literalRows
    literalNodesRoom n (room + total (rows.map literalNodeRoom)) (rows.flatMap fun rows => rows.flatMap literalRests)

/-- The room for a choice of literals, with a state at the end. -/
def literalsRoom (literals : List (List UInt8)) : Nat :=
  literalNodesRoom (literals.foldl (fun n bytes => max n bytes.length) 0) stateRoom [literals]

/-! ### Matchers -/

/-- The bytes of a literal, in the order in which they are read. -/
def literalBytes (backwards : Bool) (text : List Char) : List UInt8 :=
  let bytes := text.flatMap String.utf8EncodeChar
  if backwards then bytes.reverse else bytes

/-- The room of a repetition whose body has some room. `reading` says that no match of the body is empty. -/
def repetitionRoom (reading : Bool) (body : Nat) : Nat → Option Nat → Nat
  | 0, some 1 => forkRoom 2 + body + stateRoom
  | 0, none => if reading then forkRoom 2 + body else 2 * forkRoom 2 + body + stateRoom
  | least, none => least * body + forkRoom 2
  | least, some most =>
    if least = most then least * body
    else
      (if least = 0 then stateRoom else least * body) + stateRoom + (most - least) * (forkRoom 2 + body)

namespace Matcher

mutual

/-- The room for a matcher. -/
def room (backwards : Bool) (m : Matcher) : Nat :=
  match m with
  | literal text => stateRoom * Text.byteSize text
  | chars ranges => setRoom backwards ranges
  | place _ => stateRoom
  | repetition _ least most body =>
    let t := body.traits
    repetitionRoom (t.possible && t.reading) (body.room backwards) least most
  | group _ body => body.room backwards + if backwards then 0 else 2 * stateRoom
  | choice branches =>
    let literals := branches.mapM fun
      | literal text => some (literalBytes backwards text)
      | _ => none
    match literals with
    | some literals => literalsRoom literals
    | none => forkRoom branches.length + stateRoom + roomAll backwards 0 branches
  | chain parts => if parts.isEmpty then stateRoom else roomAll backwards 0 parts

/-- The room for several matchers, added to that of others. -/
def roomAll (backwards : Bool) (others : Nat) (ms : List Matcher) : Nat :=
  match ms with
  | [] => others
  | m :: rest => roomAll backwards (others + m.room backwards) rest

end

/-- The room of the automaton of a whole pattern. It begins anywhere, unless the pattern holds it to an end of the text,
and it has a state for the match, which forwards is a group. -/
def automatonRoom (backwards : Bool) (m : Matcher) : Nat :=
  let held := if backwards then m.traits.atEnd else m.traits.atStart
  let start := if held then stateRoom else forkRoom 2 + switchRoom 1 + stateRoom
  start + m.room backwards + (if backwards then 0 else 2 * stateRoom) + stateRoom

end Matcher

end Calculator.Pattern
