import Calculator.Pattern.Place
import Calculator.Pattern.Ranges
import Calculator.Position

/-!
# Matchers

What a pattern comes down to. Matchers are put together in a plain form: literals that meet are one literal, a chain
holds no chain, a choice between characters is a set, a choice whose branches begin alike is made behind that beginning,
and a repetition that can be spared is.
-/

namespace Calculator.Pattern

/-- What a pattern means. A repetition may ask for as many matches as possible or for as few, and a group, named by the
place where it starts, may be asked for; neither changes whether the pattern occurs. -/
inductive Matcher
  | literal (text : List Char)
  | chars (ranges : Ranges)
  | place (p : Place)
  | repetition (greedy : Bool) (least : Nat) (most : Option Nat) (body : Matcher)
  | group (start : Position) (body : Matcher)
  | choice (branches : List Matcher)
  | chain (parts : List Matcher)

namespace Matcher

/-! ### Traits -/

/-- What can be said of all matches of a matcher: whether they are empty; whether they read something; whether they
start with the start of the text, and stop with its end. `possible` says that no set in the matcher is empty, without
which none of its matches is known to read something. `unknownWord` says that the matcher demands a boundary that no
place meets. -/
structure Traits where
  void : Bool
  reading : Bool
  possible : Bool
  atStart : Bool
  atEnd : Bool
  unknownWord : Bool
deriving DecidableEq, Repr

namespace Traits

/-- Whether matches of parts, one behind the other, start with the start of the text. -/
def startWith : List Traits → Bool
  | [] => false
  | t :: rest => t.atStart || (t.void && startWith rest)

/-- Whether matches of parts, the last of which comes first, stop with the end of the text. -/
def stopWith : List Traits → Bool
  | [] => false
  | t :: rest => t.atEnd || (t.void && stopWith rest)

def chain (parts : List Traits) : Traits where
  void := parts.all (·.void)
  reading := parts.any (·.reading)
  possible := parts.all (·.possible)
  atStart := startWith parts
  atEnd := stopWith parts.reverse
  unknownWord := parts.any (·.unknownWord)

def choice (branches : List Traits) : Traits where
  void := branches.all (·.void)
  reading := branches.all (·.reading)
  possible := branches.all (·.possible)
  atStart := branches.all (·.atStart)
  atEnd := branches.all (·.atEnd)
  unknownWord := branches.any (·.unknownWord)

end Traits

mutual

/-- The traits of a matcher. -/
def traits (m : Matcher) : Traits :=
  match m with
  | literal _ => ⟨false, true, true, false, false, false⟩
  | chars ranges => ⟨false, true, ranges ≠ [], false, false, false⟩
  | place p => ⟨true, false, true, p = .textStart, p = .textEnd, p = .unicodeWord⟩
  | repetition _ least _ body =>
    let t := body.traits
    let needed := decide (0 < least)
    { t with reading := needed && t.reading, atStart := needed && t.atStart, atEnd := needed && t.atEnd }
  | group _ body => body.traits
  | choice branches => .choice (traitsAll [] branches)
  | chain parts => .chain (traitsAll [] parts)

/-- The traits of several matchers, behind those of others, last one first. -/
def traitsAll (done : List Traits) (ms : List Matcher) : List Traits :=
  match ms with
  | [] => done.reverse
  | m :: rest => traitsAll (m.traits :: done) rest

end

/-! ### Sameness -/

mutual

/-- Whether two matchers are the same. -/
def same (a b : Matcher) : Bool :=
  match a, b with
  | literal s, literal t => s = t
  | chars r, chars s => r = s
  | place p, place q => p = q
  | repetition g least most m, repetition h least' most' n => g = h && least = least' && most = most' && m.same n
  | group p m, group q n => p = q && m.same n
  | choice ms, choice ns => sameAll ms ns
  | chain ms, chain ns => sameAll ms ns
  | _, _ => false

def sameAll (ms ns : List Matcher) : Bool :=
  match ms, ns with
  | [], [] => true
  | m :: ms, n :: ns => if m.same n then sameAll ms ns else false
  | _, _ => false

end

/-! ### Putting matchers together -/

/-- The matcher of nothing but the empty text. -/
def empty : Matcher :=
  chain []

/-- Any character of a set. -/
def ofRanges : Ranges → Matcher
  | [(first, last)] => if first = last then literal [Char.ofNat first] else chars [(first, last)]
  | ranges => chars ranges

/-- Puts a part that is no chain in front of others. -/
def prepend (m : Matcher) (rest : List Matcher) : List Matcher :=
  match m, rest with
  | literal s, literal t :: rest => literal (s ++ t) :: rest
  | m, rest => m :: rest

/-- The parts of a chain; anything else is its only part. -/
def parts : Matcher → List Matcher
  | chain parts => parts
  | m => [m]

/-- Parts one behind the other. -/
def inTurn (ms : List Matcher) : Matcher :=
  match ms.foldr (fun m rest => m.parts.foldr prepend rest) [] with
  | [m] => m
  | parts => chain parts

/-- The branches of a choice; anything else is its only branch. -/
def branches : Matcher → List Matcher
  | choice branches => branches
  | m => [m]

/-- The set of some branches, if all of them are single characters or all of them are sets. -/
def set? (branches : List Matcher) : Option Ranges :=
  let singles := branches.mapM fun
    | literal [c] => some c.toNat
    | _ => none
  match singles with
  | some codes => some (codes.foldl (fun set c => set.insert (c, c)) [])
  | none =>
    let sets := branches.mapM fun
      | chars ranges => some ranges
      | _ => none
    sets.map (·.foldl .union [])

/-- One of several branches. -/
def oneOf (ms : List Matcher) : Matcher :=
  match ms.flatMap branches with
  | [m] => m
  | all =>
    match set? all with
    | some ranges => ofRanges ranges
    | none => choice all

/-- The parts that two rows of them begin with. -/
def common : List Matcher → List Matcher → List Matcher
  | a :: as, b :: bs => if a.same b then a :: common as bs else []
  | _, _ => []

/-- The parts that all of some branches begin with, provided that all are chains. -/
def beginning (branches : List Matcher) : List Matcher :=
  let rows := branches.map fun
    | chain parts => parts
    | _ => []
  match rows with
  | [] => []
  | row :: rows => rows.foldl common row

/-- One of several branches, which is chosen behind what all of them begin with. -/
def either (ms : List Matcher) : Matcher :=
  match oneOf ms with
  | choice all =>
    match beginning all with
    | [] => choice all
    | shared => inTurn (shared ++ [oneOf (all.map fun m => inTurn (m.parts.drop shared.length))])
  | m => m

/-- Between the least and the most matches of a matcher, one behind the other. One of which all matches are empty need
not be repeated. -/
def repeated (greedy : Bool) (least : Nat) (most : Option Nat) (body : Matcher) : Matcher :=
  let void := body.traits.void
  let least := if void then min least 1 else least
  let most := if void then some (min (most.getD 1) 1) else most
  if most = some 0 then empty
  else if least = 1 && most = some 1 then body
  else repetition greedy least most body

end Matcher

end Calculator.Pattern
