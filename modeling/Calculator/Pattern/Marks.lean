import Calculator.Pattern.Matcher

/-!
# Matching

Whether a pattern occurs in a text. The places where a part of a match may end are marked along the text, and every part
of the pattern moves the marks on; a pattern occurs if a mark is left when all places have been marked at the start.
-/

namespace Calculator.Pattern

/-- One mark for every place of a text: before each character, and at the end. -/
abbrev Marks : Type :=
  List Bool

namespace Marks

/-- Marks at every place. -/
def everywhere (text : List Char) : Marks :=
  List.replicate (text.length + 1) true

/-- Moves the marks before the characters of a set behind them. -/
def pass (ranges : Ranges) (text : List Char) (marks : Marks) : Marks :=
  false :: List.zipWith (fun c mark => mark && Text.CodePoints.hasIn c ranges) text marks

/-- Moves the marks before a character behind it. -/
def step (d : Char) (text : List Char) (marks : Marks) : Marks :=
  false :: List.zipWith (fun c mark => mark && c = d) text marks

/-- Moves the marks before the characters of a literal, one behind the other, behind them. Nothing is left to move if
there are no marks. -/
def follow (text : List Char) : List Char → Marks → Marks
  | [], marks => marks
  | d :: rest, marks => if marks.any id then follow text rest (step d text marks) else marks

/-- Spreads marks as `spread` does. The marks so far are kept last one first; `reached` says whether they reach the
next place. -/
def spreadFrom (ranges : Ranges) (done : Marks) (reached : Bool) : List Char → Marks → Marks
  | c :: text, mark :: marks =>
    let here := mark || reached
    spreadFrom ranges (here :: done) (here && Text.CodePoints.hasIn c ranges) text marks
  | _, marks => done.reverse ++ marks.map (· || reached)

/-- Spreads the marks over the characters of a set that follow them, as any number of passes would. -/
def spread (ranges : Ranges) (text : List Char) (marks : Marks) : Marks :=
  spreadFrom ranges [] false text marks

/-- Leaves the marks at places that are as demanded. -/
def keep (p : Place) (text : List Char) (marks : Marks) : Marks :=
  let before := none :: text.map some
  let after := text.map some ++ [none]
  List.zipWith (fun sides mark => mark && p.holds sides.1 sides.2) (before.zip after) marks

/-- The marks of both. -/
def join (a b : Marks) : Marks :=
  List.zipWith (· || ·) a b

/-- Moves the marks on `n` times, or until that changes nothing. -/
def iterate (f : Marks → Marks) : Nat → Marks → Marks
  | 0, marks => marks
  | n + 1, marks =>
    let moved := f marks
    if moved = marks then marks else iterate f n moved

end Marks

namespace Matcher

mutual

/-- The marks behind the matches that start at marked places. -/
def move (text : List Char) (m : Matcher) (marks : Marks) : Marks :=
  match m with
  | literal word => marks.follow text word
  | chars ranges => marks.pass ranges text
  | place p => marks.keep p text
  | repetition _ least most body =>
    let started := Marks.iterate (fun marks => body.move text marks) least marks
    match most, body with
    | some most, _ => Marks.iterate (fun marks => marks.join (body.move text marks)) (most - least) started
    | none, chars ranges => started.spread ranges text
    | none, literal [c] => started.spread [(c.toNat, c.toNat)] text
    | none, _ => Marks.iterate (fun marks => marks.join (body.move text marks)) (text.length + 1) started
  | group _ body => body.move text marks
  | choice branches => moveAny text branches marks (marks.map fun _ => false)
  | chain parts => moveAll text parts marks

/-- The marks behind the matches of any of several branches, together with some others. -/
def moveAny (text : List Char) (branches : List Matcher) (marks others : Marks) : Marks :=
  match branches with
  | [] => others
  | m :: rest => moveAny text rest marks (others.join (m.move text marks))

/-- The marks behind matches of several parts, one after the other. -/
def moveAll (text : List Char) (parts : List Matcher) (marks : Marks) : Marks :=
  match parts with
  | [] => marks
  | m :: rest => moveAll text rest (m.move text marks)

end

/-- Whether a pattern occurs somewhere in a text. -/
def occursIn (m : Matcher) (text : List Char) : Bool :=
  (m.move text (Marks.everywhere text)).any id

end Matcher

end Calculator.Pattern
