import Calculator.Text.Cluster.Category

/-!
# Clusters

A cluster is what a reader takes for one character: a letter with its marks, a syllable, a flag, a joined emoji. The
boundaries between clusters are those of the extended grapheme clusters of Unicode. The main statement is
`flatten_clusters`, that the clusters of a text, one after the other, are the text.
-/

namespace Calculator.Text

namespace Cluster

/-- How far the text so far is on the way to two joined consonants. Only a consonant with a linker and further marks
behind it, in any order, is `linked`. -/
inductive Conjunct
  | none
  | consonant
  | linked
deriving DecidableEq, Repr

/-- What the characters so far say about the next one: the category of the last one, whether the number of regional
indicators at the end is odd, whether a pictograph with its marks stands at the end, and whether one with its marks
and a joiner does. -/
structure Context where
  last : Category
  oddRegionals : Bool
  pictograph : Bool
  joinedPictograph : Bool
  conjunct : Conjunct
deriving DecidableEq, Repr

namespace Context

/-- Whether a mark leaves a conjunct as it is. The non-joiner does not. -/
def isSilent (c : Char) : Bool :=
  c ≠ '\u200c' && (category c = .extender || category c = .joiner)

/-- The conjunct behind a character. -/
def nextConjunct (conjunct : Conjunct) (c : Char) : Conjunct :=
  if consonants.has c then .consonant
  else if linkers.has c then if conjunct = .none then .none else .linked
  else if isSilent c then conjunct
  else .none

/-- The context behind the first character of a text. -/
def first (c : Char) : Context where
  last := category c
  oddRegionals := category c = .regional
  pictograph := category c = .pictograph
  joinedPictograph := false
  conjunct := nextConjunct .none c

/-- The context behind one more character. -/
def next (x : Context) (c : Char) : Context where
  last := category c
  oddRegionals := category c = .regional && !x.oddRegionals
  pictograph := category c = .pictograph || (x.pictograph && category c = .extender)
  joinedPictograph := x.pictograph && category c = .joiner
  conjunct := nextConjunct x.conjunct c

/-- Whether a cluster ends between the characters so far and the next one. -/
def breaksBefore (x : Context) (c : Char) : Bool :=
  match x.last, category c with
  | .carriageReturn, .lineFeed => false
  | .carriageReturn, _ | .lineFeed, _ | .control, _ => true
  | _, .carriageReturn | _, .lineFeed | _, .control => true
  | .leading, .leading | .leading, .vowel | .leading, .openSyllable | .leading, .closedSyllable => false
  | .openSyllable, .vowel | .openSyllable, .trailing | .vowel, .vowel | .vowel, .trailing => false
  | .closedSyllable, .trailing | .trailing, .trailing => false
  | _, .extender | _, .joiner | _, .spacing => false
  | .preceding, _ => false
  | .regional, .regional => !x.oddRegionals
  | _, .pictograph => !x.joinedPictograph
  | _, _ => !(x.conjunct = .linked && consonants.has c)

end Context

/-- Cuts a text into clusters. The cluster under way and those before it are kept last character and last cluster
first. -/
def cut (done : List (List Char)) (cluster : List Char) (x : Context) : List Char → List (List Char)
  | [] => (cluster.reverse :: done).reverse
  | c :: rest =>
    if x.breaksBefore c then cut (cluster.reverse :: done) [c] (x.next c) rest
    else cut done (c :: cluster) (x.next c) rest

theorem flatten_cut (done : List (List Char)) (cluster : List Char) (x : Context) (text : List Char) :
    (cut done cluster x text).flatten = done.reverse.flatten ++ cluster.reverse ++ text := by
  induction text generalizing done cluster x with
  | nil => simp [cut]
  | cons c rest ih =>
    unfold cut
    split
    · rw [ih]; simp
    · rw [ih]; simp

end Cluster

/-- The clusters of a text. -/
def clusters : List Char → List (List Char)
  | [] => []
  | c :: rest => Cluster.cut [] [c] (.first c) rest

/-- The clusters of a text, one after the other, are the text. -/
theorem flatten_clusters (text : List Char) : (clusters text).flatten = text := by
  cases text with
  | nil => rfl
  | cons c rest => simp [clusters, Cluster.flatten_cut]

end Calculator.Text
