import Calculator.Token

/-!
# Lexemes

A text is cut, from the left, into lexemes: numerals as long as possible, and single characters. A point belongs to a
numeral only if it is the first one and a digit follows it. The main statements are `flatMap_text_ofText`, that
nothing of the text is lost, and the equations `ofText_nil` and `ofText_cons`.
-/

namespace Calculator

inductive Lexeme
  | numeral (text : List Char)
  | mark (c : Char) (kind : Kind)
  | blank (c : Char)
  | stray (c : Char)
deriving DecidableEq, Repr

namespace Lexeme

/-- The characters of a lexeme. -/
def text : Lexeme → List Char
  | numeral text => text
  | mark c _ => [c]
  | blank c => [c]
  | stray c => [c]

/-- Space, tab, carriage return and line feed stand between tokens without a meaning. -/
def isBlank (c : Char) : Bool :=
  c = ' ' || c = '\t' || c = '\r' || c = '\n'

/-- The lexeme of a character that starts no numeral. -/
def ofChar (c : Char) : Lexeme :=
  match Kind.ofChar? c with
  | some kind => mark c kind
  | none => if isBlank c then blank c else stray c

theorem text_ofChar (c : Char) : (ofChar c).text = [c] := by
  unfold ofChar
  split
  · rfl
  · split <;> rfl

/-- The longest numeral at the start of a text, and the rest. -/
def splitNumeral (text : List Char) : List Char × List Char :=
  let digits := text.takeWhile Char.isDigit
  match text.dropWhile Char.isDigit with
  | '.' :: d :: rest =>
    if d.isDigit then
      (digits ++ '.' :: (d :: rest).takeWhile Char.isDigit, (d :: rest).dropWhile Char.isDigit)
    else (digits, '.' :: d :: rest)
  | rest => (digits, rest)

theorem splitNumeral_append (text : List Char) : (splitNumeral text).1 ++ (splitNumeral text).2 = text := by
  have h := List.takeWhile_append_dropWhile (p := Char.isDigit) (l := text)
  unfold splitNumeral
  split
  · next d rest hd =>
    rw [hd] at h
    split
    · simp only [List.append_assoc, List.cons_append, List.takeWhile_append_dropWhile]
      exact h
    · exact h
  · exact h

/-- The first lexeme of a text that starts with `c`, and the text behind it. -/
def first (c : Char) (rest : List Char) : Lexeme × List Char :=
  if c.isDigit then
    let (digits, behind) := splitNumeral (c :: rest)
    (numeral digits, behind)
  else (ofChar c, rest)

theorem first_append (c : Char) (rest : List Char) : (first c rest).1.text ++ (first c rest).2 = c :: rest := by
  unfold first
  split
  · exact splitNumeral_append (c :: rest)
  · simp [text_ofChar]

/-- A numeral that starts with a digit is not empty, so every lexeme takes something of the text. -/
theorem text_first_ne_nil (c : Char) (rest : List Char) : (first c rest).1.text ≠ [] := by
  unfold first
  split
  · next hc =>
    simp only [splitNumeral, text, List.takeWhile_cons, hc, if_true]
    split
    · split <;> simp
    · simp
  · simp [text_ofChar]

theorem length_first_lt (c : Char) (rest : List Char) : (first c rest).2.length < (c :: rest).length := by
  have h := congrArg List.length (first_append c rest)
  have h0 := List.length_pos_iff.2 (text_first_ne_nil c rest)
  rw [List.length_append] at h
  omega

/-- All lexemes of a text. -/
def ofText (text : List Char) : List Lexeme :=
  go [] text
where
  /-- Collects the lexemes in `done`, last one first. -/
  go (done : List Lexeme) : List Char → List Lexeme
    | [] => done.reverse
    | c :: rest =>
      let cut := first c rest
      go (cut.1 :: done) cut.2
  termination_by text => text.length
  decreasing_by exact length_first_lt c rest

private theorem ofText_go (done : List Lexeme) (text : List Char) :
    ofText.go done text = done.reverse ++ ofText.go [] text := by
  match text with
  | [] => simp [ofText.go]
  | c :: rest =>
    rw [ofText.go, ofText.go, ofText_go (_ :: done), ofText_go [_]]
    simp
termination_by text.length
decreasing_by all_goals exact length_first_lt c rest

@[simp] theorem ofText_nil : ofText [] = [] := by
  simp [ofText, ofText.go]

theorem ofText_cons (c : Char) (rest : List Char) :
    ofText (c :: rest) = (first c rest).1 :: ofText (first c rest).2 := by
  rw [ofText, ofText.go, ofText_go]
  rfl

/-- The lexemes of a text, one after the other, are the text. -/
theorem flatMap_text_ofText (text : List Char) : (ofText text).flatMap Lexeme.text = text := by
  match text with
  | [] => simp
  | c :: rest =>
    rw [ofText_cons, List.flatMap_cons, flatMap_text_ofText (first c rest).2]
    exact first_append c rest
termination_by text.length
decreasing_by exact length_first_lt c rest

end Lexeme

end Calculator
