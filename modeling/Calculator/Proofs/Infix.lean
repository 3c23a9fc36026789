import Calculator.Proofs.Layout
import Calculator.Proofs.Parsing
import Calculator.Report

/-!
# Infix notation

A formula is a tree with numerals at its leaves and with a number of spare parentheses around each node. Its lexemes
have the parentheses that precedence asks for, and the spare ones. However they are laid out, reading the text gives
back the tree, and a run that is not strict comes to its value (`Formula.ofText_of_layout`).
-/

namespace Calculator

/-- A tree over numerals, with the number of spare pairs of parentheses around each node. -/
inductive Formula
  | numeral (text : List Char) (isNumeral : Numeral text) (spare : Nat)
  | binary (left : Formula) (op : Operator) (right : Formula) (spare : Nat)

/-- Where a formula stands in the whole. -/
inductive Slot
  | whole
  | left (parent : Operator)
  | right (parent : Operator)
deriving DecidableEq, Repr

namespace Slot

/-- Whether an operator has to stand in parentheses: that of a sum below a product, and on the right one of the same
level as its parent. -/
def needsPair : Slot → Operator → Bool
  | whole, _ => false
  | left parent, op => op.level = .sum ∧ parent.level = .product
  | right parent, op => (op.level = .sum ∧ parent.level = .product) ∨ op.level = parent.level

/-- The loosest level of the phrases that can stand in a slot. -/
def level : Slot → Level
  | whole => .sum
  | left parent => parent.level
  | right parent => parent.level.lower

/-- What needs no parentheses is of a level that can stand in the slot. -/
private theorem rank_le_of_needsPair {slot : Slot} {op : Operator} (h : slot.needsPair op = false) :
    op.level.rank ≤ slot.level.rank := by
  cases slot with
  | whole => cases op <;> decide
  | left parent => revert h; cases parent <;> cases op <;> decide
  | right parent => revert h; cases parent <;> cases op <;> decide

end Slot

/-- The character of an operator. -/
def Operator.sign : Operator → Char
  | plus => '+'
  | minus => '-'
  | star => '*'
  | slash => '/'

private theorem Operator.ofChar?_sign (op : Operator) : Kind.ofChar? op.sign = some op.kind := by
  cases op <;> rfl

namespace Formula

/-- The tree of a formula, with the double of each numeral. -/
def expr : Formula → Expr
  | numeral text isNumeral _ => .literal ((Double.read? text).get (Double.isSome_read?_iff.2 isNumeral))
  | binary left op right _ => .binary left.expr op right.expr

/-- Puts pairs of parentheses around lexemes. -/
def enclose : Nat → List Lexeme → List Lexeme
  | 0, lexemes => lexemes
  | n + 1, lexemes => .mark '(' .leftParen :: enclose n lexemes ++ [.mark ')' .rightParen]

/-- The number of pairs of parentheses around an operator in a slot. -/
def pairs (slot : Slot) (op : Operator) (spare : Nat) : Nat :=
  if slot.needsPair op then spare + 1 else spare

/-- The lexemes of a formula in a slot. -/
def lexemes : Formula → Slot → List Lexeme
  | numeral text _ spare, _ => enclose spare [.numeral text]
  | binary left op right spare, slot =>
    enclose (pairs slot op spare) (left.lexemes (.left op) ++ .mark op.sign op.kind :: right.lexemes (.right op))

/-- The largest number of parentheses inside one another. -/
def nesting : Formula → Slot → Nat
  | numeral _ _ spare, _ => spare
  | binary left op right spare, slot => pairs slot op spare + max (left.nesting (.left op)) (right.nesting (.right op))

/-! ### Numerals stay apart -/

private theorem separate_enclose {lexemes : List Lexeme} {n : Nat}
    (h : ∀ rest, Separate rest → (∀ text, rest.head? ≠ some (.numeral text)) → Separate (lexemes ++ rest))
    {rest : List Lexeme} (hrest : Separate rest) (apart : ∀ text, rest.head? ≠ some (.numeral text)) :
    Separate (enclose n lexemes ++ rest) := by
  induction n generalizing rest with
  | zero => exact h rest hrest apart
  | succ n ih =>
    rw [enclose, List.append_assoc, List.cons_append]
    exact .mark rfl (ih (.mark rfl hrest) (by simp))

/-- What comes behind is a parameter, since a numeral may end the formula. -/
private theorem separate_append (f : Formula) (slot : Slot) {rest : List Lexeme} (hrest : Separate rest)
    (apart : ∀ text, rest.head? ≠ some (.numeral text)) : Separate (f.lexemes slot ++ rest) := by
  induction f generalizing slot rest with
  | numeral text isNumeral spare =>
    exact separate_enclose (fun _ hs ha => .numeral isNumeral ha hs) hrest apart
  | binary left op right spare ihl ihr =>
    refine separate_enclose (fun rest hs ha => ?_) hrest apart
    rw [List.append_assoc, List.cons_append]
    exact ihl (.left op) (.mark op.ofChar?_sign (ihr (.right op) hs ha)) (by simp)

private theorem separate_lexemes (f : Formula) (slot : Slot) : Separate (f.lexemes slot) := by
  have h := f.separate_append slot .nil (by simp)
  rwa [List.append_nil] at h

end Formula

/-! ### Lexemes as phrases -/

/-- Tokens with the contents of the lexemes are a phrase of a level, with a tree and a nesting. -/
def Writes (lexemes : List Lexeme) (level : Level) (e : Expr) (depth : Nat) : Prop :=
  ∀ tokens, Spells tokens lexemes → Derives level tokens e ∧ ∀ n, deepest n tokens = n + depth

namespace Writes

variable {lexemes : List Lexeme} {level : Level} {e : Expr} {depth : Nat}

private theorem mono {level' : Level} (hle : level.rank ≤ level'.rank) (h : Writes lexemes level e depth) :
    Writes lexemes level' e depth := by
  intro tokens htokens
  obtain ⟨hder, hdeep⟩ := h tokens htokens
  exact ⟨hder.mono hle, hdeep⟩

private theorem numeral {text : List Char} {value : Float} (h : Double.read? text = some value) :
    Writes [.numeral text] .operand (.literal value) 0 := by
  intro tokens htokens
  obtain ⟨t, s, rfl, hkind, hliteral, hs⟩ := htokens.exists_numeral
  rw [hs.eq_nil]
  exact ⟨.number hkind (hliteral.trans h), fun n => by simp [deepest, hkind, Kind.groupsAfter]⟩

/-- Parentheses make an operand of a sum. -/
private theorem group (h : Writes lexemes .sum e depth) :
    Writes (.mark '(' .leftParen :: lexemes ++ [.mark ')' .rightParen]) .operand e (depth + 1) := by
  intro tokens htokens
  obtain ⟨opening, rest, rfl, hopening, hrest⟩ := Spells.exists_mark htokens
  obtain ⟨s, rest', rfl, hs, hrest'⟩ := hrest.exists_append
  obtain ⟨closing, s', rfl, hclosing, hs'⟩ := hrest'.exists_mark
  rw [hs'.eq_nil]
  obtain ⟨hder, hdeep⟩ := h s hs
  refine ⟨.group hopening hclosing hder, fun n => ?_⟩
  have hgroup := deepest_group hopening hclosing hder n
  rw [List.cons_append] at hgroup
  rw [hgroup, hdeep]
  omega

/-- A chain goes on with one more operand. -/
private theorem snoc {op : Operator} {lexemes' : List Lexeme} {right : Expr} {depth' : Nat}
    (h : Writes lexemes op.level e depth) (h' : Writes lexemes' op.level.lower right depth') :
    Writes (lexemes ++ .mark op.sign op.kind :: lexemes') op.level (.binary e op right) (max depth depth') := by
  intro tokens htokens
  obtain ⟨s, rest, rfl, hs, hrest⟩ := htokens.exists_append
  obtain ⟨sign, s', rfl, hsign, hs'⟩ := hrest.exists_mark
  obtain ⟨hder, hdeep⟩ := h s hs
  obtain ⟨hder', hdeep'⟩ := h' s' hs'
  refine ⟨hder.snoc hsign hder', fun n => ?_⟩
  rw [deepest_append, hder.groupsAfter_eq, deepest_operator hsign, hdeep, hdeep']
  omega

/-- Within parentheses a phrase of any level can stand anywhere, and without them it has to fit. -/
private theorem enclose {level' : Level} (h : Writes lexemes level e depth) {n : Nat}
    (hfit : n = 0 → level.rank ≤ level'.rank) : Writes (Formula.enclose n lexemes) level' e (n + depth) := by
  induction n generalizing level' with
  | zero =>
    rw [Nat.zero_add]
    exact h.mono (hfit rfl)
  | succ n ih =>
    have hsum : Writes (Formula.enclose n lexemes) .sum e (n + depth) := ih (fun _ => by cases level <;> decide)
    rw [Nat.add_right_comm]
    exact hsum.group.mono (Nat.zero_le _)

end Writes

namespace Formula

/-- The lexemes of a formula can stand in their slot and mean its tree. -/
private theorem writes_lexemes (f : Formula) (slot : Slot) :
    Writes (f.lexemes slot) slot.level f.expr (f.nesting slot) := by
  induction f generalizing slot with
  | numeral text isNumeral spare =>
    have hread := (Option.some_get (Double.isSome_read?_iff.2 isNumeral)).symm
    exact (Writes.numeral hread).enclose fun _ => Nat.zero_le _
  | binary left op right spare ihl ihr =>
    -- with no parentheses around it, the chain has to fit into the slot
    refine ((ihl (.left op)).snoc (ihr (.right op))).enclose fun hpairs => Slot.rank_le_of_needsPair ?_
    cases hp : slot.needsPair op with
    | false => rfl
    | true => simp [pairs, hp] at hpairs

theorem ofTokens_layout (f : Formula) {text inserted : List Char} (h : Layout (f.lexemes .whole) text inserted)
    (hn : f.nesting .whole ≤ maxDepth) : Expr.ofTokens (Scan.ofText text).tokens = .ok f.expr := by
  -- the parser sees the contents of the tokens alone, and these are the formula's
  obtain ⟨hcontent, -⟩ := h.contents_ofText (f.separate_lexemes .whole)
  obtain ⟨s, t, htokens, hs, ht⟩ := Scan.exists_spells_ofLexemes (Lexeme.ofText text) .first
  obtain ⟨hder, hdeep⟩ := f.writes_lexemes .whole s (hs.trans hcontent)
  refine Expr.ofTokens_eq_ok_iff.2 ⟨s, t, [], htokens, ht, hder, ?_⟩
  rw [Calculator.nesting, hdeep, Nat.zero_add]
  exact hn

theorem warnings_layout (f : Formula) {text inserted : List Char}
    (h : Layout (f.lexemes .whole) text inserted) :
    (Scan.ofText text).warnings.map Warning.char = inserted.filter (· ∉ [' ', '\t', '\r', '\n']) := by
  obtain ⟨-, hstray⟩ := h.contents_ofText (f.separate_lexemes .whole)
  rw [Scan.ofText, Scan.map_char_ofLexemes, hstray]

/-- What a run that is not strict makes of a text that can be read. -/
private theorem result_ofText {text : List Char} {e : Expr} (h : Expr.ofTokens (Scan.ofText text).tokens = .ok e)
    (prompt : String) :
    (Report.ofText ⟨prompt, false⟩ text).result =
      match e.evaluate.result with
      | .error err => .error (.evaluation err)
      | .ok value => .ok ⟨value, (Scan.ofText text).warnings⟩ := by
  simp only [Report.ofText, Bool.false_eq_true, if_false, h]
  cases e.evaluate.result <;> rfl

/-- However a formula is laid out that is not nested too deep, the text is read as its tree. A run that is not strict
comes to the result of evaluating the tree and, with a value, warns about the characters of the gaps that are not
blank. -/
theorem ofText_of_layout (f : Formula) (text inserted : List Char) (h : Layout (f.lexemes .whole) text inserted)
    (hn : f.nesting .whole ≤ 256) :
    Expr.ofTokens (Scan.ofText text).tokens = .ok f.expr ∧
    ∀ prompt, match f.expr.evaluate.result with
      | .error err => (Report.ofText ⟨prompt, false⟩ text).result = .error (.evaluation err)
      | .ok value => ∃ warnings, (Report.ofText ⟨prompt, false⟩ text).result = .ok ⟨value, warnings⟩ ∧
          warnings.map Warning.char = inserted.filter (· ∉ [' ', '\t', '\r', '\n']) := by
  have hread := f.ofTokens_layout h hn
  refine ⟨hread, fun prompt => ?_⟩
  have hresult := result_ofText hread prompt
  cases hvalue : f.expr.evaluate.result with
  | error err =>
    rw [hvalue] at hresult
    exact hresult
  | ok value =>
    rw [hvalue] at hresult
    exact ⟨_, hresult, f.warnings_layout h⟩

/-- `(1 + 2) * 3`, with spare parentheses around the last numeral. -/
def sumTimes : Formula :=
  .binary (.binary (.numeral ['1'] (.whole (by decide)) 0) .plus (.numeral ['2'] (.whole (by decide)) 0) 0) .star
    (.numeral ['3'] (.whole (by decide)) 1) 0

private theorem layout_sumTimes :
    Layout (sumTimes.lexemes .whole) "x(1+ 2.)*(.3)$".toList "x ..$".toList := by
  have hnil : IsGap [] := by decide
  have hx : IsGap ['x'] := by decide
  have hspace : IsGap [' '] := by decide
  have hpoint : IsGap ['.'] := by decide
  have hdollar : IsGap ['$'] := by decide
  have h : Layout (sumTimes.lexemes .whole) _ _ := .next hx (.next hnil (.next hnil (.next hspace (.next hpoint
    (.next hnil (.next hnil (.next hpoint (.next hnil (.last hdollar)))))))))
  exact h

theorem ofText_of_layout_sumTimes :
    Layout (sumTimes.lexemes .whole) "x(1+ 2.)*(.3)$".toList "x ..$".toList ∧ sumTimes.nesting .whole ≤ 256 ∧
    Expr.ofTokens (Scan.ofText "x(1+ 2.)*(.3)$".toList).tokens = .ok sumTimes.expr ∧
    ∀ prompt, match sumTimes.expr.evaluate.result with
      | .error err => (Report.ofText ⟨prompt, false⟩ "x(1+ 2.)*(.3)$".toList).result = .error (.evaluation err)
      | .ok value => ∃ warnings,
          (Report.ofText ⟨prompt, false⟩ "x(1+ 2.)*(.3)$".toList).result = .ok ⟨value, warnings⟩ ∧
          warnings.map Warning.char = ['x', '.', '.', '$'] :=
  ⟨layout_sumTimes, by decide, sumTimes.ofText_of_layout _ _ layout_sumTimes (by decide)⟩

end Formula

end Calculator
