import Calculator.Proofs.Evaluation
import Calculator.Proofs.Parsing

/-!
# A group in place of a number

A group can stand wherever a number can. The main statement, `ofTokens_replaceLeaf`, says that tokens in which a number
gives way to a group are read as the same tree, with the tree of the group in place of the leaf, and what this does to
the value. `Derives.replace` is the same for phrases, and `Derives.snoc_induction` the induction that goes with it.
-/

namespace Calculator

namespace Expr

/-- The literals of an expression, from left to right. -/
def leaves : Expr → List Float
  | literal value => [value]
  | binary left _ right => left.leaves ++ right.leaves

/-- An expression with another one in place of one of its leaves, counted from the left, from zero. -/
def replaceLeaf : Expr → Nat → Expr → Expr
  | literal value, n, e => if n = 0 then e else literal value
  | binary left op right, n, e =>
    if n < left.leaves.length then binary (left.replaceLeaf n e) op right
    else binary left op (right.replaceLeaf (n - left.leaves.length) e)

/-- The leaves of the replacement stand where the leaf was. -/
theorem leaves_replaceLeaf {t : Expr} {n : Nat} (h : n < t.leaves.length) (e : Expr) :
    (t.replaceLeaf n e).leaves = t.leaves.take n ++ e.leaves ++ t.leaves.drop (n + 1) := by
  induction t generalizing n with
  | literal value =>
    obtain rfl : n = 0 := Nat.lt_one_iff.1 h
    simp [replaceLeaf, leaves]
  | binary left op right ihl ihr =>
    rw [replaceLeaf]
    rw [leaves, List.length_append] at h
    split
    · next hlt =>
      have hzero : n + 1 - left.leaves.length = 0 := by omega
      rw [leaves, leaves, ihl hlt, List.take_append_of_le_length (Nat.le_of_lt hlt), List.drop_append, hzero]
      simp
    · next hge =>
      have hle : left.leaves.length ≤ n := Nat.le_of_not_lt hge
      have hsucc : n + 1 - left.leaves.length = n - left.leaves.length + 1 := by omega
      rw [leaves, leaves, ihr (by omega), List.take_append, List.drop_append, hsucc,
        List.take_of_length_le hle, List.drop_of_length_le (Nat.le_succ_of_le hle)]
      simp

end Expr

theorem Operator.kind_ne_number (op : Operator) : op.kind ≠ .number := by
  cases op <;> decide

/-- A token of two lists, one behind the other, is in the first or in the second. -/
private theorem mem_append_cases {s s' a b : List Token} {n : Token} (h : s ++ s' = a ++ n :: b) :
    (∃ b', s = a ++ n :: b' ∧ b = b' ++ s') ∨ ∃ a', a = s ++ a' ∧ s' = a' ++ n :: b := by
  rcases List.append_eq_append_iff.1 h with ⟨a', ha, hs'⟩ | ⟨w, hs, hw⟩
  · exact .inr ⟨a', ha, hs'⟩
  · cases w with
    | nil => exact .inr ⟨[], by simpa using hs.symm, hw.symm⟩
    | cons u w =>
      obtain ⟨rfl, rfl⟩ := List.cons.inj hw
      exact .inl ⟨w, hs, rfl⟩

/-- The number of tokens that are numbers. -/
def numbers (s : List Token) : Nat :=
  s.countP (·.kind = .number)

namespace Derives

variable {level : Level} {s : List Token} {e : Expr}

section Induction

variable {motive : Level → List Token → Expr → Prop}
  (snoc : ∀ (op : Operator) s e sign s' right, sign.kind = op.kind → Derives op.level s e → motive op.level s e →
    Derives op.level.lower s' right → motive op.level.lower s' right →
    motive op.level (s ++ sign :: s') (.binary e op right))
include snoc

private theorem links_induction {links : List Link} (h : Derives level s e) (hs : motive level s e)
    (signs : ∀ l ∈ links, l.sign.kind = l.op.kind ∧ l.op.level = level)
    (operands : ∀ l ∈ links, Derives level.lower l.operand l.right)
    (hoperands : ∀ l ∈ links, motive level.lower l.operand l.right) :
    motive level (s ++ links.flatMap Link.tokens) (links.foldl Link.onto e) := by
  induction links generalizing s e with
  | nil => simpa using hs
  | cons l links ih =>
    -- the first link moves from the rest of the chain to the phrase in front of it
    rw [List.forall_mem_cons] at signs operands hoperands
    obtain ⟨⟨hkind, rfl⟩, signs⟩ := signs
    have hnext := ih (h.snoc hkind operands.1) (snoc _ _ _ _ _ _ hkind h hs operands.1 hoperands.1) signs operands.2
      hoperands.2
    rwa [List.append_assoc] at hnext

/-- What holds of numbers, and carries over to groups, to looser levels and from link to link of a chain, holds of
every phrase. -/
theorem snoc_induction
    (number : ∀ t value, t.kind = .number → t.literal = some value → motive .operand [t] (.literal value))
    (group : ∀ opening closing s e, opening.kind = .leftParen → closing.kind = .rightParen → Derives .sum s e →
      motive .sum s e → motive .operand (opening :: s ++ [closing]) e)
    (lift : ∀ level s e, level ≠ .operand → Derives level.lower s e → motive level.lower s e → motive level s e)
    (h : Derives level s e) : motive level s e := by
  induction h with
  | number kind literal => exact number _ _ kind literal
  | group left right inner ih => exact group _ _ _ _ left right inner ih
  | chain isChain first signs operands ih ihs =>
    exact links_induction snoc (first.lift isChain) (lift _ _ _ isChain first ih) signs operands ihs

end Induction

theorem length_leaves (h : Derives level s e) : e.leaves.length = numbers s := by
  refine snoc_induction (motive := fun _ s e => e.leaves.length = numbers s) ?snoc ?number ?group ?lift h
  case number =>
    intro t value hk _
    simp [Expr.leaves, numbers, hk]
  case group =>
    intro opening closing s e left right _ ih
    rw [ih]
    simp [numbers, left, right]
  case lift =>
    intro level s e _ _ ih
    exact ih
  case snoc =>
    intro op s e sign s' right hk _ ih _ ih'
    have hsign : sign.kind ≠ .number := hk ▸ op.kind_ne_number
    rw [Expr.leaves, List.length_append, ih, ih']
    simp [numbers, hsign]

/-- The groups within a phrase are nested as deep as they are by themselves, on top of the groups around it. -/
private theorem deepest_eq (h : Derives level s e) (n : Nat) : deepest n s = n + nesting s := by
  refine snoc_induction (motive := fun _ s _ => ∀ n, deepest n s = n + nesting s) ?snoc ?number ?group ?lift h n
  case number =>
    intro t value hk _ n
    simp [nesting, deepest, hk, Kind.groupsAfter]
  case group =>
    intro opening closing s e left right inner ih n
    rw [nesting, deepest_group left right inner, deepest_group left right inner, ih, ih]
    omega
  case lift =>
    intro level s e _ _ ih
    exact ih
  case snoc =>
    intro op s e sign s' right hk hs ih hs' ih' n
    rw [nesting, deepest_append, deepest_append, deepest_operator hk, deepest_operator hk, hs.groupsAfter_eq,
      hs.groupsAfter_eq, ih, ih', ih, ih']
    omega

/-- An operand can stand where a number does. -/
theorem replace (h : Derives level s e) {a b : List Token} {n : Token} (hs : s = a ++ n :: b)
    (hn : n.kind = .number) {m : List Token} {x : Expr} (hm : Derives .operand m x) :
    Derives level (a ++ m ++ b) (e.replaceLeaf (numbers a) x) ∧
      ∃ value, n.literal = some value ∧ e.leaves[numbers a]? = some value := by
  refine snoc_induction (motive := fun level s e => ∀ a b, s = a ++ n :: b →
    Derives level (a ++ m ++ b) (e.replaceLeaf (numbers a) x) ∧
      ∃ value, n.literal = some value ∧ e.leaves[numbers a]? = some value) ?snoc ?number ?group ?lift h a b hs
  case number =>
    intro t value _ hv a b hs
    rw [List.singleton_eq_append_iff] at hs
    rcases hs with ⟨rfl, hs⟩ | ⟨-, hs⟩
    · obtain ⟨rfl, rfl⟩ := List.cons.inj hs
      exact ⟨by simpa [Expr.replaceLeaf, numbers] using hm, value, hv, rfl⟩
    · cases hs
  case group =>
    intro opening closing s e left right _ ih a b heq
    -- neither parenthesis is a number, so `n` stands between them
    rcases mem_append_cases heq with ⟨b', hs, rfl⟩ | ⟨a', -, hs⟩
    · cases a with
      | nil => rw [← (List.cons.inj hs).1, left] at hn; cases hn
      | cons u a =>
        obtain ⟨rfl, hinner⟩ := List.cons.inj hs
        obtain ⟨hder, hleaf⟩ := ih a b' hinner
        have hcount : numbers (opening :: a) = numbers a := by simp [numbers, left]
        rw [hcount]
        exact ⟨by simpa using hder.group left right, hleaf⟩
    · rw [List.singleton_eq_append_iff] at hs
      rcases hs with ⟨-, hs⟩ | ⟨-, hs⟩
      · rw [(List.cons.inj hs).1, right] at hn; cases hn
      · cases hs
  case lift =>
    intro level s e hl _ ih a b hs
    obtain ⟨hder, hleaf⟩ := ih a b hs
    exact ⟨hder.lift hl, hleaf⟩
  case snoc =>
    intro op s e sign s' right hk hder ih hder' ih' a b heq
    have hsign : sign.kind ≠ .number := hk ▸ op.kind_ne_number
    rcases mem_append_cases heq with ⟨b', hs, rfl⟩ | ⟨a', rfl, hs⟩
    -- in front of the sign the leaves are counted as before, behind it from the leaves of the left operand on
    · obtain ⟨hleft, value, hv, hleaf⟩ := ih a b' hs
      have hlt : numbers a < e.leaves.length := (List.getElem?_eq_some_iff.1 hleaf).1
      rw [Expr.replaceLeaf, if_pos hlt, Expr.leaves, List.getElem?_append_left hlt]
      exact ⟨by simpa using hleft.snoc hk hder', value, hv, hleaf⟩
    · cases a' with
      | nil => exact absurd ((List.cons.inj hs).1 ▸ hn) hsign
      | cons u a' =>
        obtain ⟨rfl, hs'⟩ := List.cons.inj hs
        obtain ⟨hright, value, hv, hleaf⟩ := ih' a' b hs'
        have hcount : numbers (s ++ sign :: a') = e.leaves.length + numbers a' := by
          rw [hder.length_leaves]
          simp [numbers, hsign]
        rw [hcount, Expr.replaceLeaf, if_neg (by omega), Expr.leaves, List.getElem?_append_right (by omega),
          Nat.add_sub_cancel_left]
        exact ⟨by simpa using hder.snoc hk hright, value, hv, hleaf⟩

end Derives

/-! ### Values -/

namespace Expr

/-- A leaf can be replaced by anything that has its value. -/
private theorem value_replaceLeaf {t e : Expr} {n : Nat} {x : Float} (hleaf : t.leaves[n]? = some x)
    (he : e.value = .ok x) :
    (t.replaceLeaf n e).value = t.value := by
  induction t generalizing n with
  | literal value =>
    obtain ⟨hlt, hx⟩ := List.getElem?_eq_some_iff.1 hleaf
    obtain rfl : n = 0 := Nat.lt_one_iff.1 hlt
    rw [replaceLeaf, if_pos rfl, he, ← hx]
    rfl
  | binary left op right ihl ihr =>
    rw [leaves] at hleaf
    rw [replaceLeaf]
    split
    · next hlt =>
      rw [List.getElem?_append_left hlt] at hleaf
      rw [value_binary, value_binary, ihl hleaf]
    · next hge =>
      rw [List.getElem?_append_right (Nat.le_of_not_lt hge)] at hleaf
      rw [value_binary, value_binary, ihr hleaf]

/-- What replaces a leaf is a node of the whole. -/
private theorem within_replaceLeaf {t : Expr} {n : Nat} (h : n < t.leaves.length) (e : Expr) :
    e.Within (t.replaceLeaf n e) := by
  induction t generalizing n with
  | literal value =>
    obtain rfl : n = 0 := Nat.lt_one_iff.1 h
    rw [replaceLeaf, if_pos rfl]
    exact .root
  | binary left op right ihl ihr =>
    rw [leaves, List.length_append] at h
    rw [replaceLeaf]
    split
    · next hlt => exact .left (ihl hlt)
    · next hge => exact .right (ihr (by omega))

end Expr

/-! ### Whole inputs -/

section Input

variable {L R E : List Token} {n opening closing last : Token} {t e : Expr}

private theorem exists_derives_of_ofTokens (h : Expr.ofTokens (L ++ n :: R) = .ok t) (hL : ∀ u ∈ L, u.kind ≠ .eof)
    (hn : n.kind ≠ .eof) :
    ∃ s eof rest, R = s ++ eof :: rest ∧ eof.kind = .eof ∧ Derives .sum (L ++ n :: s) t ∧
      nesting (L ++ n :: s) ≤ maxDepth := by
  obtain ⟨s, eof, rest, htokens, heof, hder, hdeep⟩ := Expr.ofTokens_eq_ok_iff.1 h
  rcases mem_append_cases htokens.symm with ⟨s', rfl, hR⟩ | ⟨a, rfl, hcons⟩
  · exact ⟨s', eof, rest, hR, heof, hder, hdeep⟩
  · cases a with
    | nil => exact absurd ((List.cons.inj hcons).1 ▸ heof) hn
    | cons u a => exact absurd ((List.cons.inj hcons).1 ▸ heof) (hL u (by simp))

theorem derives_of_ofTokens_append (h : Expr.ofTokens (E ++ [last]) = .ok e) (hE : ∀ u ∈ E, u.kind ≠ .eof) :
    Derives .sum E e := by
  obtain ⟨s, eof, rest, htokens, heof, hder, -⟩ := Expr.ofTokens_eq_ok_iff.1 h
  rcases mem_append_cases htokens with ⟨b, rfl, -⟩ | ⟨a, rfl, hcons⟩
  · exact absurd heof (hE eof (by simp))
  · rcases List.singleton_eq_append_iff.1 hcons with ⟨rfl, -⟩ | ⟨-, hcons⟩
    · rwa [List.append_nil] at hder
    · cases hcons

private theorem nesting_group (hn : n.kind = .number) (left : opening.kind = .leftParen)
    (right : closing.kind = .rightParen) (hE : Derives .sum E e) (h : nesting (L ++ n :: R) ≤ maxDepth)
    (room : groupsAfter 0 L + 1 + nesting E ≤ maxDepth) :
    nesting (L ++ (opening :: E ++ [closing]) ++ R) ≤ maxDepth := by
  have hnumber : deepest 0 (L ++ n :: R) = max (deepest 0 L) (max (groupsAfter 0 L) (deepest (groupsAfter 0 L) R)) := by
    rw [deepest_append, deepest, hn]
    rfl
  have hgroup : deepest (groupsAfter 0 L) (opening :: E ++ [closing]) = groupsAfter 0 L + 1 + nesting E := by
    rw [deepest_group left right hE, hE.deepest_eq]
  rw [nesting, hnumber] at h
  rw [nesting, List.append_assoc, deepest_append, deepest_append, (Derives.group left right hE).groupsAfter_eq, hgroup]
  omega

/-- In tokens that are read, a number before the end of the input can give way to a group, if this nests no more than
256 groups. The tree is the same but for the leaf of the number, in whose place the tree of the group stands. So the
result is the same if the group has the value of the number, and a division by zero if the group has none. -/
theorem ofTokens_replaceLeaf (accepted : Expr.ofTokens (L ++ n :: R) = .ok t) (number : n.kind = .number)
    (before : ∀ u ∈ L, u.kind ≠ .eof) (group : Expr.ofTokens (E ++ [last]) = .ok e) (within : ∀ u ∈ E, u.kind ≠ .eof)
    (left : opening.kind = .leftParen) (right : closing.kind = .rightParen)
    (room : groupsAfter 0 L + 1 + nesting E ≤ 256) :
    Expr.ofTokens (L ++ opening :: E ++ closing :: R) = .ok (t.replaceLeaf (numbers L) e) ∧
    ∃ x, n.literal = some x ∧ t.leaves[numbers L]? = some x ∧
      (e.evaluate.result = .ok x → (t.replaceLeaf (numbers L) e).evaluate.result = t.evaluate.result) ∧
      (e.evaluate.result = .error .divisionByZero →
        (t.replaceLeaf (numbers L) e).evaluate.result = .error .divisionByZero) := by
  have hE := derives_of_ofTokens_append group within
  obtain ⟨s, eof, rest, rfl, heof, hder, hdeep⟩ := exists_derives_of_ofTokens accepted before (by rw [number]; decide)
  obtain ⟨hwhole, x, hx, hleaf⟩ := hder.replace rfl number (.group left right hE)
  simp only [Expr.evaluate_eq_value]
  refine ⟨?_, x, hx, hleaf, Expr.value_replaceLeaf hleaf, fun hzero => ?_⟩
  · refine Expr.ofTokens_eq_ok_iff.2 ⟨_, eof, rest, ?_, heof, hwhole, nesting_group number left right hE hdeep room⟩
    simp
  · exact Expr.value_of_within (Expr.within_replaceLeaf (List.getElem?_eq_some_iff.1 hleaf).1 e) hzero

end Input

/-- The tokens of `(2 *`. -/
def openProduct : List Token :=
  [⟨.leftParen, ['('], none, 1, ⟨0, 1⟩⟩, ⟨.number, ['2'], some 2, 1, ⟨1, 2⟩⟩, ⟨.star, ['*'], none, 1, ⟨3, 4⟩⟩]

/-- The tokens of `) - 1` behind them and a number. -/
def closeDifference : List Token :=
  [⟨.rightParen, [')'], none, 1, ⟨6, 7⟩⟩, ⟨.minus, ['-'], none, 1, ⟨8, 9⟩⟩, ⟨.number, ['1'], some 1, 1, ⟨10, 11⟩⟩,
    ⟨.eof, [], none, 1, .empty 11⟩]

/-- The tokens of `1 + (2)`. -/
def sumOfGroup : List Token :=
  [⟨.number, ['1'], some 1, 1, ⟨0, 1⟩⟩, ⟨.plus, ['+'], none, 1, ⟨2, 3⟩⟩, ⟨.leftParen, ['('], none, 1, ⟨4, 5⟩⟩,
    ⟨.number, ['2'], some 2, 1, ⟨5, 6⟩⟩, ⟨.rightParen, [')'], none, 1, ⟨6, 7⟩⟩]

/-- In `(2 * 3) - 1` the three can give way to `(1 + (2))`. -/
theorem ofTokens_replaceLeaf_product :
    let n : Token := ⟨.number, ['3'], some 3, 1, ⟨5, 6⟩⟩
    let eof : Token := ⟨.eof, [], none, 1, .empty 7⟩
    let opening : Token := ⟨.leftParen, ['('], none, 1, ⟨0, 1⟩⟩
    let closing : Token := ⟨.rightParen, [')'], none, 1, ⟨8, 9⟩⟩
    let t : Expr := .binary (.binary (.literal 2) .star (.literal 3)) .minus (.literal 1)
    let e : Expr := .binary (.literal 1) .plus (.literal 2)
    let whole : Expr := .binary (.binary (.literal 2) .star e) .minus (.literal 1)
    (Expr.ofTokens (openProduct ++ n :: closeDifference) = .ok t ∧ n.kind = .number ∧
      (∀ u ∈ openProduct, u.kind ≠ .eof) ∧ Expr.ofTokens (sumOfGroup ++ [eof]) = .ok e ∧
      (∀ u ∈ sumOfGroup, u.kind ≠ .eof) ∧ opening.kind = .leftParen ∧ closing.kind = .rightParen ∧
      groupsAfter 0 openProduct + 1 + nesting sumOfGroup ≤ 256) ∧
    Expr.ofTokens (openProduct ++ opening :: sumOfGroup ++ closing :: closeDifference) = .ok whole ∧
    (e.evaluate.result = .ok 3 → whole.evaluate.result = t.evaluate.result) ∧
    (e.evaluate.result = .error .divisionByZero → whole.evaluate.result = .error .divisionByZero) := by
  intro n eof opening closing t e whole
  have accepted : Expr.ofTokens (openProduct ++ n :: closeDifference) = .ok t := by cbv
  have group : Expr.ofTokens (sumOfGroup ++ [eof]) = .ok e := by cbv
  have before : ∀ u ∈ openProduct, u.kind ≠ .eof := by decide
  have within : ∀ u ∈ sumOfGroup, u.kind ≠ .eof := by decide
  have room : groupsAfter 0 openProduct + 1 + nesting sumOfGroup ≤ 256 := by decide
  have left : opening.kind = .leftParen := rfl
  have right : closing.kind = .rightParen := rfl
  obtain ⟨htree, x, hx, -, hsame, hzero⟩ := ofTokens_replaceLeaf accepted rfl before group within left right room
  obtain rfl := Option.some.inj hx
  exact ⟨⟨accepted, rfl, before, group, within, left, right, room⟩, htree, hsame, hzero⟩

end Calculator
