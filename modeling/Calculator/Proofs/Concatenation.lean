import Calculator.Proofs.Lossless
import Calculator.Proofs.WhiteSpace

/-!
# Texts one behind the other

Scanning is local. The main statement, `ofText_append`, says that where two texts meet such that no number can go on
from one to the other, the scan of both is the scan of the first and then that of the second, at its new place. Lexemes
are cut apart in front of any character that is neither a digit nor a point (`Lexeme.ofText_append_cons`), and the
side on which such a character stands does not matter, since it is a lexeme of its own.
-/

namespace Calculator

/-- Two texts meet where no number can go on from one to the other: one of them is empty, or the last character of the
first or the first character of the second is neither a digit nor a point. -/
def Text.Apart (a b : List Char) : Prop :=
  a = [] ∨ b = [] ∨ (∃ c, a.getLast? = some c ∧ c.isDigit = false ∧ c ≠ '.') ∨
    ∃ c, b.head? = some c ∧ c.isDigit = false ∧ c ≠ '.'

namespace Relocation

/-- What it does to the places of a text to write another one in front of it. -/
def behind (a : List Char) : Relocation where
  span s := ⟨s.start + Text.byteSize a, s.stop + Text.byteSize a⟩
  line _ n := n + a.count '\n'

private theorem behind_eq_insertion (a : List Char) : behind a = insertion 0 a := by
  simp [behind, insertion]

end Relocation

namespace Lexeme

/-! ### Cutting at the seam -/

/-- A text is cut in front of a character that no numeral has. -/
theorem ofText_append_cons {c : Char} (hd : c.isDigit = false) (hp : c ≠ '.') (a b : List Char) :
    ofText (a ++ c :: b) = ofText a ++ ofText (c :: b) := by
  have hcut : Cut (ofText a) (c :: b) := by
    refine (cut_ofText a).of_noDigit (fun d h => ?_) (fun d more h => ?_)
    · rw [← Option.some.inj h]
      exact hd
    · exact absurd (List.cons.inj h).1 hp
  rwa [Cut, flatMap_text_ofText] at hcut

private theorem ofText_append_of_apart {a b : List Char} (h : Text.Apart a b) :
    ofText (a ++ b) = ofText a ++ ofText b := by
  rcases h with rfl | rfl | ⟨c, hlast, hd, hp⟩ | ⟨c, hhead, hd, hp⟩
  · rw [ofText_nil, List.nil_append, List.nil_append]
  · rw [ofText_nil, List.append_nil, List.append_nil]
  · -- the last character of `a` is a lexeme of its own, whether or not `b` follows
    obtain ⟨u, rfl⟩ := List.getLast?_eq_some_iff.1 hlast
    rw [List.append_assoc, List.singleton_append, ofText_append_cons hd hp, ofText_append_cons hd hp,
      ofText_cons_of_not_isDigit hd, ofText_cons_of_not_isDigit hd, ofText_nil, List.append_assoc,
      List.singleton_append]
  · obtain ⟨v, rfl⟩ := List.head?_eq_some_iff.1 hhead
    exact ofText_append_cons hd hp a v

/-- Two texts that do not meet apart may share a number. -/
example : ofText ['1', '.', '5'] = [.numeral ['1', '.', '5']] ∧
    ofText ['1', '.'] ++ ofText ['5'] = [.numeral ['1'], .stray '.', .numeral ['5']] := by
  simp [ofText_cons, first, splitNumeral, Char.isDigit, ofChar, Kind.ofChar?, isBlank]

/-! ### What the second text makes -/

section Made

variable {β : Type} {item : Lexeme → Place → Option β} {f : β → β} {a b : List Char}

/-- Two texts that meet apart make what the first one makes, and then what the second one makes, moved. -/
private theorem made_append_of_apart (hmove : ∀ x q, item x (q.behind a) = (item x q).map f) (h : Text.Apart a b) :
    made item (ofText (a ++ b)) .first = made item (ofText a) .first ++ (made item (ofText b) .first).map f := by
  rw [ofText_append_of_apart h, made_append, flatMap_text_ofText,
    made_behind (fun x q _ => hmove x q) (ofText b) (Nat.zero_le _)]

end Made

private theorem token?_behind_text (x : Lexeme) (q : Place) (a : List Char) :
    x.token? (q.behind a) = (x.token? q).map (Relocation.behind a).token := by
  rw [Relocation.behind_eq_insertion, token?_behind (Nat.zero_le _)]

private theorem warning?_behind_text (x : Lexeme) (q : Place) (a : List Char) :
    x.warning? (q.behind a) = (x.warning? q).map (Relocation.behind a).warning := by
  rw [Relocation.behind_eq_insertion, warning?_behind (Nat.zero_le _)]

end Lexeme

namespace Scan

private theorem eofToken_behind (p : Place) (a : List Char) :
    eofToken (p.behind a) = (Relocation.behind a).token (eofToken p) := rfl

/-- The scan of two texts that meet apart has the tokens of the first one without the end of the input and then all
tokens of the second one, moved behind the bytes and the lines of the first one. The same is true of the warnings. -/
theorem ofText_append {a b : List Char} (h : Text.Apart a b) :
    (ofText (a ++ b)).tokens =
      (ofText a).tokens.filter (·.kind ≠ .eof) ++ (ofText b).tokens.map (Relocation.behind a).token ∧
    (ofText (a ++ b)).warnings = (ofText a).warnings ++ (ofText b).warnings.map (Relocation.behind a).warning := by
  constructor
  · have hend : eofToken (Place.first.behind (a ++ b)) =
        (Relocation.behind a).token (eofToken (Place.first.behind b)) := by
      rw [Place.behind_append, Place.behind_comm, eofToken_behind]
    have hmade := Lexeme.made_append_of_apart (fun x q => Lexeme.token?_behind_text x q a) h
    rw [filter_tokens_ofText, tokens_ofText, tokens_ofText, hmade, hend, List.map_append, List.map_singleton,
      List.append_assoc]
  · rw [warnings_ofText, warnings_ofText, warnings_ofText]
    exact Lexeme.made_append_of_apart (fun x q => Lexeme.warning?_behind_text x q a) h

/-- A point at the end of a text does not matter if the next text starts with `+`. -/
theorem ofText_append_pointPlus :
    let a := ['1', '\n', '.']
    let b := ['+', '5']
    Text.Apart a b ∧
    (ofText (a ++ b)).tokens = [⟨.number, ['1'], Double.read? ['1'], 1, ⟨0, 1⟩⟩, ⟨.plus, ['+'], none, 2, ⟨3, 4⟩⟩,
      ⟨.number, ['5'], Double.read? ['5'], 2, ⟨4, 5⟩⟩, ⟨.eof, [], none, 2, ⟨5, 5⟩⟩] ∧
    (ofText (a ++ b)).warnings = [⟨'.', 2, ⟨2, 3⟩⟩] := by
  intro a b
  have hapart : Text.Apart a b := .inr (.inr (.inr ⟨'+', rfl, rfl, by decide⟩))
  have ha : ofText a = ⟨[⟨.number, ['1'], Double.read? ['1'], 1, ⟨0, 1⟩⟩, ⟨.eof, [], none, 2, ⟨3, 3⟩⟩],
      [⟨'.', 2, ⟨2, 3⟩⟩]⟩ := by
    have hlexemes : Lexeme.ofText a = [.numeral ['1'], .blank '\n', .stray '.'] := by
      simp [a, Lexeme.ofText_cons, Lexeme.first, Lexeme.splitNumeral, Char.isDigit, Lexeme.ofChar, Kind.ofChar?,
        Lexeme.isBlank]
    rw [ofText, hlexemes]
    rfl
  have hb : ofText b = ⟨[⟨.plus, ['+'], none, 1, ⟨0, 1⟩⟩, ⟨.number, ['5'], Double.read? ['5'], 1, ⟨1, 2⟩⟩,
      ⟨.eof, [], none, 1, ⟨2, 2⟩⟩], []⟩ := by
    have hlexemes : Lexeme.ofText b = [.mark '+' .plus, .numeral ['5']] := by
      simp [b, Lexeme.ofText_cons, Lexeme.first, Lexeme.splitNumeral, Char.isDigit, Lexeme.ofChar, Kind.ofChar?]
    rw [ofText, hlexemes]
    rfl
  obtain ⟨htokens, hwarnings⟩ := ofText_append hapart
  rw [ha, hb] at htokens hwarnings
  exact ⟨hapart, htokens, hwarnings⟩

end Scan

end Calculator
