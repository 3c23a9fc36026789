import Calculator.Failure
import Calculator.Settings

/-!
# Reports

Running the calculator on a text gives a result and, in order, the events on the way to it.
-/

namespace Calculator

/-- What can happen to a text. -/
inductive Event
  | skipped (w : Warning)
  | token (t : Token)
  | step (s : Step)
  | failed (e : Failure)
  | located (p : Position)
deriving DecidableEq

/-- A value, and the characters that were skipped to find it. -/
structure Answer where
  value : Float
  warnings : List Warning
deriving DecidableEq

structure Report where
  result : Except Failure Answer
  events : List Event

namespace Report

/-- The events of a failure: the failure itself, and the place in the text if there is one. -/
def failing (text : List Char) (failure : Failure) : List Event :=
  .failed failure :: (failure.position? text).toList.map .located

/-- Runs the calculator on a text. In strict mode the first character that would be skipped is an error, whatever comes
after it. -/
def ofText (settings : Settings) (text : List Char) : Report :=
  let scan := Scan.ofText text
  let skipped := scan.warnings.map .skipped
  match if settings.strict then scan.warnings.head? else none with
  | some w => ⟨.error (.lexical w), skipped ++ failing text (.lexical w)⟩
  | none =>
    let listed := skipped ++ scan.tokens.map .token
    match Expr.ofTokens scan.tokens with
    | .error e => ⟨.error (.parse e), listed ++ failing text (.parse e)⟩
    | .ok e =>
      let evaluation := e.evaluate
      let worked := listed ++ evaluation.steps.map .step
      match evaluation.result with
      | .error e => ⟨.error (.evaluation e), worked ++ failing text (.evaluation e)⟩
      | .ok value => ⟨.ok ⟨value, scan.warnings⟩, worked⟩

end Report

end Calculator
