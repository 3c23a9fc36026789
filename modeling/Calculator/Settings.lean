import Calculator.Text.Blank

/-!
# Settings

Two variables configure the calculator: the prompt, and whether a character that would be skipped is an error.
-/

namespace Calculator

structure Settings where
  prompt : String
  strict : Bool
deriving DecidableEq, Repr

namespace Settings

def default : Settings :=
  ⟨">> ", false⟩

instance : Inhabited Settings :=
  ⟨default⟩

/-- The variable that holds the prompt. -/
def promptVariable : String :=
  "CALC_PROMPT"

/-- The variable that says whether to be strict. -/
def strictVariable : String :=
  "CALC_STRICT"

/-- The words that switch a setting on, in letters of either case and with white space around; all others switch it
off. -/
def isOn (value : String) : Bool :=
  ["1", "true", "yes", "on"].contains (String.ofList ((Text.trim value.toList).map Char.toLower))

/-- The settings that variables give, with the defaults for those not set. -/
def ofLookup (lookup : String → Option String) : Settings where
  prompt := (lookup promptVariable).getD default.prompt
  strict := ((lookup strictVariable).map isOn).getD default.strict

end Settings

end Calculator
