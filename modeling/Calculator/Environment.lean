/-!
# Environments

The variables that a program can see, each with one value.
-/

namespace Calculator

/-- Pairs of a name and a value; the first pair with a name counts. -/
abbrev Environment : Type :=
  List (String × String)

namespace Environment

def get? (env : Environment) (name : String) : Option String :=
  env.lookup name

/-- Gives a variable a value if it has none yet. -/
def define (env : Environment) (name value : String) : Environment :=
  if (env.get? name).isSome then env else env ++ [(name, value)]

end Environment

end Calculator
