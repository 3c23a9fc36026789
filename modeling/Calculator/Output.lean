/-!
# Output

What a program writes to its two streams. Outputs of consecutive parts are appended stream by stream.
-/

namespace Calculator

structure Output where
  stdout : String
  stderr : String
deriving DecidableEq, Repr

namespace Output

def empty : Output :=
  ⟨"", ""⟩

def append (a b : Output) : Output :=
  ⟨a.stdout ++ b.stdout, a.stderr ++ b.stderr⟩

instance : Append Output :=
  ⟨append⟩

instance : EmptyCollection Output :=
  ⟨empty⟩

end Output

/-- The output of a program that has ended, and its exit code. -/
structure Outcome where
  output : Output
  exitCode : Nat
deriving DecidableEq, Repr

namespace Outcome

/-- The outcome of a program that has written something before. -/
def after (before : Output) (o : Outcome) : Outcome :=
  { o with output := before ++ o.output }

end Outcome

end Calculator
