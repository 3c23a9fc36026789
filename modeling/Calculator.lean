import Calculator.Expr.Postfix
import Calculator.Main
import Calculator.Proofs.Acceptance
import Calculator.Proofs.Blanking
import Calculator.Proofs.Boundaries
import Calculator.Proofs.Classification
import Calculator.Proofs.Concatenation
import Calculator.Proofs.Cutting
import Calculator.Proofs.Descent
import Calculator.Proofs.Evaluation
import Calculator.Proofs.Failures
import Calculator.Proofs.Infix
import Calculator.Proofs.Locations
import Calculator.Proofs.Logging
import Calculator.Proofs.Lossless
import Calculator.Proofs.OpenGroups
import Calculator.Proofs.Operations
import Calculator.Proofs.Outcome
import Calculator.Proofs.Relocation
import Calculator.Proofs.Retyping
import Calculator.Proofs.Rows
import Calculator.Proofs.Sessions
import Calculator.Proofs.SignedZeros
import Calculator.Proofs.Strictness
import Calculator.Proofs.Substitution
import Calculator.Proofs.WhiteSpace
