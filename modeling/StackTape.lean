import StackTape.Machine.Bench.Lemmas
import StackTape.Machine.Run.Budget
import StackTape.Main
import StackTape.Proofs.Bodies
import StackTape.Proofs.Bounds
import StackTape.Proofs.Brackets
import StackTape.Proofs.Calls
import StackTape.Proofs.Endless
import StackTape.Proofs.Exactness.Runs
import StackTape.Proofs.Failures
import StackTape.Proofs.Lexemes
import StackTape.Proofs.Limits
import StackTape.Proofs.Modifiers
import StackTape.Proofs.Operands
import StackTape.Proofs.Order
import StackTape.Proofs.Partners
import StackTape.Proofs.Printing
import StackTape.Proofs.Readings.Runs
import StackTape.Proofs.Sinks.Runs
import StackTape.Proofs.Structured.Equivalence
import StackTape.Proofs.Termination
import StackTape.Proofs.Sequences
import StackTape.Proofs.CallerNumbers
import StackTape.Proofs.Digits
import StackTape.Proofs.WholeStack
import StackTape.Proofs.NumberLiterals
import StackTape.Proofs.WholeInput
import StackTape.Proofs.Indices
import StackTape.Proofs.Sorting
import StackTape.Proofs.Exhaustion
import StackTape.Proofs.Remainders
import StackTape.Proofs.Factorials
import StackTape.Proofs.Stepwise
