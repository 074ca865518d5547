import StackTape.Cell.Basic
import StackTape.Text.Quoted

namespace StackTape

/-!
# Faults

A fault is the cause that ends an invocation.  Its category and its wording follow
from the cause.  A fault inside a function body reaches the caller as a fault of
its own that keeps the position in the body.
-/

/-- What kind of mistake a fault is. -/
inductive Category where
  | emptyStack
  | input
  | backup
  | function
  | zeroDivision
  | index
  | overflow
  | type
  | value
  | recursion
  | output
  deriving DecidableEq, Repr

namespace Category

/-- The name shown in reports. -/
def name : Category → String
  | .emptyStack =>
      "EmptyStackError"
  | .input =>
      "InputError"
  | .backup =>
      "BackupCellError"
  | .function =>
      "FunctionError"
  | .zeroDivision =>
      "ZeroDivisionError"
  | .index =>
      "IndexError"
  | .overflow =>
      "OverflowError"
  | .type =>
      "TypeError"
  | .value =>
      "ValueError"
  | .recursion =>
      "RecursionError"
  | .output =>
      "IOError"

end Category

/-- What an instruction needed a stack entry for. -/
inductive StackNeed where
  | pop
  | comparison
  | join
  deriving DecidableEq, Repr

/-- The operations that zero cannot take part in. -/
inductive ZeroUse where
  | divisor
  | modulus
  | negativePower
  deriving DecidableEq, Repr

/-- The cause that ends an invocation. -/
inductive Fault where
  /-- The current stack was empty. -/
  | emptyStack (need : StackNeed)
  /-- An input line is not an integer. -/
  | notInteger (line : Text)
  /-- Nothing was backed up. -/
  | emptyBackup
  /-- Zero was a divisor or was raised to a negative power. -/
  | zeroDivision (use : ZeroUse)
  /-- No cell of the stack has this index. -/
  | indexOutOfRange (index : Int) (length : Nat)
  /-- An integer operand lies beyond the reals. -/
  | integerTooLarge
  /-- An integer power would be too long. -/
  | exponentTooLarge (exponent : Int)
  /-- A real power lies beyond the reals. -/
  | powerTooLarge
  /-- A real stood where an integer is needed. -/
  | realForInteger (value : Binary64)
  /-- No character has this code point. -/
  | notCharacter (code : Int)
  /-- The lower bound of a random choice exceeds the upper one. -/
  | emptyRange (low high : Int)
  /-- The cell's text does not consist of digits. -/
  | notDigits (cell : Cell)
  /-- The joined texts of the cells spell no integer. -/
  | notJoinable (joined : Text)
  /-- The cell is no length of time. -/
  | notDuration (cell : Cell)
  /-- A function body holds the instruction that reads a line. -/
  | inputInFunction
  /-- Function calls nest as deeply as they may. -/
  | recursionLimit (limit : Nat)
  /-- A called function failed at this position of its body. -/
  | inFunction
      (name : Char)
      (index : Nat)
      (instruction : Option Char)
      (cause : Fault)
  /-- The output was refused. -/
  | outputRefused (reason : String)
  /-- A fault that the embedding program words itself. -/
  | stated (category : Category) (reason : String)
  deriving DecidableEq

namespace Fault

/-- The kind of mistake. -/
def category : Fault → Category
  | .emptyStack _ =>
      .emptyStack
  | .notInteger _ =>
      .input
  | .emptyBackup =>
      .backup
  | .zeroDivision _ =>
      .zeroDivision
  | .indexOutOfRange _ _ =>
      .index
  | .integerTooLarge | .exponentTooLarge _ | .powerTooLarge =>
      .overflow
  | .realForInteger _ =>
      .type
  | .notCharacter _ | .emptyRange _ _ | .notDigits _ | .notJoinable _
  | .notDuration _ =>
      .value
  | .inputInFunction | .inFunction _ _ _ _ =>
      .function
  | .recursionLimit _ =>
      .recursion
  | .outputRefused _ =>
      .output
  | .stated category _ =>
      category

/-- The wording of the cause, without category and position. -/
def message : Fault → String
  | .emptyStack .pop =>
      "cannot pop from an empty stack"
  | .emptyStack .comparison =>
      "cannot compare with an empty stack"
  | .emptyStack .join =>
      "cannot join an empty stack"
  | .notInteger line =>
      let shown := String.ofList (Text.quoted line)
      s!"program expected integer input, got {shown} instead"
  | .emptyBackup =>
      "attempted to load backup, but backup is empty"
  | .zeroDivision .divisor =>
      "division by zero"
  | .zeroDivision .modulus =>
      "modulo by zero"
  | .zeroDivision .negativePower =>
      "zero cannot be raised to a negative power"
  | .indexOutOfRange index length =>
      s!"stack index {index} out of range for a stack of length {length}"
  | .integerTooLarge =>
      "integer too large to convert to a real number"
  | .exponentTooLarge exponent =>
      s!"exponent {exponent} is too large"
  | .powerTooLarge =>
      "real exponentiation result too large"
  | .realForInteger value =>
      let shown := String.ofList (Decimal.ofReal value)
      s!"expected an integer, got the real number {shown}"
  | .notCharacter code =>
      s!"{code} is not a valid character code"
  | .emptyRange low high =>
      s!"empty range for a random number: {low} to {high}"
  | .notDigits cell =>
      s!"cannot split {cell} into digits"
  | .notJoinable joined =>
      let shown := String.ofList joined
      s!"cannot join {shown} into an integer"
  | .notDuration cell =>
      s!"cannot wait for {cell} seconds"
  | .inputInFunction =>
      "functions cannot contain the 'i' instruction"
  | .recursionLimit limit =>
      s!"maximum function call depth of {limit} exceeded"
  | .inFunction name _ _ cause =>
      let kind := cause.category.name
      let reason := cause.message
      s!"{kind} in function {name}: {reason}"
  | .outputRefused reason =>
      reason
  | .stated _ reason =>
      reason

end Fault

/-- A fault at an instruction of the invocation that it ends. -/
structure Failure where
  /-- The position in the invocation's text. -/
  index : Nat
  /-- The instruction there; none when the output at the end of the text failed. -/
  instruction : Option Char
  fault : Fault
  deriving DecidableEq

namespace Failure

/-- The fault that a failed function body is to its caller. -/
def raisedBy
    (name : Char)
    (inner : Failure) : Fault :=
  .inFunction name inner.index inner.instruction inner.fault

/-- The failure that was raised first, and the functions called on the way. -/
def trail
    (index : Nat)
    (instruction : Option Char) :
    Fault → List (Char × Nat × Option Char) × Failure
  | .inFunction name innerIndex innerInstruction cause =>
      let (calls, origin) := trail innerIndex innerInstruction cause
      ((name, innerIndex, innerInstruction) :: calls, origin)
  | fault =>
      ([], ⟨index, instruction, fault⟩)

/--
The calls that the failure passed through, outermost first: the name called and
the position in that function's body.
-/
def calls (failure : Failure) : List (Char × Nat × Option Char) :=
  (trail failure.index failure.instruction failure.fault).1

/-- The failure that was raised first. -/
def origin (failure : Failure) : Failure :=
  (trail failure.index failure.instruction failure.fault).2

/-- The whole report in one line. -/
def report (failure : Failure) : String :=
  let kind := failure.fault.category.name
  let reason := failure.fault.message
  let index := failure.index
  s!"{kind}: {reason} (index {index})"

/-- Passing through a call keeps the failure that was raised first. -/
@[simp] theorem origin_raisedBy
    (index : Nat)
    (instruction : Option Char)
    (name : Char)
    (inner : Failure) :
    origin ⟨index, instruction, inner.raisedBy name⟩ =
      inner.origin := by
  simp [origin, raisedBy, trail]

/-- Passing through a call puts one more name in front of the calls. -/
@[simp] theorem calls_raisedBy
    (index : Nat)
    (instruction : Option Char)
    (name : Char)
    (inner : Failure) :
    calls ⟨index, instruction, inner.raisedBy name⟩ =
      (name, inner.index, inner.instruction) :: inner.calls := by
  simp [calls, raisedBy, trail]

end Failure

end StackTape
