import StackTape.Cell.Arithmetic
import StackTape.Draws
import StackTape.Exchange.Channel
import StackTape.Journal

namespace StackTape

/-!
# The bench

A task sees the current stack, the channel, the journal, the draws and the waits, and
nothing else of its invocation.  Work on this bench may fail; the bench is then left
as the failed work made it.
-/

/-- What a task works on. -/
structure Bench where
  stack : Stack
  channel : Channel
  journal : Journal
  draws : Draws
  /-- How many seconds each wait was to take, the last one first. -/
  waits : List Binary64

/-- Work on a bench, which a fault may end. -/
abbrev Work :=
  EStateM Fault Bench

namespace Work

/-- End the work with a fault. -/
def fail {α : Type} (fault : Fault) : Work α :=
  throw fault

/-- The result of a computation that needs no bench. -/
def ofExcept {α : Type} : Except Fault α → Work α
  | .ok result =>
      pure result
  | .error fault =>
      fail fault

/-- Note an event. -/
def note (event : Journal.Event) : Work Unit :=
  modify fun bench =>
    { bench with journal := bench.journal.note event }

/-- The current stack. -/
def stack : Work Stack := do
  return (← get).stack

/-- Replace the current stack. -/
def setStack (stack : Stack) : Work Unit :=
  modify fun bench =>
    { bench with stack := stack }

/-- Put a cell on top. -/
def push (cell : Cell) : Work Unit := do
  setStack ((← stack).push cell)

/-- Put an integer on top. -/
def pushInteger (value : Int) : Work Unit :=
  push (.int value)

/-- Put cells on top; the last one ends on top. -/
def append (cells : List Cell) : Work Unit := do
  setStack ((← stack).append cells)

/-- Take everything off the stack, bottom first. -/
def takeAll : Work (List Cell) := do
  let cells := (← stack).toList
  setStack .empty
  return cells

/-- Take the top cell off, when there is one. -/
def pop? : Work (Option Cell) := do
  match (← stack).pop? with
  | some (top, rest) =>
      setStack rest
      return some top
  | none =>
      return none

/-- Take the top cell off an instruction that never reads input. -/
def takeTop : Work Cell := do
  match ← pop? with
  | some top =>
      return top
  | none =>
      fail (.emptyStack .pop)

/-- Read a line, when the input has one. -/
def readLine : Work (Option Text) := do
  let bench ← get
  let (reading, rest) := bench.channel.read
  set { bench with channel := rest }
  if reading = .unreadable then
    note .unreadableLine
  return reading.line?

/-- Read a line; at the end of the input the empty one. -/
def readLineOrEmpty : Work Text := do
  return (← readLine).getD []

/-- Output an emission. -/
def emit (emission : Emission) : Work Unit := do
  let bench ← get
  match bench.channel.emit emission with
  | .ok after =>
      set { bench with channel := after }
  | .error after =>
      set { bench with channel := after }
      fail (.outputRefused Sink.refusal)

/--
The operand that the input gives when the stack has none: the integer on the next
line, or none at an empty line or the end of the input.
-/
def implicitOperand? : Work (Option Int) := do
  let line ← readLineOrEmpty
  if line = [] then
    note .implicitZero
    return none
  else
    match Cell.integerOfLine? line with
    | some value =>
        note .implicitInput
        return some value
    | none =>
        fail (.notInteger line)

/-- An operand, and whether it was read from a line. -/
structure Operand where
  cell : Cell
  isFromLine : Bool
  deriving DecidableEq

/-- The top cell, or else an implicit operand, which is zero without input. -/
def operand : Work Operand := do
  match ← pop? with
  | some top =>
      return ⟨top, false⟩
  | none =>
      match ← implicitOperand? with
      | some value =>
          return ⟨.int value, true⟩
      | none =>
          return ⟨.int 0, false⟩

/-- The cell of the next operand. -/
def takeOperand : Work Cell := do
  return (← operand).cell

/--
The right and the left operand of an operation on two cells.  The top cell is the
right one; an operand from a line goes on top of what was taken before it.
-/
def takePair : Work (Cell × Cell) := do
  let first ← operand
  let second ← operand
  if second.isFromLine then
    return (second.cell, first.cell)
  else
    return (first.cell, second.cell)

/-- Read every remaining line as an integer onto the stack. -/
def readIntegers : Work Unit := do
  let bench ← get
  let (values, ending, rest) := bench.channel.readIntegers
  set { bench with
    channel := rest
    stack := bench.stack.append (values.map .int) }
  match ending with
  | .complete =>
      return
  | .unreadable =>
      note .unreadableLine
  | .notInteger line =>
      fail (.notInteger line)

/-- Read all integers when the stack is empty. -/
def readIfEmpty : Work Unit := do
  if (← stack).isEmpty then
    readIntegers

end Work

end StackTape
