import StackTape.Machine.Bench
import StackTape.Opcode

namespace StackTape

/-!
# Tasks at work

What every task does to its bench.  Some tasks have a variant for the whole stack,
which an ampersand right before the instruction selects.
-/

namespace Work

/-- Apply an operation to the two topmost cells. -/
def binary (operation : Cell → Cell → Except Fault Cell) : Work Unit := do
  let (right, left) ← takePair
  push (← ofExcept (operation left right))

/-- Apply an operation to the top cell. -/
def unary (operation : Cell → Except Fault Cell) : Work Unit := do
  let cell ← takeOperand
  push (← ofExcept (operation cell))

/-- Take a cell off and compare the new top with it. -/
def comparison (relation : Cell → Cell → Bool) : Work Unit := do
  let right ← takeOperand
  match (← stack).peek? with
  | some left =>
      push (Cell.ofBool (relation left right))
  | none =>
      fail (.emptyStack .comparison)

/-- Read a line as its characters; zero at the end of the input. -/
def readCharacters : Work Unit := do
  match ← readLine with
  | some line =>
      append (line.map Cell.ofChar)
  | none =>
      pushInteger 0

/-- Read a line as an integer; zero for an empty line and at the end. -/
def readNumber : Work Unit := do
  let line ← readLineOrEmpty
  if line = [] then
    pushInteger 0
  else
    match Cell.integerOfLine? line with
    | some value =>
        pushInteger value
    | none =>
        fail (.notInteger line)

/-- Take a cell off and output its character. -/
def writeCharacter : Work Unit := do
  let cell ← takeTop
  let c ← ofExcept cell.character
  emit (.character c)

/-- Output the characters of cells one after the other. -/
def writeCells : List Cell → Work Unit
  | [] =>
      return
  | cell :: rest => do
      let c ← ofExcept cell.character
      emit (.character c)
      writeCells rest

/-- Output the whole stack as characters, a line of input if it is empty. -/
def writeCharacters : Work Unit := do
  if (← stack).isEmpty then
    let line ← readLineOrEmpty
    append (line.map Cell.ofChar)
  writeCells (← takeAll)

/-- Take a cell off and output it as a number. -/
def writeNumber : Work Unit := do
  let cell ← takeTop
  emit (.number cell)

/-- Output the whole stack as numbers, one on a line. -/
def writeNumbers : Work Unit := do
  readIfEmpty
  let cells ← takeAll
  emit (.text (List.intercalate ['\n'] (cells.map Cell.text)))

/-- Add cells to a sum one after the other. -/
def sumOf (cells : List Cell) : Except Fault Cell :=
  cells.foldlM Cell.add (.int 0)

/-- Replace the whole stack by its sum. -/
def sum : Work Unit := do
  readIfEmpty
  let cells ← takeAll
  push (← ofExcept (sumOf cells))

/-- Take two cells off and put the remainder on. -/
def modulo : Work Unit := do
  let right ← takeOperand
  let left ← takeOperand
  push (← ofExcept (left.mod right))

/-- Take a cell off and tell whether the new top equals it. -/
def equal : Work Unit := do
  let right ← takeTop
  match (← stack).peek? with
  | some left =>
      push (Cell.ofBool (left.equals right))
  | none =>
      push (Cell.ofBool false)

/-- Put the top cell on once more, when there is one. -/
def duplicate : Work Unit := do
  match (← stack).peek? with
  | some top =>
      push top
  | none =>
      return

/-- Put the whole stack on once more. -/
def duplicateAll : Work Unit := do
  readIfEmpty
  append (← stack).toList

/-- Exchange the two topmost cells. -/
def swap : Work Unit := do
  let top ← takeOperand
  let below ← takeOperand
  push top
  push below

/-- Take two bounds off and choose a number between them. -/
def random : Work Unit := do
  let (upper, lower) ← takePair
  let low ← ofExcept lower.integer
  let high ← ofExcept upper.integer
  if high < low then
    fail (.emptyRange low high)
  else
    let bench ← get
    let (value, rest) := bench.draws.choose low high
    set { bench with draws := rest }
    pushInteger value

/-- The digits of a cell's text as cells. -/
def digitsOf (cell : Cell) : Except Fault (List Cell) :=
  if cell.text.all Char.isDigit then
    .ok (cell.text.map fun c => .int (c.toNat - '0'.toNat : Nat))
  else
    .error (.notDigits cell)

/-- Take a cell off and put its digits on. -/
def splitDigits : Work Unit := do
  let cell ← takeOperand
  append (← ofExcept (digitsOf cell))

/-- The integer that the texts of cells spell one after the other. -/
def joined (cells : List Cell) : Except Fault Int :=
  let row := (cells.map Cell.text).flatten
  match Decimal.integer? row with
  | some value =>
      .ok value
  | none =>
      .error (.notJoinable row)

/-- Replace the whole stack by the integer that its texts spell. -/
def joinDigits : Work Unit := do
  readIfEmpty
  let stack ← stack
  if stack.isEmpty then
    fail (.emptyStack .join)
  else
    let value ← ofExcept (joined stack.toList)
    setStack (Stack.ofList [.int value])

/-- Put the cell at an index on top. -/
def index : Work Unit := do
  let place ← ofExcept (← takeTop).clampedInteger
  push (← ofExcept ((← stack).get place))

/-- The integers from a lower to an upper bound. -/
def integersBetween (low high : Int) : List Cell :=
  (List.range (high - low + 1).toNat).map fun offset =>
    .int (low + (offset : Nat))

/-- Take two bounds off and put the integers between them on. -/
def range : Work Unit := do
  let upper ← takeOperand
  let lower ← takeOperand
  let low ← ofExcept lower.integer
  let high ← ofExcept upper.integer
  append (integersBetween low high)

/-- Take a number of seconds off and wait as long. -/
def wait : Work Unit := do
  let cell ← takeOperand
  if cell.isDuration then
    modify fun bench =>
      { bench with waits := cell.nearestReal :: bench.waits }
  else
    fail (.notDuration cell)

/-- Take two indices off and exchange the cells there. -/
def swapAt : Work Unit := do
  let upper ← ofExcept (← takeTop).clampedInteger
  let lower ← ofExcept (← takeTop).clampedInteger
  setStack (← ofExcept ((← stack).swap lower upper))

/-- Take a cell off and tell whether the stack still holds its value. -/
def contains : Work Unit := do
  let cell ← takeTop
  push (Cell.ofBool ((← stack).contains cell))

end Work

namespace Task

/-- What the task does; `whole` selects the variant for the whole stack. -/
def perform (whole : Bool) : Task → Work Unit
  | .digit value =>
      Work.pushInteger value
  | .readLine =>
      Work.readCharacters
  | .readNumber =>
      if whole then Work.readIntegers else Work.readNumber
  | .writeCharacter =>
      if whole then Work.writeCharacters else Work.writeCharacter
  | .writeNumber =>
      if whole then Work.writeNumbers else Work.writeNumber
  | .reverse => do
      Work.readIfEmpty
      Work.setStack (← Work.stack).reverse
  | .add =>
      if whole then Work.sum else Work.binary Cell.add
  | .subtract =>
      Work.binary Cell.sub
  | .multiply =>
      Work.binary Cell.mul
  | .divide =>
      Work.binary Cell.div
  | .modulo =>
      Work.modulo
  | .power =>
      Work.binary Cell.pow
  | .less =>
      Work.comparison Cell.isLess
  | .greater =>
      Work.comparison Cell.isGreater
  | .equal =>
      Work.equal
  | .duplicate =>
      if whole then Work.duplicateAll else Work.duplicate
  | .pop => do
      if whole then
        Work.setStack .empty
      else
        let _ ← Work.takeTop
  | .not =>
      Work.unary fun cell => .ok (Cell.ofBool (!cell.isNonzero))
  | .swap =>
      Work.swap
  | .random =>
      Work.random
  | .length => do
      Work.pushInteger (← Work.stack).length
  | .countCharacters =>
      Work.unary fun cell => .ok (.int cell.text.length)
  | .splitDigits =>
      Work.splitDigits
  | .joinDigits =>
      Work.joinDigits
  | .sort => do
      Work.readIfEmpty
      Work.setStack (← Work.stack).sort
  | .negate =>
      Work.unary fun cell => .ok cell.neg
  | .index =>
      Work.index
  | .range =>
      Work.range
  | .wait =>
      Work.wait
  | .swapAt =>
      Work.swapAt
  | .increment =>
      Work.unary fun cell => cell.add (.int 1)
  | .decrement =>
      Work.unary fun cell => cell.sub (.int 1)
  | .contains =>
      Work.contains

end Task

end StackTape
