import StackTape.Stack

namespace StackTape

/-!
# The tape of stacks

An invocation works on a row of stacks and looks at one of them.  The row grows by
an empty stack whenever the look moves past one of its ends.  The stacks on either
side are kept nearest first, so the current stack always exists.
-/

/-- A row of stacks with a current one. -/
structure Tape where
  /-- The stacks on the left, nearest first. -/
  left : List Stack
  current : Stack
  /-- The stacks on the right, nearest first. -/
  right : List Stack
  deriving DecidableEq

namespace Tape

/-- One empty stack. -/
def initial : Tape :=
  ⟨[], .empty, []⟩

instance : Inhabited Tape :=
  ⟨initial⟩

/-- All stacks from left to right. -/
def toList (tape : Tape) : List Stack :=
  tape.left.reverse ++ tape.current :: tape.right

/-- How many stacks lie on the left of the current one. -/
def pointer (tape : Tape) : Nat :=
  tape.left.length

/-- Look at the stack on the left; past the end it is a new one. -/
def moveLeft (tape : Tape) : Tape :=
  match tape.left with
  | [] =>
      ⟨[], .empty, tape.current :: tape.right⟩
  | nearest :: others =>
      ⟨others, nearest, tape.current :: tape.right⟩

/-- Look at the stack on the right; past the end it is a new one. -/
def moveRight (tape : Tape) : Tape :=
  match tape.right with
  | [] =>
      ⟨tape.current :: tape.left, .empty, []⟩
  | nearest :: others =>
      ⟨tape.current :: tape.left, nearest, others⟩

/-- Replace the current stack. -/
def withCurrent
    (tape : Tape)
    (stack : Stack) : Tape :=
  { tape with current := stack }

@[simp] theorem current_withCurrent
    (tape : Tape)
    (stack : Stack) :
    (tape.withCurrent stack).current = stack :=
  rfl

@[simp] theorem pointer_withCurrent
    (tape : Tape)
    (stack : Stack) :
    (tape.withCurrent stack).pointer = tape.pointer :=
  rfl

/-- The pointer names the current stack. -/
@[simp] theorem getElem?_pointer
    (tape : Tape) :
    tape.toList[tape.pointer]? = some tape.current := by
  simp [toList, pointer]

/-- Replacing the current stack changes the row at the pointer alone. -/
theorem toList_withCurrent
    (tape : Tape)
    (stack : Stack) :
    (tape.withCurrent stack).toList =
      tape.toList.set tape.pointer stack := by
  simp [toList, pointer, withCurrent]

/-- Past the left end the row grows in front and the pointer stays. -/
theorem toList_moveLeft_of_pointer_eq_zero
    {tape : Tape}
    (atEnd : tape.pointer = 0) :
    tape.moveLeft.toList = .empty :: tape.toList ∧
      tape.moveLeft.pointer = 0 := by
  have noLeft : tape.left = [] := List.eq_nil_of_length_eq_zero atEnd
  simp [moveLeft, toList, pointer, noLeft]

/-- Within the row moving left changes the pointer alone. -/
theorem toList_moveLeft_of_pointer_pos
    {tape : Tape}
    (inside : 0 < tape.pointer) :
    tape.moveLeft.toList = tape.toList ∧
      tape.moveLeft.pointer + 1 = tape.pointer := by
  cases shape : tape.left with
  | nil =>
      simp [pointer, shape] at inside
  | cons nearest others =>
      simp [moveLeft, toList, pointer, shape]

/-- Past the right end the row grows at the back. -/
theorem toList_moveRight_of_pointer_eq
    {tape : Tape}
    (atEnd : tape.pointer + 1 = tape.toList.length) :
    tape.moveRight.toList = tape.toList ++ [.empty] ∧
      tape.moveRight.pointer = tape.pointer + 1 := by
  have noRight : tape.right = [] := by
    simp [pointer, toList] at atEnd
    exact atEnd
  simp [moveRight, toList, pointer, noRight]

/-- Within the row moving right changes the pointer alone. -/
theorem toList_moveRight_of_pointer_lt
    {tape : Tape}
    (inside : tape.pointer + 1 < tape.toList.length) :
    tape.moveRight.toList = tape.toList ∧
      tape.moveRight.pointer = tape.pointer + 1 := by
  cases shape : tape.right with
  | nil =>
      simp [pointer, toList, shape] at inside
  | cons nearest others =>
      simp [moveRight, toList, pointer, shape]

end Tape

end StackTape
