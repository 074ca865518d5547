import Mathlib.Logic.Function.Basic
import StackTape.Proofs.Reachability

namespace StackTape

/-!
# The endless tape

The row of stacks grows at both of its ends, and growing in front gives every stack a
new index.  Seen from places that never change, the row is a window on a tape without
ends: moving along the row moves the head, work on the current stack changes the tape at
the head alone, and whatever lies outside the window is empty.

Three machines do the same operations here: the tape, which keeps the stacks on either
side of the current one; the row, which keeps them in one list and knows the current one
by its index; and the endless tape.
-/

namespace Tape

/-- What is done with a tape. -/
inductive Operation where
  | left
  | right
  /-- Make another stack of the current one. -/
  | change (effect : Stack → Stack)

/-- The tape after an operation. -/
def apply (tape : Tape) : Operation → Tape
  | .left =>
      tape.moveLeft
  | .right =>
      tape.moveRight
  | .change effect =>
      tape.withCurrent (effect tape.current)

/-- The tape after operations, one after the other. -/
def applyAll
    (tape : Tape)
    (operations : List Operation) : Tape :=
  operations.foldl apply tape

/-! ## The endless tape -/

/-- A tape without ends, and the place on it that is looked at. -/
structure Endless where
  head : Int
  stackAt : Int → Stack

namespace Endless

/-- Nothing but empty stacks. -/
def blank (head : Int) : Endless where
  head := head
  stackAt _ := .empty

/-- The tape after an operation; only a change touches a stack, the one at the head. -/
def apply (endless : Endless) : Operation → Endless
  | .left =>
      { endless with head := endless.head - 1 }
  | .right =>
      { endless with head := endless.head + 1 }
  | .change effect =>
      { endless with
        stackAt :=
          Function.update endless.stackAt endless.head
            (effect (endless.stackAt endless.head)) }

/-- The tape after operations, one after the other. -/
def applyAll
    (endless : Endless)
    (operations : List Operation) : Endless :=
  operations.foldl apply endless

/-- The changes that operations make at a place, given where the head is before them. -/
def changesAt (place : Int) : Int → List Operation → List (Stack → Stack)
  | _, [] =>
      []
  | head, .left :: rest =>
      changesAt place (head - 1) rest
  | head, .right :: rest =>
      changesAt place (head + 1) rest
  | head, .change effect :: rest =>
      if place = head then
        effect :: changesAt place head rest
      else
        changesAt place head rest

/-- What one change after the other makes of a stack. -/
def changed
    (stack : Stack)
    (changes : List (Stack → Stack)) : Stack :=
  changes.foldl (fun before effect => effect before) stack

/-- At every place stands what the changes made there make of the stack there. -/
theorem stackAt_applyAll
    (endless : Endless)
    (operations : List Operation)
    (place : Int) :
    (endless.applyAll operations).stackAt place =
      changed (endless.stackAt place)
        (changesAt place endless.head operations) := by
  induction operations generalizing endless with
  | nil =>
      rfl
  | cons operation rest inductionHypothesis =>
      have onward := inductionHypothesis (endless.apply operation)
      cases operation with
      | left | right =>
          exact onward
      | change effect =>
          refine onward.trans ?_
          by_cases here : place = endless.head
          · subst here
            simp [apply, changesAt, changed]
          · simp [apply, changesAt, here]

end Endless

/-! ## The row -/

/-- All stacks from left to right, and the index of the current one. -/
structure Row where
  entries : List Stack
  pointer : Nat

namespace Row

/-- One empty stack. -/
def initial : Row :=
  ⟨[.empty], 0⟩

/-- The row after an operation; past either end it grows by an empty stack. -/
def apply (row : Row) : Operation → Row
  | .left =>
      if row.pointer = 0 then
        ⟨.empty :: row.entries, 0⟩
      else
        ⟨row.entries, row.pointer - 1⟩
  | .right =>
      if row.pointer + 1 = row.entries.length then
        ⟨row.entries ++ [.empty], row.pointer + 1⟩
      else
        ⟨row.entries, row.pointer + 1⟩
  | .change effect =>
      ⟨row.entries.modify row.pointer effect, row.pointer⟩

/-- The row after operations, one after the other. -/
def applyAll
    (row : Row)
    (operations : List Operation) : Row :=
  operations.foldl apply row

/-- The current stack exists. -/
def InBounds (row : Row) : Prop :=
  row.pointer < row.entries.length

/-- The stack at an index; beyond the ends of the row it is empty. -/
def entryAt
    (entries : List Stack)
    (index : Int) : Stack :=
  if 0 ≤ index then
    entries[index.toNat]?.getD .empty
  else
    .empty

/-- The endless tape that a row is a window on, for a head at the current stack. -/
def around
    (row : Row)
    (head : Int) : Endless where
  head := head
  stackAt place := entryAt row.entries (row.pointer + place - head)

theorem inBounds_initial :
    initial.InBounds :=
  Nat.zero_lt_one

/-- Every operation keeps the pointer inside the row. -/
theorem InBounds.apply
    {row : Row}
    (inside : row.InBounds)
    (operation : Operation) :
    (row.apply operation).InBounds := by
  unfold InBounds at *
  cases operation with
  | left =>
      simp only [Row.apply]
      split
      · simp
      · simp only
        omega
  | right =>
      simp only [Row.apply]
      split
      · simp only [List.length_append, List.length_singleton]
        omega
      · simp only
        omega
  | change effect =>
      simpa [Row.apply] using inside

@[simp] theorem entryAt_natCast
    (entries : List Stack)
    (position : Nat) :
    entryAt entries position = entries[position]?.getD .empty := by
  simp [entryAt]

/-- With an empty stack in front everything stands one index further on. -/
theorem entryAt_empty_cons
    (entries : List Stack)
    (index : Int) :
    entryAt (.empty :: entries) (index + 1) = entryAt entries index := by
  unfold entryAt
  rcases Int.lt_trichotomy index (-1) with before | front | inside
  · rw [if_neg (by omega), if_neg (by omega)]
  · -- the empty stack itself stands where there was none
    subst front
    rfl
  · have next : (index + 1).toNat = index.toNat + 1 := by
      omega
    rw [if_pos (by omega), if_pos (by omega), next, List.getElem?_cons_succ]

/-- An empty stack at the back cannot be told from none. -/
theorem entryAt_append_empty
    (entries : List Stack)
    (index : Int) :
    entryAt (entries ++ [.empty]) index = entryAt entries index := by
  unfold entryAt
  split
  · rcases Nat.lt_trichotomy index.toNat entries.length with inside | back | beyond
    · rw [List.getElem?_append_left inside]
    · rw [List.getElem?_append_right (by omega),
        List.getElem?_eq_none (l := entries) (by omega)]
      simp [back]
    · rw [List.getElem?_eq_none (by simpa using by omega),
        List.getElem?_eq_none (by omega)]
  · rfl

/-- A change at a position of the row changes the entry there alone. -/
theorem entryAt_modify
    {entries : List Stack}
    {position : Nat}
    (inside : position < entries.length)
    (effect : Stack → Stack)
    (index : Int) :
    entryAt (entries.modify position effect) index =
      if index = position then
        effect (entryAt entries position)
      else
        entryAt entries index := by
  by_cases here : index = position
  · subst here
    simp [inside]
  · rw [if_neg here]
    unfold entryAt
    split
    · have apart : position ≠ index.toNat := by
        omega
      simp [apart]
    · rfl

/-- The stack at the head is the one that the pointer names. -/
theorem stackAt_head_around
    (row : Row)
    (head : Int) :
    (row.around head).stackAt head = row.entries[row.pointer]?.getD .empty := by
  have here : (row.pointer + head - head : Int) = row.pointer := by
    omega
  simp only [around, here, entryAt_natCast]

/-- An operation on the row is the same operation on the endless tape around it. -/
theorem around_apply
    {row : Row}
    (inside : row.InBounds)
    (head : Int)
    (operation : Operation) :
    (row.apply operation).around ((row.around head).apply operation).head =
      (row.around head).apply operation := by
  cases operation with
  | left =>
      simp only [apply, Endless.apply, around, Endless.mk.injEq, true_and]
      funext place
      by_cases atFront : row.pointer = 0
      · -- every index grows by one, while the pointer stays
        have index :
            ((0 : Nat) : Int) + place - (head - 1) =
              row.pointer + place - head + 1 := by
          omega
        rw [if_pos atFront, index, entryAt_empty_cons]
      · have index :
            ((row.pointer - 1 : Nat) : Int) + place - (head - 1) =
              row.pointer + place - head := by
          omega
        rw [if_neg atFront, index]
  | right =>
      simp only [apply, Endless.apply, around, Endless.mk.injEq, true_and]
      funext place
      have index :
          ((row.pointer + 1 : Nat) : Int) + place - (head + 1) =
            row.pointer + place - head := by
        omega
      split
      · rw [index, entryAt_append_empty]
      · rw [index]
  | change effect =>
      simp only [apply, Endless.apply, around, Endless.mk.injEq, true_and]
      funext place
      have atHead : (row.pointer + head - head : Int) = row.pointer := by
        omega
      have here : (row.pointer + place - head : Int) = row.pointer ↔ place = head := by
        omega
      simp only [entryAt_modify inside, Function.update_apply, atHead, here]

/-- So are operations one after the other, and the pointer stays inside the row. -/
theorem around_applyAll
    {row : Row}
    (inside : row.InBounds)
    (head : Int)
    (operations : List Operation) :
    (row.applyAll operations).InBounds ∧
      (row.applyAll operations).around
          ((row.around head).applyAll operations).head =
        (row.around head).applyAll operations := by
  induction operations generalizing row head with
  | nil =>
      exact ⟨inside, rfl⟩
  | cons operation rest inductionHypothesis =>
      have onward :=
        inductionHypothesis (inside.apply operation)
          ((row.around head).apply operation).head
      rwa [around_apply inside] at onward

/-- The row of one empty stack is a window on the blank tape. -/
theorem around_initial
    (head : Int) :
    initial.around head = .blank head := by
  have nothing (index : Int) : entryAt [.empty] index = .empty := by
    rw [← List.nil_append [Stack.empty], entryAt_append_empty]
    simp [entryAt]
  simp [around, Endless.blank, initial, nothing]

end Row

/-! ## The tape -/

/-- The tape's stacks as a row. -/
def row (tape : Tape) : Row :=
  ⟨tape.toList, tape.pointer⟩

@[simp] theorem entries_row
    (tape : Tape) :
    tape.row.entries = tape.toList :=
  rfl

@[simp] theorem pointer_row
    (tape : Tape) :
    tape.row.pointer = tape.pointer :=
  rfl

/-- An operation on the tape is the same operation on its row. -/
theorem row_apply
    (tape : Tape)
    (operation : Operation) :
    (tape.apply operation).row = tape.row.apply operation := by
  cases operation with
  | left =>
      by_cases atEnd : tape.row.pointer = 0
      · obtain ⟨grown, still⟩ := toList_moveLeft_of_pointer_eq_zero atEnd
        rw [Row.apply, if_pos atEnd, apply, row, grown, still, entries_row]
      · obtain ⟨same, moved⟩ :=
          toList_moveLeft_of_pointer_pos (Nat.pos_of_ne_zero atEnd)
        rw [Row.apply, if_neg atEnd, apply, row, same, entries_row, pointer_row,
          ← moved, Nat.add_sub_cancel]
  | right =>
      by_cases atEnd : tape.row.pointer + 1 = tape.row.entries.length
      · obtain ⟨grown, moved⟩ := toList_moveRight_of_pointer_eq atEnd
        rw [Row.apply, if_pos atEnd, apply, row, grown, moved, entries_row,
          pointer_row]
      · have inside : tape.row.pointer < tape.row.entries.length := by
          simp [pointer, toList]
        have further : tape.row.pointer + 1 < tape.row.entries.length := by
          omega
        obtain ⟨same, moved⟩ := toList_moveRight_of_pointer_lt further
        rw [Row.apply, if_neg atEnd, apply, row, same, moved, entries_row,
          pointer_row]
  | change effect =>
      rw [Row.apply, apply, row, toList_withCurrent, pointer_withCurrent,
        entries_row, pointer_row, List.modify_eq_set, getElem?_pointer,
        Option.getD_some]

theorem row_applyAll
    (tape : Tape)
    (operations : List Operation) :
    (tape.applyAll operations).row = tape.row.applyAll operations := by
  induction operations generalizing tape with
  | nil =>
      rfl
  | cons operation rest inductionHypothesis =>
      have onward := inductionHypothesis (tape.apply operation)
      rwa [row_apply] at onward

/--
Whatever is done with it, the tape is a row with the pointer inside it, and this row is
a window on the tape without ends that the same operations make of the blank one.  The
current stack is the one at its head, and every place holds what the changes made at that
place, and only these, in their order, make of the empty stack.
-/
theorem window_of_operations
    (operations : List Operation)
    (head : Int) :
    let tape := initial.applyAll operations
    let row := Row.initial.applyAll operations
    let endless := (Endless.blank head).applyAll operations
    tape.row = row ∧
      row.pointer < row.entries.length ∧
      row.around endless.head = endless ∧
      tape.current = endless.stackAt endless.head ∧
      ∀ place,
        endless.stackAt place =
          Endless.changed .empty (Endless.changesAt place head operations) := by
  intro tape row endless
  have sameRow : tape.row = row := row_applyAll initial operations
  obtain ⟨inside, window⟩ :=
    Row.around_applyAll Row.inBounds_initial head operations
  rw [Row.around_initial] at window
  have atHead : tape.current = endless.stackAt endless.head := by
    have seen := Row.stackAt_head_around row endless.head
    rw [window, ← sameRow, entries_row, pointer_row, getElem?_pointer] at seen
    exact seen.symm
  exact ⟨sameRow, inside, window, atHead,
    Endless.stackAt_applyAll (.blank head) operations⟩

end Tape

namespace Invocation

/-! ## The tape of a run -/

/-- A step does one operation on the tape, and moves only when it is told to. -/
theorem exists_operation_of_step
    {limit budget : Nat}
    {before after : Invocation}
    (left : (before.step limit budget).state? = some after) :
    ∃ operation,
      after.tape = before.tape.apply operation ∧
        (operation = .left → before.dispatched? = some .moveLeft) ∧
        (operation = .right → before.dispatched? = some .moveRight) := by
  rcases (frame_stepWith left).tape with
    ⟨stack, changed⟩ | ⟨dispatched, moved⟩ | ⟨dispatched, moved⟩
  · exact ⟨.change fun _ => stack, changed, nofun, nofun⟩
  · exact ⟨.left, moved, fun _ => dispatched, nofun⟩
  · exact ⟨.right, moved, nofun, fun _ => dispatched⟩

end Invocation

end StackTape
