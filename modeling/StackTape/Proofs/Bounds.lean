import StackTape.Machine.Bench.Lemmas
import StackTape.Proofs.Endless

namespace StackTape

/-!
# Bounds

No state that a run comes across has its cursor behind the end of the text or its
pointer behind the last stack: no step moves either of them out.  From that follows what
every access of an instruction needs: each index that it computes is an index of the text
or of the stack.
-/

namespace Stack

/-- The cell at a resolved index is there. -/
theorem get_of_position
    {stack : Stack}
    {index : Int}
    {place : Nat}
    (resolved : stack.position index = .ok place) :
    ∃ cell, stack.toList[place]? = some cell ∧ stack.get index = .ok cell := by
  have inside : place < stack.toList.length := by
    rw [length_toList]
    exact position_lt resolved
  have present := List.getElem?_eq_getElem inside
  refine ⟨_, present, ?_⟩
  simp only [get, resolved, bind, Except.bind, present]
  rfl

end Stack

namespace Work

/-- An operation on two cells takes two operands off, one after the other. -/
theorem exists_operands_of_takePair
    {bench after : Bench}
    {pair : Cell × Cell}
    (taken : takePair bench = .ok pair after) :
    ∃ first middle second,
      operand bench = .ok first middle ∧
        operand middle = .ok second after ∧
        (pair = (first.cell, second.cell) ∨ pair = (second.cell, first.cell)) := by
  simp only [takePair, bind_apply] at taken
  cases firstTaken : operand bench with
  | error fault middle =>
      simp [firstTaken] at taken
  | ok first middle =>
      simp only [firstTaken] at taken
      cases secondTaken : operand middle with
      | error fault final =>
          simp [secondTaken] at taken
      | ok second final =>
          simp only [secondTaken] at taken
          split at taken <;> cases taken
          · exact ⟨first, middle, second, rfl, secondTaken, .inr rfl⟩
          · exact ⟨first, middle, second, rfl, secondTaken, .inl rfl⟩

end Work

namespace Invocation

/-- The cursor is in the text or right behind it, and the pointer names a stack. -/
structure InBounds (invocation : Invocation) : Prop where
  cursor_le : invocation.cursor ≤ invocation.code.length
  stacks_pos : 0 < invocation.tape.toList.length
  pointer_lt : invocation.tape.pointer < invocation.tape.toList.length

/-- Every index that a step computes from the state names something. -/
structure AccessesValid (invocation : Invocation) : Prop where
  /-- There is a character before the cursor unless the cursor is at the start. -/
  previous : invocation.previous? = none ↔ invocation.cursor = 0
  /--
  A partner found behind the cursor is a closing bracket of the text, so the text up
  to it can be cut out, and one before it is not before the cursor.
  -/
  partner :
    ∀ {opening closing : Char} {close : Nat},
      invocation.partner? opening closing = some close →
      invocation.code[close]? = some closing ∧
        invocation.cursor ≤ close - 1 ∧
        close - 1 + 1 = close ∧
        (invocation.behindCursor.take (close - (invocation.cursor + 1))).length =
          close - (invocation.cursor + 1)
  /-- A partner found before the cursor is an opening bracket of the text. -/
  partnerBefore :
    ∀ {opening closing : Char} {position : Nat},
      Source.partnerBefore? opening closing invocation.code invocation.cursor =
        some position →
      invocation.code[position]? = some opening ∧ position < invocation.cursor
  /-- However many loops are left, the cursor stays in the text. -/
  outside :
    ∀ count,
      cursorOutside invocation.code count invocation.cursor ≤
        invocation.code.length
  /-- Every character that a string is read from has one before it. -/
  lookBehind :
    ∀ position,
      invocation.cursor + 1 ≤ position →
      position < invocation.code.length →
      invocation.cursor ≤ position - 1 ∧
        (invocation.code[position - 1]?).isSome
  /-- The closing quote of a string is a quote of the text. -/
  closingQuote :
    ∀ {offset : Nat},
      (Source.readString false invocation.behindCursor).2 = some offset →
      invocation.code[invocation.cursor + 1 + offset]? = some '"'
  /-- The pointer names the current stack. -/
  stack :
    invocation.tape.toList[invocation.tape.pointer]? = some invocation.stack
  /-- A resolved index of any stack names a cell. -/
  slot :
    ∀ {stack : Stack} {index : Int} {place : Nat},
      stack.position index = .ok place →
      ∃ cell, stack.toList[place]? = some cell ∧ stack.get index = .ok cell
  /-- An operation on two cells has taken both. -/
  operands :
    ∀ {bench after : Bench} {pair : Cell × Cell},
      Work.takePair bench = .ok pair after →
      ∃ first middle second,
        Work.operand bench = .ok first middle ∧
          Work.operand middle = .ok second after ∧
          (pair = (first.cell, second.cell) ∨ pair = (second.cell, first.cell))

/-- The bounds of the tape are those of its row: with the index inside there is a stack. -/
theorem inBounds_of_row
    {invocation : Invocation}
    (cursor_le : invocation.cursor ≤ invocation.code.length)
    (inside : invocation.tape.row.InBounds) :
    invocation.InBounds where
  cursor_le := cursor_le
  stacks_pos := Nat.zero_lt_of_lt inside
  pointer_lt := inside

/-- With one empty stack, at the start of its text, an invocation is in bounds. -/
theorem inBounds_of_begun
    {invocation : Invocation}
    (atStart : invocation.cursor = 0)
    (fresh : invocation.tape = .initial) :
    invocation.InBounds := by
  apply inBounds_of_row
  · rw [atStart]
    exact Nat.zero_le _
  · rw [fresh]
    exact Tape.Row.inBounds_initial

/-- In bounds every access of a step is valid. -/
theorem InBounds.accessesValid
    {invocation : Invocation}
    (bounds : invocation.InBounds) :
    invocation.AccessesValid where
  previous := by
    unfold previous?
    cases place : invocation.cursor with
    | zero =>
        simp
    | succ before =>
        have inside : before + 1 ≤ invocation.code.length :=
          place ▸ bounds.cursor_le
        simpa using Nat.lt_of_succ_le inside
  partner := by
    intro opening closing close found
    have inside := partner?_bounds found
    refine ⟨Source.getElem?_of_partnerAfter? found, ?_, ?_, ?_⟩
    · omega
    · omega
    · rw [List.length_take, behindCursor, List.length_drop]
      omega
  partnerBefore := by
    intro opening closing position found
    exact ⟨Source.getElem?_of_partnerBefore? bounds.cursor_le found,
      Source.partnerBefore?_lt found⟩
  outside := by
    intro count
    rcases Nat.lt_or_eq_of_le bounds.cursor_le with inside | atEnd
    · exact Nat.le_of_lt (cursorOutside_lt inside count)
    · cases count with
      | zero =>
          exact bounds.cursor_le
      | succ count =>
          simp only [cursorOutside]
          split
          · rename_i close found
            have beyond := Source.partnerAfter?_bounds found
            omega
          · exact bounds.cursor_le
  lookBehind := by
    intro position behind inside
    refine ⟨by omega, ?_⟩
    rw [List.getElem?_eq_getElem (by omega)]
    rfl
  closingQuote := by
    intro offset closed
    have present := Source.getElem?_of_readString closed
    rwa [behindCursor, List.getElem?_drop] at present
  stack := by
    simp [Invocation.stack]
  slot := Stack.get_of_position
  operands := Work.exists_operands_of_takePair

/--
A step keeps the cursor and the pointer in bounds: what it does with the tape is one
operation on the row of stacks and its index.
-/
theorem InBounds.step
    {limit budget : Nat}
    {before after : Invocation}
    (bounds : before.InBounds)
    (left : (before.step limit budget).state? = some after) :
    after.InBounds := by
  have frame := frame_stepWith left
  have wasInside : before.tape.row.InBounds := bounds.pointer_lt
  obtain ⟨operation, applied, -, -⟩ := exists_operation_of_step left
  apply inBounds_of_row
  · rw [frame.code]
    exact frame.cursor bounds.cursor_le
  · rw [applied, Tape.row_apply]
    exact wasInside.apply operation

/--
Whatever the text, the input, the output and the draws are, every state that a run
comes across, in the program or in a function, before or after a failed step, is in
bounds, and every access of its next step is valid.
-/
theorem reached_inBounds
    {limit : Nat}
    {code : Text}
    {channel : Channel}
    {journal : Journal}
    {draws : Draws}
    {invocation : Invocation}
    (reached :
      Reaches limit (.start code channel journal draws) invocation) :
    invocation.InBounds ∧ invocation.AccessesValid := by
  have bounds : invocation.InBounds := by
    induction reached with
    | origin =>
        exact inBounds_of_begun rfl rfl
    | step budget _ left inductionHypothesis =>
        exact inductionHypothesis.step left
    | call _ _ _ _ _ _ =>
        exact inBounds_of_begun rfl rfl
  exact ⟨bounds, bounds.accessesValid⟩

/-- Inside a function whose only instruction has failed. -/
theorem reached_inBounds_in_failed_function :
    let program :=
      start "a\x7bp\x7da".toList (.console .exhausted (.emissions []))
        (.blank .error) default
    ∃ invocation,
      Reaches 200 program invocation ∧
        invocation.depth = 1 ∧
        invocation.InBounds ∧
        invocation.AccessesValid := by
  intro program
  have begun : Reaches 200 program program := .origin
  have atCall := ((begun.step 0 rfl).step 0 rfl).step 0 rfl
  have inside :=
    atCall.call rfl (rfl : _ = some 'a') (rfl : _ = some ['p']) (by decide)
  have afterFailure := inside.step 0 rfl
  exact ⟨_, afterFailure, rfl, reached_inBounds afterFailure⟩

end Invocation

end StackTape
