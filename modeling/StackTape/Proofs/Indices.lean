import Mathlib.Data.List.Perm.Basic
import Mathlib.Logic.Equiv.Basic
import StackTape.Proofs.Steps
import StackTape.Proofs.Termination

namespace StackTape

/-!
# Indices and counts

An operand that is an index or a count may be any integer, and is brought into a range of
64 binary digits first.  A stack has no more cells than that range has positive integers,
and a text no more characters.  So an index that is brought into the range stands for the
same cell as before, or for none as before, and a count of loops to leave is as good as
before: beyond the length of the text there are no loops left.
-/

namespace Cell

theorem clampedInteger_int
    (value : Int) :
    (int value).clampedInteger = .ok (clamped value) :=
  rfl

theorem clampedInteger_real
    (value : Binary64) :
    (real value).clampedInteger = .error (.realForInteger value) :=
  rfl

end Cell

namespace Stack

/--
The position, among so many cells, that an index stands for: its own, or counted from the
top if it is negative.
-/
def placeOf?
    (length : Nat)
    (index : Int) : Option Nat :=
  if 0 ≤ index ∧ index < length then
    some index.toNat
  else if -length ≤ index ∧ index < 0 then
    some (length + index).toNat
  else
    none

theorem placeOf?_lt
    {length place : Nat}
    {index : Int}
    (found : placeOf? length index = some place) :
    place < length := by
  unfold placeOf? at found
  split_ifs at found
  · cases found
    omega
  · cases found
    omega

section

variable {stack : Stack}
variable (few : stack.length ≤ Cell.greatestCount)

include few

/-- An index that is brought into the range stands for the same cell as before. -/
theorem position_clamped
    (index : Int) :
    stack.position (Cell.clamped index) =
      match placeOf? stack.length index with
      | some place => .ok place
      | none => .error (.indexOutOfRange (Cell.clamped index) stack.length) := by
  have resolved := position_of_few few (Cell.clamped index)
  -- the bounds spelled out for the arithmetic below
  have range :
      Cell.clamped index =
        max (-0x7FFFFFFFFFFFFFFF - 1) (min 0x7FFFFFFFFFFFFFFF index) :=
    rfl
  have counted :
      stack.fromBottom (Cell.clamped index) =
        if Cell.clamped index < 0 then
          stack.length + Cell.clamped index
        else
          Cell.clamped index :=
    rfl
  unfold Cell.greatestCount at few
  unfold placeOf?
  split_ifs with fromBottom fromTop
  · have same : stack.fromBottom (Cell.clamped index) = index := by
      rw [counted]
      omega
    rw [resolved, same, if_pos fromBottom]
  · have same : stack.fromBottom (Cell.clamped index) = stack.length + index := by
      rw [counted]
      omega
    rw [resolved, same, if_pos (by omega)]
  · rw [resolved, if_neg (by rw [counted]; omega)]

/-- So it gives the cell there, or none. -/
theorem get_clamped_of_place
    {index : Int}
    {place : Nat}
    (found : placeOf? stack.length index = some place) :
    ∃ cell,
      stack.toList[place]? = some cell ∧
        stack.get (Cell.clamped index) = .ok cell := by
  have resolved := position_clamped few index
  rw [found] at resolved
  exact get_of_position resolved

theorem get_clamped_of_none
    {index : Int}
    (beyond : placeOf? stack.length index = none) :
    stack.get (Cell.clamped index) =
      .error (.indexOutOfRange (Cell.clamped index) stack.length) := by
  have resolved := position_clamped few index
  rw [beyond] at resolved
  rw [get, resolved]
  rfl

/-- The exchange of two cells is resolved in the same way, the lower index first. -/
theorem swap_clamped
    (first second : Int) :
    stack.swap (Cell.clamped first) (Cell.clamped second) =
      match placeOf? stack.length first, placeOf? stack.length second with
      | some firstPlace, some secondPlace =>
          .ok (ofList (stack.toList.swap firstPlace secondPlace))
      | some _, none =>
          .error (.indexOutOfRange (Cell.clamped second) stack.length)
      | none, _ =>
          .error (.indexOutOfRange (Cell.clamped first) stack.length) := by
  rw [swap, position_clamped few, position_clamped few]
  cases firstFound : placeOf? stack.length first with
  | none =>
      rfl
  | some firstPlace =>
      cases secondFound : placeOf? stack.length second with
      | none =>
          rfl
      | some secondPlace =>
          have firstInside : firstPlace < stack.toList.length := by
            rw [length_toList]
            exact placeOf?_lt firstFound
          have secondInside : secondPlace < stack.toList.length := by
            rw [length_toList]
            exact placeOf?_lt secondFound
          have exchanged :
              exchange stack.toList firstPlace secondPlace =
                stack.toList.swap firstPlace secondPlace := by
            rw [exchange, List.getElem?_eq_getElem firstInside,
              List.getElem?_eq_getElem secondInside,
              List.swap_eq_of_lt firstInside secondInside]
          exact congrArg (fun cells => Except.ok (ofList cells)) exchanged

end

/-- An exchange puts either cell in the other one's place. -/
theorem getElem?_swap
    {cells : List Cell}
    {first second : Nat}
    (firstInside : first < cells.length)
    (secondInside : second < cells.length)
    (place : Nat) :
    (cells.swap first second)[place]? = cells[Equiv.swap first second place]? := by
  rw [List.swap_eq_of_lt firstInside secondInside, List.getElem?_set,
    List.getElem?_set, List.length_set, Equiv.swap_apply_def]
  rcases eq_or_ne place second with rfl | notSecond
  · rcases eq_or_ne place first with rfl | notFirst
    · simp [firstInside]
    · simp [notFirst, firstInside, secondInside]
  · rcases eq_or_ne place first with rfl | notFirst
    · simp [notSecond.symm, firstInside, secondInside]
    · simp [notSecond.symm, notSecond, notFirst.symm, notFirst]

end Stack

namespace Work

section

variable {bench : Bench}
variable {rest : Stack}

/-- An integer on top is taken off and brought into the range. -/
theorem takeClamped_of_int
    {value : Int}
    (top : bench.stack = rest.push (.int value)) :
    (do ofExcept (← takeTop).clampedInteger : Work Int) bench =
      .ok (Cell.clamped value) { bench with stack := rest } := by
  simp [takeTop_apply, top, Cell.clampedInteger_int]

/-- A real on top is taken off and refused. -/
theorem takeClamped_of_real
    {value : Binary64}
    (top : bench.stack = rest.push (.real value)) :
    (do ofExcept (← takeTop).clampedInteger : Work Int) bench =
      .error (.realForInteger value) { bench with stack := rest } := by
  simp [takeTop_apply, top, Cell.clampedInteger_real]

end

end Work

namespace Invocation

/-! ## Leaving loops -/

/-- Where as many loops were left as there are characters ahead, there are no more. -/
theorem cursorOutside_succ_of_le
    {code : Text}
    {count cursor : Nat}
    (many : code.length - cursor ≤ count) :
    cursorOutside code (count + 1) cursor = cursorOutside code count cursor := by
  induction count generalizing cursor with
  | zero =>
      simp only [cursorOutside]
      split
      · rename_i close found
        have inside := Source.partnerAfter?_bounds found
        omega
      · rfl
  | succ count inductionHypothesis =>
      rw [cursorOutside]
      conv_rhs => rw [cursorOutside]
      split
      · rename_i close found
        have inside := Source.partnerAfter?_bounds found
        exact inductionHypothesis (by omega)
      · rfl

theorem cursorOutside_eq_of_le
    {code : Text}
    {count more cursor : Nat}
    (many : code.length ≤ count)
    (greater : count ≤ more) :
    cursorOutside code more cursor = cursorOutside code count cursor := by
  induction greater with
  | refl =>
      rfl
  | step reached inductionHypothesis =>
      have enough := Nat.le_trans many reached
      rw [cursorOutside_succ_of_le (Nat.le_trans (Nat.sub_le _ _) enough),
        inductionHypothesis]

/-- A count that is brought into the range leaves the same loops. -/
theorem cursorOutside_clamped
    {code : Text}
    (short : code.length ≤ Cell.greatestCount)
    (count : Int)
    (cursor : Nat) :
    cursorOutside code (Cell.clamped count).toNat cursor =
      cursorOutside code count.toNat cursor := by
  unfold Cell.greatestCount at short
  have clamped :
      (Cell.clamped count).toNat = min 0x7FFFFFFFFFFFFFFF count.toNat := by
    unfold Cell.clamped Cell.greatestCount
    omega
  rw [clamped]
  rcases Nat.le_total count.toNat 0x7FFFFFFFFFFFFFFF with small | large
  · rw [Nat.min_eq_right small]
  · rw [Nat.min_eq_left large]
    exact (cursorOutside_eq_of_le (by omega) large).symm

/-! ## The instructions -/

section

variable {invocation : Invocation}
variable {rest : Stack}
variable {whole : Bool}

/-- At an index that stands for a cell the cell is put on top. -/
theorem stepLands_index
    (atTask : invocation.AtTask whole .index)
    {value : Int}
    (top : invocation.stack = rest.push (.int value))
    {cell : Cell}
    (found : rest.get (Cell.clamped value) = .ok cell) :
    invocation.StepLands (rest.push cell) (invocation.cursor + 1) := by
  refine atTask.stepLands fun journal => ?_
  have onBench : invocation.bench.stack = rest.push (.int value) := top
  simp [Task.perform, Work.index, Work.takeTop_apply, onBench, Cell.clampedInteger_int,
    found]

/-- At any other index it is refused. -/
theorem stepFails_index
    (atTask : invocation.AtTask whole .index)
    {value : Int}
    (top : invocation.stack = rest.push (.int value))
    {fault : Fault}
    (beyond : rest.get (Cell.clamped value) = .error fault) :
    invocation.StepFails fault.category.name fault rest := by
  refine atTask.stepFails fun journal => ?_
  have onBench : invocation.bench.stack = rest.push (.int value) := top
  simp [Task.perform, Work.index, Work.takeTop_apply, onBench, Cell.clampedInteger_int,
    beyond]

theorem stepFails_index_of_real
    (atTask : invocation.AtTask whole .index)
    {value : Binary64}
    (top : invocation.stack = rest.push (.real value)) :
    invocation.StepFails "TypeError" (.realForInteger value) rest := by
  refine atTask.stepFails fun journal => ?_
  have onBench : invocation.bench.stack = rest.push (.real value) := top
  simp [Task.perform, Work.index, Work.takeTop_apply, onBench, Cell.clampedInteger_real]

/-- Cells at two indices that stand for cells are exchanged. -/
theorem stepLands_swapAt
    (atTask : invocation.AtTask whole .swapAt)
    {upper lower : Int}
    (top : invocation.stack = (rest.push (.int lower)).push (.int upper))
    {after : Stack}
    (exchanged :
      rest.swap (Cell.clamped lower) (Cell.clamped upper) = .ok after) :
    invocation.StepLands after (invocation.cursor + 1) := by
  refine atTask.stepLands fun journal => ?_
  have onBench :
      invocation.bench.stack = (rest.push (.int lower)).push (.int upper) := top
  simp [Task.perform, Work.swapAt, Work.takeTop_apply, onBench,
    Cell.clampedInteger_int, exchanged]

theorem stepFails_swapAt
    (atTask : invocation.AtTask whole .swapAt)
    {upper lower : Int}
    (top : invocation.stack = (rest.push (.int lower)).push (.int upper))
    {fault : Fault}
    (beyond :
      rest.swap (Cell.clamped lower) (Cell.clamped upper) = .error fault) :
    invocation.StepFails fault.category.name fault rest := by
  refine atTask.stepFails fun journal => ?_
  have onBench :
      invocation.bench.stack = (rest.push (.int lower)).push (.int upper) := top
  simp [Task.perform, Work.swapAt, Work.takeTop_apply, onBench,
    Cell.clampedInteger_int, beyond]

theorem stepFails_swapAt_of_upper_real
    (atTask : invocation.AtTask whole .swapAt)
    {upper : Binary64}
    (top : invocation.stack = rest.push (.real upper)) :
    invocation.StepFails "TypeError" (.realForInteger upper) rest := by
  refine atTask.stepFails fun journal => ?_
  have onBench : invocation.bench.stack = rest.push (.real upper) := top
  simp [Task.perform, Work.swapAt, Work.takeTop_apply, onBench,
    Cell.clampedInteger_real]

theorem stepFails_swapAt_of_lower_real
    (atTask : invocation.AtTask whole .swapAt)
    {upper : Int}
    {lower : Binary64}
    (top : invocation.stack = (rest.push (.real lower)).push (.int upper)) :
    invocation.StepFails "TypeError" (.realForInteger lower) rest := by
  refine atTask.stepFails fun journal => ?_
  have onBench :
      invocation.bench.stack = (rest.push (.real lower)).push (.int upper) := top
  simp [Task.perform, Work.swapAt, Work.takeTop_apply, onBench,
    Cell.clampedInteger_int, Cell.clampedInteger_real]

end

section

variable {invocation : Invocation}
variable {rest : Stack}
variable (running : invocation.halt = none)
variable (dispatched : invocation.dispatched? = some .leaveLoops)

include running dispatched

/-- With an integer on top that many loops are left, and the cursor moves on. -/
theorem stepLands_leaveLoops
    {value : Int}
    (top : invocation.stack = rest.push (.int value)) :
    invocation.StepLands rest
      (cursorOutside invocation.code (Cell.clamped value).toNat invocation.cursor +
        1) := by
  obtain ⟨instruction, present, -⟩ := dispatched?_eq_some_iff.1 dispatched
  refine ⟨instruction, present, fun limit budget => ?_⟩
  have onBench :
      (invocation.announcing instruction).bench.stack = rest.push (.int value) := top
  rw [step, stepWith_of_performed limit _ running present dispatched, perform,
    leaveLoops, working_of_ok (Work.takeClamped_of_int onBench)]
  exact congrArg Outcome.done (advance_of_running (by exact running))

theorem stepFails_leaveLoops_of_real
    {value : Binary64}
    (top : invocation.stack = rest.push (.real value)) :
    invocation.StepFails "TypeError" (.realForInteger value) rest := by
  obtain ⟨instruction, present, -⟩ := dispatched?_eq_some_iff.1 dispatched
  refine ⟨rfl, instruction, present, fun limit budget => ?_⟩
  have onBench :
      (invocation.announcing instruction).bench.stack = rest.push (.real value) := top
  rw [step, stepWith_of_performed limit _ running present dispatched, perform,
    leaveLoops, working_of_error (Work.takeClamped_of_real onBench)]
  rfl

end

/-! ## What indices and counts of any size do -/

/--
Of the cells below it, the index picks the one that it stands for, or the step fails.  The
fault names the index as it was brought into the range.
-/
def Picks
    (invocation : Invocation)
    (cells : Stack)
    (index : Int) : Prop :=
  match Stack.placeOf? cells.length index with
  | some place =>
      ∃ cell,
        cells.toList[place]? = some cell ∧
          invocation.StepLands (cells.push cell) (invocation.cursor + 1)
  | none =>
      invocation.StepFails "IndexError"
        (.indexOutOfRange (Cell.clamped index) cells.length) cells

/--
Of the cells below them, the two indices exchange those that they stand for, and exchange
them back at a later step of this kind; or the step fails and moves none, for the lower
index if that stands for none.
-/
def Exchanges
    (invocation : Invocation)
    (cells : Stack)
    (upper lower : Int) : Prop :=
  match Stack.placeOf? cells.length lower, Stack.placeOf? cells.length upper with
  | some lowerPlace, some upperPlace =>
      ∃ after : Stack,
        invocation.StepLands after (invocation.cursor + 1) ∧
          after.toList.Perm cells.toList ∧
            (∀ place : Nat,
              after.toList[place]? =
                cells.toList[Equiv.swap lowerPlace upperPlace place]?) ∧
              ∀ (later : Invocation) (whole : Bool),
                later.AtTask whole .swapAt →
                  later.stack = (after.push (.int lower)).push (.int upper) →
                    later.StepLands cells (later.cursor + 1)
  | some _, none =>
      invocation.StepFails "IndexError"
        (.indexOutOfRange (Cell.clamped upper) cells.length) cells
  | none, _ =>
      invocation.StepFails "IndexError"
        (.indexOutOfRange (Cell.clamped lower) cells.length) cells

section

variable {invocation : Invocation}
variable {whole : Bool}
variable {rest : Stack}
variable (few : rest.length ≤ Cell.greatestCount)

include few

theorem picks_of_few
    (atTask : invocation.AtTask whole .index)
    {value : Int}
    (top : invocation.stack = rest.push (.int value)) :
    invocation.Picks rest value := by
  unfold Picks
  cases found : Stack.placeOf? rest.length value with
  | none =>
      exact stepFails_index atTask top (Stack.get_clamped_of_none few found)
  | some place =>
      obtain ⟨cell, there, got⟩ := Stack.get_clamped_of_place few found
      exact ⟨cell, there, stepLands_index atTask top got⟩

theorem exchanges_of_few
    (atTask : invocation.AtTask whole .swapAt)
    {upper lower : Int}
    (top : invocation.stack = (rest.push (.int lower)).push (.int upper)) :
    invocation.Exchanges rest upper lower := by
  have exchanged := Stack.swap_clamped few lower upper
  unfold Exchanges
  cases lowerFound : Stack.placeOf? rest.length lower with
  | none =>
      rw [lowerFound] at exchanged
      exact stepFails_swapAt atTask top exchanged
  | some lowerPlace =>
      cases upperFound : Stack.placeOf? rest.length upper with
      | none =>
          rw [lowerFound, upperFound] at exchanged
          exact stepFails_swapAt atTask top exchanged
      | some upperPlace =>
          rw [lowerFound, upperFound] at exchanged
          have lowerInside : lowerPlace < rest.toList.length := by
            rw [Stack.length_toList]
            exact Stack.placeOf?_lt lowerFound
          have upperInside : upperPlace < rest.toList.length := by
            rw [Stack.length_toList]
            exact Stack.placeOf?_lt upperFound
          refine ⟨_, stepLands_swapAt atTask top exchanged, ?_, fun place => ?_,
            fun later modified again onTop => ?_⟩
          · rw [Stack.toList_ofList]
            exact List.swap_perm _ _ _
          · rw [Stack.toList_ofList]
            exact Stack.getElem?_swap lowerInside upperInside place
          · have asMany :
                (Stack.ofList (rest.toList.swap lowerPlace upperPlace)).length =
                  rest.length := by
              rw [← Stack.length_toList, Stack.toList_ofList, List.length_swap,
                Stack.length_toList]
            have back :=
              Stack.swap_clamped (by rw [asMany]; exact few) lower upper
            rw [asMany, lowerFound, upperFound] at back
            simp only [Stack.toList_ofList, List.swap_swap, Stack.ofList_toList] at back
            exact stepLands_swapAt again onTop back

end

/--
That indices and counts are brought into a range of 64 binary digits is not to be seen.
An index of any size picks or exchanges the cells that it stands for among those below the
operands, unless there are more of these than the range has positive integers; and a count
of any size leaves that many loops, unless the text is as long.  Real operands are refused,
and taken off all the same.
-/
theorem indices_and_counts_of_any_size
    (invocation : Invocation)
    (whole : Bool)
    (rest : Stack) :
    (invocation.AtTask whole .index →
      (∀ value : Int,
        rest.length ≤ Cell.greatestCount →
          invocation.stack = rest.push (.int value) →
            invocation.Picks rest value) ∧
        ∀ value : Binary64,
          invocation.stack = rest.push (.real value) →
            invocation.StepFails "TypeError" (.realForInteger value) rest) ∧
      (invocation.AtTask whole .swapAt →
        (∀ upper lower : Int,
          rest.length ≤ Cell.greatestCount →
            invocation.stack = (rest.push (.int lower)).push (.int upper) →
              invocation.Exchanges rest upper lower) ∧
          (∀ upper : Binary64,
            invocation.stack = rest.push (.real upper) →
              invocation.StepFails "TypeError" (.realForInteger upper) rest) ∧
            ∀ (upper : Int) (lower : Binary64),
              invocation.stack = (rest.push (.real lower)).push (.int upper) →
                invocation.StepFails "TypeError" (.realForInteger lower) rest) ∧
        (invocation.halt = none →
          invocation.dispatched? = some .leaveLoops →
            (∀ value : Int,
              invocation.code.length ≤ Cell.greatestCount →
                invocation.stack = rest.push (.int value) →
                  invocation.StepLands rest
                    (cursorOutside invocation.code value.toNat invocation.cursor +
                      1)) ∧
              ∀ value : Binary64,
                invocation.stack = rest.push (.real value) →
                  invocation.StepFails "TypeError" (.realForInteger value) rest) := by
  refine ⟨?index, ?exchange, ?loops⟩
  case index =>
    intro atTask
    exact ⟨fun value few top => picks_of_few few atTask top,
      fun value top => stepFails_index_of_real atTask top⟩
  case exchange =>
    intro atTask
    exact ⟨fun upper lower few top => exchanges_of_few few atTask top,
      fun upper top => stepFails_swapAt_of_upper_real atTask top,
      fun upper lower top => stepFails_swapAt_of_lower_real atTask top⟩
  case loops =>
    intro running dispatched
    refine ⟨fun value short top => ?_,
      fun value top => stepFails_leaveLoops_of_real running dispatched top⟩
    have lands := stepLands_leaveLoops running dispatched top
    rwa [cursorOutside_clamped short] at lands

/--
An index far beyond the range is none of two cells, the lowest index of two cells is the
bottom, a real operand is refused, and of a count beyond the range two loops are left.
-/
theorem indices_and_counts_far_beyond :
    let cells := Stack.ofList [.int 7, .int 8]
    let program (code : String) (stack : Stack) (cursor : Nat) :=
      ((start code.toList (.console .exhausted (.text [])) (.blank .error)
        default).withStack stack).withCursor cursor
    let far : Int := 0x10000000000000000
    (program "I" (cells.push (.int (-far))) 0).StepFails "IndexError"
        (.indexOutOfRange (-0x8000000000000000) 2) cells ∧
      (program "W" ((cells.push (.int (-2))).push (.int 1)) 0).StepLands
          (Stack.ofList [.int 8, .int 7]) 1 ∧
        (program "W" ((cells.push (.real (.ofInt 1))).push (.int far)) 0).StepFails
            "TypeError" (.realForInteger (.ofInt 1)) cells ∧
          (program "[[$]]x" (cells.push (.int far)) 2).StepLands cells 5 := by
  intro cells program far
  have two : cells.length ≤ Cell.greatestCount := by
    decide
  refine ⟨?index, ?exchange, ?refused, ?loops⟩
  case index =>
    have ofAnySize :=
      indices_and_counts_of_any_size (program "I" (cells.push (.int (-far))) 0) false cells
    exact (ofAnySize.1 ⟨rfl, rfl, rfl⟩).1 (-far) two rfl
  case exchange =>
    have ofAnySize :=
      indices_and_counts_of_any_size
        (program "W" ((cells.push (.int (-2))).push (.int 1)) 0) false cells
    obtain ⟨after, lands, same, arranged, -⟩ :=
      (ofAnySize.2.1 ⟨rfl, rfl, rfl⟩).1 1 (-2) two rfl
    have exchanged : after = Stack.ofList [.int 8, .int 7] := by
      rw [← Stack.ofList_toList after]
      refine congrArg Stack.ofList (List.ext_getElem? fun place => ?_)
      rw [arranged]
      change cells.toList[Equiv.swap 0 1 place]? = [Cell.int 8, Cell.int 7][place]?
      rcases place with _ | _ | beyond
      · rfl
      · rfl
      · rw [Equiv.swap_apply_of_ne_of_ne (by omega) (by omega)]
        rfl
    rw [← exchanged]
    exact lands
  case refused =>
    have ofAnySize :=
      indices_and_counts_of_any_size
        (program "W" ((cells.push (.real (.ofInt 1))).push (.int far)) 0) false cells
    exact (ofAnySize.2.1 ⟨rfl, rfl, rfl⟩).2.2 far (.ofInt 1) rfl
  case loops =>
    have ofAnySize :=
      indices_and_counts_of_any_size (program "[[$]]x" (cells.push (.int far)) 2) false
        cells
    have lands :
        (program "[[$]]x" (cells.push (.int far)) 2).StepLands cells
          (cursorOutside "[[$]]x".toList far.toNat 2 + 1) :=
      (ofAnySize.2.2 rfl rfl).1 far (by decide) rfl
    have enough :
        cursorOutside "[[$]]x".toList far.toNat 2 =
          cursorOutside "[[$]]x".toList 6 2 :=
      cursorOutside_eq_of_le (Nat.le_refl 6) (by decide)
    have outside : cursorOutside "[[$]]x".toList far.toNat 2 = 4 :=
      enough.trans (by decide)
    rwa [outside] at lands

end Invocation

end StackTape
