import StackTape.Proofs.OwnFaults
import StackTape.Proofs.Traffic

namespace StackTape

/-!
# The traffic of tasks

A task reads when reading is what it is for, or when it finds fewer cells on the stack
than it needs; it writes when writing is what it is for.  All tasks are put together
from a few pieces of work, and so are their proofs.
-/

namespace Task

/-- How many cells on the stack keep the task from turning to the input. -/
def demand (whole : Bool) : Task → Nat
  | .digit _ | .readLine | .readNumber | .equal | .pop | .length | .index
  | .swapAt | .contains =>
      0
  | .writeCharacter | .writeNumber | .duplicate =>
      if whole then 1 else 0
  | .reverse | .less | .greater | .not | .countCharacters | .splitDigits
  | .joinDigits | .sort | .negate | .wait | .increment | .decrement =>
      1
  | .add =>
      if whole then 1 else 2
  | .subtract | .multiply | .divide | .modulo | .power | .swap | .random
  | .range =>
      2

/-- Whether the task reads whatever is on the stack. -/
def isReader : Task → Bool
  | .readLine | .readNumber =>
      true
  | _ =>
      false

/-- Whether the task writes. -/
def isWriter : Task → Bool
  | .writeCharacter | .writeNumber =>
      true
  | _ =>
      false

end Task

namespace Work

open Fault

variable {α β : Type}
variable {allowed : Exchange → Prop}

/-! ## Operands -/

theorem keepsTo_readLineOrEmpty
    (mayRead : MayRead allowed)
    (bench : Bench) :
    KeepsTo allowed readLineOrEmpty bench :=
  (keepsTo_readLine mayRead bench).bind fun {_ after} _ =>
    keepsTo_pure _ after

/-- Only an empty stack makes the task read. -/
theorem keepsTo_readIfEmpty
    {bench : Bench}
    (mayRead : bench.stack.length < 1 → MayRead allowed) :
    KeepsTo allowed readIfEmpty bench := by
  refine (keepsTo_stack bench).bind fun {stack after} worked => ?_
  cases worked
  refine keepsTo_ite (fun empty => ?_) fun _ => keepsTo_pure _ _
  refine keepsTo_readIntegers (mayRead ?_) bench
  rw [Stack.length_eq_zero_iff.2 ((Stack.isEmpty_iff _).1 empty)]
  exact Nat.one_pos

theorem keepsTo_implicitOperand?
    (mayRead : MayRead allowed)
    (bench : Bench) :
    KeepsTo allowed implicitOperand? bench := by
  refine (keepsTo_readLineOrEmpty mayRead bench).bind fun {line after} _ => ?_
  refine keepsTo_ite (fun _ => ?_) fun _ => ?_
  · exact (keepsTo_note _ after).bind fun {_ final} _ => keepsTo_pure _ final
  · cases Cell.integerOfLine? line with
    | none =>
        exact keepsTo_fail rfl after
    | some value =>
        exact (keepsTo_note _ after).bind fun {_ final} _ =>
          keepsTo_pure _ final

/-- Only an empty stack makes an operand come from the input. -/
theorem keepsTo_operand
    {bench : Bench}
    (mayRead : bench.stack.length < 1 → MayRead allowed) :
    KeepsTo allowed operand bench := by
  cases popped : bench.stack.pop? with
  | some taken =>
      obtain ⟨top, rest⟩ := taken
      have shape := Stack.pop?_eq_some_iff.1 popped
      refine .silent (fun channel journal => ?_) fun worked => ?_
      · rw [operand_apply_of_push shape, operand_apply_of_push (by exact shape)]
        rfl
      · rw [operand_apply_of_push shape] at worked
        cases worked
  | none =>
      have empty : bench.stack.length = 0 :=
        Stack.length_eq_zero_iff.2 (Stack.pop?_eq_none_iff.1 popped)
      refine (keepsTo_pop? bench).bind fun {taken after} worked => ?_
      rw [pop?_apply, popped] at worked
      cases worked
      refine (keepsTo_implicitOperand? (mayRead (by omega)) bench).bind
        fun {given final} _ => ?_
      cases given <;> exact keepsTo_pure _ final

/-- Reading a line leaves the stack alone. -/
theorem stack_of_implicitOperand?
    {bench after : Bench}
    {given : Option Int}
    (worked : implicitOperand? bench = .ok given after) :
    after.stack = bench.stack := by
  simp only [implicitOperand?, readLineOrEmpty, bind_apply, readLine_apply,
    pure_apply] at worked
  split at worked
  · cases worked
    rfl
  · cases spelled :
        Cell.integerOfLine? (bench.channel.read.1.line?.getD []) with
    | some value =>
        rw [spelled] at worked
        cases worked
        rfl
    | none =>
        rw [spelled] at worked
        cases worked

/-- An operand leaves one cell less, as long as there are any. -/
theorem length_of_operand
    {bench after : Bench}
    {result : Operand}
    (worked : operand bench = .ok result after) :
    after.stack.length = bench.stack.length - 1 := by
  cases popped : bench.stack.pop? with
  | some taken =>
      obtain ⟨top, rest⟩ := taken
      have shape := Stack.pop?_eq_some_iff.1 popped
      rw [operand_apply_of_push shape] at worked
      cases worked
      simp [shape, Stack.length, Stack.push]
  | none =>
      have empty : bench.stack.length = 0 :=
        Stack.length_eq_zero_iff.2 (Stack.pop?_eq_none_iff.1 popped)
      simp only [operand, bind_apply, pop?_apply, popped] at worked
      cases given : implicitOperand? bench with
      | error fault final =>
          simp [given] at worked
      | ok value final =>
          have kept := stack_of_implicitOperand? given
          simp only [given] at worked
          cases value <;> cases worked <;> simp [kept, empty]

/-- Two operands are read only if there are not two on the stack. -/
theorem keepsTo_takePair
    {bench : Bench}
    (mayRead : bench.stack.length < 2 → MayRead allowed) :
    KeepsTo allowed takePair bench := by
  refine (keepsTo_operand fun empty => mayRead (by omega)).bind
    fun {first middle} firstTaken => ?_
  have shorter := length_of_operand firstTaken
  refine (keepsTo_operand fun empty => mayRead (by omega)).bind
    fun {second after} _ => ?_
  exact keepsTo_ite (fun _ => keepsTo_pure _ _) fun _ => keepsTo_pure _ _

theorem keepsTo_takeOperand
    {bench : Bench}
    (mayRead : bench.stack.length < 1 → MayRead allowed) :
    KeepsTo allowed takeOperand bench :=
  (keepsTo_operand mayRead).bind fun {_ after} _ => keepsTo_pure _ after

/-- So are two operands that are taken one after the other. -/
theorem keepsTo_takeOperands
    {bench : Bench}
    (mayRead : bench.stack.length < 2 → MayRead allowed)
    {next : Cell → Cell → Work β}
    (nextKeeps : ∀ upper lower after, KeepsTo allowed (next upper lower) after) :
    KeepsTo allowed
      (do
        let upper ← takeOperand
        let lower ← takeOperand
        next upper lower)
      bench := by
  refine (keepsTo_takeOperand fun empty => mayRead (by omega)).bind
    fun {upper middle} upperTaken => ?_
  have shorter : middle.stack.length = bench.stack.length - 1 := by
    cases taken : operand bench with
    | ok result after =>
        simp only [takeOperand, bind_apply, taken, pure_apply] at upperTaken
        cases upperTaken
        exact length_of_operand taken
    | error fault after =>
        simp [takeOperand, taken] at upperTaken
  refine (keepsTo_takeOperand fun empty => mayRead (by omega)).bind
    fun {lower after} _ => ?_
  exact nextKeeps upper lower after

/-! ## Tasks -/

/-- Computing a cell and putting it on. -/
theorem keepsTo_pushComputed
    {computed : Except Fault Cell}
    (own : OwnOnly computed)
    (bench : Bench) :
    KeepsTo allowed (do push (← ofExcept computed)) bench :=
  (keepsTo_ofExcept own bench).bind fun {_ after} _ => keepsTo_push _ after

theorem keepsTo_unary
    {operation : Cell → Except Fault Cell}
    (own : ∀ cell, OwnOnly (operation cell))
    {bench : Bench}
    (mayRead : bench.stack.length < 1 → MayRead allowed) :
    KeepsTo allowed (unary operation) bench :=
  (keepsTo_takeOperand mayRead).bind fun {cell after} _ =>
    keepsTo_pushComputed (own cell) after

theorem keepsTo_binary
    {operation : Cell → Cell → Except Fault Cell}
    (own : ∀ left right, OwnOnly (operation left right))
    {bench : Bench}
    (mayRead : bench.stack.length < 2 → MayRead allowed) :
    KeepsTo allowed (binary operation) bench :=
  (keepsTo_takePair mayRead).bind fun {_ after} _ =>
    keepsTo_pushComputed (own _ _) after

/-- Work that looks at the top cell first. -/
theorem keepsTo_peek
    {present : Cell → Work β}
    {absent : Work β}
    {bench : Bench}
    (presentKeeps : ∀ top, KeepsTo allowed (present top) bench)
    (absentKeeps : KeepsTo allowed absent bench) :
    KeepsTo allowed
      (do
        match (← stack).peek? with
        | some top => present top
        | none => absent)
      bench := by
  refine (keepsTo_stack bench).bind fun {stack after} worked => ?_
  cases worked
  cases bench.stack.peek? with
  | some top =>
      exact presentKeeps top
  | none =>
      exact absentKeeps

theorem keepsTo_comparison
    (relation : Cell → Cell → Bool)
    {bench : Bench}
    (mayRead : bench.stack.length < 1 → MayRead allowed) :
    KeepsTo allowed (comparison relation) bench :=
  (keepsTo_takeOperand mayRead).bind fun {_ after} _ =>
    keepsTo_peek (fun _ => keepsTo_push _ after) (keepsTo_fail rfl after)

theorem keepsTo_equal
    (bench : Bench) :
    KeepsTo allowed equal bench :=
  (keepsTo_takeTop bench).bind fun {_ after} _ =>
    keepsTo_peek (fun _ => keepsTo_push _ after) (keepsTo_push _ after)

theorem keepsTo_readCharacters
    (mayRead : MayRead allowed)
    (bench : Bench) :
    KeepsTo allowed readCharacters bench := by
  refine (keepsTo_readLine mayRead bench).bind fun {line after} _ => ?_
  cases line with
  | some line =>
      exact keepsTo_append _ after
  | none =>
      exact keepsTo_push _ after

theorem keepsTo_readNumber
    (mayRead : MayRead allowed)
    (bench : Bench) :
    KeepsTo allowed readNumber bench := by
  refine (keepsTo_readLineOrEmpty mayRead bench).bind fun {line after} _ => ?_
  refine keepsTo_ite (fun _ => keepsTo_push _ after) fun _ => ?_
  cases Cell.integerOfLine? line with
  | some value =>
      exact keepsTo_push _ after
  | none =>
      exact keepsTo_fail rfl after

theorem keepsTo_writeCharacter
    (mayWrite : MayWrite allowed)
    (bench : Bench) :
    KeepsTo allowed writeCharacter bench :=
  (keepsTo_takeTop bench).bind fun {cell after} _ =>
    (keepsTo_ofExcept (Cell.ownOnly_character cell) after).bind
      fun {_ final} _ => keepsTo_emit mayWrite _ final

theorem keepsTo_writeNumber
    (mayWrite : MayWrite allowed)
    (bench : Bench) :
    KeepsTo allowed writeNumber bench :=
  (keepsTo_takeTop bench).bind fun {_ after} _ => keepsTo_emit mayWrite _ after

theorem keepsTo_writeCells
    (mayWrite : MayWrite allowed)
    (cells : List Cell)
    (bench : Bench) :
    KeepsTo allowed (writeCells cells) bench := by
  induction cells generalizing bench with
  | nil =>
      exact keepsTo_pure _ bench
  | cons cell rest inductionHypothesis =>
      exact (keepsTo_ofExcept (Cell.ownOnly_character cell) bench).bind
        fun {_ after} _ => (keepsTo_emit mayWrite _ after).bind
          fun {_ final} _ => inductionHypothesis final

theorem keepsTo_writeCharacters
    (mayWrite : MayWrite allowed)
    {bench : Bench}
    (mayRead : bench.stack.length < 1 → MayRead allowed) :
    KeepsTo allowed writeCharacters bench := by
  have written (bench : Bench) :
      KeepsTo allowed (takeAll >>= writeCells) bench :=
    (keepsTo_takeAll bench).bind fun {_ after} _ =>
      keepsTo_writeCells mayWrite _ after
  refine (keepsTo_stack bench).bind fun {stack after} worked => ?_
  cases worked
  split
  · rename_i empty
    have none : bench.stack.length = 0 :=
      Stack.length_eq_zero_iff.2 ((Stack.isEmpty_iff _).1 empty)
    exact (keepsTo_readLineOrEmpty (mayRead (by omega)) bench).bind
      fun {_ after} _ => (keepsTo_append _ after).bind
        fun {_ final} _ => written final
  · exact written bench

/-- Work that reads all integers first if there is no cell. -/
theorem keepsTo_afterReading
    {bench : Bench}
    (mayRead : bench.stack.length < 1 → MayRead allowed)
    {next : Work β}
    (nextKeeps : ∀ after, KeepsTo allowed next after) :
    KeepsTo allowed (do readIfEmpty; next) bench :=
  (keepsTo_readIfEmpty mayRead).bind fun {_ after} _ => nextKeeps after

theorem keepsTo_writeNumbers
    (mayWrite : MayWrite allowed)
    {bench : Bench}
    (mayRead : bench.stack.length < 1 → MayRead allowed) :
    KeepsTo allowed writeNumbers bench :=
  keepsTo_afterReading mayRead fun after =>
    (keepsTo_takeAll after).bind fun {_ final} _ => keepsTo_emit mayWrite _ final

theorem keepsTo_sum
    {bench : Bench}
    (mayRead : bench.stack.length < 1 → MayRead allowed) :
    KeepsTo allowed sum bench :=
  keepsTo_afterReading mayRead fun after =>
    (keepsTo_takeAll after).bind fun {cells final} _ =>
      keepsTo_pushComputed (ownOnly_sumOf cells) final

theorem keepsTo_joinDigits
    {bench : Bench}
    (mayRead : bench.stack.length < 1 → MayRead allowed) :
    KeepsTo allowed joinDigits bench :=
  keepsTo_afterReading mayRead fun after =>
    (keepsTo_stack after).bind fun {stack final} _ =>
      keepsTo_ite (fun _ => keepsTo_fail rfl final) fun _ =>
        (keepsTo_ofExcept (ownOnly_joined stack.toList) final).bind
          fun {_ last} _ => keepsTo_setStack _ last

theorem keepsTo_random
    {bench : Bench}
    (mayRead : bench.stack.length < 2 → MayRead allowed) :
    KeepsTo allowed random bench := by
  refine (keepsTo_takePair mayRead).bind fun {pair after} _ => ?_
  obtain ⟨upper, lower⟩ := pair
  refine (keepsTo_ofExcept (Cell.ownOnly_integer lower) after).bind
    fun {low after} _ => ?_
  refine (keepsTo_ofExcept (Cell.ownOnly_integer upper) after).bind
    fun {high after} _ => ?_
  refine keepsTo_ite (fun _ => keepsTo_fail rfl after) fun _ => ?_
  exact .silent (fun _ _ => rfl) fun worked => nomatch worked

theorem keepsTo_wait
    {bench : Bench}
    (mayRead : bench.stack.length < 1 → MayRead allowed) :
    KeepsTo allowed wait bench := by
  refine (keepsTo_takeOperand mayRead).bind fun {cell after} _ => ?_
  refine keepsTo_ite (fun _ => ?_) fun _ => keepsTo_fail rfl after
  exact .silent (fun _ _ => rfl) fun worked => nomatch worked

theorem keepsTo_index
    (bench : Bench) :
    KeepsTo allowed index bench :=
  (keepsTo_takeTop bench).bind fun {cell after} _ =>
    (keepsTo_ofExcept (Cell.ownOnly_clampedInteger cell) after).bind
      fun {place after} _ => (keepsTo_stack after).bind
        fun {stack after} _ =>
          keepsTo_pushComputed (Stack.ownOnly_get stack place) after

theorem keepsTo_swapAt
    (bench : Bench) :
    KeepsTo allowed swapAt bench :=
  (keepsTo_takeTop bench).bind fun {first after} _ =>
    (keepsTo_ofExcept (Cell.ownOnly_clampedInteger first) after).bind
      fun {upper after} _ => (keepsTo_takeTop after).bind
        fun {second after} _ =>
          (keepsTo_ofExcept (Cell.ownOnly_clampedInteger second) after).bind
            fun {lower after} _ => (keepsTo_stack after).bind
              fun {stack after} _ =>
                (keepsTo_ofExcept (Stack.ownOnly_swap stack lower upper)
                  after).bind fun {_ final} _ => keepsTo_setStack _ final

/-- A task reads and writes only when it may. -/
theorem keepsTo_perform
    (whole : Bool)
    (task : Task)
    {bench : Bench}
    (mayRead :
      task.isReader = true ∨ bench.stack.length < task.demand whole →
      MayRead allowed)
    (mayWrite : task.isWriter = true → MayWrite allowed) :
    KeepsTo allowed (task.perform whole) bench := by
  have mayFill (few : bench.stack.length < task.demand whole) :
      MayRead allowed :=
    mayRead (.inr few)
  cases task with
  | digit value =>
      exact keepsTo_push _ bench
  | readLine =>
      exact keepsTo_readCharacters (mayRead (.inl rfl)) bench
  | readNumber =>
      exact keepsTo_ite
        (fun _ => keepsTo_readIntegers (mayRead (.inl rfl)) bench)
        fun _ => keepsTo_readNumber (mayRead (.inl rfl)) bench
  | writeCharacter =>
      cases whole with
      | true =>
          exact keepsTo_writeCharacters (mayWrite rfl) mayFill
      | false =>
          exact keepsTo_writeCharacter (mayWrite rfl) bench
  | writeNumber =>
      cases whole with
      | true =>
          exact keepsTo_writeNumbers (mayWrite rfl) mayFill
      | false =>
          exact keepsTo_writeNumber (mayWrite rfl) bench
  | add =>
      cases whole with
      | true =>
          exact keepsTo_sum mayFill
      | false =>
          exact keepsTo_binary Cell.ownOnly_add mayFill
  | subtract =>
      exact keepsTo_binary Cell.ownOnly_sub mayFill
  | multiply =>
      exact keepsTo_binary Cell.ownOnly_mul mayFill
  | divide =>
      exact keepsTo_binary Cell.ownOnly_div mayFill
  | power =>
      exact keepsTo_binary Cell.ownOnly_pow mayFill
  | less | greater =>
      exact keepsTo_comparison _ mayFill
  | not | countCharacters | negate =>
      exact keepsTo_unary (fun _ => ownOnly_ok _) mayFill
  | increment =>
      exact keepsTo_unary (fun cell => Cell.ownOnly_add cell _) mayFill
  | decrement =>
      exact keepsTo_unary (fun cell => Cell.ownOnly_sub cell _) mayFill
  | reverse | sort =>
      exact keepsTo_afterReading mayFill fun after =>
        (keepsTo_stack after).bind fun {_ final} _ => keepsTo_setStack _ final
  | modulo =>
      exact keepsTo_takeOperands mayFill fun right left after =>
        keepsTo_pushComputed (Cell.ownOnly_mod left right) after
  | equal =>
      exact keepsTo_equal bench
  | duplicate =>
      cases whole with
      | true =>
          exact keepsTo_afterReading mayFill fun after =>
            (keepsTo_stack after).bind fun {_ final} _ => keepsTo_append _ final
      | false =>
          exact keepsTo_peek (fun _ => keepsTo_push _ bench)
            (keepsTo_pure _ bench)
  | pop =>
      exact keepsTo_ite (fun _ => keepsTo_setStack _ bench) fun _ =>
        (keepsTo_takeTop bench).bind fun {_ after} _ => keepsTo_pure _ after
  | swap =>
      exact keepsTo_takeOperands mayFill fun top below after =>
        (keepsTo_push top after).bind fun {_ final} _ => keepsTo_push below final
  | random =>
      exact keepsTo_random mayFill
  | length =>
      exact (keepsTo_stack bench).bind fun {_ after} _ => keepsTo_push _ after
  | splitDigits =>
      exact (keepsTo_takeOperand mayFill).bind fun {cell after} _ =>
        (keepsTo_ofExcept (ownOnly_digitsOf cell) after).bind
          fun {_ final} _ => keepsTo_append _ final
  | joinDigits =>
      exact keepsTo_joinDigits mayFill
  | index =>
      exact keepsTo_index bench
  | range =>
      exact keepsTo_takeOperands mayFill fun upper lower after =>
        (keepsTo_ofExcept (Cell.ownOnly_integer lower) after).bind
          fun {_ after} _ =>
            (keepsTo_ofExcept (Cell.ownOnly_integer upper) after).bind
              fun {_ final} _ => keepsTo_append _ final
  | wait =>
      exact keepsTo_wait mayFill
  | swapAt =>
      exact keepsTo_swapAt bench
  | contains =>
      exact (keepsTo_takeTop bench).bind fun {_ after} _ =>
        (keepsTo_stack after).bind fun {_ final} _ => keepsTo_push _ final

end Work

end StackTape
