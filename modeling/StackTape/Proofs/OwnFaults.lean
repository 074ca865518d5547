import StackTape.Machine.Task

namespace StackTape

/-!
# Own faults

What an instruction computes with cells and stacks can fail, but only with a fault of
its own: never with one that a call or a sink raises.
-/

namespace Fault

/--
Whether an instruction raises the fault by itself: it neither comes out of a call, nor
is it the sink's or the embedding program's.
-/
def isOwn : Fault → Bool
  | .recursionLimit _ | .inFunction _ _ _ _ | .outputRefused _ | .stated _ _ =>
      false
  | _ =>
      true

/-- A computation that fails with own faults alone. -/
def OwnOnly {α : Type} (computed : Except Fault α) : Prop :=
  ∀ fault, computed = .error fault → fault.isOwn = true

variable {α β : Type}

theorem ownOnly_ok
    (result : α) :
    OwnOnly (.ok result) := by
  intro fault failed
  cases failed

theorem ownOnly_error
    {fault : Fault}
    (own : fault.isOwn = true) :
    OwnOnly (.error fault : Except Fault α) := by
  intro other failed
  cases failed
  exact own

theorem OwnOnly.bind
    {first : Except Fault α}
    {next : α → Except Fault β}
    (firstOwn : OwnOnly first)
    (nextOwn : ∀ result, OwnOnly (next result)) :
    OwnOnly (first >>= next) := by
  cases first with
  | ok result =>
      exact nextOwn result
  | error fault =>
      exact ownOnly_error (firstOwn fault rfl)

theorem OwnOnly.map
    {computed : Except Fault α}
    (own : OwnOnly computed)
    (change : α → β) :
    OwnOnly (computed.map change) := by
  cases computed with
  | ok result =>
      exact ownOnly_ok _
  | error fault =>
      exact ownOnly_error (own fault rfl)

end Fault

/-! ## Computations on cells and stacks -/

namespace Cell

open Fault

theorem ownOnly_realOperand
    (cell : Cell) :
    OwnOnly cell.realOperand := by
  unfold realOperand
  split
  · dsimp only
    split
    · exact ownOnly_error rfl
    · exact ownOnly_ok _
  · exact ownOnly_ok _

theorem ownOnly_combineReals
    (operation : Binary64 → Binary64 → Binary64)
    (left right : Cell) :
    OwnOnly (combineReals operation left right) :=
  (ownOnly_realOperand left).bind fun _ =>
    (ownOnly_realOperand right).bind fun _ => ownOnly_ok _

theorem ownOnly_add
    (left right : Cell) :
    OwnOnly (left.add right) := by
  unfold add
  split
  · exact ownOnly_ok _
  · exact (ownOnly_combineReals _ _ _).map _

theorem ownOnly_sub
    (left right : Cell) :
    OwnOnly (left.sub right) := by
  unfold sub
  split
  · exact ownOnly_ok _
  · exact (ownOnly_combineReals _ _ _).map _

theorem ownOnly_mul
    (left right : Cell) :
    OwnOnly (left.mul right) := by
  unfold mul
  split
  · exact ownOnly_ok _
  · exact (ownOnly_combineReals _ _ _).map _

theorem ownOnly_div
    (left right : Cell) :
    OwnOnly (left.div right) := by
  unfold div
  split
  · exact (ownOnly_combineReals _ _ _).map _
  · exact ownOnly_error rfl

theorem ownOnly_mod
    (left right : Cell) :
    OwnOnly (left.mod right) := by
  unfold mod
  split
  · split
    · exact ownOnly_ok _
    · exact (ownOnly_combineReals _ _ _).map _
  · exact ownOnly_error rfl

theorem ownOnly_realPower
    (base exponent : Cell) :
    OwnOnly (realPower base exponent) := by
  unfold realPower
  split
  · exact ownOnly_error rfl
  · refine (ownOnly_combineReals _ _ _).bind fun power => ?_
    split
    · exact ownOnly_error rfl
    · exact ownOnly_ok _

theorem ownOnly_pow
    (base exponent : Cell) :
    OwnOnly (base.pow exponent) := by
  unfold pow
  split
  · split
    · exact ownOnly_realPower _ _
    · split
      · exact ownOnly_error rfl
      · exact ownOnly_ok _
  · exact ownOnly_realPower _ _

theorem ownOnly_integer
    (cell : Cell) :
    OwnOnly cell.integer := by
  cases cell with
  | int value =>
      exact ownOnly_ok _
  | real value =>
      exact ownOnly_error rfl

theorem ownOnly_clampedInteger
    (cell : Cell) :
    OwnOnly cell.clampedInteger :=
  (ownOnly_integer cell).map _

theorem ownOnly_character
    (cell : Cell) :
    OwnOnly cell.character := by
  refine (ownOnly_integer cell).bind fun code => ?_
  split
  · exact ownOnly_ok _
  · exact ownOnly_error rfl

end Cell

namespace Stack

open Fault

theorem ownOnly_position
    (stack : Stack)
    (index : Int) :
    OwnOnly (stack.position index) := by
  unfold position
  split
  · exact ownOnly_ok _
  · exact ownOnly_error rfl

theorem ownOnly_get
    (stack : Stack)
    (index : Int) :
    OwnOnly (stack.get index) := by
  refine (ownOnly_position stack index).bind fun place => ?_
  split
  · exact ownOnly_ok _
  · exact ownOnly_error rfl

theorem ownOnly_swap
    (stack : Stack)
    (first second : Int) :
    OwnOnly (stack.swap first second) :=
  (ownOnly_position stack first).bind fun _ =>
    (ownOnly_position stack second).bind fun _ => ownOnly_ok _

end Stack

namespace Work

open Fault

theorem ownOnly_sumOf
    (cells : List Cell) :
    OwnOnly (sumOf cells) := by
  unfold sumOf
  generalize Cell.int 0 = start
  induction cells generalizing start with
  | nil =>
      exact ownOnly_ok _
  | cons cell rest inductionHypothesis =>
      exact (Cell.ownOnly_add start cell).bind inductionHypothesis

theorem ownOnly_digitsOf
    (cell : Cell) :
    OwnOnly (digitsOf cell) := by
  unfold digitsOf
  split
  · exact ownOnly_ok _
  · exact ownOnly_error rfl

theorem ownOnly_joined
    (cells : List Cell) :
    OwnOnly (joined cells) := by
  unfold joined
  dsimp only
  split
  · exact ownOnly_ok _
  · exact ownOnly_error rfl

end Work

end StackTape
