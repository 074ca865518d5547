import StackTape.Machine.Run.Budget
import StackTape.Proofs.Structured.Semantics
import StackTape.Proofs.Traffic.Runs

namespace StackTape

/-!
# Flat runs

How an invocation comes out that is anywhere in its text, as a function of its place
and its state alone: the journal has no influence.  The equations here say what one
step makes of a flat run; all that is said about atoms, loops and calls rests on them.
-/

namespace Structured

/-- An invocation in this state, at work on a text. -/
def State.placed
    (code : Text)
    (cursor : Nat)
    (journal : Journal)
    (state : State) : Invocation where
  code := code
  cursor := cursor
  halt := none
  depth := state.depth
  tape := state.tape
  backup := state.backup
  functions := state.functions
  channel := state.channel
  journal := journal
  draws := state.draws
  waits := state.waits

/-- What there is to say about the outcome of a run. -/
def conclusion? : Outcome Failure Invocation → Option Conclusion
  | .done invocation =>
      some ⟨none, invocation.halt, .of invocation⟩
  | .failed failure invocation =>
      some ⟨some failure, invocation.halt, .of invocation⟩
  | .unfinished =>
      none

/-- The conclusion of a run from a place in a text. -/
def flat
    (limit budget : Nat)
    (code : Text)
    (cursor : Nat)
    (state : State) : Option Conclusion :=
  conclusion? ((state.placed code cursor (.blank .error)).run limit budget)

@[simp] theorem of_placed
    (code : Text)
    (cursor : Nat)
    (journal : Journal)
    (state : State) :
    State.of (state.placed code cursor journal) = state :=
  rfl

theorem conclusion?_eq_none_iff
    {outcome : Outcome Failure Invocation} :
    conclusion? outcome = none ↔ outcome = .unfinished := by
  cases outcome <;> simp [conclusion?]

/-- Every run is a flat run, whatever is in its journal. -/
theorem conclusion?_run
    {limit budget : Nat}
    {invocation : Invocation}
    (running : invocation.halt = none) :
    conclusion? (invocation.run limit budget) =
      flat limit budget invocation.code invocation.cursor (.of invocation) := by
  obtain ⟨traffic, traffics⟩ :=
    Invocation.haveTraffic_run limit budget invocation
  obtain ⟨final, answers⟩ := traffics.answered
  have placed :
      (State.of invocation).placed invocation.code invocation.cursor
          (.blank .error) =
        invocation.reconnected invocation.channel (.blank .error) := by
    simp [State.placed, State.of, Invocation.reconnected, running]
  have kept
      {after : Invocation}
      (journal : Journal)
      (left : (invocation.run limit budget).state? = some after) :
      State.of (after.reconnected final journal) = State.of after := by
    rw [← traffics.reconnected_of_state? answers left]
    rfl
  rw [flat, placed, traffics.determined (.blank .error) answers]
  cases ran : invocation.run limit budget with
  | done after =>
      simp [Invocation.reconnectedOutcome, Outcome.mapState, conclusion?,
        kept _ (by rw [ran]; rfl)]
  | failed failure after =>
      simp [Invocation.reconnectedOutcome, Outcome.mapState, conclusion?,
        kept _ (by rw [ran]; rfl)]
  | unfinished =>
      rfl

@[simp] theorem flat_zero
    (limit : Nat)
    (code : Text)
    (cursor : Nat)
    (state : State) :
    flat limit 0 code cursor state = none :=
  rfl

/-- A greater budget does not change a conclusion. -/
theorem flat_eq_of_le
    {limit budget other : Nat}
    {code : Text}
    {cursor : Nat}
    {state : State}
    {conclusion : Conclusion}
    (concluded : flat limit budget code cursor state = some conclusion)
    (greater : budget ≤ other) :
    flat limit other code cursor state = some conclusion := by
  have finished :
      (state.placed code cursor (.blank .error)).run limit budget ≠
        .unfinished := by
    intro endless
    rw [flat, endless] at concluded
    cases concluded
  rw [flat, Invocation.run_eq_of_finished limit finished greater]
  exact concluded

/-! ## One step -/

/-- What a step at an instruction makes of a run. -/
theorem flat_succ
    (limit budget : Nat)
    {code : Text}
    {cursor : Nat}
    {c : Char}
    (present : code[cursor]? = some c)
    (state : State) :
    flat limit (budget + 1) code cursor state =
      match
        Invocation.runInstruction limit (Invocation.run limit budget)
          (state.placed code cursor (.blank .error)) c with
      | .done after =>
          conclusion? (after.advance.run limit budget)
      | .failed fault after =>
          some ⟨some ⟨cursor, some c, fault⟩, after.halt, .of after⟩
      | .unfinished =>
          none := by
  have here :
      (state.placed code cursor (.blank .error)).instruction? = some c :=
    present
  have unnoted :
      (state.placed code cursor (.blank .error)).noting
          (.performing
            ((state.placed code cursor (.blank .error)).scene c)) =
        state.placed code cursor (.blank .error) :=
    rfl
  have running :
      (state.placed code cursor (.blank .error)).halt.isSome = false :=
    rfl
  rw [flat, Invocation.run]
  simp only [running, Bool.false_eq_true, if_false, Invocation.stepWith, here,
    unnoted]
  cases
    Invocation.runInstruction limit (Invocation.run limit budget)
      (state.placed code cursor (.blank .error)) c <;> rfl

/-- The run goes on behind the place where an instruction left the cursor. -/
theorem flat_succ_of_done
    {limit budget : Nat}
    {code : Text}
    {cursor position : Nat}
    {c : Char}
    (present : code[cursor]? = some c)
    {state after : State}
    {journal : Journal}
    (ran :
      Invocation.runInstruction limit (Invocation.run limit budget)
          (state.placed code cursor (.blank .error)) c =
        .done (after.placed code position journal)) :
    flat limit (budget + 1) code cursor state =
      flat limit budget code (position + 1) after := by
  rw [flat_succ limit budget present, ran]
  exact conclusion?_run rfl

/-- At the end of the text the stack is output and nothing more is run. -/
theorem flat_end
    (limit budget : Nat)
    (code : Text)
    (state : State) :
    flat limit (budget + 1) code code.length state =
      some (state.output code.length) := by
  have absent :
      (state.placed code code.length (.blank .error)).instruction? = none :=
    List.getElem?_eq_none (Nat.le_refl _)
  have running :
      (state.placed code code.length (.blank .error)).halt.isSome = false :=
    rfl
  have kind :
      (state.placed code code.length (.blank .error)).isFunction =
        decide (0 < state.depth) :=
    rfl
  rw [flat, Invocation.run]
  simp only [running, Bool.false_eq_true, if_false, Invocation.stepWith,
    absent, kind]
  cases worked :
      Invocation.outputStack (decide (0 < state.depth)) state.bench with
  | ok result bench =>
      have done :
          (state.placed code code.length (.blank .error)).doing
              (Invocation.outputStack (decide (0 < state.depth))) =
            .done
              ((state.withBench bench).placed code code.length
                bench.journal) :=
        Invocation.working_of_ok worked
      simp only [done, State.output, worked]
      rw [Invocation.run_of_halted limit budget rfl]
      rfl
  | error fault bench =>
      have failed :
          (state.placed code code.length (.blank .error)).doing
              (Invocation.outputStack (decide (0 < state.depth))) =
            .failed fault
              ((state.withBench bench).placed code code.length
                bench.journal) :=
        Invocation.working_of_error worked
      simp only [failed, State.output, worked]
      rfl

end Structured

end StackTape
