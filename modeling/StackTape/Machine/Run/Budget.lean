import StackTape.Machine.Run

namespace StackTape

/-!
# Budgets

A run that was not cut short comes out the same with every greater budget.  A step
keeps an outcome if all runs of function bodies in it do, and a run keeps it if all
of its steps do.
-/

namespace Invocation

/-- A call keeps its outcome when the runs of bodies keep theirs. -/
theorem call_of_finished
    {limit : Nat}
    {small large : Invocation → Outcome Failure Invocation}
    (kept : ∀ callee, small callee ≠ .unfinished → large callee = small callee)
    {invocation : Invocation}
    {name : Char}
    {body : Text}
    (finished : call limit small invocation name body ≠ .unfinished) :
    call limit large invocation name body = call limit small invocation name body := by
  unfold call at finished ⊢
  split
  · rfl
  · rename_i shallow
    rw [if_neg shallow] at finished
    rw [kept]
    intro endless
    simp [endless] at finished

/-- So does an instruction. -/
theorem runInstruction_of_finished
    {limit : Nat}
    {small large : Invocation → Outcome Failure Invocation}
    (kept : ∀ callee, small callee ≠ .unfinished → large callee = small callee)
    {invocation : Invocation}
    {instruction : Char}
    (finished :
      runInstruction limit small invocation instruction ≠ .unfinished) :
    runInstruction limit large invocation instruction =
      runInstruction limit small invocation instruction := by
  unfold runInstruction at finished ⊢
  cases found : invocation.functions.find? instruction with
  | none =>
      rfl
  | some body =>
      rw [found] at finished
      exact call_of_finished kept finished

/-- So does a step. -/
theorem stepWith_of_finished
    {limit : Nat}
    {small large : Invocation → Outcome Failure Invocation}
    (kept : ∀ callee, small callee ≠ .unfinished → large callee = small callee)
    {invocation : Invocation}
    (finished : stepWith limit small invocation ≠ .unfinished) :
    stepWith limit large invocation = stepWith limit small invocation := by
  unfold stepWith at finished ⊢
  cases present : invocation.instruction? with
  | none =>
      rfl
  | some instruction =>
      split
      · rfl
      · rename_i running
        rw [present, if_neg running] at finished
        simp only at finished ⊢
        rw [runInstruction_of_finished kept]
        intro endless
        simp [endless] at finished

/-- One more step of budget changes no outcome that was reached. -/
theorem run_succ_of_finished
    (limit budget : Nat)
    {invocation : Invocation}
    (finished : invocation.run limit budget ≠ .unfinished) :
    invocation.run limit (budget + 1) = invocation.run limit budget := by
  induction budget generalizing invocation with
  | zero =>
      unfold run at finished
      split at finished
      · rename_i halted
        simp [run, halted]
      · exact absurd rfl finished
  | succ budget inductionHypothesis =>
      rw [run] at finished ⊢
      rw [run]
      split
      · rfl
      · rename_i running
        rw [if_neg running] at finished
        have kept :
            ∀ callee : Invocation, callee.run limit budget ≠ .unfinished →
              callee.run limit (budget + 1) = callee.run limit budget :=
          fun _ => inductionHypothesis
        rw [stepWith_of_finished kept (by
          intro endless
          simp [endless] at finished)]
        cases stepped : stepWith limit (run limit budget) invocation with
        | done after =>
            simp only [stepped] at finished ⊢
            exact inductionHypothesis finished
        | failed failure after =>
            rfl
        | unfinished =>
            rfl

/-- A budget that was enough gives the outcome of every greater one. -/
theorem run_eq_of_finished
    (limit : Nat)
    {budget other : Nat}
    {invocation : Invocation}
    (finished : invocation.run limit budget ≠ .unfinished)
    (greater : budget ≤ other) :
    invocation.run limit other = invocation.run limit budget := by
  induction greater with
  | refl =>
      rfl
  | step _ inductionHypothesis =>
      rw [run_succ_of_finished _ _ (by rwa [inductionHypothesis]),
        inductionHypothesis]

end Invocation

end StackTape
