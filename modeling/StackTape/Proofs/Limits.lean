import StackTape.Proofs.Steps

namespace StackTape

/-!
# Raising the limit of calls

The limit of calls is looked at in one place, before a call, and a call that exceeds it
fails.  The failure passes through every function that was called on the way and stays
the one that was raised first.  So a computation that never fails over the limit never
was at it, and a greater limit makes no difference to it.
-/

namespace Failure

/-- What was raised first is that calls nest too deeply. -/
def ExceedsLimit (failure : Failure) : Prop :=
  ∃ bound, failure.origin.fault = .recursionLimit bound

end Failure

namespace Outcome

/-- The computation does not fail over the limit of calls. -/
def StaysWithinLimit (outcome : Outcome Failure Invocation) : Prop :=
  ∀ failure after, outcome = .failed failure after → ¬ failure.ExceedsLimit

end Outcome

namespace Invocation

variable {small large : Nat}

/-- A step that is within the limit is the same step under a greater one. -/
theorem stepWith_eq_of_greater_limit
    (ordered : small ≤ large)
    {runSmall runLarge : Invocation → Outcome Failure Invocation}
    (bodies :
      ∀ callee, (runSmall callee).StaysWithinLimit →
        runLarge callee = runSmall callee)
    {invocation : Invocation}
    (within : (stepWith small runSmall invocation).StaysWithinLimit) :
    stepWith large runLarge invocation = stepWith small runSmall invocation := by
  cases stepKind invocation with
  | halted stopped =>
      rw [stepWith_of_halted _ _ stopped, stepWith_of_halted _ _ stopped]
  | ended running ended =>
      rw [stepWith_of_ended _ _ running ended, stepWith_of_ended _ _ running ended]
  | idle running present unbound nothing =>
      rw [stepWith_of_idle _ _ running present unbound nothing,
        stepWith_of_idle _ _ running present unbound nothing]
  | performed running present dispatched =>
      rw [stepWith_of_performed _ _ running present dispatched,
        stepWith_of_performed _ _ running present dispatched]
  | called running calls =>
      rw [stepWith_of_calls _ _ running calls] at within ⊢
      rw [stepWith_of_calls _ _ running calls]
      unfold call at within ⊢
      split at within
      · -- the call would fail over the smaller limit
        exact absurd ⟨small, rfl⟩ (within _ _ rfl)
      · rename_i shallow
        rw [if_neg shallow, if_neg (by omega), bodies]
        intro failure callee ran exceeds
        rw [ran] at within
        refine within _ _ rfl ?_
        rwa [Failure.ExceedsLimit, Failure.origin_raisedBy]

/-- So is a run, calls included. -/
theorem run_eq_of_greater_limit
    (ordered : small ≤ large)
    {budget : Nat}
    {invocation : Invocation}
    (within : (invocation.run small budget).StaysWithinLimit) :
    invocation.run large budget = invocation.run small budget := by
  induction budget generalizing invocation with
  | zero =>
      rfl
  | succ budget inductionHypothesis =>
      rw [run] at within ⊢
      rw [run]
      split
      · rfl
      · rename_i running
        rw [if_neg running] at within
        have stepWithin :
            (stepWith small (run small budget) invocation).StaysWithinLimit := by
          intro failure after failed
          rw [failed] at within
          exact within failure after rfl
        rw [stepWith_eq_of_greater_limit ordered
          (fun _ => inductionHypothesis) stepWithin]
        cases stepped : stepWith small (run small budget) invocation with
        | done after =>
            rw [stepped] at within
            exact inductionHypothesis within
        | failed | unfinished =>
            rfl

/-- And so is a single step. -/
theorem step_eq_of_greater_limit
    (ordered : small ≤ large)
    {budget : Nat}
    {invocation : Invocation}
    (within : (invocation.step small budget).StaysWithinLimit) :
    invocation.step large budget = invocation.step small budget :=
  stepWith_eq_of_greater_limit ordered
    (fun _ => run_eq_of_greater_limit ordered) within

/--
Steps of which none fails over the limit of calls pass through the same states, with the
same failures, under every greater limit; that includes tapes, functions, cursors, and
what was read and emitted.  It does not matter whether the steps go on after a failure,
and a step that never comes to an end does so under both limits.
-/
theorem stages_eq_of_greater_limit
    (ordered : small ≤ large)
    {budget count : Nat}
    {resuming : Bool}
    {invocation : Invocation}
    (within :
      ∀ stage ∈ stages small budget resuming count invocation,
        ∀ failure, stage.failure = some failure →
          ∀ bound, failure.origin.fault ≠ .recursionLimit bound) :
    stages large budget resuming count invocation =
      stages small budget resuming count invocation := by
  induction count generalizing invocation with
  | zero =>
      rfl
  | succ count inductionHypothesis =>
      have stepWithin : (invocation.step small budget).StaysWithinLimit := by
        intro failure after failed ⟨bound, exceeded⟩
        refine within ⟨after, some failure⟩ ?_ failure rfl bound exceeded
        simp [stages, failed]
      rw [stages] at within ⊢
      rw [stages, step_eq_of_greater_limit ordered stepWithin]
      cases stepped : invocation.step small budget with
      | unfinished =>
          rfl
      | done after =>
          rw [stepped] at within
          simp only [List.cons.injEq, true_and]
          split
          · rfl
          · rename_i running
            simp only [if_neg running] at within
            exact inductionHypothesis fun stage member =>
              within stage (.tail _ member)
      | failed failure after =>
          rw [stepped] at within
          simp only [List.cons.injEq, true_and]
          split
          · rename_i goesOn
            simp only [if_pos goesOn] at within
            exact inductionHypothesis fun stage member =>
              within stage (.tail _ member)
          · rfl

/--
Where a function fails that a function has called, at the limit of two calls, and the
call is then made once more.
-/
theorem stages_eq_of_greater_limit_in_failing_function :
    let program :=
      start "a\x7bp\x7db\x7ba\x7db".toList (.console .exhausted (.emissions []))
        (.blank .error) default
    let failure : Failure :=
      ⟨8, some 'b', .inFunction 'b' 0 (some 'a')
        (.inFunction 'a' 0 (some 'p') (.emptyStack .pop))⟩
    (stages 2 9 true 8 program).map Stage.failure =
        List.replicate 6 none ++ [some failure, some failure] ∧
      (∀ stage ∈ stages 2 9 true 8 program,
        ∀ failure, stage.failure = some failure →
          ∀ bound, failure.origin.fault ≠ .recursionLimit bound) ∧
      stages 200 9 true 8 program = stages 2 9 true 8 program := by
  intro program failure
  have failures :
      (stages 2 9 true 8 program).map Stage.failure =
        List.replicate 6 none ++ [some failure, some failure] :=
    rfl
  have within :
      ∀ stage ∈ stages 2 9 true 8 program,
        ∀ failure, stage.failure = some failure →
          ∀ bound, failure.origin.fault ≠ .recursionLimit bound := by
    intro stage member other failed bound
    have among := List.mem_map_of_mem (f := Stage.failure) member
    rw [failures, failed] at among
    have same : other = failure := by simpa using among
    rw [same]
    nofun
  exact ⟨failures, within, stages_eq_of_greater_limit (by decide) within⟩

end Invocation

end StackTape
