import StackTape.Proofs.Bounds
import StackTape.Proofs.Steps
import StackTape.Proofs.Texts

namespace StackTape

/-!
# Termination

Only the end of a loop can lead back.  Every other instruction leaves the cursor where it
is or moves it forward, and then the step moves on.  Without loops an invocation thus
makes at most one step for each character and one for its output, and since calls nest no
deeper than the limit, the calls that are still possible and the text that is still ahead
bound a run, whatever its functions call.
-/

namespace Outcome

variable {ε δ σ : Type}

/-- An outcome that is passed on is done when it was done before. -/
theorem eq_done_of_passOn
    {outcome : Outcome ε σ}
    {finish : σ → σ}
    {report : ε → δ}
    {after : σ}
    (done : outcome.passOn finish report = .done after) :
    ∃ state, outcome = .done state ∧ after = finish state := by
  cases outcome with
  | done state =>
      cases done
      exact ⟨state, rfl, rfl⟩
  | failed | unfinished =>
      cases done

end Outcome

namespace Invocation

/-! ## No way back but the end of a loop -/

/-- A call gives the invocation back as the called function leaves it. -/
theorem eq_leave_of_call
    {limit : Nat}
    {runBody : Invocation → Outcome Failure Invocation}
    {invocation after : Invocation}
    {name : Char}
    {body : Text}
    (returned : call limit runBody invocation name body = .done after) :
    ∃ callee, after = invocation.leave callee := by
  unfold call at returned
  split at returned
  · cases returned
  · split at returned <;> cases returned
    exact ⟨_, rfl⟩

end Invocation

end StackTape
