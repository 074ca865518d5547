import StackTape.Proofs.Traffic.Runs

namespace StackTape

/-!
# How a step fails

A step fails in four ways: at the end of the text, at a call that is one too many, in a
called function, or in the opcode that it dispatches.  An opcode fails with what its work
on the bench fails with, or because it refuses a definition.
-/

namespace Invocation

/--
A definition is refused for a body that reads lines, and leaves the cursor before the
brace that closes it.
-/
structure RefusesDefinition
    (before : Invocation)
    (fault : Fault)
    (after : Invocation) : Prop where
  fault : fault = .inputInFunction
  cursor :
    ∃ close,
      before.partner? '\x7b' '\x7d' = some close ∧
        'i' ∈ before.behindCursor.take (close - (before.cursor + 1)) ∧
        after.cursor = close - 1

/-- Work failed on the bench, with an own fault or amid exchanges with the channel. -/
structure FailsAtWork
    (before : Invocation)
    (fault : Fault)
    (after : Invocation) : Prop where
  bench : ∃ bench, after = before.withBench bench
  raised :
    ∃ exchanges final,
      before.channel.Answers exchanges final ∧ fault.IsRaisedAmid exchanges

/-- Work that has traffic fails on the bench. -/
theorem failsAtWork_of_working
    {α : Type}
    {invocation after : Invocation}
    {work : Work α}
    {goOn : α → Invocation → Outcome Fault Invocation}
    {fault : Fault}
    (failed : invocation.working work goOn = .failed fault after)
    (succeeds : ∀ result worked, ∃ final, goOn result worked = .done final)
    (keeps : Work.KeepsTo (fun _ => True) work invocation.bench) :
    FailsAtWork invocation fault after := by
  obtain ⟨bench, worked, left⟩ := error_of_working failed succeeds
  obtain ⟨traffic, traffics, -⟩ := keeps
  obtain ⟨final, answers⟩ := traffics.answered
  exact ⟨⟨bench, left⟩, traffic.exchanges, final, answers, traffics.raised worked⟩

/-- An opcode fails at work on the bench, unless it refuses a definition. -/
theorem failed_perform_cases
    {whole : Bool}
    {opcode : Opcode}
    {invocation after : Invocation}
    {fault : Fault}
    (failed : invocation.perform whole opcode = .failed fault after) :
    opcode ≠ .define ∧ FailsAtWork invocation fault after ∨
      opcode = .define ∧ RefusesDefinition invocation fault after := by
  have mayRead : Work.MayRead fun _ => True :=
    fun _ => trivial
  have mayWrite : Work.MayWrite fun _ => True :=
    fun _ => ⟨trivial, trivial⟩
  cases opcode with
  | task task =>
      exact .inl ⟨by simp, failsAtWork_of_working failed (fun _ _ => ⟨_, rfl⟩)
        (Work.keepsTo_perform whole task (fun _ => mayRead) fun _ => mayWrite)⟩
  | leaveLoops =>
      simp only [perform, leaveLoops] at failed
      exact .inl ⟨by simp, failsAtWork_of_working failed (fun _ _ => ⟨_, rfl⟩)
        (keepsTo_takeCount _)⟩
  | store =>
      cases whole with
      | true =>
          simp only [perform, reduceIte, storeAll] at failed
          exact .inl ⟨by simp, failsAtWork_of_working failed (fun _ _ => ⟨_, rfl⟩)
            (keepsTo_wholeStack fun _ => mayRead)⟩
      | false =>
          cases failed
  | load =>
      simp only [perform, load] at failed
      split at failed <;> cases failed
      exact .inl ⟨by simp, ⟨invocation.bench, rfl⟩, [], _, .nothing, .inl rfl⟩
  | define =>
      simp only [perform, define] at failed
      split at failed
      · cases failed
      · rename_i close found
        split at failed
        · rename_i reads
          cases failed
          exact .inr ⟨rfl, rfl, close, found, by simpa using reads, rfl⟩
        · split at failed <;> cases failed
  | number | string | character | loopStart | loopEnd | moveLeft | moveRight
  | terminate =>
      cases failed

/-- How a step can fail, with the failure and the state that it leaves. -/
inductive StepFailure
    (limit budget : Nat)
    (invocation : Invocation) : Failure → Invocation → Prop where
  /-- The output at the end of the text failed. -/
  | output
      {fault : Fault}
      {bench : Bench}
      (ended : invocation.instruction? = none)
      (worked :
        outputStack invocation.isFunction invocation.bench =
          .error fault bench) :
      StepFailure limit budget invocation ⟨invocation.cursor, none, fault⟩
        (invocation.withBench bench)
  /-- The call would nest too deeply. -/
  | tooDeep
      {name : Char}
      {body : Text}
      (calls : invocation.Calls name body)
      (deep : limit ≤ invocation.depth) :
      StepFailure limit budget invocation
        ⟨invocation.cursor, some name, .recursionLimit limit⟩
        (invocation.announcing name)
  /-- The called function failed. -/
  | passed
      {name : Char}
      {body : Text}
      {failure : Failure}
      {callee : Invocation}
      (calls : invocation.Calls name body)
      (shallow : invocation.depth < limit)
      (ran :
        ((invocation.announcing name).enter body).run limit budget =
          .failed failure callee) :
      StepFailure limit budget invocation
        ⟨invocation.cursor, some name, failure.raisedBy name⟩
        ((invocation.announcing name).leave callee)
  /-- The opcode failed. -/
  | performed
      {instruction : Char}
      {opcode : Opcode}
      {fault : Fault}
      {after : Invocation}
      (present : invocation.instruction? = some instruction)
      (dispatched : invocation.dispatched? = some opcode)
      (worked :
        (invocation.announcing instruction).perform
            (invocation.previous? == some '&') opcode =
          .failed fault after) :
      StepFailure limit budget invocation
        ⟨invocation.cursor, some instruction, fault⟩ after

theorem failed_step_cases
    {limit budget : Nat}
    {invocation after : Invocation}
    {failure : Failure}
    (failed : invocation.step limit budget = .failed failure after) :
    StepFailure limit budget invocation failure after := by
  rw [step] at failed
  cases running : invocation.halt with
  | some halt =>
      simp only [stepWith, running] at failed
      cases failed
  | none =>
      cases present : invocation.instruction? with
      | none =>
          rw [stepWith_of_ended limit _ running present] at failed
          obtain ⟨fault, output, rfl⟩ := Outcome.eq_failed_of_passOn failed
          obtain ⟨bench, worked, rfl⟩ :=
            error_of_working output fun _ _ => ⟨_, rfl⟩
          exact .output present worked
      | some instruction =>
          rw [stepWith_of_present limit _ running present] at failed
          obtain ⟨fault, ran, rfl⟩ := Outcome.eq_failed_of_passOn failed
          unfold runInstruction at ran
          split at ran
          · rename_i body bound
            have calls : invocation.Calls instruction body := ⟨present, bound⟩
            unfold call at ran
            split at ran
            · rename_i deep
              cases ran
              exact .tooDeep calls deep
            · rename_i shallow
              split at ran <;> cases ran
              rename_i inner callee bodyRan
              exact .passed calls (Nat.not_le.1 shallow) bodyRan
          · rename_i unbound
            split at ran
            · cases ran
            · rename_i nameless
              split at ran
              · cases ran
              · rename_i opcode known
                have dispatched : invocation.dispatched? = some opcode :=
                  dispatched?_eq_some_iff.2
                    ⟨instruction, present, unbound, nameless, known⟩
                exact .performed present dispatched ran

end Invocation

end StackTape
