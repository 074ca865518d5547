import StackTape.Proofs.Reachability

namespace StackTape

/-!
# The kinds of steps

A step is of one of five kinds, which the state before it determines: the invocation has
stopped, its text has ended, a function is called, an opcode is performed, or nothing
happens but that the cursor moves on.  For each kind there is one equation.
-/

namespace Invocation

/-- The kinds of steps. -/
inductive StepKind (invocation : Invocation) : Prop where
  /-- The invocation has stopped, and stays as it is. -/
  | halted
      (stopped : invocation.halt.isSome = true)
  /-- At the end of the text the stack is output. -/
  | ended
      (running : invocation.halt = none)
      (ended : invocation.instruction? = none)
  /-- A function is called. -/
  | called
      {name : Char}
      {body : Text}
      (running : invocation.halt = none)
      (calls : invocation.Calls name body)
  /-- The character names a function that is defined, or does nothing. -/
  | idle
      {instruction : Char}
      (running : invocation.halt = none)
      (present : invocation.instruction? = some instruction)
      (unbound : invocation.functions.find? instruction = none)
      (nothing : invocation.dispatched? = none)
  /-- An opcode is performed. -/
  | performed
      {instruction : Char}
      {opcode : Opcode}
      (running : invocation.halt = none)
      (present : invocation.instruction? = some instruction)
      (dispatched : invocation.dispatched? = some opcode)

theorem stepKind
    (invocation : Invocation) :
    StepKind invocation := by
  cases running : invocation.halt with
  | some halt =>
      exact .halted (by rw [running]; rfl)
  | none =>
      cases present : invocation.instruction? with
      | none =>
          exact .ended running present
      | some instruction =>
          cases bound : invocation.functions.find? instruction with
          | some body =>
              exact .called running ⟨present, bound⟩
          | none =>
              cases dispatched : invocation.dispatched? with
              | none =>
                  exact .idle running present bound dispatched
              | some opcode =>
                  exact .performed running present dispatched

/-- An invocation that goes on moves to the next character. -/
theorem advance_of_running
    {invocation : Invocation}
    (running : invocation.halt = none) :
    invocation.advance = invocation.withCursor (invocation.cursor + 1) := by
  simp [advance, running]

section

variable (limit : Nat)
variable (runBody : Invocation → Outcome Failure Invocation)
variable {invocation : Invocation}

theorem stepWith_of_halted
    (stopped : invocation.halt.isSome = true) :
    stepWith limit runBody invocation = .done invocation := by
  simp [stepWith, stopped]

/-- A step at the name of a function comes out as the call does. -/
theorem stepWith_of_calls
    {name : Char}
    {body : Text}
    (running : invocation.halt = none)
    (calls : invocation.Calls name body) :
    stepWith limit runBody invocation =
      (call limit runBody (invocation.announcing name) name body).passOn advance
        fun fault => ⟨invocation.cursor, some name, fault⟩ := by
  have bound : (invocation.announcing name).functions.find? name = some body :=
    calls.bound
  rw [stepWith_of_present limit runBody running calls.present, runInstruction,
    bound]

/-- A step that dispatches nothing and calls nothing moves on. -/
theorem stepWith_of_idle
    {instruction : Char}
    (running : invocation.halt = none)
    (present : invocation.instruction? = some instruction)
    (unbound : invocation.functions.find? instruction = none)
    (nothing : invocation.dispatched? = none) :
    stepWith limit runBody invocation =
      .done (invocation.announcing instruction).advance := by
  have still :
      (invocation.announcing instruction).functions.find? instruction = none :=
    unbound
  have unknown :
      ¬ invocation.next? = some '\x7b' →
        Opcode.ofChar? instruction = none := by
    simpa [dispatched?, present, unbound] using nothing
  rw [stepWith_of_present limit runBody running present]
  simp only [runInstruction, still]
  split
  · rfl
  · rename_i alone
    rw [unknown (by exact alone)]
    rfl

/-- A step that dispatches an opcode comes out as performing it does. -/
theorem stepWith_of_performed
    {instruction : Char}
    {opcode : Opcode}
    (running : invocation.halt = none)
    (present : invocation.instruction? = some instruction)
    (dispatched : invocation.dispatched? = some opcode) :
    stepWith limit runBody invocation =
      ((invocation.announcing instruction).perform
        (invocation.previous? == some '&') opcode).passOn advance
        fun fault => ⟨invocation.cursor, some instruction, fault⟩ := by
  obtain ⟨same, samePresent, unbound, nameless, known⟩ :=
    dispatched?_eq_some_iff.1 dispatched
  rw [present] at samePresent
  cases samePresent
  have still :
      (invocation.announcing instruction).functions.find? instruction = none :=
    unbound
  have alone : (invocation.announcing instruction).next? ≠ some '\x7b' :=
    nameless
  rw [stepWith_of_present limit runBody running present]
  simp only [runInstruction, still, if_neg alone, known]
  rfl

end

/-! ## Steps that perform a task -/

/-- The next step performs the task; `whole` tells whether it is for the whole stack. -/
structure AtTask
    (invocation : Invocation)
    (whole : Bool)
    (task : Task) : Prop where
  running : invocation.halt = none
  dispatched : invocation.dispatched? = some (.task task)
  modified : (invocation.previous? == some '&') = whole

/-- The next step leaves this stack and this cursor, and notes the instruction. -/
def StepLands
    (invocation : Invocation)
    (stack : Stack)
    (cursor : Nat) : Prop :=
  ∃ instruction,
    invocation.instruction? = some instruction ∧
      ∀ limit budget,
        invocation.step limit budget =
          .done (((invocation.announcing instruction).withStack stack).withCursor cursor)

/--
The next step fails with this fault, whose category has this name.  It leaves this stack
and the cursor where it was, and notes the instruction.
-/
def StepFails
    (invocation : Invocation)
    (category : String)
    (fault : Fault)
    (stack : Stack) : Prop :=
  fault.category.name = category ∧
    ∃ instruction,
      invocation.instruction? = some instruction ∧
        ∀ limit budget,
          invocation.step limit budget =
            .failed ⟨invocation.cursor, some instruction, fault⟩
              ((invocation.announcing instruction).withStack stack)

namespace AtTask

variable {invocation : Invocation}
variable {whole : Bool}
variable {task : Task}
variable {instruction : Char}
variable {bench : Bench}

theorem exists_instruction
    (atTask : invocation.AtTask whole task) :
    ∃ instruction, invocation.instruction? = some instruction := by
  obtain ⟨instruction, present, -⟩ := dispatched?_eq_some_iff.1 atTask.dispatched
  exact ⟨instruction, present⟩

/-- What the task makes of the bench is what the step makes of the invocation. -/
theorem step_of_ok
    (atTask : invocation.AtTask whole task)
    (present : invocation.instruction? = some instruction)
    (worked :
      task.perform whole (invocation.announcing instruction).bench = .ok () bench)
    (limit budget : Nat) :
    invocation.step limit budget =
      .done
        (((invocation.announcing instruction).withBench bench).withCursor
          (invocation.cursor + 1)) := by
  have done :
      (invocation.announcing instruction).perform whole (.task task) =
        .done ((invocation.announcing instruction).withBench bench) :=
    working_of_ok worked
  rw [step, stepWith_of_performed limit _ atTask.running present atTask.dispatched,
    atTask.modified, done]
  exact congrArg Outcome.done (advance_of_running (by exact atTask.running))

/-- The fault of the task is the fault of the step. -/
theorem step_of_error
    (atTask : invocation.AtTask whole task)
    (present : invocation.instruction? = some instruction)
    {fault : Fault}
    (worked :
      task.perform whole (invocation.announcing instruction).bench =
        .error fault bench)
    (limit budget : Nat) :
    invocation.step limit budget =
      .failed ⟨invocation.cursor, some instruction, fault⟩
        ((invocation.announcing instruction).withBench bench) := by
  have failed :
      (invocation.announcing instruction).perform whole (.task task) =
        .failed fault ((invocation.announcing instruction).withBench bench) :=
    working_of_error worked
  rw [step, stepWith_of_performed limit _ atTask.running present atTask.dispatched,
    atTask.modified, failed]
  rfl

/-- A task that changes the stack alone. -/
theorem stepLands
    (atTask : invocation.AtTask whole task)
    {stack : Stack}
    (worked :
      ∀ journal,
        task.perform whole { invocation.bench with journal := journal } =
          .ok () { invocation.bench with journal := journal, stack := stack }) :
    invocation.StepLands stack (invocation.cursor + 1) := by
  obtain ⟨instruction, present⟩ := atTask.exists_instruction
  exact ⟨instruction, present, atTask.step_of_ok present (worked _)⟩

/-- A task that fails and has changed the stack alone. -/
theorem stepFails
    (atTask : invocation.AtTask whole task)
    {fault : Fault}
    {stack : Stack}
    (worked :
      ∀ journal,
        task.perform whole { invocation.bench with journal := journal } =
          .error fault { invocation.bench with journal := journal, stack := stack }) :
    invocation.StepFails fault.category.name fault stack := by
  obtain ⟨instruction, present⟩ := atTask.exists_instruction
  exact ⟨rfl, instruction, present, atTask.step_of_error present (worked _)⟩

end AtTask

end Invocation

end StackTape
