import StackTape.Machine.Control

namespace StackTape

/-!
# Steps and runs

A step runs the instruction at the cursor, or outputs the stack once the end of the
text is reached.  A call runs a whole function body within one step, so steps and
runs have a budget; an answer does not depend on the budget that was enough for it.
-/

namespace Invocation

/-- How the invocation looks before an instruction. -/
def scene
    (invocation : Invocation)
    (instruction : Char) : Journal.Scene where
  instruction := instruction
  tape := invocation.tape
  backup := invocation.backup
  inFunction := invocation.isFunction
  cursor := invocation.cursor

/-- Run a function body and take its outcome over. -/
def call
    (limit : Nat)
    (runBody : Invocation → Outcome Failure Invocation)
    (invocation : Invocation)
    (name : Char)
    (body : Text) : Outcome Fault Invocation :=
  if limit ≤ invocation.depth then
    .failed (.recursionLimit limit) invocation
  else
    match runBody (invocation.enter body) with
    | .done callee =>
        .done (invocation.leave callee)
    | .failed failure callee =>
        .failed (failure.raisedBy name) (invocation.leave callee)
    | .unfinished =>
        .unfinished

/--
Run an instruction.  A bound name is a call; a character before an opening brace is
only the name of the function defined there; any other character is an opcode or
does nothing.
-/
def runInstruction
    (limit : Nat)
    (runBody : Invocation → Outcome Failure Invocation)
    (invocation : Invocation)
    (instruction : Char) : Outcome Fault Invocation :=
  match invocation.functions.find? instruction with
  | some body =>
      call limit runBody invocation instruction body
  | none =>
      if invocation.next? = some '\x7b' then
        .done invocation
      else
        match Opcode.ofChar? instruction with
        | none =>
            .done invocation
        | some opcode =>
            invocation.perform (invocation.previous? == some '&') opcode

/-- Output the stack at the end of the text: a function cell by cell. -/
def outputStack (isFunction : Bool) : Work Unit := do
  Work.note .implicitOutput
  let cells := (← Work.stack).toList
  if isFunction then
    cells.forM fun cell => Work.emit (.number cell)
  else
    Work.emit (.text (List.intercalate [' '] (cells.map Cell.text)))

/-- Move on unless the invocation stopped. -/
def advance (invocation : Invocation) : Invocation :=
  if invocation.halt.isSome then
    invocation
  else
    invocation.withCursor (invocation.cursor + 1)

/-- One step, given how function bodies are run. -/
def stepWith
    (limit : Nat)
    (runBody : Invocation → Outcome Failure Invocation)
    (invocation : Invocation) : Outcome Failure Invocation :=
  if invocation.halt.isSome then
    .done invocation
  else
    match invocation.instruction? with
    | none =>
        match invocation.doing (outputStack invocation.isFunction) with
        | .done after =>
            .done { after with halt := some .finished }
        | .failed fault after =>
            .failed ⟨invocation.cursor, none, fault⟩ after
        | .unfinished =>
            .unfinished
    | some instruction =>
        let noted :=
          invocation.noting (.performing (invocation.scene instruction))
        match runInstruction limit runBody noted instruction with
        | .done after =>
            .done after.advance
        | .failed fault after =>
            .failed ⟨invocation.cursor, some instruction, fault⟩ after
        | .unfinished =>
            .unfinished

/-- Step until the invocation stops; function calls nest up to `limit`. -/
def run
    (limit : Nat) : Nat → Invocation → Outcome Failure Invocation
  | 0, invocation =>
      if invocation.halt.isSome then .done invocation else .unfinished
  | budget + 1, invocation =>
      if invocation.halt.isSome then
        .done invocation
      else
        match stepWith limit (run limit budget) invocation with
        | .done after =>
            run limit budget after
        | .failed failure after =>
            .failed failure after
        | .unfinished =>
            .unfinished

/-- One step; the budget bounds the function bodies that it runs. -/
def step
    (limit budget : Nat)
    (invocation : Invocation) : Outcome Failure Invocation :=
  stepWith limit (run limit budget) invocation

/-- Make up to a number of steps, and stop early when the invocation does. -/
def steps
    (limit budget : Nat) : Nat → Invocation → Outcome Failure Invocation
  | 0, invocation =>
      .done invocation
  | count + 1, invocation =>
      if invocation.halt.isSome then
        .done invocation
      else
        match invocation.step limit budget with
        | .done after =>
            steps limit budget count after
        | .failed failure after =>
            .failed failure after
        | .unfinished =>
            .unfinished

/-- A state and the failure of the step that led to it. -/
structure Stage where
  state : Invocation
  failure : Option Failure

/--
The states after each of up to a number of steps.  One step past the halt is made,
which changes nothing; after a failure the steps go on only when `resuming`.
-/
def stages
    (limit budget : Nat)
    (resuming : Bool) : Nat → Invocation → List Stage
  | 0, _ =>
      []
  | count + 1, invocation =>
      match invocation.step limit budget with
      | .done after =>
          ⟨after, none⟩ ::
            (if invocation.halt.isSome then
              []
            else
              stages limit budget resuming count after)
      | .failed failure after =>
          ⟨after, some failure⟩ ::
            (if resuming then
              stages limit budget resuming count after
            else
              [])
      | .unfinished =>
          []

/-- A stopped invocation makes no more steps. -/
theorem step_of_halted
    (limit budget : Nat)
    {invocation : Invocation}
    (halted : invocation.halt.isSome = true) :
    invocation.step limit budget = .done invocation := by
  simp [step, stepWith, halted]

/-- A stopped invocation is its own run. -/
theorem run_of_halted
    (limit budget : Nat)
    {invocation : Invocation}
    (halted : invocation.halt.isSome = true) :
    invocation.run limit budget = .done invocation := by
  cases budget <;> simp [run, halted]

end Invocation

end StackTape
