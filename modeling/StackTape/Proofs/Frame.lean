import StackTape.Proofs.FailedSteps

namespace StackTape

/-!
# The frame of a step

A step touches little: the current stack, and whatever the one instruction at the
cursor is for.  The same holds when the step fails, and when it is a call, however much
the called function does.  What the step has to do with the input and the output is its
traffic.
-/

namespace Tape

/-- The row as it was, looked at one place further left, where it may have grown. -/
def IsLeftOf (after before : Tape) : Prop :=
  after.toList = before.toList ∧ after.pointer + 1 = before.pointer ∨
    before.pointer = 0 ∧
      after.toList = .empty :: before.toList ∧ after.pointer = 0

/-- The row as it was, looked at one place further right, where it may have grown. -/
def IsRightOf (after before : Tape) : Prop :=
  (after.toList = before.toList ∨
      before.pointer + 1 = before.toList.length ∧
        after.toList = before.toList ++ [.empty]) ∧
    after.pointer = before.pointer + 1

theorem isLeftOf_moveLeft
    (tape : Tape) :
    tape.moveLeft.IsLeftOf tape := by
  rcases Nat.eq_zero_or_pos tape.pointer with atEnd | inside
  · exact .inr ⟨atEnd, toList_moveLeft_of_pointer_eq_zero atEnd⟩
  · exact .inl (toList_moveLeft_of_pointer_pos inside)

theorem isRightOf_moveRight
    (tape : Tape) :
    tape.moveRight.IsRightOf tape := by
  by_cases atEnd : tape.pointer + 1 = tape.toList.length
  · obtain ⟨grown, moved⟩ := toList_moveRight_of_pointer_eq atEnd
    exact ⟨.inr ⟨atEnd, grown⟩, moved⟩
  · have inside : tape.pointer + 1 < tape.toList.length := by
      have some : tape.pointer + 1 ≤ tape.toList.length := by
        simp [toList, pointer]
      omega
    obtain ⟨same, moved⟩ := toList_moveRight_of_pointer_lt inside
    exact ⟨.inl same, moved⟩

end Tape

namespace Invocation

/-- What a step leaves alone, and what alone changes the rest. -/
structure Frame (before after : Invocation) : Prop where
  /--
  Only the current stack changes, unless the step moves along the row; then the row
  stays, but for an empty stack at its end.
  -/
  tape :
    after.tape.pointer = before.tape.pointer ∧
        after.tape.toList =
          before.tape.toList.set before.tape.pointer after.stack ∨
      before.dispatched? = some .moveLeft ∧ after.tape.IsLeftOf before.tape ∨
      before.dispatched? = some .moveRight ∧ after.tape.IsRightOf before.tape
  backup : after.backup ≠ before.backup → before.dispatched? = some .store
  functions :
    after.functions ≠ before.functions → before.dispatched? = some .define
  /-- A definition changes the one entry of the character before it. -/
  entries :
    ∀ name,
      after.functions.find? name ≠ before.functions.find? name →
      before.previous? = some name
  halt :
    after.halt ≠ before.halt →
      before.dispatched? = some .terminate ∧ after.halt = some .terminated ∨
        before.instruction? = none ∧ after.halt = some .finished
  /-- No definition and no halt comes out of a call. -/
  call :
    ∀ name body,
      before.Calls name body →
      after.tape = before.tape.withCurrent after.stack ∧
        after.backup = before.backup ∧
        after.functions = before.functions ∧
        after.halt = before.halt

/-- What can change at all is in the frame of a step; calls change nothing of it. -/
theorem StepFrame.frame
    {before after : Invocation}
    (kept : StepFrame before after) :
    Frame before after where
  tape := by
    rcases kept.tape with ⟨stack, tape⟩ | ⟨dispatched, tape⟩ | ⟨dispatched, tape⟩
    · refine .inl ⟨by rw [tape, Tape.pointer_withCurrent], ?_⟩
      rw [Invocation.stack, tape, Tape.current_withCurrent, Tape.toList_withCurrent]
    · exact .inr (.inl ⟨dispatched, tape ▸ Tape.isLeftOf_moveLeft _⟩)
    · exact .inr (.inr ⟨dispatched, tape ▸ Tape.isRightOf_moveRight _⟩)
  backup changed := kept.backup.resolve_left changed
  functions changed := (kept.functions.resolve_left changed).1
  entries name changed := by
    rcases kept.functions with same | ⟨-, defined, body, defines, bound⟩
    · exact absurd (by rw [same]) changed
    · by_cases other : name = defined
      · rw [other]
        exact defines.named
      · rw [bound, Bindings.find?_bind_of_ne _ _ other] at changed
        exact absurd rfl changed
  halt changed := kept.halt.resolve_left changed
  call name body calls := by
    have nothing := calls.dispatched?_eq_none
    refine ⟨?_, ?_, ?_, ?_⟩
    · rcases kept.tape with ⟨stack, tape⟩ | ⟨dispatched, -⟩ | ⟨dispatched, -⟩
      · rw [Invocation.stack, tape]
        rfl
      · simp [nothing] at dispatched
      · simp [nothing] at dispatched
    · exact kept.backup.resolve_right (by simp [nothing])
    · exact kept.functions.resolve_right (by simp [nothing])
    · exact kept.halt.resolve_right (by simp [nothing, calls.present])

/-- A failed step leaves the cursor where it was, unless it refuses a definition. -/
theorem StepFailure.cursor
    {limit budget : Nat}
    {before after : Invocation}
    {failure : Failure}
    (failed : StepFailure limit budget before failure after) :
    before.dispatched? ≠ some .define ∧ after.cursor = before.cursor ∨
      before.dispatched? = some .define ∧
        RefusesDefinition before failure.fault after := by
  cases failed with
  | output ended _ =>
      exact .inl ⟨by simp [dispatched?, ended], rfl⟩
  | tooDeep calls _ =>
      exact .inl ⟨by simp [calls.dispatched?_eq_none], rfl⟩
  | passed calls _ _ =>
      exact .inl ⟨by simp [calls.dispatched?_eq_none], rfl⟩
  | performed _ dispatched worked =>
      rw [dispatched]
      rcases failed_perform_cases worked with
        ⟨other, atWork⟩ | ⟨same, refused⟩
      · obtain ⟨bench, rfl⟩ := atWork.bench
        exact .inl ⟨by simpa using other, rfl⟩
      · exact .inr ⟨by rw [same], refused.fault, refused.cursor⟩

/-! ## The traffic of a step -/

/-- What the exchanges of a step with its channel can be. -/
structure ChannelFrame
    (before : Invocation)
    (exchanges : List Exchange) : Prop where
  reads :
    ∀ exchange ∈ exchanges, exchange.isRead = true → before.TurnsToInput
  writes :
    ∀ exchange ∈ exchanges, exchange.isWrite = true → before.TurnsToOutput
  /-- These instructions take cells off the stack, but never turn to the input. -/
  strict :
    ∀ instruction ∈ ['o', 'u', 'p', '=', '~', 'I', 'W', '$'],
      before.instruction? = some instruction →
      before.previous? ≠ some '&' →
      ∀ exchange ∈ exchanges, exchange.isRead = false
  call : ∀ name body, before.Calls name body → exchanges = []

/-- Without an ampersand these instructions have no use for the input. -/
theorem not_turnsToInput_of_strict
    {invocation : Invocation}
    {instruction : Char}
    (strict : instruction ∈ ['o', 'u', 'p', '=', '~', 'I', 'W', '$'])
    (present : invocation.instruction? = some instruction)
    (alone : invocation.previous? ≠ some '&') :
    ¬ invocation.TurnsToInput := by
  rintro ⟨opcode, dispatched, reads⟩
  obtain ⟨same, samePresent, -, -, known⟩ :=
    dispatched?_eq_some_iff.1 dispatched
  rw [present] at samePresent
  cases samePresent
  have part : (invocation.previous? == some '&') = false := by
    simpa using alone
  have allModest :
      ['o', 'u', 'p', '=', '~', 'I', 'W', '$'].all (fun c =>
        (Opcode.ofChar? c).all fun opcode =>
          !opcode.isReader && opcode.demand false == 0) = true :=
    rfl
  have modest := List.all_eq_true.1 allModest instruction strict
  simp only [known, Option.all_some, Bool.and_eq_true, Bool.not_eq_true',
    beq_iff_eq] at modest
  rw [part, modest.1, modest.2] at reads
  simp at reads

/-- The exchanges that a step may make are those of its frame. -/
theorem exists_traffic_of_step
    (limit budget : Nat)
    (invocation : Invocation) :
    ∃ traffic,
      HasTraffic (step limit budget) invocation traffic ∧
        ChannelFrame invocation traffic.exchanges := by
  let allowed (exchange : Exchange) : Prop :=
    (exchange.isRead = true → invocation.TurnsToInput) ∧
      (exchange.isWrite = true → invocation.TurnsToOutput)
  obtain ⟨traffic, traffics, inside⟩ :
      KeepsTo allowed (step limit budget) invocation :=
    keepsTo_stepWith limit (haveTraffic_run limit budget)
      (fun turns _ => ⟨fun _ => turns, nofun⟩)
      fun turns _ => ⟨⟨nofun, fun _ => turns⟩, ⟨nofun, fun _ => turns⟩⟩
  refine ⟨traffic, traffics, ?_, ?_, ?_, ?_⟩
  · intro exchange member
    exact (inside exchange member).1
  · intro exchange member
    exact (inside exchange member).2
  · intro instruction strict present alone exchange member
    have idle := not_turnsToInput_of_strict strict present alone
    simpa using fun reads => idle ((inside exchange member).1 reads)
  · intro name body calls
    have nothing := calls.dispatched?_eq_none
    refine List.eq_nil_iff_forall_not_mem.2 fun exchange member => ?_
    have unread : ¬ invocation.TurnsToInput := by
      rintro ⟨opcode, dispatched, -⟩
      simp [nothing] at dispatched
    have unwritten : ¬ invocation.TurnsToOutput := by
      simp [TurnsToOutput, calls.present, nothing]
    cases reads : exchange.isRead with
    | true =>
        exact unread ((inside exchange member).1 reads)
    | false =>
        exact unwritten
          ((inside exchange member).2 (by simp [Exchange.isWrite, reads]))

/--
The frame of a step, whatever the invocation and the functions that it calls are.  The
state that the step leaves, be it after a failure, differs only as its frame says; a
failed step leaves the cursor alone unless it refuses a definition; and what the step
reads and writes is in its frame, also if it never comes to an end.
-/
theorem frame_of_step
    (limit budget : Nat)
    (before : Invocation) :
    (∀ after,
        (before.step limit budget).state? = some after →
        before.Frame after) ∧
      (∀ failure after,
        before.step limit budget = .failed failure after →
        before.dispatched? ≠ some .define ∧ after.cursor = before.cursor ∨
          before.dispatched? = some .define ∧
            before.RefusesDefinition failure.fault after) ∧
      ∃ traffic,
        HasTraffic (step limit budget) before traffic ∧
          before.ChannelFrame traffic.exchanges ∧
          ∀ after,
            (before.step limit budget).state? = some after →
            before.channel.Answers traffic.exchanges after.channel := by
  obtain ⟨traffic, traffics, kept⟩ := exists_traffic_of_step limit budget before
  refine ⟨?_, ?_, traffic, traffics, kept, ?_⟩
  · intro after left
    exact (frame_stepWith left).frame
  · intro failure after failed
    exact (failed_step_cases failed).cursor
  · intro after left
    exact traffics.answers_of_state? left

/-- A refused definition leaves the cursor at the end of its body, in its frame. -/
theorem frame_of_step_at_refused_definition :
    let definition :=
      (start "a\x7bxi\x7d".toList (.console .exhausted (.emissions []))
        (.blank .error) default).withCursor 1
    ∃ failure after,
      definition.step 200 0 = .failed failure after ∧
        after.cursor = 3 ∧
        definition.RefusesDefinition failure.fault after ∧
        definition.Frame after := by
  intro definition
  obtain ⟨kept, failing, -⟩ := frame_of_step 200 0 definition
  have failed :
      definition.step 200 0 =
        .failed ⟨1, some '\x7b', .inputInFunction⟩ (definition.withCursor 3) :=
    rfl
  rcases failing _ _ failed with ⟨other, -⟩ | ⟨-, refused⟩
  · exact absurd rfl other
  · exact ⟨_, _, failed, rfl, refused, kept _ (by rw [failed]; rfl)⟩

end Invocation

end StackTape
