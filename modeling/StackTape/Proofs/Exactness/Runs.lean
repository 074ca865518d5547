import StackTape.Proofs.Exactness.Tasks
import StackTape.Proofs.Frame
import StackTape.Proofs.Steps
import StackTape.Proofs.Texts

namespace StackTape

/-!
# Exact runs

A program whose text neither divides nor raises to a power has integers on all of its
stacks and in its backup, and so do the functions that it calls.  Its steps keep that up,
and so a run cannot fail over a real, at whatever depth.
-/

namespace Backup

/-- What is set aside are integers. -/
def IsExact : Backup → Prop
  | .empty =>
      True
  | .cell kept =>
      kept.IsInteger
  | .column kept =>
      ∀ cell ∈ kept, cell.IsInteger

end Backup

namespace Tape

/-- All stacks hold integers. -/
def IsExact (tape : Tape) : Prop :=
  ∀ stack ∈ tape.toList, stack.IsExact

theorem isExact_initial :
    IsExact .initial := by
  intro stack member
  rw [List.mem_singleton.1 (show stack ∈ [Stack.empty] from member)]
  exact Stack.isExact_empty

theorem IsExact.current
    {tape : Tape}
    (isExact : tape.IsExact) :
    tape.current.IsExact :=
  isExact _ (by simp [toList])

theorem IsExact.withCurrent
    {tape : Tape}
    (isExact : tape.IsExact)
    {stack : Stack}
    (stackExact : stack.IsExact) :
    (tape.withCurrent stack).IsExact := by
  intro other member
  rw [toList_withCurrent] at member
  rcases List.mem_or_eq_of_mem_set member with among | rfl
  · exact isExact other among
  · exact stackExact

/-- At most an empty stack is added where the row ends. -/
theorem IsExact.moveLeft
    {tape : Tape}
    (isExact : tape.IsExact) :
    tape.moveLeft.IsExact := by
  intro stack member
  rcases isLeftOf_moveLeft tape with ⟨same, -⟩ | ⟨-, grown, -⟩
  · exact isExact stack (same ▸ member)
  · rw [grown] at member
    rcases List.mem_cons.1 member with rfl | among
    · exact Stack.isExact_empty
    · exact isExact stack among

theorem IsExact.moveRight
    {tape : Tape}
    (isExact : tape.IsExact) :
    tape.moveRight.IsExact := by
  intro stack member
  rcases (isRightOf_moveRight tape).1 with same | ⟨-, grown⟩
  · exact isExact stack (same ▸ member)
  · rw [grown] at member
    rcases List.mem_append.1 member with among | last
    · exact isExact stack among
    · rw [List.mem_singleton.1 last]
      exact Stack.isExact_empty

end Tape

namespace Opcode

/-- Whether the instruction can make reals of integers. -/
def makesReals : Opcode → Bool
  | .task known =>
      known.makesReals
  | _ =>
      false

/-- Such an instruction is a slash or a caret. -/
theorem eq_of_makesReals
    {c : Char}
    {opcode : Opcode}
    (known : ofChar? c = some opcode)
    (makesReals : opcode.makesReals = true) :
    c = '/' ∨ c = '^' := by
  unfold ofChar? at known
  split at known
  case h_13 =>
    obtain ⟨task, taskKnown, rfl⟩ := Option.map_eq_some_iff.1 known
    unfold Task.ofChar? at taskKnown
    split at taskKnown
    · cases taskKnown
      cases makesReals
    · split at taskKnown <;> cases taskKnown <;>
        simp [Opcode.makesReals, Task.makesReals] at makesReals ⊢
  all_goals
    cases known
    cases makesReals

end Opcode

namespace Work

/-- A function outputs the cells of its stack as they are. -/
theorem staysExact_outputStack_of_function :
    StaysExact (fun _ => True) (Invocation.outputStack true) := by
  have listed
      (cells : List Cell)
      (integers : ∀ cell ∈ cells, cell.IsInteger) :
      StaysExact (fun _ => True)
        (cells.forM fun cell => emit (.number cell)) := by
    induction cells with
    | nil =>
        exact staysExact_pure trivial
    | cons cell rest inductionHypothesis =>
        refine (staysExact_emit fun returned member => ?_).bind fun _ _ =>
          inductionHypothesis fun other member =>
            integers other (List.mem_cons_of_mem _ member)
        rw [List.mem_singleton.1 member]
        exact integers cell List.mem_cons_self
  exact (staysExact_note _).bind fun _ _ =>
    staysExact_stack.bind fun _ isExact => listed _ isExact

/-- A program outputs to the console, where nothing reads its numbers back. -/
theorem endsExact_outputStack_of_console
    {bench : Bench}
    {source : LineSource}
    {sink : Sink}
    (console : bench.channel = .console source sink)
    (isExact : bench.IsExact) :
    EndsExact (fun _ => True) (Invocation.outputStack false bench) := by
  simp only [Invocation.outputStack, bind_apply, note_apply, stack_apply,
    Bool.false_eq_true, reduceIte, emit_apply, console, Channel.emit]
  cases sink.emit _ with
  | ok after =>
      exact ⟨trivial, isExact.stack, trivial⟩
  | error after =>
      exact ⟨Fault.sparesReals_of_category rfl rfl, isExact.stack,
        trivial⟩

end Work

namespace Invocation

/-- The integers of an invocation: in its stacks, its backup and its caller's stack. -/
structure IsExact (invocation : Invocation) : Prop where
  tape : invocation.tape.IsExact
  backup : invocation.backup.IsExact
  channel : invocation.channel.IsExact

/--
Nothing here divides or raises to a power, and the program itself outputs to no stack,
which would read its line of numbers back.
-/
structure IsUndivided (invocation : Invocation) : Prop where
  texts : TextsAre (fun text => '/' ∉ text ∧ '^' ∉ text) invocation
  console :
    invocation.isFunction = false →
      ∃ source sink, invocation.channel = .console source sink

/-- What is left holds integers, and no fault is over a real. -/
def LeavesExact
    {ε : Type}
    (fault : ε → Fault) : Outcome ε Invocation → Prop
  | .done state =>
      state.IsExact
  | .failed error state =>
      (fault error).SparesReals ∧ state.IsExact
  | .unfinished =>
      True

theorem LeavesExact.state
    {ε : Type}
    {fault : ε → Fault}
    {outcome : Outcome ε Invocation}
    {after : Invocation}
    (leaves : LeavesExact fault outcome)
    (left : outcome.state? = some after) :
    after.IsExact := by
  cases outcome with
  | done state =>
      cases left
      exact leaves
  | failed error state =>
      cases left
      exact leaves.2
  | unfinished =>
      cases left

/-- An outcome that is passed on leaves integers when the finished state has them. -/
theorem LeavesExact.passOn
    {outcome : Outcome Fault Invocation}
    (leaves : LeavesExact id outcome)
    {finish : Invocation → Invocation}
    {report : Fault → Failure}
    (finishes : ∀ state : Invocation, state.IsExact → (finish state).IsExact)
    (reports : ∀ fault, (report fault).fault = fault) :
    LeavesExact Failure.fault (outcome.passOn finish report) := by
  cases outcome with
  | done state =>
      exact finishes state leaves
  | failed fault state =>
      refine ⟨?_, leaves.2⟩
      rw [reports]
      exact leaves.1
  | unfinished =>
      trivial

namespace IsExact

variable {invocation : Invocation}

theorem bench
    (isExact : invocation.IsExact) :
    invocation.bench.IsExact :=
  ⟨isExact.tape.current, isExact.channel⟩

theorem withBench
    (isExact : invocation.IsExact)
    {bench : Bench}
    (benchExact : bench.IsExact) :
    (invocation.withBench bench).IsExact where
  tape := isExact.tape.withCurrent benchExact.stack
  backup := isExact.backup
  channel := benchExact.channel

theorem withStack
    (isExact : invocation.IsExact)
    {stack : Stack}
    (stackExact : stack.IsExact) :
    (invocation.withStack stack).IsExact where
  tape := isExact.tape.withCurrent stackExact
  backup := isExact.backup
  channel := isExact.channel

/-- The place in the text makes no difference. -/
theorem withCursor
    (isExact : invocation.IsExact)
    (cursor : Nat) :
    (invocation.withCursor cursor).IsExact :=
  ⟨isExact.tape, isExact.backup, isExact.channel⟩

theorem announcing
    (isExact : invocation.IsExact)
    (instruction : Char) :
    (invocation.announcing instruction).IsExact :=
  ⟨isExact.tape, isExact.backup, isExact.channel⟩

theorem advance
    (isExact : invocation.IsExact) :
    invocation.advance.IsExact := by
  unfold Invocation.advance
  split
  · exact isExact
  · exact isExact.withCursor _

theorem enter
    (isExact : invocation.IsExact)
    (body : Text) :
    (invocation.enter body).IsExact where
  tape := Tape.isExact_initial
  backup := trivial
  channel := isExact.tape.current

theorem leave
    (isExact : invocation.IsExact)
    {callee : Invocation}
    (calleeExact : callee.IsExact) :
    (invocation.leave callee).IsExact := by
  refine ⟨isExact.tape.withCurrent ?_, isExact.backup, isExact.channel⟩
  split
  · rename_i stack lent
    have returned := calleeExact.channel
    rwa [lent] at returned
  · exact isExact.tape.current

/-- Work that ends with integers leaves what its continuation leaves. -/
theorem working
    (isExact : invocation.IsExact)
    {α : Type}
    {good : α → Prop}
    {work : Work α}
    {goOn : α → Invocation → Outcome Fault Invocation}
    (ends : Work.EndsExact good (work invocation.bench))
    (onward :
      ∀ result after,
        good result →
        after.IsExact →
        LeavesExact id (goOn result after)) :
    LeavesExact id (invocation.working work goOn) := by
  cases worked : work invocation.bench with
  | ok result after =>
      rw [worked] at ends
      rw [working_of_ok worked]
      exact onward result _ ends.1 (isExact.withBench ends.2)
  | error fault after =>
      rw [worked] at ends
      rw [working_of_error worked]
      exact ⟨ends.1, isExact.withBench ends.2⟩

theorem doing
    (isExact : invocation.IsExact)
    {work : Work Unit}
    (ends : Work.EndsExact (fun _ => True) (work invocation.bench)) :
    LeavesExact id (invocation.doing work) :=
  isExact.working ends fun _ _ _ after => after

end IsExact

/-! ## Instructions -/

section

variable {invocation : Invocation}

theorem isExact_pushSpelled
    (isExact : invocation.IsExact)
    (row : Text) :
    (invocation.pushSpelled row).IsExact := by
  unfold pushSpelled
  split
  · exact isExact
  · exact isExact.withStack
      (Stack.isExact_push.2 ⟨isExact.tape.current, Cell.isInteger_int _⟩)

theorem isExact_pushNumber
    (isExact : invocation.IsExact) :
    invocation.pushNumber.IsExact := by
  unfold pushNumber
  split
  · exact (isExact_pushSpelled isExact _).withCursor _
  · exact isExact_pushSpelled isExact _

theorem isExact_pushString
    (isExact : invocation.IsExact) :
    invocation.pushString.IsExact := by
  have pushed (characters : Text) :
      (invocation.withStack
        (invocation.stack.append (characters.map Cell.ofChar))).IsExact :=
    isExact.withStack (Stack.isExact_append.2
      ⟨isExact.tape.current, fun _ => Cell.isInteger_of_mem_map_ofChar⟩)
  unfold pushString
  dsimp only
  split
  · exact (pushed _).withCursor _
  · exact pushed _

theorem isExact_pushCharacter
    (isExact : invocation.IsExact) :
    invocation.pushCharacter.IsExact := by
  unfold pushCharacter
  split
  · exact (isExact.withStack (Stack.isExact_push.2
      ⟨isExact.tape.current, Cell.isInteger_int _⟩)).withCursor _
  · exact isExact

theorem isExact_enterLoop
    (isExact : invocation.IsExact) :
    invocation.enterLoop.IsExact := by
  unfold enterLoop
  split
  · exact isExact
  · split
    · exact isExact.withCursor _
    · exact isExact

theorem isExact_repeatLoop
    (isExact : invocation.IsExact) :
    invocation.repeatLoop.IsExact := by
  unfold repeatLoop
  split
  · split
    · exact isExact.withCursor _
    · exact isExact
  · exact isExact

theorem isExact_storeTop
    (isExact : invocation.IsExact) :
    invocation.storeTop.IsExact := by
  unfold storeTop
  split
  · rename_i top peeked
    rw [Stack.peek?_eq_getLast?] at peeked
    exact ⟨isExact.tape, isExact.tape.current top (List.mem_of_getLast? peeked),
      isExact.channel⟩
  · exact ⟨isExact.tape, trivial, isExact.channel⟩

theorem leavesExact_leaveLoops
    (isExact : invocation.IsExact) :
    LeavesExact id invocation.leaveLoops :=
  isExact.working
    ((Work.staysExact_takeTop.bind fun _ => Work.staysExact_clampedInteger) _
      isExact.bench)
    fun _ _ _ after => after.withCursor _

theorem leavesExact_define
    (isExact : invocation.IsExact) :
    LeavesExact id invocation.define := by
  unfold define
  split
  · exact isExact
  · dsimp only
    split
    · exact ⟨Fault.sparesReals_of_category rfl rfl,
        isExact.withCursor _⟩
    · split <;> exact ⟨isExact.tape, isExact.backup, isExact.channel⟩

theorem leavesExact_load
    (isExact : invocation.IsExact) :
    LeavesExact id invocation.load := by
  have kept := isExact.backup
  unfold load
  split
  · exact ⟨Fault.sparesReals_of_category rfl rfl, isExact⟩
  · rename_i cell same
    rw [same] at kept
    exact isExact.withStack
      (Stack.isExact_push.2 ⟨isExact.tape.current, kept⟩)
  · rename_i cells same
    rw [same] at kept
    exact isExact.withStack
      (Stack.isExact_append.2 ⟨isExact.tape.current, kept⟩)

theorem leavesExact_storeAll
    (isExact : invocation.IsExact) :
    LeavesExact id invocation.storeAll := by
  have listed :
      Work.StaysExact (fun cells => ∀ cell ∈ cells, cell.IsInteger)
        (do
          Work.readIfEmpty
          return (← Work.stack).toList) :=
    Work.staysExact_afterReading
      (Work.staysExact_stack.bind fun _ stackExact =>
        Work.staysExact_pure stackExact)
  exact isExact.working (listed _ isExact.bench)
    fun _ _ cellsExact after => ⟨after.tape, cellsExact, after.channel⟩

/-- Every opcode but division and power leaves integers. -/
theorem leavesExact_perform
    (isExact : invocation.IsExact)
    (whole : Bool)
    {opcode : Opcode}
    (makesNoReals : opcode.makesReals = false) :
    LeavesExact id (invocation.perform whole opcode) := by
  cases opcode with
  | task task =>
      exact isExact.doing
        (Work.staysExact_perform whole makesNoReals _ isExact.bench)
  | number =>
      exact isExact_pushNumber isExact
  | string =>
      exact isExact_pushString isExact
  | character =>
      exact isExact_pushCharacter isExact
  | loopStart =>
      exact isExact_enterLoop isExact
  | loopEnd =>
      exact isExact_repeatLoop isExact
  | leaveLoops =>
      exact leavesExact_leaveLoops isExact
  | define =>
      exact leavesExact_define isExact
  | load =>
      exact leavesExact_load isExact
  | store =>
      cases whole with
      | true =>
          exact leavesExact_storeAll isExact
      | false =>
          exact isExact_storeTop isExact
  | moveLeft =>
      exact ⟨isExact.tape.moveLeft, isExact.backup, isExact.channel⟩
  | moveRight =>
      exact ⟨isExact.tape.moveRight, isExact.backup, isExact.channel⟩
  | terminate =>
      exact ⟨isExact.tape, isExact.backup, isExact.channel⟩

/-- The output at the end of the text leaves integers. -/
theorem leavesExact_output
    (isExact : invocation.IsExact)
    (undivided : invocation.IsUndivided) :
    LeavesExact id (invocation.doing (outputStack invocation.isFunction)) := by
  cases function : invocation.isFunction with
  | true =>
      exact isExact.doing
        (Work.staysExact_outputStack_of_function _ isExact.bench)
  | false =>
      obtain ⟨source, sink, console⟩ := undivided.console function
      exact isExact.doing
        (Work.endsExact_outputStack_of_console console isExact.bench)

end

/-! ## Steps and runs -/

/-- An undivided text dispatches no opcode that makes reals. -/
theorem IsUndivided.makesReals_eq_false
    {invocation : Invocation}
    (undivided : invocation.IsUndivided)
    {opcode : Opcode}
    (dispatched : invocation.dispatched? = some opcode) :
    opcode.makesReals = false := by
  obtain ⟨instruction, present, -, -, known⟩ :=
    dispatched?_eq_some_iff.1 dispatched
  have member := List.mem_of_getElem? present
  cases makesReals : opcode.makesReals with
  | false =>
      rfl
  | true =>
      rcases Opcode.eq_of_makesReals known makesReals with rfl | rfl
      · exact absurd member undivided.texts.code.1
      · exact absurd member undivided.texts.code.2

/-- A function that is called outputs to a stack. -/
theorem IsUndivided.enter
    {caller : Invocation}
    (undivided : caller.IsUndivided)
    {name : Char}
    {body : Text}
    (bound : caller.functions.find? name = some body) :
    ((caller.announcing name).enter body).IsUndivided where
  texts := undivided.texts.enter bound
  console topmost := by
    simp [isFunction, Invocation.enter] at topmost

/-- A step neither brings division in nor turns from the console to a stack. -/
theorem IsUndivided.step
    {limit budget : Nat}
    {before after : Invocation}
    (undivided : before.IsUndivided)
    (left : (before.step limit budget).state? = some after) :
    after.IsUndivided where
  texts :=
    undivided.texts.step
      ((Text.passesOn_lacking '/').and (Text.passesOn_lacking '^'))
      (frame_stepWith left)
  console topmost := by
    have sameDepth := (frame_stepWith left).depth
    rw [isFunction, sameDepth] at topmost
    obtain ⟨source, sink, channel⟩ := undivided.console topmost
    obtain ⟨traffic, traffics, -⟩ := exists_traffic_of_step limit budget before
    have answers := traffics.answers_of_state? left
    rw [channel] at answers
    exact answers.of_console

/-- A call leaves integers when the function does. -/
theorem leavesExact_call
    (limit : Nat)
    {runBody : Invocation → Outcome Failure Invocation}
    {invocation : Invocation}
    {body : Text}
    (isExact : invocation.IsExact)
    (ran : LeavesExact Failure.fault (runBody (invocation.enter body)))
    (name : Char) :
    LeavesExact id (call limit runBody invocation name body) := by
  unfold call
  split
  · exact ⟨Fault.sparesReals_of_category rfl rfl, isExact⟩
  · split
    · rename_i callee done
      rw [done] at ran
      exact isExact.leave ran
    · rename_i failure callee failed
      rw [failed] at ran
      exact ⟨Fault.sparesReals_inFunction ran.1 _ _ _, isExact.leave ran.2⟩
    · trivial

/-- A step of an undivided text leaves integers when the functions that it calls do. -/
theorem leavesExact_stepWith
    (limit : Nat)
    {runBody : Invocation → Outcome Failure Invocation}
    (bodies :
      ∀ callee : Invocation,
        callee.IsExact →
        callee.IsUndivided →
        LeavesExact Failure.fault (runBody callee))
    {invocation : Invocation}
    (isExact : invocation.IsExact)
    (undivided : invocation.IsUndivided) :
    LeavesExact Failure.fault (stepWith limit runBody invocation) := by
  have advances (state : Invocation) (stateExact : state.IsExact) :
      state.advance.IsExact :=
    stateExact.advance
  cases stepKind invocation with
  | halted stopped =>
      rw [stepWith_of_halted _ _ stopped]
      exact isExact
  | ended running ended =>
      rw [stepWith_of_ended _ _ running ended]
      exact (leavesExact_output isExact undivided).passOn
        (fun _ state => ⟨state.tape, state.backup, state.channel⟩)
        fun _ => rfl
  | @called name body running calls =>
      rw [stepWith_of_calls _ _ running calls]
      have announced := isExact.announcing name
      exact (leavesExact_call limit announced
        (bodies _ (announced.enter body) (undivided.enter calls.bound))
        name).passOn advances fun _ => rfl
  | idle running present unbound nothing =>
      rw [stepWith_of_idle _ _ running present unbound nothing]
      exact (isExact.announcing _).advance
  | performed running present dispatched =>
      rw [stepWith_of_performed _ _ running present dispatched]
      exact (leavesExact_perform (isExact.announcing _) _
        (undivided.makesReals_eq_false dispatched)).passOn advances
        fun _ => rfl

/-- A run of an undivided text leaves integers. -/
theorem leavesExact_run
    (limit budget : Nat)
    {invocation : Invocation}
    (isExact : invocation.IsExact)
    (undivided : invocation.IsUndivided) :
    LeavesExact Failure.fault (run limit budget invocation) := by
  induction budget generalizing invocation with
  | zero =>
      simp only [run]
      split
      · exact isExact
      · trivial
  | succ budget inductionHypothesis =>
      have first :=
        leavesExact_stepWith limit
          (fun _ calleeExact => inductionHypothesis calleeExact) isExact undivided
      simp only [run]
      split
      · exact isExact
      · split
        · rename_i after stepped
          rw [stepped] at first
          have left : (step limit budget invocation).state? = some after := by
            rw [step, stepped]
            rfl
          exact inductionHypothesis first (undivided.step left)
        · rename_i failure after stepped
          rwa [stepped] at first
        · trivial

theorem leavesExact_step
    (limit budget : Nat)
    {invocation : Invocation}
    (isExact : invocation.IsExact)
    (undivided : invocation.IsUndivided) :
    LeavesExact Failure.fault (step limit budget invocation) :=
  leavesExact_stepWith limit
    (fun _ calleeExact => leavesExact_run limit budget calleeExact) isExact
    undivided

/--
A program whose text neither divides nor raises to a power stays exact, whatever the
input, the output, the draws and the limit of calls are.  In every state that it comes
across, its own or a function's, all cells of all stacks, of the backup and of the stack
that a caller lends are integers, and no step made there fails over a real or an
overflow, be it in a function that the step calls.
-/
theorem reached_exact
    {limit : Nat}
    {code : Text}
    {source : LineSource}
    {sink : Sink}
    {journal : Journal}
    {draws : Draws}
    {invocation : Invocation}
    (undivided : '/' ∉ code)
    (unraised : '^' ∉ code)
    (reached :
      Reaches limit (.start code (.console source sink) journal draws)
        invocation) :
    invocation.IsExact ∧
      ∀ budget failure after,
        invocation.step limit budget = .failed failure after →
        failure.fault.SparesReals := by
  have kept : invocation.IsExact ∧ invocation.IsUndivided := by
    induction reached with
    | origin =>
        exact ⟨⟨Tape.isExact_initial, trivial, trivial⟩,
          .start ⟨undivided, unraised⟩ _ journal draws,
          fun _ => ⟨source, sink, rfl⟩⟩
    | step budget _ left inductionHypothesis =>
        obtain ⟨isExact, stillUndivided⟩ := inductionHypothesis
        exact ⟨(leavesExact_step limit budget isExact stillUndivided).state left,
          stillUndivided.step left⟩
    | @call caller name body _ _ _ bound _ inductionHypothesis =>
        obtain ⟨isExact, stillUndivided⟩ := inductionHypothesis
        exact ⟨(isExact.announcing name).enter body, stillUndivided.enter bound⟩
  refine ⟨kept.1, fun budget failure after failed => ?_⟩
  have leaves := leavesExact_step limit budget kept.1 kept.2
  rw [failed] at leaves
  exact leaves.1

/--
A number that came back through the text of a function is an integer, and the function
that goes on with it fails over a zero alone.
-/
theorem reached_exact_before_failing_function :
    let code := "b\x7b12&u\x7da\x7bbu0%\x7da".toList
    let program :=
      start code (.console .exhausted (.emissions [])) (.blank .error) default
    '/' ∉ code ∧
      '^' ∉ code ∧
      ∃ before failure after,
        Reaches 200 program before ∧
          before.IsExact ∧
          before.step 200 30 = .failed failure after ∧
          failure.fault =
            .inFunction 'a' 3 (some '%') (.zeroDivision .modulus) ∧
          failure.fault.SparesReals ∧
          after.stack.toList = [.int 2] := by
  intro code program
  have undivided : '/' ∉ code := by
    decide
  have unraised : '^' ∉ code := by
    decide
  have fails :
      ((stages 200 30 false 6 program)[5]?.map fun stage =>
        match stage.state.step 200 30 with
        | .failed failure after => some (failure.fault, after.stack.toList)
        | _ => none) =
        some (some
          (.inFunction 'a' 3 (some '%') (.zeroDivision .modulus), [.int 2])) := by
    decide +kernel
  obtain ⟨⟨before, _⟩, member, outcome⟩ := Option.map_eq_some_iff.1 fails
  have reached : Reaches 200 program before :=
    reaches_of_mem_stages (List.mem_of_getElem? member)
  obtain ⟨isExact, spares⟩ := reached_exact undivided unraised reached
  cases stepped : before.step 200 30 with
  | done | unfinished =>
      simp [stepped] at outcome
  | failed failure after =>
      simp only [stepped, Option.some.injEq, Prod.mk.injEq] at outcome
      exact ⟨undivided, unraised, before, failure, after, reached, isExact,
        stepped, outcome.1, spares 30 failure after stepped, outcome.2⟩

end Invocation

end StackTape
