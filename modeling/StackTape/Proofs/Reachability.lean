import StackTape.Machine.Run.Budget

namespace StackTape

/-!
# What a run comes across

A run passes through states of the invocation that it starts with and of every
function that it calls.  `Reaches` collects all of them, those of calls that never
return included, and goes on after failed steps as well.  What one step can change is
said once, in `StepFrame`; what holds in every state that is reached follows from it by
induction.
-/

namespace Outcome

/-- The state that a computation leaves, whether it succeeds or fails. -/
def state? {ε σ : Type} : Outcome ε σ → Option σ
  | .done state =>
      some state
  | .failed _ state =>
      some state
  | .unfinished =>
      none

@[simp] theorem state?_done
    {ε σ : Type}
    (state : σ) :
    (Outcome.done state : Outcome ε σ).state? = some state :=
  rfl

@[simp] theorem state?_failed
    {ε σ : Type}
    (error : ε)
    (state : σ) :
    (Outcome.failed error state).state? = some state :=
  rfl

@[simp] theorem state?_unfinished
    {ε σ : Type} :
    (Outcome.unfinished : Outcome ε σ).state? = none :=
  rfl

variable {ε δ σ : Type}

theorem done_ne_unfinished
    (state : σ) :
    (.done state : Outcome ε σ) ≠ .unfinished := by
  simp

theorem failed_ne_unfinished
    (error : ε)
    (state : σ) :
    (.failed error state : Outcome ε σ) ≠ .unfinished := by
  simp

/-- Pass an outcome on: finish the state that is done, and report the error. -/
def passOn (finish : σ → σ) (report : ε → δ) : Outcome ε σ → Outcome δ σ
  | .done state =>
      .done (finish state)
  | .failed error state =>
      .failed (report error) state
  | .unfinished =>
      .unfinished

/-- An outcome that is passed on fails as it failed before. -/
theorem eq_failed_of_passOn
    {outcome : Outcome ε σ}
    {finish : σ → σ}
    {report : ε → δ}
    {error : δ}
    {state : σ}
    (failed : outcome.passOn finish report = .failed error state) :
    ∃ inner, outcome = .failed inner state ∧ error = report inner := by
  cases outcome with
  | failed inner left =>
      cases failed
      exact ⟨inner, rfl, rfl⟩
  | done | unfinished =>
      cases failed

/-- The state that is left was left before, or is the finished one. -/
theorem state?_of_passOn
    {outcome : Outcome ε σ}
    {finish : σ → σ}
    {report : ε → δ}
    {after : σ}
    (left : (outcome.passOn finish report).state? = some after) :
    ∃ state,
      outcome.state? = some state ∧ (after = finish state ∨ after = state) := by
  cases outcome with
  | done state =>
      cases left
      exact ⟨state, rfl, .inl rfl⟩
  | failed error state =>
      cases left
      exact ⟨after, rfl, .inr rfl⟩
  | unfinished =>
      cases left

end Outcome

namespace Opcode

/-- The character of an instruction that is no task on the bench. -/
def sign? : Opcode → Option Char
  | .task _ =>
      none
  | .number =>
      some '('
  | .string =>
      some '"'
  | .character =>
      some '\''
  | .loopStart =>
      some '['
  | .loopEnd =>
      some ']'
  | .leaveLoops =>
      some '$'
  | .define =>
      some '\x7b'
  | .load =>
      some 'l'
  | .store =>
      some 's'
  | .moveLeft =>
      some '<'
  | .moveRight =>
      some '>'
  | .terminate =>
      some ';'

/-- An instruction beyond the bench has one character alone. -/
theorem eq_of_sign?
    {c sign : Char}
    {opcode : Opcode}
    (known : ofChar? c = some opcode)
    (signed : opcode.sign? = some sign) :
    c = sign := by
  unfold ofChar? at known
  split at known
  case h_13 =>
    obtain ⟨task, -, rfl⟩ := Option.map_eq_some_iff.1 known
    cases signed
  all_goals
    cases known
    cases signed
    rfl

end Opcode

namespace Invocation

/-- The invocation once it has noted the instruction that it is about to run. -/
def announcing
    (invocation : Invocation)
    (instruction : Char) : Invocation :=
  invocation.noting (.performing (invocation.scene instruction))

/-- At the end of the text a step outputs the stack. -/
theorem stepWith_of_ended
    (limit : Nat)
    (runBody : Invocation → Outcome Failure Invocation)
    {invocation : Invocation}
    (running : invocation.halt = none)
    (ended : invocation.instruction? = none) :
    stepWith limit runBody invocation =
      (invocation.doing (outputStack invocation.isFunction)).passOn
        (fun after => { after with halt := some .finished })
        fun fault => ⟨invocation.cursor, none, fault⟩ := by
  simp only [stepWith, running, ended, Option.isSome_none, Bool.false_eq_true,
    reduceIte]
  cases invocation.doing (outputStack invocation.isFunction) <;> rfl

/-- Before that a step runs the instruction at the cursor. -/
theorem stepWith_of_present
    (limit : Nat)
    (runBody : Invocation → Outcome Failure Invocation)
    {invocation : Invocation}
    {instruction : Char}
    (running : invocation.halt = none)
    (present : invocation.instruction? = some instruction) :
    stepWith limit runBody invocation =
      (runInstruction limit runBody (invocation.announcing instruction)
        instruction).passOn advance
        fun fault => ⟨invocation.cursor, some instruction, fault⟩ := by
  simp only [stepWith, running, present, Option.isSome_none, Bool.false_eq_true,
    reduceIte, announcing]
  cases runInstruction limit runBody
    (invocation.noting (.performing (invocation.scene instruction)))
    instruction <;> rfl

/-- The states that a run from `origin` comes across, at any depth of calls. -/
inductive Reaches
    (limit : Nat)
    (origin : Invocation) : Invocation → Prop where
  | origin :
      Reaches limit origin origin
  /-- A step leads on, also a failed one and one made after a failure. -/
  | step
      {before after : Invocation}
      (budget : Nat)
      (reached : Reaches limit origin before)
      (left : (before.step limit budget).state? = some after) :
      Reaches limit origin after
  /-- A call leads to the function body before its first instruction. -/
  | call
      {caller : Invocation}
      {name : Char}
      {body : Text}
      (reached : Reaches limit origin caller)
      (running : caller.halt = none)
      (present : caller.instruction? = some name)
      (bound : caller.functions.find? name = some body)
      (shallow : caller.depth < limit) :
      Reaches limit origin ((caller.announcing name).enter body)

/-- What is reached from a reached state is reached. -/
theorem Reaches.trans
    {limit : Nat}
    {origin middle final : Invocation}
    (first : Reaches limit origin middle)
    (later : Reaches limit middle final) :
    Reaches limit origin final := by
  induction later with
  | origin =>
      exact first
  | step budget _ left inductionHypothesis =>
      exact inductionHypothesis.step budget left
  | call _ running present bound shallow inductionHypothesis =>
      exact inductionHypothesis.call running present bound shallow

/-- Steps made one by one reach what they lead to, whether or not they go on after a failure. -/
theorem reaches_of_mem_stages
    {limit budget count : Nat}
    {resuming : Bool}
    {invocation : Invocation}
    {stage : Stage}
    (member : stage ∈ stages limit budget resuming count invocation) :
    Reaches limit invocation stage.state := by
  induction count generalizing invocation with
  | zero =>
      simp [stages] at member
  | succ count inductionHypothesis =>
      simp only [stages] at member
      split at member
      · rename_i after stepped
        have first : Reaches limit invocation after :=
          .step budget .origin (by rw [stepped]; rfl)
        rcases List.mem_cons.1 member with rfl | later
        · exact first
        · split at later
          · cases later
          · exact first.trans (inductionHypothesis later)
      · rename_i failure after stepped
        have first : Reaches limit invocation after :=
          .step budget .origin (by rw [stepped]; rfl)
        rcases List.mem_cons.1 member with rfl | later
        · exact first
        · split at later
          · exact first.trans (inductionHypothesis later)
          · cases later
      · cases member

/-! ## What one step can do -/

/--
The opcode at the cursor, when the step there performs it: when no function is bound
to the character and no definition follows it.
-/
def dispatched? (invocation : Invocation) : Option Opcode :=
  match invocation.instruction? with
  | none =>
      none
  | some instruction =>
      if (invocation.functions.find? instruction).isSome ∨
          invocation.next? = some '\x7b' then
        none
      else
        Opcode.ofChar? instruction

theorem dispatched?_eq_some_iff
    {invocation : Invocation}
    {opcode : Opcode} :
    invocation.dispatched? = some opcode ↔
      ∃ instruction,
        invocation.instruction? = some instruction ∧
          invocation.functions.find? instruction = none ∧
          invocation.next? ≠ some '\x7b' ∧
          Opcode.ofChar? instruction = some opcode := by
  unfold dispatched?
  cases invocation.instruction? with
  | none =>
      simp
  | some instruction =>
      by_cases called :
          (invocation.functions.find? instruction).isSome ∨
            invocation.next? = some '\x7b'
      · simp only [if_pos called, reduceCtorEq, false_iff]
        rintro ⟨_, same, unbound, nameless, _⟩
        cases same
        rcases called with bound | names
        · simp [unbound] at bound
        · exact nameless names
      · simp only [if_neg called]
        simp only [not_or, Option.not_isSome_iff_eq_none] at called
        simp [called.1, called.2]

/-- A dispatched opcode has its own character at the cursor. -/
theorem instruction?_of_dispatched?
    {invocation : Invocation}
    {opcode : Opcode}
    {sign : Char}
    (dispatched : invocation.dispatched? = some opcode)
    (signed : opcode.sign? = some sign) :
    invocation.instruction? = some sign := by
  obtain ⟨instruction, present, -, -, known⟩ :=
    dispatched?_eq_some_iff.1 dispatched
  rw [present, Opcode.eq_of_sign? known signed]

/-- The cursor stands at the name of this function. -/
structure Calls
    (invocation : Invocation)
    (name : Char)
    (body : Text) : Prop where
  present : invocation.instruction? = some name
  bound : invocation.functions.find? name = some body

/-- A call dispatches no opcode. -/
theorem Calls.dispatched?_eq_none
    {invocation : Invocation}
    {name : Char}
    {body : Text}
    (calls : Calls invocation name body) :
    invocation.dispatched? = none := by
  simp [dispatched?, calls.present, calls.bound]

/-- A definition at the cursor binds this body to this name. -/
structure Defines
    (invocation : Invocation)
    (name : Char)
    (body : Text) : Prop where
  named : invocation.previous? = some name
  delimited :
    ∃ close,
      invocation.partner? '\x7b' '\x7d' = some close ∧
        body =
          invocation.behindCursor.take (close - (invocation.cursor + 1))
  withoutInput : 'i' ∉ body

/--
What an instruction that dispatches this opcode leaves alone, where the cursor may go,
and which opcodes can change what else.
-/
structure InstructionFrame
    (opcode : Option Opcode)
    (before after : Invocation) : Prop where
  code : after.code = before.code
  depth : after.depth = before.depth
  cursor :
    before.cursor < before.code.length → after.cursor < before.code.length
  tape :
    (∃ stack, after.tape = before.tape.withCurrent stack) ∨
      opcode = some .moveLeft ∧ after.tape = before.tape.moveLeft ∨
      opcode = some .moveRight ∧ after.tape = before.tape.moveRight
  backup : after.backup = before.backup ∨ opcode = some .store
  functions :
    after.functions = before.functions ∨
      opcode = some .define ∧
        ∃ name body,
          Defines before name body ∧
            after.functions = before.functions.bind name body
  halt :
    after.halt = before.halt ∨
      opcode = some .terminate ∧ after.halt = some .terminated

namespace InstructionFrame

/-- Work on the bench keeps the place, the text and the functions. -/
theorem withBench
    (opcode : Option Opcode)
    (invocation : Invocation)
    (bench : Bench) :
    InstructionFrame opcode invocation (invocation.withBench bench) where
  code := rfl
  depth := rfl
  cursor := id
  tape := .inl ⟨bench.stack, rfl⟩
  backup := .inl rfl
  functions := .inl rfl
  halt := .inl rfl

/-- A cursor that is moved inside the text stays inside the text. -/
theorem moved
    {opcode : Option Opcode}
    {before after : Invocation}
    (kept : InstructionFrame opcode before after)
    {cursor : Nat}
    (inside :
      before.cursor < before.code.length → cursor < before.code.length) :
    InstructionFrame opcode before (after.withCursor cursor) :=
  { kept with cursor := inside }

end InstructionFrame

/-- Work leaves what its continuation leaves, or fails on the bench. -/
theorem state?_working
    {α : Type}
    {invocation after : Invocation}
    {work : Work α}
    {goOn : α → Invocation → Outcome Fault Invocation}
    (left : (invocation.working work goOn).state? = some after) :
    ∃ bench,
      after = invocation.withBench bench ∨
        ∃ result,
          (goOn result (invocation.withBench bench)).state? = some after := by
  unfold working at left
  cases worked : work invocation.bench with
  | ok result bench =>
      rw [worked] at left
      exact ⟨bench, .inr ⟨result, left⟩⟩
  | error fault bench =>
      rw [worked] at left
      cases left
      exact ⟨bench, .inl rfl⟩

/-- Work on the bench leaves the invocation with another bench. -/
theorem state?_doing
    {invocation after : Invocation}
    {work : Work Unit}
    (left : (invocation.doing work).state? = some after) :
    ∃ bench, after = invocation.withBench bench := by
  obtain ⟨bench, rfl | ⟨_, done⟩⟩ := state?_working left
  · exact ⟨bench, rfl⟩
  · cases done
    exact ⟨bench, rfl⟩

/-- Work that ends the computation with its fault, and leaves its bench. -/
theorem error_of_working
    {α : Type}
    {invocation after : Invocation}
    {work : Work α}
    {goOn : α → Invocation → Outcome Fault Invocation}
    {fault : Fault}
    (failed : invocation.working work goOn = .failed fault after)
    (succeeds : ∀ result worked, ∃ final, goOn result worked = .done final) :
    ∃ bench,
      work invocation.bench = .error fault bench ∧
        after = invocation.withBench bench := by
  unfold working at failed
  cases worked : work invocation.bench with
  | ok result bench =>
      obtain ⟨final, done⟩ := succeeds result (invocation.withBench bench)
      rw [worked] at failed
      simp [done] at failed
  | error other bench =>
      rw [worked] at failed
      cases failed
      exact ⟨bench, rfl, rfl⟩

/-- A partner behind the cursor lies behind it and inside the text. -/
theorem partner?_bounds
    {invocation : Invocation}
    {opening closing : Char}
    {close : Nat}
    (found : invocation.partner? opening closing = some close) :
    invocation.cursor + 1 ≤ close ∧ close < invocation.code.length :=
  Source.partnerAfter?_bounds found

/-- The closing quote of a string lies behind the cursor and inside the text. -/
theorem closingQuote_lt
    {invocation : Invocation}
    {offset : Nat}
    (closed :
      (Source.readString false invocation.behindCursor).2 = some offset) :
    invocation.cursor + 1 + offset < invocation.code.length := by
  have inside := Source.readString_closing_lt closed
  simp only [behindCursor, List.length_drop] at inside
  omega

/-- Leaving loops keeps the cursor inside the text. -/
theorem cursorOutside_lt
    {code : Text}
    {cursor : Nat}
    (inside : cursor < code.length)
    (count : Nat) :
    cursorOutside code count cursor < code.length := by
  induction count generalizing cursor with
  | zero =>
      exact inside
  | succ count inductionHypothesis =>
      simp only [cursorOutside]
      split
      · rename_i close found
        exact inductionHypothesis (Source.partnerAfter?_bounds found).2
      · exact inside

/-- Pushing a row of digits is work on the stack. -/
theorem frame_pushSpelled
    (opcode : Option Opcode)
    (invocation : Invocation)
    (row : Text) :
    InstructionFrame opcode invocation (invocation.pushSpelled row) := by
  unfold pushSpelled
  split
  · exact .withBench opcode invocation invocation.bench
  · exact .withBench opcode invocation { invocation.bench with stack := _ }

theorem frame_pushNumber
    (opcode : Option Opcode)
    (invocation : Invocation) :
    InstructionFrame opcode invocation invocation.pushNumber := by
  unfold pushNumber
  cases found : invocation.partner? '(' ')' with
  | some close =>
      refine (frame_pushSpelled opcode invocation _).moved fun _ => ?_
      have bounds := partner?_bounds found
      omega
  | none =>
      exact frame_pushSpelled opcode invocation _

theorem frame_pushString
    (opcode : Option Opcode)
    (invocation : Invocation) :
    InstructionFrame opcode invocation invocation.pushString := by
  unfold pushString
  have pushed (stack : Stack) :
      InstructionFrame opcode invocation (invocation.withStack stack) :=
    .withBench opcode invocation { invocation.bench with stack := stack }
  dsimp only
  split
  · rename_i offset closed
    exact (pushed _).moved fun _ => closingQuote_lt closed
  · exact pushed _

theorem frame_pushCharacter
    (opcode : Option Opcode)
    (invocation : Invocation) :
    InstructionFrame opcode invocation invocation.pushCharacter := by
  unfold pushCharacter
  have pushed (stack : Stack) :
      InstructionFrame opcode invocation (invocation.withStack stack) :=
    .withBench opcode invocation { invocation.bench with stack := stack }
  split
  · rename_i c following
    refine (pushed _).moved fun _ => ?_
    exact (List.getElem?_eq_some_iff.1 following).1
  · exact .withBench opcode invocation invocation.bench

theorem frame_enterLoop
    (opcode : Option Opcode)
    (invocation : Invocation) :
    InstructionFrame opcode invocation invocation.enterLoop := by
  have same : InstructionFrame opcode invocation invocation :=
    .withBench opcode invocation invocation.bench
  unfold enterLoop
  split
  · exact same
  · split
    · rename_i close found
      refine same.moved fun _ => ?_
      have bounds := partner?_bounds found
      omega
    · exact same

theorem frame_repeatLoop
    (opcode : Option Opcode)
    (invocation : Invocation) :
    InstructionFrame opcode invocation invocation.repeatLoop := by
  have same : InstructionFrame opcode invocation invocation :=
    .withBench opcode invocation invocation.bench
  unfold repeatLoop
  split
  · split
    · rename_i position found
      refine same.moved fun inside => ?_
      exact Nat.lt_trans (Source.partnerBefore?_lt found) inside
    · exact same
  · exact same

theorem frame_leaveLoops
    (opcode : Option Opcode)
    {invocation after : Invocation}
    (left : invocation.leaveLoops.state? = some after) :
    InstructionFrame opcode invocation after := by
  obtain ⟨bench, rfl | ⟨count, moved⟩⟩ := state?_working left
  · exact .withBench opcode invocation bench
  · cases moved
    refine (InstructionFrame.withBench opcode invocation bench).moved
      fun inside => ?_
    exact cursorOutside_lt inside _

/-- A definition is refused or binds the body behind it to the name before it. -/
theorem frame_define
    {invocation after : Invocation}
    (left : invocation.define.state? = some after) :
    InstructionFrame (some .define) invocation after := by
  have same : InstructionFrame (some .define) invocation invocation :=
    .withBench _ invocation invocation.bench
  unfold define at left
  cases found : invocation.partner? '\x7b' '\x7d' with
  | none =>
      simp only [found] at left
      cases left
      exact same
  | some close =>
      have bounds := partner?_bounds found
      have moved :
          InstructionFrame (some .define) invocation
            (invocation.withCursor (close - 1)) :=
        same.moved fun _ => by omega
      simp only [found] at left
      split at left
      · cases left
        exact moved
      · rename_i withoutInput
        cases named : invocation.previous? with
        | none =>
            simp only [named] at left
            cases left
            exact moved
        | some name =>
            simp only [named] at left
            cases left
            refine { moved with functions := .inr ⟨rfl, name, _, ?_, rfl⟩ }
            exact ⟨named, ⟨close, found, rfl⟩, by simpa using withoutInput⟩

theorem frame_load
    (opcode : Option Opcode)
    {invocation after : Invocation}
    (left : invocation.load.state? = some after) :
    InstructionFrame opcode invocation after := by
  have pushed (stack : Stack) :
      InstructionFrame opcode invocation (invocation.withStack stack) :=
    .withBench opcode invocation { invocation.bench with stack := stack }
  unfold load at left
  split at left <;> cases left
  · exact .withBench opcode invocation invocation.bench
  · exact pushed _
  · exact pushed _

/-- Every opcode stays inside its frame. -/
theorem frame_perform
    {whole : Bool}
    {opcode : Opcode}
    {invocation after : Invocation}
    (left : (invocation.perform whole opcode).state? = some after) :
    InstructionFrame (some opcode) invocation after := by
  have same : InstructionFrame (some opcode) invocation invocation :=
    .withBench _ invocation invocation.bench
  cases opcode with
  | task task =>
      obtain ⟨bench, rfl⟩ := state?_doing left
      exact .withBench _ invocation bench
  | number =>
      cases left
      exact frame_pushNumber _ invocation
  | string =>
      cases left
      exact frame_pushString _ invocation
  | character =>
      cases left
      exact frame_pushCharacter _ invocation
  | loopStart =>
      cases left
      exact frame_enterLoop _ invocation
  | loopEnd =>
      cases left
      exact frame_repeatLoop _ invocation
  | leaveLoops =>
      exact frame_leaveLoops _ left
  | define =>
      exact frame_define left
  | load =>
      exact frame_load _ left
  | store =>
      simp only [perform] at left
      split at left
      · obtain ⟨bench, rfl | ⟨_, stored⟩⟩ := state?_working left
        · exact .withBench _ invocation bench
        · cases stored
          have worked := InstructionFrame.withBench (some .store) invocation bench
          exact { worked with backup := .inr rfl }
      · cases left
        unfold storeTop
        split <;> exact { same with backup := .inr rfl }
  | moveLeft =>
      cases left
      exact { same with tape := .inr (.inl ⟨rfl, rfl⟩) }
  | moveRight =>
      cases left
      exact { same with tape := .inr (.inr ⟨rfl, rfl⟩) }
  | terminate =>
      cases left
      exact { same with halt := .inr ⟨rfl, rfl⟩ }

/--
What a step leaves alone, where the cursor may go, and which opcodes at the cursor can
change what else.
-/
structure StepFrame (before after : Invocation) : Prop where
  code : after.code = before.code
  depth : after.depth = before.depth
  cursor : before.cursor ≤ before.code.length → after.cursor ≤ before.code.length
  tape :
    (∃ stack, after.tape = before.tape.withCurrent stack) ∨
      before.dispatched? = some .moveLeft ∧
        after.tape = before.tape.moveLeft ∨
      before.dispatched? = some .moveRight ∧
        after.tape = before.tape.moveRight
  backup : after.backup = before.backup ∨ before.dispatched? = some .store
  functions :
    after.functions = before.functions ∨
      before.dispatched? = some .define ∧
        ∃ name body,
          Defines before name body ∧
            after.functions = before.functions.bind name body
  halt :
    after.halt = before.halt ∨
      before.dispatched? = some .terminate ∧ after.halt = some .terminated ∨
      before.instruction? = none ∧ after.halt = some .finished

/-- Work on the bench stays inside the frame of a step. -/
theorem StepFrame.withBench
    (invocation : Invocation)
    (bench : Bench) :
    StepFrame invocation (invocation.withBench bench) where
  code := rfl
  depth := rfl
  cursor := id
  tape := .inl ⟨bench.stack, rfl⟩
  backup := .inl rfl
  functions := .inl rfl
  halt := .inl rfl

/-- An instruction stays inside its frame, whatever a called body does. -/
theorem frame_runInstruction
    {limit : Nat}
    {runBody : Invocation → Outcome Failure Invocation}
    {invocation after : Invocation}
    {instruction : Char}
    (present : invocation.instruction? = some instruction)
    (left :
      (runInstruction limit runBody invocation instruction).state? =
        some after) :
    InstructionFrame invocation.dispatched? invocation after := by
  have same : InstructionFrame invocation.dispatched? invocation invocation :=
    .withBench _ invocation invocation.bench
  unfold runInstruction at left
  split at left
  · -- a call gives back the invocation with another stack
    unfold call at left
    split at left
    · cases left
      exact same
    · split at left <;> cases left <;>
        exact { same with tape := .inl ⟨_, rfl⟩ }
  · rename_i unbound
    split at left
    · cases left
      exact same
    · rename_i nameless
      split at left
      · cases left
        exact same
      · rename_i opcode known
        rw [dispatched?_eq_some_iff.2
          ⟨instruction, present, unbound, nameless, known⟩]
        exact frame_perform left

/-- Noting an event before the instruction makes no difference to the frame. -/
theorem InstructionFrame.of_announcing
    {opcode : Option Opcode}
    {before after : Invocation}
    {instruction : Char}
    (kept : InstructionFrame opcode (before.announcing instruction) after) :
    InstructionFrame opcode before after where
  code := kept.code
  depth := kept.depth
  cursor := kept.cursor
  tape := kept.tape
  backup := kept.backup
  functions := by
    rcases kept.functions with same | ⟨known, name, body, defines, bound⟩
    · exact .inl same
    · exact .inr ⟨known, name, body,
        ⟨defines.named, defines.delimited, defines.withoutInput⟩, bound⟩
  halt := kept.halt

/-- An instruction inside the text keeps the frame of a step. -/
theorem InstructionFrame.toStepFrame
    {before after : Invocation}
    {instruction : Char}
    (kept : InstructionFrame before.dispatched? before after)
    (present : before.instruction? = some instruction) :
    StepFrame before after :=
  { kept with
    cursor := fun _ =>
      Nat.le_of_lt (kept.cursor (List.getElem?_eq_some_iff.1 present).1)
    halt := kept.halt.imp_right .inl }

/-- Moving on after an instruction inside the text keeps it as well. -/
theorem InstructionFrame.advance
    {before after : Invocation}
    {instruction : Char}
    (kept : InstructionFrame before.dispatched? before after)
    (present : before.instruction? = some instruction) :
    StepFrame before after.advance := by
  have stepped := kept.toStepFrame present
  have landed :=
    kept.cursor (List.getElem?_eq_some_iff.1 present).1
  unfold Invocation.advance
  split
  · exact stepped
  · exact { stepped with cursor := fun _ => landed }

/-- Every step stays inside its frame, whatever a called body does. -/
theorem frame_stepWith
    {limit : Nat}
    {runBody : Invocation → Outcome Failure Invocation}
    {invocation after : Invocation}
    (left : (stepWith limit runBody invocation).state? = some after) :
    StepFrame invocation after := by
  cases running : invocation.halt with
  | some halt =>
      simp only [stepWith, running] at left
      cases left
      exact .withBench invocation invocation.bench
  | none =>
      cases present : invocation.instruction? with
      | none =>
          rw [stepWith_of_ended limit runBody running present] at left
          obtain ⟨worked, output, finished⟩ := Outcome.state?_of_passOn left
          obtain ⟨bench, rfl⟩ := state?_doing output
          have kept := StepFrame.withBench invocation bench
          rcases finished with rfl | rfl
          · exact { kept with halt := .inr (.inr ⟨present, rfl⟩) }
          · exact kept
      | some instruction =>
          rw [stepWith_of_present limit runBody running present] at left
          obtain ⟨worked, ran, advanced⟩ := Outcome.state?_of_passOn left
          have kept :
              InstructionFrame invocation.dispatched? invocation worked :=
            (frame_runInstruction (by exact present) ran).of_announcing
          rcases advanced with rfl | rfl
          · exact kept.advance present
          · exact kept.toStepFrame present

end Invocation

end StackTape
