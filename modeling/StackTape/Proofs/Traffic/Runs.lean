import StackTape.Proofs.Reachability
import StackTape.Proofs.Traffic.Tasks

namespace StackTape

/-!
# The traffic of runs

What an invocation does depends on its channel only through the exchanges that it
makes, and not at all on its journal.  So every step and every run, calls included, has
traffic.  A call makes no exchange with the channel of its caller: the called function
exchanges with the caller's current stack.
-/

namespace Outcome

variable {ε σ : Type}

/-- Change the state that a computation leaves. -/
def mapState (change : σ → σ) : Outcome ε σ → Outcome ε σ
  | .done state =>
      .done (change state)
  | .failed error state =>
      .failed error (change state)
  | .unfinished =>
      .unfinished

end Outcome

namespace Opcode

/-- How many cells on the stack keep the instruction from turning to the input. -/
def demand (whole : Bool) : Opcode → Nat
  | .task known =>
      known.demand whole
  | .store =>
      if whole then 1 else 0
  | _ =>
      0

/-- Whether the instruction reads whatever is on the stack. -/
def isReader : Opcode → Bool
  | .task known =>
      known.isReader
  | _ =>
      false

/-- Whether the instruction writes. -/
def isWriter : Opcode → Bool
  | .task known =>
      known.isWriter
  | _ =>
      false

end Opcode

namespace Invocation

/-- The invocation with another channel and another journal. -/
def reconnected
    (invocation : Invocation)
    (channel : Channel)
    (journal : Journal) : Invocation :=
  { invocation with
    channel := channel
    journal := journal }

/-- The outcome of a computation, with another channel and another journal. -/
def reconnectedOutcome
    {ε : Type}
    (channel : Channel)
    (journal : Journal) :
    Outcome ε Invocation → Outcome ε Invocation :=
  Outcome.mapState fun invocation => invocation.reconnected channel journal

/--
The traffic of a computation on an invocation.  The invocation's channel makes the
exchanges, and with every channel that makes them as well, whatever else it may have to
say, and every journal the computation comes out the same.
-/
structure HasTraffic
    {ε : Type}
    (compute : Invocation → Outcome ε Invocation)
    (invocation : Invocation)
    (traffic : Traffic) : Prop where
  answered : ∃ final, invocation.channel.Answers traffic.exchanges final
  determined :
    ∀ {channel final : Channel} (journal : Journal),
      channel.Answers traffic.exchanges final →
      compute (invocation.reconnected channel journal) =
        reconnectedOutcome final (journal.noteAll traffic.events)
          (compute invocation)

/-- The computation has traffic, and all of its exchanges are allowed ones. -/
def KeepsTo
    {ε : Type}
    (allowed : Exchange → Prop)
    (compute : Invocation → Outcome ε Invocation)
    (invocation : Invocation) : Prop :=
  ∃ traffic,
    HasTraffic compute invocation traffic ∧
      ∀ exchange ∈ traffic.exchanges, allowed exchange

/-! ## Instructions beyond the bench -/

section

variable (invocation : Invocation)
variable (channel : Channel)
variable (journal : Journal)

@[simp] theorem reconnected_code :
    (invocation.reconnected channel journal).code = invocation.code :=
  rfl

@[simp] theorem reconnected_cursor :
    (invocation.reconnected channel journal).cursor = invocation.cursor :=
  rfl

@[simp] theorem reconnected_halt :
    (invocation.reconnected channel journal).halt = invocation.halt :=
  rfl

@[simp] theorem reconnected_stack :
    (invocation.reconnected channel journal).stack = invocation.stack :=
  rfl

@[simp] theorem reconnected_backup :
    (invocation.reconnected channel journal).backup = invocation.backup :=
  rfl

@[simp] theorem reconnected_functions :
    (invocation.reconnected channel journal).functions = invocation.functions :=
  rfl

@[simp] theorem reconnected_instruction? :
    (invocation.reconnected channel journal).instruction? =
      invocation.instruction? :=
  rfl

@[simp] theorem reconnected_isFunction :
    (invocation.reconnected channel journal).isFunction =
      invocation.isFunction :=
  rfl

@[simp] theorem reconnected_behindCursor :
    (invocation.reconnected channel journal).behindCursor =
      invocation.behindCursor :=
  rfl

@[simp] theorem reconnected_next? :
    (invocation.reconnected channel journal).next? = invocation.next? :=
  rfl

@[simp] theorem reconnected_previous? :
    (invocation.reconnected channel journal).previous? =
      invocation.previous? :=
  rfl

@[simp] theorem reconnected_partner?
    (opening closing : Char) :
    (invocation.reconnected channel journal).partner? opening closing =
      invocation.partner? opening closing :=
  rfl

@[simp] theorem reconnected_isTopTrue :
    (invocation.reconnected channel journal).isTopTrue =
      invocation.isTopTrue :=
  rfl

@[simp] theorem reconnected_withStack
    (stack : Stack) :
    (invocation.reconnected channel journal).withStack stack =
      (invocation.withStack stack).reconnected channel journal :=
  rfl

@[simp] theorem reconnected_withCursor
    (cursor : Nat) :
    (invocation.reconnected channel journal).withCursor cursor =
      (invocation.withCursor cursor).reconnected channel journal :=
  rfl

@[simp] theorem reconnected_pushSpelled
    (row : Text) :
    (invocation.reconnected channel journal).pushSpelled row =
      (invocation.pushSpelled row).reconnected channel journal := by
  unfold pushSpelled
  split <;> rfl

theorem reconnected_pushNumber :
    (invocation.reconnected channel journal).pushNumber =
      invocation.pushNumber.reconnected channel journal := by
  cases found : invocation.partner? '(' ')' <;>
    simp [pushNumber, found]

theorem reconnected_pushString :
    (invocation.reconnected channel journal).pushString =
      invocation.pushString.reconnected channel journal := by
  rcases read : Source.readString false invocation.behindCursor with
    ⟨characters, _ | offset⟩ <;>
    simp [pushString, read]

theorem reconnected_pushCharacter :
    (invocation.reconnected channel journal).pushCharacter =
      invocation.pushCharacter.reconnected channel journal := by
  cases following : invocation.next? <;>
    simp [pushCharacter, following]

theorem reconnected_enterLoop :
    (invocation.reconnected channel journal).enterLoop =
      invocation.enterLoop.reconnected channel journal := by
  cases found : invocation.partner? '[' ']' <;>
    by_cases isTrue : invocation.isTopTrue <;>
    simp [enterLoop, found, isTrue]

theorem reconnected_repeatLoop :
    (invocation.reconnected channel journal).repeatLoop =
      invocation.repeatLoop.reconnected channel journal := by
  cases found :
      Source.partnerBefore? '[' ']' invocation.code invocation.cursor <;>
    by_cases isTrue : invocation.isTopTrue <;>
    simp [repeatLoop, found, isTrue]

theorem reconnected_storeTop :
    (invocation.reconnected channel journal).storeTop =
      invocation.storeTop.reconnected channel journal := by
  unfold storeTop
  rw [reconnected_stack]
  cases invocation.stack.peek? <;> rfl

theorem reconnected_advance :
    (invocation.reconnected channel journal).advance =
      invocation.advance.reconnected channel journal := by
  by_cases halted : invocation.halt.isSome <;>
    simp [advance, halted]

end


variable {ε : Type}
variable {allowed : Exchange → Prop}

/-- A computation leaves the channel and the journal that its traffic leaves. -/
theorem HasTraffic.reconnected_of_state?
    {compute : Invocation → Outcome ε Invocation}
    {invocation after : Invocation}
    {traffic : Traffic}
    {final : Channel}
    (traffics : HasTraffic compute invocation traffic)
    (answers : invocation.channel.Answers traffic.exchanges final)
    (left : (compute invocation).state? = some after) :
    after.reconnected final (invocation.journal.noteAll traffic.events) =
      after := by
  have same := traffics.determined invocation.journal answers
  change compute invocation = _ at same
  cases outcome : compute invocation with
  | done state | failed error state =>
      rw [outcome] at same left
      cases left
      injection same
      rename_i states
      exact states.symm
  | unfinished =>
      rw [outcome] at left
      cases left

theorem HasTraffic.answers_of_state?
    {compute : Invocation → Outcome ε Invocation}
    {invocation after : Invocation}
    {traffic : Traffic}
    (traffics : HasTraffic compute invocation traffic)
    (left : (compute invocation).state? = some after) :
    invocation.channel.Answers traffic.exchanges after.channel := by
  obtain ⟨final, answers⟩ := traffics.answered
  rw [← traffics.reconnected_of_state? answers left]
  exact answers

/-- A computation that looks neither at the channel nor at the journal. -/
theorem HasTraffic.silent
    {compute : Invocation → Outcome ε Invocation}
    {invocation : Invocation}
    (blind :
      ∀ channel journal,
        compute (invocation.reconnected channel journal) =
          reconnectedOutcome channel journal (compute invocation)) :
    HasTraffic compute invocation .none where
  answered := ⟨_, .nothing⟩
  determined := by
    intro channel final journal answers
    cases answers
    exact blind channel journal

theorem KeepsTo.silent
    {compute : Invocation → Outcome ε Invocation}
    {invocation : Invocation}
    (blind :
      ∀ channel journal,
        compute (invocation.reconnected channel journal) =
          reconnectedOutcome channel journal (compute invocation)) :
    KeepsTo allowed compute invocation :=
  ⟨.none, .silent blind, fun _ member => nomatch member⟩

/-- A change of the invocation that looks neither at the channel nor at the journal. -/
theorem keepsTo_change
    (change : Invocation → Invocation)
    (blind :
      ∀ invocation channel journal,
        change (reconnected invocation channel journal) =
          (change invocation).reconnected channel journal)
    (invocation : Invocation) :
    KeepsTo allowed (ε := ε) (fun invocation => .done (change invocation))
      invocation :=
  .silent fun channel journal =>
    congrArg Outcome.done (blind invocation channel journal)

/--
A computation that first leads to another invocation, with traffic of its own, and then
goes on there.
-/
theorem HasTraffic.of_lead
    {compute next : Invocation → Outcome ε Invocation}
    {invocation middle : Invocation}
    {first second : Traffic}
    (same : compute invocation = next middle)
    (answers : invocation.channel.Answers first.exchanges middle.channel)
    (leads :
      ∀ {channel final : Channel} (journal : Journal),
        channel.Answers first.exchanges final →
        compute (invocation.reconnected channel journal) =
          next (middle.reconnected final (journal.noteAll first.events)))
    (onward : HasTraffic next middle second) :
    HasTraffic compute invocation (first.followedBy second) where
  answered := by
    obtain ⟨final, behind⟩ := onward.answered
    exact ⟨final, answers.append behind⟩
  determined := by
    intro channel final journal both
    obtain ⟨between, before, behind⟩ := both.exists_between
    rw [leads journal before, onward.determined _ behind, same,
      ← Journal.noteAll_append]
    rfl

theorem KeepsTo.of_lead
    {compute next : Invocation → Outcome ε Invocation}
    {invocation : Invocation}
    (first : Traffic)
    (middle : Invocation)
    (same : compute invocation = next middle)
    (answers : invocation.channel.Answers first.exchanges middle.channel)
    (leads :
      ∀ {channel final : Channel} (journal : Journal),
        channel.Answers first.exchanges final →
        compute (invocation.reconnected channel journal) =
          next (middle.reconnected final (journal.noteAll first.events)))
    (firstAllowed : ∀ exchange ∈ first.exchanges, allowed exchange)
    (nextKeeps : KeepsTo allowed next middle) :
    KeepsTo allowed compute invocation := by
  obtain ⟨second, onward, secondAllowed⟩ := nextKeeps
  refine ⟨first.followedBy second, .of_lead same answers leads onward, ?_⟩
  intro exchange member
  rcases List.mem_append.1 member with before | behind
  · exact firstAllowed exchange before
  · exact secondAllowed exchange behind

/-- Computations that agree, whatever the channel and the journal are. -/
theorem KeepsTo.congr
    {compute other : Invocation → Outcome ε Invocation}
    {invocation : Invocation}
    (keeps : KeepsTo allowed compute invocation)
    (same :
      ∀ channel journal,
        other (invocation.reconnected channel journal) =
          compute (invocation.reconnected channel journal)) :
    KeepsTo allowed other invocation := by
  obtain ⟨traffic, traffics, inside⟩ := keeps
  refine ⟨traffic, ⟨traffics.answered, ?_⟩, inside⟩
  intro channel final journal answers
  have own : other invocation = compute invocation :=
    same invocation.channel invocation.journal
  rw [same, own]
  exact traffics.determined journal answers

/-- A computation that passes the outcome of another one on. -/
theorem KeepsTo.passOn
    {δ : Type}
    {compute : Invocation → Outcome δ Invocation}
    {other : Invocation → Outcome ε Invocation}
    {invocation : Invocation}
    (keeps : KeepsTo allowed compute invocation)
    (finish : Invocation → Invocation)
    (report : δ → ε)
    (blind :
      ∀ invocation channel journal,
        finish (reconnected invocation channel journal) =
          (finish invocation).reconnected channel journal)
    (same :
      ∀ channel journal,
        other (invocation.reconnected channel journal) =
          (compute (invocation.reconnected channel journal)).passOn finish
            report) :
    KeepsTo allowed other invocation := by
  obtain ⟨traffic, traffics, inside⟩ := keeps
  refine ⟨traffic, ⟨traffics.answered, ?_⟩, inside⟩
  intro channel final journal answers
  have own : other invocation = (compute invocation).passOn finish report :=
    same invocation.channel invocation.journal
  rw [same, own, traffics.determined journal answers]
  cases compute invocation with
  | done after =>
      exact congrArg Outcome.done (blind after _ _)
  | failed | unfinished =>
      rfl

/-- Work on the bench, and what is done with its result. -/
theorem keepsTo_working
    {α : Type}
    {work : Work α}
    {goOn : α → Invocation → Outcome Fault Invocation}
    {invocation : Invocation}
    (workKeeps : Work.KeepsTo allowed work invocation.bench)
    (onward : ∀ result after, KeepsTo allowed (goOn result) after) :
    KeepsTo allowed (fun invocation => invocation.working work goOn)
      invocation := by
  obtain ⟨traffic, traffics, inside⟩ := workKeeps
  cases worked : work invocation.bench with
  | ok result bench =>
      refine .of_lead traffic (invocation.withBench bench)
        (working_of_ok worked) (traffics.channel_of_ok worked) ?_ inside
        (onward result _)
      intro channel final journal answers
      have again :
          work (invocation.reconnected channel journal).bench =
            .ok result
              (bench.reconnected final (journal.noteAll traffic.events)) := by
        rw [← Work.reconnected, ← worked]
        exact traffics.determined journal answers
      exact working_of_ok again
  | error fault bench =>
      refine ⟨traffic, ⟨traffics.answered, ?_⟩, inside⟩
      intro channel final journal answers
      have again :
          work (invocation.reconnected channel journal).bench =
            .error fault
              (bench.reconnected final (journal.noteAll traffic.events)) := by
        rw [← Work.reconnected, ← worked]
        exact traffics.determined journal answers
      rw [working_of_error worked]
      exact working_of_error again

theorem keepsTo_doing
    {work : Work Unit}
    {invocation : Invocation}
    (workKeeps : Work.KeepsTo allowed work invocation.bench) :
    KeepsTo allowed (fun invocation => invocation.doing work) invocation :=
  keepsTo_working workKeeps fun _ _ => .silent fun _ _ => rfl

/-- Taking a number of loops off the stack. -/
theorem keepsTo_takeCount
    (bench : Bench) :
    Work.KeepsTo allowed
      (do Work.ofExcept (← Work.takeTop).clampedInteger) bench :=
  (Work.keepsTo_takeTop bench).bind fun {cell after} _ =>
    Work.keepsTo_ofExcept (Cell.ownOnly_clampedInteger cell) after

theorem keepsTo_leaveLoops
    (invocation : Invocation) :
    KeepsTo allowed leaveLoops invocation :=
  keepsTo_working (keepsTo_takeCount _) fun count after =>
    keepsTo_change
      (fun after =>
        after.withCursor (cursorOutside after.code count.toNat after.cursor))
      (fun _ _ _ => rfl) after

theorem keepsTo_define
    (invocation : Invocation) :
    KeepsTo allowed define invocation := by
  cases found : invocation.partner? '\x7b' '\x7d' with
  | none =>
      refine .silent fun channel journal => ?_
      simp [define, found, reconnectedOutcome, Outcome.mapState]
  | some close =>
      by_cases withInput :
          'i' ∈ invocation.behindCursor.take (close - (invocation.cursor + 1))
      · refine .silent fun channel journal => ?_
        simp [define, found, withInput, reconnectedOutcome, Outcome.mapState]
      · cases named : invocation.previous? with
        | none =>
            refine .silent fun channel journal => ?_
            simp [define, found, withInput, named, reconnectedOutcome,
              Outcome.mapState]
        | some name =>
            refine ⟨⟨[], [.defined name]⟩, ⟨⟨_, .nothing⟩, ?_⟩, by simp⟩
            intro channel final journal answers
            cases answers
            simp [define, found, withInput, named, reconnectedOutcome,
              Outcome.mapState]
            rfl

theorem keepsTo_load
    (invocation : Invocation) :
    KeepsTo allowed load invocation := by
  refine .silent fun channel journal => ?_
  cases kept : invocation.backup <;>
    simp [load, kept, reconnectedOutcome, Outcome.mapState]

/-- Looking at the whole stack, or at what is read for want of one. -/
theorem keepsTo_wholeStack
    {bench : Bench}
    (mayRead : bench.stack.length < 1 → Work.MayRead allowed) :
    Work.KeepsTo allowed
      (do
        Work.readIfEmpty
        return (← Work.stack).toList)
      bench :=
  Work.keepsTo_afterReading mayRead fun after =>
    (Work.keepsTo_stack after).bind fun {_ final} _ =>
      Work.keepsTo_pure _ final

theorem keepsTo_storeAll
    {invocation : Invocation}
    (mayRead : invocation.stack.length < 1 → Work.MayRead allowed) :
    KeepsTo allowed storeAll invocation :=
  keepsTo_working (keepsTo_wholeStack mayRead) fun cells after =>
    keepsTo_change
      (fun after => { after with backup := .column cells })
      (fun _ _ _ => rfl) after

/-- An instruction exchanges with the channel only what it may. -/
theorem keepsTo_perform
    (whole : Bool)
    (opcode : Opcode)
    {invocation : Invocation}
    (mayRead :
      opcode.isReader = true ∨
          invocation.stack.length < opcode.demand whole →
        Work.MayRead allowed)
    (mayWrite : opcode.isWriter = true → Work.MayWrite allowed) :
    KeepsTo allowed (fun invocation => invocation.perform whole opcode)
      invocation := by
  cases opcode with
  | task task =>
      exact keepsTo_doing (Work.keepsTo_perform whole task mayRead mayWrite)
  | number =>
      exact keepsTo_change pushNumber reconnected_pushNumber invocation
  | string =>
      exact keepsTo_change pushString reconnected_pushString invocation
  | character =>
      exact keepsTo_change pushCharacter reconnected_pushCharacter invocation
  | loopStart =>
      exact keepsTo_change enterLoop reconnected_enterLoop invocation
  | loopEnd =>
      exact keepsTo_change repeatLoop reconnected_repeatLoop invocation
  | leaveLoops =>
      exact keepsTo_leaveLoops invocation
  | define =>
      exact keepsTo_define invocation
  | load =>
      exact keepsTo_load invocation
  | store =>
      cases whole with
      | true =>
          exact keepsTo_storeAll fun few => mayRead (.inr few)
      | false =>
          exact keepsTo_change storeTop reconnected_storeTop invocation
  | moveLeft | moveRight | terminate =>
      exact .silent fun _ _ => rfl

/-! ## Calls, steps and runs -/

/-- Runs of function bodies that have traffic. -/
def HaveTraffic (runBody : Invocation → Outcome Failure Invocation) : Prop :=
  ∀ callee, ∃ traffic, HasTraffic runBody callee traffic

/-- A call makes no exchange with the channel of the invocation that calls. -/
theorem keepsTo_call
    (limit : Nat)
    {runBody : Invocation → Outcome Failure Invocation}
    (bodies : HaveTraffic runBody)
    (name : Char)
    (body : Text)
    (invocation : Invocation) :
    KeepsTo allowed
      (fun invocation => call limit runBody invocation name body)
      invocation := by
  by_cases deep : limit ≤ invocation.depth
  · refine .silent fun channel journal => ?_
    have alsoDeep : limit ≤ (invocation.reconnected channel journal).depth := deep
    simp [call, deep, alsoDeep, reconnectedOutcome, Outcome.mapState]
  · obtain ⟨traffic, traffics⟩ := bodies (invocation.enter body)
    obtain ⟨final, answers⟩ := traffics.answered
    refine ⟨⟨[], traffic.events⟩, ⟨⟨_, .nothing⟩, ?_⟩, by simp⟩
    intro channel other journal nothing
    cases nothing
    have alsoShallow :
        ¬ limit ≤ (invocation.reconnected channel journal).depth :=
      deep
    have again :
        runBody ((invocation.reconnected channel journal).enter body) =
          reconnectedOutcome final (journal.noteAll traffic.events)
            (runBody (invocation.enter body)) :=
      traffics.determined journal answers
    have given
        {callee : Invocation}
        (ran : (runBody (invocation.enter body)).state? = some callee) :
        (invocation.reconnected channel journal).leave
            (callee.reconnected final (journal.noteAll traffic.events)) =
          (invocation.leave callee).reconnected channel
            (journal.noteAll traffic.events) := by
      rw [← (traffics.answers_of_state? ran).unique answers]
      rfl
    unfold call
    rw [if_neg deep, if_neg alsoShallow, again]
    cases ran : runBody (invocation.enter body) with
    | done callee =>
        exact congrArg Outcome.done (given (by rw [ran]; rfl))
    | failed failure callee =>
        exact congrArg (Outcome.failed _) (given (by rw [ran]; rfl))
    | unfinished =>
        rfl

/-- Whether the step turns to the input, for what it reads or for want of cells. -/
def TurnsToInput (invocation : Invocation) : Prop :=
  ∃ opcode,
    invocation.dispatched? = some opcode ∧
      (opcode.isReader = true ∨
        invocation.stack.length <
          opcode.demand (invocation.previous? == some '&'))

/-- Whether the step turns to the output, as an instruction or at the end of the text. -/
def TurnsToOutput (invocation : Invocation) : Prop :=
  invocation.instruction? = none ∨
    ∃ opcode, invocation.dispatched? = some opcode ∧ opcode.isWriter = true

theorem keepsTo_runInstruction
    (limit : Nat)
    {runBody : Invocation → Outcome Failure Invocation}
    (bodies : HaveTraffic runBody)
    {instruction : Char}
    {invocation : Invocation}
    (present : invocation.instruction? = some instruction)
    (mayRead : invocation.TurnsToInput → Work.MayRead allowed)
    (mayWrite : invocation.TurnsToOutput → Work.MayWrite allowed) :
    KeepsTo allowed
      (fun invocation => runInstruction limit runBody invocation instruction)
      invocation := by
  cases bound : invocation.functions.find? instruction with
  | some body =>
      refine (keepsTo_call limit bodies instruction body invocation).congr ?_
      intro channel journal
      simp [runInstruction, bound]
  | none =>
      by_cases names : invocation.next? = some '\x7b'
      · refine .silent fun channel journal => ?_
        simp [runInstruction, bound, names, reconnectedOutcome, Outcome.mapState]
      · cases known : Opcode.ofChar? instruction with
        | none =>
            refine .silent fun channel journal => ?_
            simp [runInstruction, bound, names, known, reconnectedOutcome,
              Outcome.mapState]
        | some opcode =>
            have dispatched : invocation.dispatched? = some opcode :=
              dispatched?_eq_some_iff.2 ⟨instruction, present, bound, names, known⟩
            refine (keepsTo_perform (invocation.previous? == some '&') opcode
              (fun wanted => mayRead ⟨opcode, dispatched, wanted⟩)
              fun writes => mayWrite (.inr ⟨opcode, dispatched, writes⟩)).congr ?_
            intro channel journal
            simp [runInstruction, bound, names, known]

theorem keepsTo_outputStack
    (mayWrite : Work.MayWrite allowed)
    (isFunction : Bool)
    (bench : Bench) :
    Work.KeepsTo allowed (outputStack isFunction) bench := by
  have listed (cells : List Cell) (bench : Bench) :
      Work.KeepsTo allowed
        (cells.forM fun cell => Work.emit (.number cell)) bench := by
    induction cells generalizing bench with
    | nil =>
        exact Work.keepsTo_pure _ bench
    | cons cell rest inductionHypothesis =>
        exact (Work.keepsTo_emit mayWrite _ bench).bind fun {_ after} _ =>
          inductionHypothesis after
  exact (Work.keepsTo_note _ bench).bind fun {_ after} _ =>
    (Work.keepsTo_stack after).bind fun {_ final} _ =>
      Work.keepsTo_ite (fun _ => listed _ final) fun _ =>
        Work.keepsTo_emit mayWrite _ final

/-- A step exchanges with the channel only what it may, calls included. -/
theorem keepsTo_stepWith
    (limit : Nat)
    {runBody : Invocation → Outcome Failure Invocation}
    (bodies : HaveTraffic runBody)
    {invocation : Invocation}
    (mayRead : invocation.TurnsToInput → Work.MayRead allowed)
    (mayWrite : invocation.TurnsToOutput → Work.MayWrite allowed) :
    KeepsTo allowed (stepWith limit runBody) invocation := by
  cases running : invocation.halt with
  | some halt =>
      refine .silent fun channel journal => ?_
      simp [stepWith, running, reconnectedOutcome, Outcome.mapState]
  | none =>
    cases present : invocation.instruction? with
    | none =>
        have output :=
          keepsTo_doing (keepsTo_outputStack (mayWrite (.inl present))
            invocation.isFunction invocation.bench)
        refine output.passOn
          (fun after => { after with halt := some .finished })
          (fun fault => ⟨invocation.cursor, none, fault⟩)
          (fun _ _ _ => rfl) fun channel journal => ?_
        exact stepWith_of_ended limit runBody
          ((reconnected_halt _ _ _).trans running)
          ((reconnected_instruction? _ _ _).trans present)
    | some instruction =>
        have announced :
            KeepsTo allowed
              (fun invocation =>
                runInstruction limit runBody (invocation.announcing instruction)
                  instruction)
              invocation := by
          refine .of_lead ⟨[], [.performing (invocation.scene instruction)]⟩
            (invocation.announcing instruction) rfl .nothing ?_ (by simp)
            (keepsTo_runInstruction limit bodies present mayRead mayWrite)
          intro channel final journal nothing
          cases nothing
          rfl
        refine announced.passOn advance
          (fun fault => ⟨invocation.cursor, some instruction, fault⟩)
          reconnected_advance fun channel journal => ?_
        exact stepWith_of_present limit runBody
          ((reconnected_halt _ _ _).trans running)
          ((reconnected_instruction? _ _ _).trans present)

/-- The traffic of a run is that of its first step and then that of the rest. -/
theorem HasTraffic.run_succ
    {limit budget : Nat}
    {invocation after : Invocation}
    {first second : Traffic}
    (stepTraffics : HasTraffic (step limit budget) invocation first)
    (running : invocation.halt = none)
    (stepped : invocation.step limit budget = .done after)
    (onward : HasTraffic (run limit budget) after second) :
    HasTraffic (run limit (budget + 1)) invocation
      (first.followedBy second) := by
  refine .of_lead ?_ (stepTraffics.answers_of_state? (by rw [stepped]; rfl))
    ?_ onward
  · rw [step] at stepped
    simp [run, running, stepped]
  · intro channel final journal answers
    have again := stepTraffics.determined journal answers
    rw [stepped, step] at again
    simp [run, running, again, reconnectedOutcome, Outcome.mapState]

/-- A run that does not get behind its first step has the traffic of that step. -/
theorem HasTraffic.run_of_stopped
    {limit budget : Nat}
    {invocation : Invocation}
    {traffic : Traffic}
    (stepTraffics : HasTraffic (step limit budget) invocation traffic)
    (running : invocation.halt = none)
    (stopped : ∀ after, invocation.step limit budget ≠ .done after) :
    HasTraffic (run limit (budget + 1)) invocation traffic where
  answered := stepTraffics.answered
  determined := by
    intro channel final journal answers
    have again := stepTraffics.determined journal answers
    cases stepped : invocation.step limit budget with
    | done after =>
        exact absurd stepped (stopped after)
    | failed | unfinished =>
        rw [stepped, step] at again
        rw [step] at stepped
        simp [run, running, stepped, again, reconnectedOutcome, Outcome.mapState]

/-- A stopped invocation has no traffic any more. -/
theorem hasTraffic_run_of_halted
    (limit budget : Nat)
    {invocation : Invocation}
    (halted : invocation.halt.isSome = true) :
    HasTraffic (run limit budget) invocation .none := by
  refine .silent fun channel journal => ?_
  rw [run_of_halted limit budget halted,
    run_of_halted limit budget (by exact halted)]
  rfl

/-- Every run has traffic. -/
theorem haveTraffic_run
    (limit budget : Nat) :
    HaveTraffic (run limit budget) := by
  induction budget with
  | zero =>
      intro invocation
      refine ⟨.none, .silent fun channel journal => ?_⟩
      by_cases halted : invocation.halt.isSome = true <;>
        simp [run, halted, reconnectedOutcome, Outcome.mapState]
  | succ budget inductionHypothesis =>
      intro invocation
      cases running : invocation.halt with
      | some halt =>
          exact ⟨.none,
            hasTraffic_run_of_halted limit (budget + 1) (by rw [running]; rfl)⟩
      | none =>
          -- which exchanges the step may make does not matter here
          obtain ⟨traffic, stepTraffics, -⟩ :
              KeepsTo (fun _ => True) (step limit budget) invocation :=
            keepsTo_stepWith limit inductionHypothesis (fun _ _ => trivial)
              fun _ _ => ⟨trivial, trivial⟩
          cases stepped : invocation.step limit budget with
          | done after =>
              obtain ⟨others, onward⟩ := inductionHypothesis after
              exact ⟨_, stepTraffics.run_succ running stepped onward⟩
          | failed | unfinished =>
              exact ⟨traffic, stepTraffics.run_of_stopped running (by simp [stepped])⟩

/-- So have any number of steps. -/
theorem exists_traffic_of_steps
    (limit budget count : Nat)
    (invocation : Invocation) :
    ∃ traffic, HasTraffic (steps limit budget count) invocation traffic := by
  induction count generalizing invocation with
  | zero =>
      exact ⟨.none, .silent fun _ _ => rfl⟩
  | succ count inductionHypothesis =>
      cases running : invocation.halt with
      | some halt =>
          refine ⟨.none, .silent fun channel journal => ?_⟩
          simp [steps, running, reconnectedOutcome, Outcome.mapState]
      | none =>
          obtain ⟨traffic, stepTraffics, -⟩ :
              KeepsTo (fun _ => True) (step limit budget) invocation :=
            keepsTo_stepWith limit (haveTraffic_run limit budget) (fun _ _ => trivial)
              fun _ _ => ⟨trivial, trivial⟩
          cases stepped : invocation.step limit budget with
          | done after =>
              obtain ⟨others, onward⟩ := inductionHypothesis after
              refine ⟨traffic.followedBy others, .of_lead ?_
                (stepTraffics.answers_of_state? (by rw [stepped]; rfl)) ?_ onward⟩
              · simp [steps, running, stepped]
              · intro channel final journal answers
                have again := stepTraffics.determined journal answers
                rw [stepped] at again
                simp [steps, running, again, reconnectedOutcome, Outcome.mapState]
          | failed | unfinished =>
              refine ⟨traffic, stepTraffics.answered, ?_⟩
              intro channel final journal answers
              have again := stepTraffics.determined journal answers
              rw [stepped] at again
              simp [steps, running, stepped, again, reconnectedOutcome,
                Outcome.mapState]

end Invocation

end StackTape
