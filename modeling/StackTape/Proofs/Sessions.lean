import StackTape.CommandLine.Session
import StackTape.Proofs.Frame
import StackTape.Proofs.Prompts

namespace StackTape

/-!
# Sessions

A session makes its program's steps one after the other, with prompts between them or
without.  Where the program leaves standard input alone, a prompt uses up one line of it
and changes nothing of the program.  So the steps are those of the program by itself, and
it matters only how many prompts find a line.
-/

/-! ## Counted steps -/

namespace Invocation

/-- So many steps, all of which succeed, lead from the one state to the other. -/
inductive MakesSteps (limit : Nat) : Nat → Invocation → Invocation → Prop where
  | none
      {invocation : Invocation} :
      MakesSteps limit 0 invocation invocation
  | step
      {count : Nat}
      {before next final : Invocation}
      (running : before.halt = .none)
      (budget : Nat)
      (stepped : before.step limit budget = .done next)
      (onward : MakesSteps limit count next final) :
      MakesSteps limit (count + 1) before final

/-- A step that came to its end comes to the same end with every greater budget. -/
theorem step_of_le
    {limit budget larger : Nat}
    {invocation : Invocation}
    {outcome : Outcome Failure Invocation}
    (stepped : invocation.step limit budget = outcome)
    (finished : outcome ≠ .unfinished)
    (greater : budget ≤ larger) :
    invocation.step limit larger = outcome := by
  subst stepped
  exact stepWith_of_finished
    (fun _ bodyFinished => run_eq_of_finished limit bodyFinished greater) finished

/-- The last of some steps. -/
theorem MakesSteps.exists_last
    {limit count : Nat}
    {invocation final : Invocation}
    (makes : MakesSteps limit (count + 1) invocation final) :
    ∃ before budget,
      MakesSteps limit count invocation before ∧
        before.halt = .none ∧
        before.step limit budget = .done final := by
  induction count generalizing invocation with
  | zero =>
      cases makes with
      | step running budget stepped onward =>
          cases onward
          exact ⟨invocation, budget, .none, running, stepped⟩
  | succ count inductionHypothesis =>
      cases makes with
      | step running budget stepped onward =>
          obtain ⟨before, lastBudget, makes, lastRunning, last⟩ :=
            inductionHypothesis onward
          exact ⟨before, lastBudget, .step running budget stepped makes, lastRunning, last⟩

end Invocation

/-! ## Programs that leave standard input alone -/

namespace LineSource

/-- Whether the lines are cut from bytes, as those of standard input are. -/
def isBytes : LineSource → Bool
  | .bytes _ =>
      true
  | .exhausted | .emptyLines | .lines _ =>
      false

theorem isBytes_read
    (source : LineSource) :
    source.read.2.isBytes = source.isBytes := by
  cases source with
  | exhausted | emptyLines =>
      rfl
  | lines pending =>
      cases pending <;> rfl
  | bytes pending =>
      cases pending with
      | nil =>
          rfl
      | cons first rest =>
          simp only [read]
          split <;> rfl

end LineSource

namespace Channel

/-- A console that writes plainly and does not read standard input. -/
def IsApart (channel : Channel) : Prop :=
  ∃ source device,
    channel = .console source (.plain device) ∧ source.isBytes = false

/-- Exchanges leave it one. -/
theorem Answers.isApart
    {channel final : Channel}
    {exchanges : List Exchange}
    (answers : channel.Answers exchanges final)
    (apart : channel.IsApart) :
    final.IsApart := by
  induction answers with
  | nothing =>
      exact apart
  | read given _ inductionHypothesis =>
      obtain ⟨source, device, rfl, noBytes⟩ := apart
      cases given
      exact inductionHypothesis
        ⟨source.read.2, device, rfl, source.isBytes_read.trans noBytes⟩
  | taken given _ inductionHypothesis | refused given _ inductionHypothesis =>
      obtain ⟨source, device, rfl, noBytes⟩ := apart
      simp only [Channel.emit, Sink.emit] at given
      split at given <;> cases given
      rename_i emitted _
      split at emitted <;> cases emitted
      exact inductionHypothesis ⟨source, _, rfl, noBytes⟩

end Channel

/-- So do steps. -/
theorem Invocation.isApart_of_step
    {limit budget : Nat}
    {before after : Invocation}
    (left : (before.step limit budget).state? = some after)
    (apart : before.channel.IsApart) :
    after.channel.IsApart := by
  obtain ⟨traffic, traffics, -⟩ := exists_traffic_of_step limit budget before
  exact (traffics.answers_of_state? left).isApart apart

theorem Invocation.MakesSteps.isApart
    {limit count : Nat}
    {invocation final : Invocation}
    (makes : MakesSteps limit count invocation final)
    (apart : invocation.channel.IsApart) :
    final.channel.IsApart := by
  induction makes with
  | none =>
      exact apart
  | step _ budget stepped _ inductionHypothesis =>
      exact inductionHypothesis (isApart_of_step (by rw [stepped]; rfl) apart)

/-! ## Sessions -/

namespace CommandLine

namespace Session

/-- How many steps a session begins to make before it ends. -/
def stepsBegun : Nat → Session → Nat
  | 0, _ =>
      0
  | budget + 1, session =>
      (if session.invocation.halt.isSome then 0 else 1) +
        match session.advance budget with
        | (after, none) =>
            stepsBegun budget after
        | (_, some _) =>
            0

/-- A session whose prompts will be answered so often, if there are any. -/
structure Ready
    (count : Nat)
    (session : Session) : Prop where
  apart : session.invocation.channel.IsApart
  prompts : session.options.slow = true → session.input.HoldsLines count

namespace Ready

variable {count budget : Nat}
variable {session : Session}
variable {after : Invocation}

/-- Without prompts, no answers are needed. -/
theorem of_swift
    (ready : Ready count session)
    (swift : session.options.slow = false)
    (other : Nat) :
    Ready other session where
  apart := ready.apart
  prompts := by
    intro slow
    rw [swift] at slow
    cases slow

/-- The program makes its step as if there were no session. -/
theorem offerInput_eq
    (ready : Ready count session) :
    session.offerInput = session.invocation := by
  obtain ⟨source, device, channel, noBytes⟩ := ready.apart
  unfold offerInput
  split
  · rename_i given
    rw [channel] at given
    cases given
    cases noBytes
  · rfl

/-- It uses nothing of standard input up. -/
theorem inputAfter_eq
    (ready : Ready count session)
    (left : (session.invocation.step Interpreter.usualLimit budget).state? = some after) :
    session.inputAfter after = session.input := by
  obtain ⟨source, device, channel, noBytes⟩ :=
    Invocation.isApart_of_step left ready.apart
  unfold inputAfter
  split
  · rename_i given
    rw [channel] at given
    cases given
    cases noBytes
  · rfl

theorem act_of_done
    (ready : Ready count session)
    (running : session.invocation.halt = none)
    (stepped :
      session.invocation.step Interpreter.usualLimit budget = .done after) :
    session.act budget = ({ session with invocation := after }, none) := by
  have input := ready.inputAfter_eq (by rw [stepped]; rfl)
  simp only [act, running, Option.isSome_none, Bool.false_eq_true, reduceIte,
    ready.offerInput_eq, stepped, input]

theorem advance_of_failed
    {failure : Failure}
    (ready : Ready count session)
    (running : session.invocation.halt = none)
    (stepped :
      session.invocation.step Interpreter.usualLimit budget = .failed failure after) :
    session.advance budget =
      ({ session with invocation := after }, some (.failed failure)) := by
  have input := ready.inputAfter_eq (by rw [stepped]; rfl)
  simp only [advance, act, running, Option.isSome_none, Bool.false_eq_true, reduceIte,
    ready.offerInput_eq, stepped, input]

/-- A step that succeeds leads on, and uses up at most one answer. -/
theorem exists_advance
    (ready : Ready (count + 1) session)
    (running : session.invocation.halt = none)
    (stepped :
      session.invocation.step Interpreter.usualLimit budget = .done after) :
    ∃ onward : Session,
      onward.invocation = after ∧
        onward.options = session.options ∧
        Ready count onward ∧
        ∀ larger, budget ≤ larger → session.advance larger = (onward, none) := by
  have apart := Invocation.isApart_of_step (by rw [stepped]; rfl) ready.apart
  have acted (larger : Nat) (greater : budget ≤ larger) :=
    ready.act_of_done running (Invocation.step_of_le stepped nofun greater)
  cases speed : session.options.slow with
  | false =>
      refine ⟨{ session with invocation := after }, rfl, rfl, ⟨apart, ?_⟩, ?_⟩
      · intro slow
        simp [speed] at slow
      · intro larger greater
        simp [advance, acted larger greater, speed]
  | true =>
      obtain ⟨input, answered, holds⟩ := (ready.prompts speed).answered
      refine ⟨{ session with invocation := after, input := input }, rfl, rfl,
        ⟨apart, fun _ => holds⟩, ?_⟩
      intro larger greater
      simp [advance, acted larger greater, speed, prompt, answered]

/-- Without an answer left, the session ends behind the step. -/
theorem exists_advance_of_closed
    (ready : Ready 0 session)
    (slow : session.options.slow = true)
    (running : session.invocation.halt = none)
    (stepped :
      session.invocation.step Interpreter.usualLimit budget = .done after) :
    ∃ final : Session,
      final.invocation = after ∧
        final.options = session.options ∧
        ∀ larger, budget ≤ larger →
          session.advance larger = (final, some .closed) := by
  obtain ⟨input, closed⟩ := (ready.prompts slow).closed
  refine ⟨{ session with invocation := after, input := input }, rfl, rfl, ?_⟩
  intro larger greater
  have acted := ready.act_of_done running (Invocation.step_of_le stepped nofun greater)
  simp [advance, acted, slow, prompt, closed]

end Ready

/-! ## Runs of sessions -/

section

variable {budget : Nat}
variable {session : Session}

theorem run_of_advance
    {onward : Session}
    (running : session.invocation.halt = none)
    (advanced : session.advance budget = (onward, none)) :
    session.run (budget + 1) = onward.run budget ∧
      session.stepsBegun (budget + 1) = onward.stepsBegun budget + 1 := by
  constructor
  · rw [run, advanced]
  · simp [stepsBegun, running, advanced, Nat.add_comm]

theorem run_of_ended
    {final : Session}
    {ending : Ending}
    (running : session.invocation.halt = none)
    (ended : session.advance budget = (final, some ending)) :
    session.run (budget + 1) = (final, ending) ∧
      session.stepsBegun (budget + 1) = 1 := by
  constructor
  · rw [run, ended]
  · simp [stepsBegun, running, ended]

/-- A session whose program has stopped ends without a step. -/
theorem run_of_halted
    (halted : session.invocation.halt.isSome = true)
    (budget : Nat) :
    session.run (budget + 1) = (session, .completed) ∧
      session.stepsBegun (budget + 1) = 0 := by
  have ended (budget : Nat) : session.advance budget = (session, some .completed) := by
    simp [advance, act, halted]
  constructor
  · rw [run, ended]
  · simp [stepsBegun, halted, ended]

/--
The session ends like this, with the invocation in this state, after it has begun so many
steps; every budget that is great enough shows that.
-/
def Ends
    (session : Session)
    (count : Nat)
    (final : Invocation)
    (ending : Ending) : Prop :=
  ∃ last : Session,
    last.invocation = final ∧
      last.options = session.options ∧
      ∃ enough, ∀ budget, enough ≤ budget →
        session.run budget = (last, ending) ∧ session.stepsBegun budget = count

/-- A session ends as the one that its first step leads to. -/
theorem Ends.of_advance
    {onward : Session}
    {stepBudget count : Nat}
    {final : Invocation}
    {ending : Ending}
    (running : session.invocation.halt = none)
    (options : onward.options = session.options)
    (advanced :
      ∀ budget, stepBudget ≤ budget → session.advance budget = (onward, none))
    (ends : onward.Ends count final ending) :
    session.Ends (count + 1) final ending := by
  obtain ⟨last, reached, kept, enough, ran⟩ := ends
  refine ⟨last, reached, kept.trans options, max enough stepBudget + 1, ?_⟩
  intro budget greater
  obtain ⟨budget, rfl⟩ : ∃ smaller, budget = smaller + 1 := ⟨budget - 1, by omega⟩
  obtain ⟨run, counted⟩ := run_of_advance running (advanced budget (by omega))
  obtain ⟨onwardRun, onwardCounted⟩ := ran budget (by omega)
  exact ⟨run.trans onwardRun, by rw [counted, onwardCounted]⟩

/-- Its first step may be its last one. -/
theorem Ends.of_ended
    {last : Session}
    {stepBudget : Nat}
    {ending : Ending}
    (running : session.invocation.halt = none)
    (options : last.options = session.options)
    (ended :
      ∀ budget, stepBudget ≤ budget → session.advance budget = (last, some ending)) :
    session.Ends 1 last.invocation ending := by
  refine ⟨last, rfl, options, stepBudget + 1, fun budget greater => ?_⟩
  obtain ⟨budget, rfl⟩ : ∃ smaller, budget = smaller + 1 := ⟨budget - 1, by omega⟩
  exact run_of_ended running (ended budget (by omega))

/-- A program that has stopped begins no step. -/
theorem Ends.of_halted
    (halted : session.invocation.halt.isSome = true) :
    session.Ends 0 session.invocation .completed := by
  refine ⟨session, rfl, rfl, 1, fun budget greater => ?_⟩
  obtain ⟨budget, rfl⟩ : ∃ smaller, budget = smaller + 1 := ⟨budget - 1, by omega⟩
  exact run_of_halted halted budget

/--
Steps that are all answered lead to a session that is still going on; the first one ends
as that one does.
-/
theorem Ready.exists_onward
    {spare count : Nat}
    {final : Invocation}
    (ready : Ready (spare + count) session)
    (makes :
      Invocation.MakesSteps Interpreter.usualLimit count session.invocation final) :
    ∃ onward : Session,
      onward.invocation = final ∧
        onward.options = session.options ∧
        Ready spare onward ∧
        ∀ {later : Nat} {reached : Invocation} {ending : Ending},
          onward.Ends later reached ending →
          session.Ends (later + count) reached ending := by
  induction count generalizing session with
  | zero =>
      cases makes
      exact ⟨session, rfl, rfl, ready, id⟩
  | succ count inductionHypothesis =>
      cases makes with
      | step running stepBudget stepped later =>
          obtain ⟨next, rfl, nextOptions, nextReady, advanced⟩ :=
            ready.exists_advance running stepped
          obtain ⟨onward, reached, options, onwardReady, ends⟩ :=
            inductionHypothesis nextReady later
          exact ⟨onward, reached, options.trans nextOptions, onwardReady,
            fun onwardEnds => (ends onwardEnds).of_advance running nextOptions advanced⟩

/-- With an answer for every step, a session comes to the halt. -/
theorem Ready.ends_of_halted
    {answers count : Nat}
    {final : Invocation}
    (ready : Ready answers session)
    (enough : count ≤ answers)
    (makes :
      Invocation.MakesSteps Interpreter.usualLimit count session.invocation final)
    (halted : final.halt.isSome = true) :
    session.Ends count final .completed := by
  obtain ⟨spare, rfl⟩ := Nat.exists_eq_add_of_le' enough
  obtain ⟨onward, rfl, -, -, ends⟩ := ready.exists_onward makes
  have ended := ends (.of_halted halted)
  rwa [Nat.zero_add] at ended

/-- No answer is needed for a step that fails. -/
theorem Ready.ends_of_failed
    {answers count : Nat}
    {before after : Invocation}
    {failure : Failure}
    (ready : Ready answers session)
    (enough : count ≤ answers)
    (makes :
      Invocation.MakesSteps Interpreter.usualLimit count session.invocation before)
    (running : before.halt = none)
    (failed : before.step Interpreter.usualLimit budget = .failed failure after) :
    session.Ends (count + 1) after (.failed failure) := by
  obtain ⟨spare, rfl⟩ := Nat.exists_eq_add_of_le' enough
  obtain ⟨onward, rfl, -, onwardReady, ends⟩ := ready.exists_onward makes
  have last (larger : Nat) (greater : budget ≤ larger) :=
    onwardReady.advance_of_failed running
      (Invocation.step_of_le failed nofun greater)
  rw [Nat.add_comm]
  exact ends (.of_ended running (by rfl) last)

/-- The step that finds no answer is the last one, whatever it leads to. -/
theorem Ready.ends_of_closed
    {count : Nat}
    {after : Invocation}
    (ready : Ready count session)
    (slow : session.options.slow = true)
    (makes :
      Invocation.MakesSteps Interpreter.usualLimit (count + 1) session.invocation after) :
    session.Ends (count + 1) after .closed := by
  obtain ⟨before, stepBudget, made, running, stepped⟩ := makes.exists_last
  rw [← Nat.zero_add count] at ready
  obtain ⟨onward, rfl, options, onwardReady, ends⟩ := ready.exists_onward made
  obtain ⟨last, rfl, kept, closed⟩ :=
    onwardReady.exists_advance_of_closed (options ▸ slow) running stepped
  rw [Nat.add_comm]
  exact ends (.of_ended running kept closed)

/-- Without prompts, a session that ended made steps up to a halt or to a failure. -/
theorem Ready.makesSteps_of_run
    {last : Session}
    {ending : Ending}
    (ready : Ready 0 session)
    (swift : session.options.slow = false)
    (ran : session.run budget = (last, ending))
    (ended : ending ≠ .unfinished) :
    ∃ count before,
      Invocation.MakesSteps Interpreter.usualLimit count session.invocation before ∧
        (before.halt.isSome = true ∧
            ending = .completed ∧
            last.invocation = before ∧
            session.stepsBegun budget = count ∨
          before.halt = none ∧
            ∃ smaller failure,
              before.step Interpreter.usualLimit smaller =
                  .failed failure last.invocation ∧
                ending = .failed failure ∧
                session.stepsBegun budget = count + 1) := by
  induction budget generalizing session with
  | zero =>
      cases ran
      exact absurd rfl ended
  | succ budget inductionHypothesis =>
      cases running : session.invocation.halt with
      | some halt =>
          have halted : session.invocation.halt.isSome = true := by rw [running]; rfl
          obtain ⟨run, counted⟩ := run_of_halted halted budget
          rw [run] at ran
          cases ran
          exact ⟨0, last.invocation, .none, .inl ⟨halted, rfl, rfl, counted⟩⟩
      | none =>
          cases stepped : session.invocation.step Interpreter.usualLimit budget with
          | done after =>
              obtain ⟨onward, rfl, options, onwardReady, advanced⟩ :=
                (ready.of_swift swift 1).exists_advance running stepped
              obtain ⟨run, counted⟩ :=
                run_of_advance running (advanced budget (Nat.le_refl budget))
              obtain ⟨count, before, makes, stopped⟩ :=
                inductionHypothesis onwardReady (options ▸ swift) (run ▸ ran)
              refine ⟨count + 1, before, .step running budget stepped makes, ?_⟩
              rw [counted]
              simpa using stopped
          | failed failure after =>
              obtain ⟨run, counted⟩ :=
                run_of_ended running (ready.advance_of_failed running stepped)
              rw [run] at ran
              cases ran
              exact ⟨0, session.invocation, .none,
                .inr ⟨running, budget, failure, stepped, rfl, counted⟩⟩
          | unfinished =>
              have advanced :
                  session.advance budget = (session, some .unfinished) := by
                simp [advance, act, running, ready.offerInput_eq, stepped]
              rw [(run_of_ended running advanced).1] at ran
              cases ran
              exact absurd rfl ended

theorem Ready.makesSteps_of_completed
    {last : Session}
    (ready : Ready 0 session)
    (swift : session.options.slow = false)
    (ran : session.run budget = (last, .completed)) :
    Invocation.MakesSteps Interpreter.usualLimit (session.stepsBegun budget)
        session.invocation last.invocation ∧
      last.invocation.halt.isSome = true := by
  obtain ⟨count, before, makes, ⟨halted, -, rfl, rfl⟩ | ⟨-, _, _, -, other, -⟩⟩ :=
    ready.makesSteps_of_run swift ran nofun
  · exact ⟨makes, halted⟩
  · cases other

theorem Ready.makesSteps_of_failed
    {last : Session}
    {failure : Failure}
    (ready : Ready 0 session)
    (swift : session.options.slow = false)
    (ran : session.run budget = (last, .failed failure)) :
    ∃ count before smaller,
      session.stepsBegun budget = count + 1 ∧
        Invocation.MakesSteps Interpreter.usualLimit count session.invocation before ∧
        before.halt = none ∧
        before.step Interpreter.usualLimit smaller = .failed failure last.invocation := by
  obtain ⟨count, before, makes,
      ⟨-, other, -, -⟩ | ⟨running, smaller, _, stepped, same, counted⟩⟩ :=
    ready.makesSteps_of_run swift ran nofun
  · cases other
  · cases same
    exact ⟨count, before, smaller, counted, makes, running, stepped⟩

end

end Session

end CommandLine

end StackTape
