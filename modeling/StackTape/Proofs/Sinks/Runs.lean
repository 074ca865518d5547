import StackTape.Proofs.Sinks.Tasks
import StackTape.Proofs.Steps

namespace StackTape

/-!
# Runs and sinks

A step writes a row of emissions that the sink has no part in.  So runs with different
sinks go through the same states for as long as their sinks take what is written.  The
first emission that a sink refuses ends its run, in the very step that wrote it.
-/

namespace Invocation

/-- The invocation with another channel. -/
def onChannel
    (invocation : Invocation)
    (channel : Channel) : Invocation :=
  { invocation with channel := channel }

section

variable {ε : Type}
variable {invocation : Invocation}
variable {source rest : LineSource}
variable {written : List Emission}

/--
On a console with this source the computation writes these emissions and comes to this
outcome, up to the channel.  If the sink refuses one of them the computation fails.
-/
structure Writes
    (refusal : ε)
    (compute : Invocation → Outcome ε Invocation)
    (invocation : Invocation)
    (source rest : LineSource)
    (written : List Emission)
    (outcome : Outcome ε Invocation) : Prop where
  taken :
    ∀ {sink final : Sink},
      sink.emitAll written = .ok final →
      compute (invocation.onChannel (.console source sink)) =
        outcome.mapState fun after => after.onChannel (.console rest final)
  refused :
    ∀ {sink refusing : Sink},
      sink.emitAll written = .error refusing →
      ∃ left after,
        compute (invocation.onChannel (.console source sink)) =
            .failed refusal after ∧
          after.channel = .console left refusing
  ends : written ≠ [] → outcome ≠ .unfinished

/-- A computation that may only read writes nothing. -/
theorem exists_writes_of_keepsTo
    (refusal : ε)
    {compute : Invocation → Outcome ε Invocation}
    (source : LineSource)
    (keeps :
      KeepsTo (fun exchange => exchange.isRead = true) compute
        (invocation.onChannel (.console source (.emissions [])))) :
    ∃ rest outcome,
      Writes refusal compute invocation source rest [] outcome := by
  obtain ⟨traffic, traffics, reads⟩ := keeps
  obtain ⟨final, answers⟩ := traffics.answered
  obtain ⟨rest, alike⟩ := answers.of_reads reads
  have same (sink : Sink) :
      compute (invocation.onChannel (.console source sink)) =
        reconnectedOutcome (.console rest sink)
          (invocation.journal.noteAll traffic.events)
          (compute (invocation.onChannel (.console source (.emissions [])))) :=
    traffics.determined invocation.journal (alike sink)
  refine ⟨rest, compute (invocation.onChannel (.console source (.emissions []))),
    ?_, nofun, fun nonempty => absurd rfl nonempty⟩
  intro sink after taken
  cases taken
  rw [same sink, same (.emissions [])]
  cases compute (invocation.onChannel (.console source (.emissions []))) <;> rfl

/-- Work on the bench writes what the work writes. -/
theorem exists_writes_of_doing
    {work : Work Unit}
    (alike : Work.WritesAlike work)
    (invocation : Invocation)
    (source : LineSource) :
    ∃ rest written outcome,
      Writes (.outputRefused Sink.refusal)
        (fun invocation => invocation.doing work) invocation source rest written
        outcome := by
  obtain ⟨rest, written, result, writes⟩ := alike invocation.bench source
  have refused
      {sink refusing : Sink}
      (unfit : sink.emitAll written = .error refusing) :
      ∃ left after,
        (invocation.onChannel (.console source sink)).doing work =
            .failed (.outputRefused Sink.refusal) after ∧
          after.channel = .console left refusing := by
    obtain ⟨left, bench, worked, held⟩ := writes.refused unfit
    exact ⟨left, _, working_of_error (by exact worked), held⟩
  cases result with
  | ok result bench =>
      refine ⟨rest, written, .done (invocation.withBench bench), ?_, refused,
        fun _ => Outcome.done_ne_unfinished _⟩
      intro sink final taken
      have worked :
          work (invocation.onChannel (.console source sink)).bench =
            .ok result (bench.onChannel (.console rest final)) :=
        writes.taken taken
      exact working_of_ok worked
  | error fault bench =>
      refine ⟨rest, written, .failed fault (invocation.withBench bench), ?_,
        refused, fun _ => Outcome.failed_ne_unfinished _ _⟩
      intro sink final taken
      have worked :
          work (invocation.onChannel (.console source sink)).bench =
            .error fault (bench.onChannel (.console rest final)) :=
        writes.taken taken
      exact working_of_error worked

/-- A computation that leads to another one and passes its outcome on. -/
theorem Writes.passOn
    {refusal : Fault}
    {compute : Invocation → Outcome Fault Invocation}
    {other : Invocation → Outcome ε Invocation}
    {middle : Invocation}
    {outcome : Outcome Fault Invocation}
    (writes : Writes refusal compute middle source rest written outcome)
    (finish : Invocation → Invocation)
    (report : Fault → ε)
    {failure : ε}
    (reported : failure = report refusal)
    (blind :
      ∀ state channel,
        finish (onChannel state channel) = (finish state).onChannel channel)
    (same :
      ∀ channel,
        other (invocation.onChannel channel) =
          (compute (middle.onChannel channel)).passOn finish report) :
    Writes failure other invocation source rest written
      (outcome.passOn finish report) where
  taken := by
    intro sink final taken
    rw [same, writes.taken taken]
    cases outcome with
    | done after =>
        exact congrArg Outcome.done (blind after _)
    | failed | unfinished =>
        rfl
  refused := by
    intro sink refusing unfit
    obtain ⟨left, after, failed, held⟩ := writes.refused unfit
    exact ⟨left, after, by rw [same, failed, reported]; rfl, held⟩
  ends nonempty := by
    have ended := writes.ends nonempty
    cases outcome with
    | done after =>
        exact Outcome.done_ne_unfinished _
    | failed fault after =>
        exact Outcome.failed_ne_unfinished _ _
    | unfinished =>
        exact absurd rfl ended

end

/-- How a step fails when the sink refuses what it writes. -/
def refusedAt (invocation : Invocation) : Failure :=
  ⟨invocation.cursor, invocation.instruction?, .outputRefused Sink.refusal⟩

/-- Moving on has nothing to do with the channel. -/
theorem advance_onChannel
    (invocation : Invocation)
    (channel : Channel) :
    (invocation.onChannel channel).advance =
      invocation.advance.onChannel channel := by
  by_cases stopped : invocation.halt.isSome <;>
    simp [advance, onChannel, withCursor, stopped]

/-- A step writes the same, whatever the sink is. -/
theorem exists_writes_of_step
    (limit budget : Nat)
    (invocation : Invocation)
    (source : LineSource) :
    ∃ rest written outcome,
      Writes invocation.refusedAt (step limit budget) invocation source rest
        written outcome := by
  have silent (quiet : ¬ invocation.TurnsToOutput) :
      ∃ rest written outcome,
        Writes invocation.refusedAt (step limit budget) invocation source rest
          written outcome := by
    obtain ⟨rest, outcome, writes⟩ :=
      exists_writes_of_keepsTo invocation.refusedAt source
        (keepsTo_stepWith limit (haveTraffic_run limit budget)
          (fun _ => Work.mayRead_of_isRead) fun turns => absurd turns quiet)
    exact ⟨rest, [], outcome, writes⟩
  cases stepKind invocation with
  | halted stopped =>
      refine ⟨source, [], .done invocation, ?_, nofun,
        fun nonempty => absurd rfl nonempty⟩
      intro sink final taken
      cases taken
      exact step_of_halted _ _ (by exact stopped)
  | ended running ended =>
      obtain ⟨rest, written, outcome, writes⟩ :=
        exists_writes_of_doing
          (Work.writesAlike_outputStack invocation.isFunction) invocation source
      refine ⟨rest, written, _, writes.passOn
        (fun after => { after with halt := some .finished })
        (fun fault => ⟨invocation.cursor, none, fault⟩)
        (by rw [refusedAt, ended]) (fun _ _ => rfl) fun channel => ?_⟩
      exact stepWith_of_ended limit _ (by exact running) (by exact ended)
  | called running calls =>
      refine silent ?_
      simp [TurnsToOutput, calls.present, calls.dispatched?_eq_none]
  | idle running present unbound nothing =>
      refine silent ?_
      simp [TurnsToOutput, present, nothing]
  | @performed instruction opcode running present dispatched =>
      by_cases writer : opcode.isWriter = true
      · cases opcode with
        | task task =>
            obtain ⟨rest, written, outcome, writes⟩ :=
              exists_writes_of_doing
                (Work.writesAlike_perform (invocation.previous? == some '&') task)
                (invocation.announcing instruction) source
            refine ⟨rest, written, _, writes.passOn advance
              (fun fault => ⟨invocation.cursor, some instruction, fault⟩)
              (by rw [refusedAt, present]) advance_onChannel fun channel => ?_⟩
            have there :
                (invocation.onChannel channel).dispatched? = some (.task task) :=
              dispatched
            exact stepWith_of_performed limit _ (by exact running)
              (by exact present) there
        | _ =>
            cases writer
      · refine silent ?_
        simp [TurnsToOutput, present, dispatched, writer]

/-! ## Runs -/

/-- The program has put these emissions into a place that keeps them. -/
def HasEmitted
    (invocation : Invocation)
    (emissions : List Emission) : Prop :=
  ∃ source, invocation.channel = .console source (.emissions emissions.reverse)

/--
Two states that differ in their sinks alone.  The one has kept all of its emissions.  The
sink of the other, which was another one in the beginning, has become what they make of
it, and shows their renderings.
-/
def Mirrors
    (sink : Sink)
    (kept other : Invocation) : Prop :=
  ∃ source emissions final,
    kept.channel = .console source (.emissions emissions.reverse) ∧
      other = kept.onChannel (.console source final) ∧
      Sink.Becomes emissions sink final ∧
      final.output = sink.output ++ Emission.rendered emissions

/-- Outcomes that differ in the sinks of their states alone. -/
inductive Agrees (sink : Sink) :
    Outcome Failure Invocation → Outcome Failure Invocation → Prop where
  | done
      {kept other : Invocation}
      (mirrors : Mirrors sink kept other) :
      Agrees sink (.done kept) (.done other)
  | failed
      (failure : Failure)
      {kept other : Invocation}
      (mirrors : Mirrors sink kept other) :
      Agrees sink (.failed failure kept) (.failed failure other)
  | unfinished :
      Agrees sink .unfinished .unfinished

/-- The states of agreeing outcomes. -/
theorem Agrees.mirrors
    {sink : Sink}
    {keptOutcome otherOutcome : Outcome Failure Invocation}
    {kept other : Invocation}
    (agrees : Agrees sink keptOutcome otherOutcome)
    (keptLeft : keptOutcome.state? = some kept)
    (left : otherOutcome.state? = some other) :
    Mirrors sink kept other := by
  cases agrees with
  | done mirrors | failed failure mirrors =>
      cases keptLeft
      cases left
      exact mirrors
  | unfinished =>
      cases left

/--
The sink refuses an emission of the step that the mirrored state makes, and the step fails
there.  The sink has taken all emissions before that one, those of the same step included,
and shows their renderings.
-/
inductive StepRefused
    (limit budget : Nat)
    (sink : Sink)
    (before mirrored final : Invocation) : Prop where
  | refused
      {after : Invocation}
      {source : LineSource}
      {emissions part later : List Emission}
      {emission : Emission}
      {full refusing : Sink}
      (emitted : before.HasEmitted emissions)
      (stepped : (before.step limit budget).state? = some after)
      (emittedMore : after.HasEmitted (emissions ++ part ++ emission :: later))
      (taken : Sink.Becomes (emissions ++ part) sink full)
      (fits : full.IsWithinLimit)
      (refuses : Sink.Refuses emission full refusing)
      (failed : mirrored.step limit budget = .failed before.refusedAt final)
      (held : final.channel = .console source refusing)
      (shown :
        refusing.output = sink.output ++ Emission.rendered (emissions ++ part))

/--
Steps that a sink cut off.  They went along with those that keep the emissions, up to a
step of which the sink refused an emission.
-/
inductive CutOff
    (limit budget count : Nat)
    (sink : Sink)
    (kept other : Invocation) : Prop where
  | at
      {passed : Nat}
      {before mirrored final : Invocation}
      (early : passed < count)
      (alike :
        ∀ made ≤ passed,
          Agrees sink (kept.steps limit budget made)
            (other.steps limit budget made))
      (proceeded : kept.steps limit budget passed = .done before)
      (mirroring : other.steps limit budget passed = .done mirrored)
      (refused : StepRefused limit budget sink before mirrored final)
      (failed :
        other.steps limit budget count = .failed before.refusedAt final)

section

variable {limit budget : Nat}
variable {sink : Sink}
variable {kept other : Invocation}

/-- The console that a state has anyway. -/
theorem onChannel_of_channel
    {invocation : Invocation}
    {channel : Channel}
    (same : invocation.channel = channel) :
    invocation.onChannel channel = invocation := by
  rw [← same]
  rfl

/-- A step agrees, unless the sink refuses what it writes. -/
theorem agrees_or_refused_of_step
    (limit budget : Nat)
    (within : sink.IsWithinLimit)
    (mirrors : Mirrors sink kept other) :
    Agrees sink (kept.step limit budget) (other.step limit budget) ∨
      ∃ final, StepRefused limit budget sink kept other final := by
  obtain ⟨source, emissions, now, channel, rfl, became, -⟩ := mirrors
  obtain ⟨rest, written, outcome, writes⟩ :=
    exists_writes_of_step limit budget kept source
  have keptStep :
      kept.step limit budget =
        outcome.mapState fun after =>
          after.onChannel
            (.console rest (.emissions (emissions ++ written).reverse)) := by
    have stepped := writes.taken (Sink.emitAll_emissions emissions.reverse written)
    rwa [onChannel_of_channel channel, ← List.reverse_append] at stepped
  rcases Sink.emitAll_cases now written with
    ⟨final, taken, onward⟩ |
      ⟨part, emission, later, full, refusing, shape, refusal, onward, refuses⟩
  · have all := became.append onward
    have mirrored (after : Invocation) :
        Mirrors sink
          (after.onChannel
            (.console rest (.emissions (emissions ++ written).reverse)))
          (after.onChannel (.console rest final)) :=
      ⟨rest, _, final, rfl, rfl, all, all.output⟩
    rw [keptStep, writes.taken taken]
    cases outcome with
    | done after =>
        exact .inl (.done (mirrored after))
    | failed failure after =>
        exact .inl (.failed failure (mirrored after))
    | unfinished =>
        exact .inl .unfinished
  · obtain ⟨left, final, failed, held⟩ := writes.refused refusal
    have all := became.append onward
    have shown :
        refusing.output =
          sink.output ++ Emission.rendered (emissions ++ part) := by
      rw [refuses.output, all.output]
    have leaves :
        ∃ after,
          (kept.step limit budget).state? = some after ∧
            after.HasEmitted (emissions ++ part ++ emission :: later) := by
      rw [keptStep, List.append_assoc, ← shape]
      cases outcome with
      | done after | failed failure after =>
          exact ⟨_, rfl, rest, rfl⟩
      | unfinished =>
          exact absurd rfl (writes.ends (by simp [shape]))
    obtain ⟨after, stepped, emittedMore⟩ := leaves
    exact .inr ⟨final, .refused ⟨source, channel⟩ stepped emittedMore all
      (all.within within) refuses failed held shown⟩

/-- A step and then the others. -/
theorem steps_succ_of_done
    {invocation next : Invocation}
    (running : invocation.halt = none)
    (stepped : invocation.step limit budget = .done next)
    (count : Nat) :
    invocation.steps limit budget (count + 1) = next.steps limit budget count := by
  simp [steps, running, stepped]

theorem steps_succ_of_failed
    {invocation after : Invocation}
    {failure : Failure}
    (running : invocation.halt = none)
    (stepped : invocation.step limit budget = .failed failure after)
    (count : Nat) :
    invocation.steps limit budget (count + 1) = .failed failure after := by
  simp [steps, running, stepped]

/-- Steps that were cut off after a first step. -/
theorem CutOff.prepend
    {count : Nat}
    {keptNext otherNext : Invocation}
    (cut : CutOff limit budget count sink keptNext otherNext)
    (mirrors : Mirrors sink kept other)
    (running : kept.halt = none)
    (otherRunning : other.halt = none)
    (stepped : kept.step limit budget = .done keptNext)
    (otherStepped : other.step limit budget = .done otherNext) :
    CutOff limit budget (count + 1) sink kept other := by
  obtain ⟨early, alike, proceeded, mirroring, refused, failed⟩ := cut
  have keptOnward := steps_succ_of_done running stepped
  have otherOnward := steps_succ_of_done otherRunning otherStepped
  refine .at (Nat.succ_lt_succ early) ?_ ((keptOnward _).trans proceeded)
    ((otherOnward _).trans mirroring) refused ((otherOnward _).trans failed)
  intro made few
  cases made with
  | zero =>
      exact .done mirrors
  | succ made =>
      rw [keptOnward, otherOnward]
      exact alike made (Nat.le_of_succ_le_succ few)

/-- Steps agree for as long as the sink takes what they write. -/
theorem agrees_or_cutOff
    (limit budget count : Nat)
    (within : sink.IsWithinLimit)
    (mirrors : Mirrors sink kept other) :
    Agrees sink (kept.steps limit budget count)
        (other.steps limit budget count) ∨
      CutOff limit budget count sink kept other := by
  induction count generalizing kept other with
  | zero =>
      exact .inl (.done mirrors)
  | succ count inductionHypothesis =>
      have sameHalt : other.halt = kept.halt := by
        obtain ⟨source, emissions, final, -, rfl, -⟩ := mirrors
        rfl
      cases running : kept.halt with
      | some halt =>
          simp only [steps, sameHalt, running, Option.isSome_some, reduceIte]
          exact .inl (.done mirrors)
      | none =>
          rw [running] at sameHalt
          rcases agrees_or_refused_of_step limit budget within mirrors with
            agrees | ⟨final, refused⟩
          · generalize keptStepped : kept.step limit budget = keptOutcome at agrees
            generalize otherStepped : other.step limit budget = otherOutcome
              at agrees
            cases agrees with
            | done onward =>
                rw [steps_succ_of_done running keptStepped,
                  steps_succ_of_done sameHalt otherStepped]
                exact (inductionHypothesis onward).imp_right fun cut =>
                  cut.prepend mirrors running sameHalt keptStepped otherStepped
            | failed failure onward =>
                rw [steps_succ_of_failed running keptStepped,
                  steps_succ_of_failed sameHalt otherStepped]
                exact .inl (.failed failure onward)
            | unfinished =>
                simp only [steps, sameHalt, running, keptStepped, otherStepped,
                  Option.isSome_none, Bool.false_eq_true, reduceIte]
                exact .inl .unfinished
          · refine .inr (.at (Nat.succ_pos count) (fun made few => ?_) rfl rfl refused ?_)
            · rw [Nat.le_zero.1 few]
              exact .done mirrors
            · obtain ⟨_, _, _, _, _, _, failed, _, _⟩ := refused
              exact steps_succ_of_failed sameHalt failed count

end

/--
Whatever a program's sink is, its steps agree with those of the same program that keeps
its emissions, step by step and up to the sink: they come to the same states and end with
the same failure, and the sink shows the renderings of the emissions behind what it showed
before, or has announced each of them on a line.  This is always so for sinks without a
limit.  Where a limit leaves no room for an emission, the steps agree up to the one that
writes the first such emission; that step fails with a refused output at the instruction
it is at, and the sink shows the renderings of the emissions before.
-/
theorem steps_agree_or_cutOff
    {sink : Sink}
    (within : sink.IsWithinLimit)
    (code : Text)
    (source : LineSource)
    (journal : Journal)
    (draws : Draws)
    (limit budget count : Nat) :
    let program (sink : Sink) :=
      start code (.console source sink) journal draws
    Agrees sink
        ((program (.emissions [])).steps limit budget count)
        ((program sink).steps limit budget count) ∨
      (∃ bound, sink.limit? = some bound) ∧
        CutOff limit budget count sink (program (.emissions [])) (program sink) := by
  intro program
  have mirrors : Mirrors sink (program (.emissions [])) (program sink) :=
    ⟨source, [], sink, rfl, rfl, .nothing sink, by simp [Emission.rendered]⟩
  rcases agrees_or_cutOff limit budget count within mirrors with agrees | cut
  · exact .inl agrees
  · refine .inr ⟨?_, cut⟩
    obtain ⟨_, _, _, _, refused, _⟩ := cut
    obtain ⟨_, _, _, taken, _, refuses, _, _, _⟩ := refused
    rw [← taken.limit?]
    exact refuses.exists_limit

/-- A device with room for two characters cuts off a row of three. -/
theorem steps_agree_or_cutOff_in_row :
    let sink := Sink.plain (.blank (some 2))
    let program (sink : Sink) :=
      start "\"abc\"&o".toList (.console .exhausted sink) (.blank .error) default
    sink.IsWithinLimit ∧
      CutOff 200 0 3 sink (program (.emissions [])) (program sink) ∧
      ((program sink).steps 200 0 3).state?.map Invocation.channel =
        some (.console .exhausted (.plain ⟨some 2, [['b'], ['a']]⟩)) := by
  intro sink program
  have within : sink.IsWithinLimit :=
    fun bound _ => Nat.zero_le bound
  have keeps :
      ((program (.emissions [])).steps 200 0 3).state?.map Invocation.channel =
        some (.console .exhausted
          (.emissions [.character 'c', .character 'b', .character 'a'])) := by
    decide +kernel
  have shows :
      ((program sink).steps 200 0 3).state?.map Invocation.channel =
        some (.console .exhausted (.plain ⟨some 2, [['b'], ['a']]⟩)) := by
    decide +kernel
  refine ⟨within, ?_, shows⟩
  rcases steps_agree_or_cutOff within "\"abc\"&o".toList .exhausted
      (.blank .error) default 200 0 3 with agrees | ⟨-, cut⟩
  · obtain ⟨kept, keptLeft, keptChannel⟩ := Option.map_eq_some_iff.1 keeps
    obtain ⟨other, left, channel⟩ := Option.map_eq_some_iff.1 shows
    obtain ⟨source, emissions, final, emitted, same, -, output⟩ :=
      agrees.mirrors keptLeft left
    rw [keptChannel] at emitted
    rw [same] at channel
    injection emitted with _ row
    injection row with row
    injection channel with _ held
    rw [held, ← List.reverse_eq_iff.2 row] at output
    exact absurd output (by decide)
  · exact cut

end Invocation

end StackTape
