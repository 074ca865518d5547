import Mathlib.Data.List.Forall2
import StackTape.Proofs.Readings
import StackTape.Proofs.Traffic.Runs

namespace StackTape

/-!
# Runs on sources that read alike

A step knows its source through the readings alone that it takes, as its traffic tells.
So two runs whose sources read alike go through the same states, and their sources read
alike in each of them.  The bytes of a text and its lines are such sources.
-/

namespace Outcome

/-- Outcomes of one kind, with the same error and with related states. -/
inductive Relates
    {ε σ : Type}
    (related : σ → σ → Prop) : Outcome ε σ → Outcome ε σ → Prop where
  | done
      {first second : σ}
      (states : related first second) :
      Relates related (.done first) (.done second)
  | failed
      (error : ε)
      {first second : σ}
      (states : related first second) :
      Relates related (.failed error first) (.failed error second)
  | unfinished :
      Relates related .unfinished .unfinished

end Outcome

/-- Sources that read alike answer the same exchanges, and then read alike still. -/
theorem Channel.Answers.of_readsAlike
    {source twin : LineSource}
    {sink : Sink}
    {exchanges : List Exchange}
    {final : Channel}
    (alike : source.ReadsAlike twin)
    (answers : Answers (.console source sink) exchanges final) :
    ∃ rest twinRest finalSink,
      rest.ReadsAlike twinRest ∧
        final = .console rest finalSink ∧
        Answers (.console twin sink) exchanges (.console twinRest finalSink) := by
  induction exchanges generalizing source twin sink with
  | nil =>
      cases answers
      exact ⟨source, twin, sink, alike, rfl, .nothing⟩
  | cons exchange later inductionHypothesis =>
      cases answers with
      | read given onward =>
          obtain ⟨now, afterwards⟩ := alike.read
          simp only [Channel.read, Prod.mk.injEq] at given
          obtain ⟨rfl, rfl⟩ := given
          obtain ⟨rest, twinRest, finalSink, restAlike, same, twinAnswers⟩ :=
            inductionHypothesis afterwards onward
          refine ⟨rest, twinRest, finalSink, restAlike, same, ?_⟩
          rw [now]
          exact .read rfl twinAnswers
      | taken given onward =>
          simp only [Channel.emit] at given
          split at given <;> cases given
          rename_i after taken
          obtain ⟨rest, twinRest, finalSink, restAlike, same, twinAnswers⟩ :=
            inductionHypothesis alike onward
          exact ⟨rest, twinRest, finalSink, restAlike, same,
            .taken (by simp [Channel.emit, taken]) twinAnswers⟩
      | refused given onward =>
          simp only [Channel.emit] at given
          split at given <;> cases given
          rename_i after refused
          obtain ⟨rest, twinRest, finalSink, restAlike, same, twinAnswers⟩ :=
            inductionHypothesis alike onward
          exact ⟨rest, twinRest, finalSink, restAlike, same,
            .refused (by simp [Channel.emit, refused]) twinAnswers⟩

namespace Invocation

/-- Two states that differ in their sources alone, which read alike. -/
def Parallels (first second : Invocation) : Prop :=
  ∃ source twin sink,
    source.ReadsAlike twin ∧
      first.channel = .console source sink ∧
      second = { first with channel := .console twin sink }

/-- Two stages with such states and the same failure. -/
structure Stage.Parallels (first second : Stage) : Prop where
  states : first.state.Parallels second.state
  failures : first.failure = second.failure

/-- What has traffic comes out the same on sources that read alike. -/
theorem HasTraffic.relates
    {ε : Type}
    {compute : Invocation → Outcome ε Invocation}
    {first second : Invocation}
    {traffic : Traffic}
    (traffics : HasTraffic compute first traffic)
    (parallels : first.Parallels second) :
    Outcome.Relates Parallels (compute first) (compute second) := by
  obtain ⟨source, twin, sink, alike, channel, rfl⟩ := parallels
  obtain ⟨final, answers⟩ := traffics.answered
  have own :
      compute first =
        reconnectedOutcome final (first.journal.noteAll traffic.events)
          (compute first) :=
    traffics.determined first.journal answers
  rw [channel] at answers
  obtain ⟨rest, twinRest, finalSink, restAlike, rfl, twinAnswers⟩ :=
    answers.of_readsAlike alike
  have twins :
      compute { first with channel := .console twin sink } =
        reconnectedOutcome (.console twinRest finalSink)
          (first.journal.noteAll traffic.events) (compute first) :=
    traffics.determined first.journal twinAnswers
  have related (after : Invocation) :
      Parallels
        (after.reconnected (.console rest finalSink)
          (first.journal.noteAll traffic.events))
        (after.reconnected (.console twinRest finalSink)
          (first.journal.noteAll traffic.events)) :=
    ⟨rest, twinRest, finalSink, restAlike, rfl, rfl⟩
  rw [own, twins]
  cases compute first with
  | done after =>
      exact .done (related after)
  | failed error after =>
      exact .failed error (related after)
  | unfinished =>
      exact .unfinished

theorem relates_step
    (limit budget : Nat)
    {first second : Invocation}
    (parallels : first.Parallels second) :
    Outcome.Relates Parallels (first.step limit budget)
      (second.step limit budget) := by
  obtain ⟨traffic, traffics, -⟩ :
      KeepsTo (fun _ => True) (step limit budget) first :=
    keepsTo_stepWith limit (haveTraffic_run limit budget)
      (fun _ _ => trivial) fun _ _ => ⟨trivial, trivial⟩
  exact traffics.relates parallels

/-- Stage by stage two such runs go along with each other. -/
theorem parallels_stages
    (limit budget : Nat)
    (resuming : Bool)
    (count : Nat)
    {first second : Invocation}
    (parallels : first.Parallels second) :
    List.Forall₂ Stage.Parallels
      (stages limit budget resuming count first)
      (stages limit budget resuming count second) := by
  induction count generalizing first second with
  | zero =>
      exact .nil
  | succ count inductionHypothesis =>
      have sameHalt : second.halt = first.halt := by
        obtain ⟨source, twin, sink, -, -, rfl⟩ := parallels
        rfl
      have stepped := relates_step limit budget parallels
      rw [stages, stages, sameHalt]
      generalize first.step limit budget = outcome at stepped
      generalize second.step limit budget = twinOutcome at stepped
      cases stepped with
      | done states =>
          refine .cons ⟨states, rfl⟩ ?_
          split
          · exact .nil
          · exact inductionHypothesis states
      | failed failure states =>
          refine .cons ⟨states, rfl⟩ ?_
          split
          · exact inductionHypothesis states
          · exact .nil
      | unfinished =>
          exact .nil

/--
Input that arrives as the bytes of a text is as good as the lines of that text.  The two
sources give the same readings for ever.  So whatever the program, its sink and its
options are, the runs on them have the same states and failures, stage by stage, whether
or not the steps go on after a failure, and come out the same; they have kept and shown
the same output then, as their states differ in the sources alone.
-/
theorem runs_parallel_on_bytes_and_lines
    (text : Text) :
    let bytes := LineSource.bytes text.encode
    let lines := LineSource.ofText text
    (∀ count, bytes.reading count = lines.reading count) ∧
      ∀ code sink journal draws limit budget,
        let program (source : LineSource) :=
          start code (.console source sink) journal draws
        (∀ resuming count,
            List.Forall₂ Stage.Parallels
              (stages limit budget resuming count (program bytes))
              (stages limit budget resuming count (program lines))) ∧
          Outcome.Relates Parallels
            ((program bytes).run limit budget)
            ((program lines).run limit budget) := by
  intro bytes lines
  have alike : bytes.ReadsAlike lines :=
    LineSource.readsAlike_encode text
  refine ⟨alike, ?_⟩
  intro code sink journal draws limit budget program
  have parallels : (program bytes).Parallels (program lines) :=
    ⟨bytes, lines, sink, alike, rfl, rfl⟩
  obtain ⟨traffic, traffics⟩ := haveTraffic_run limit budget (program bytes)
  exact ⟨fun resuming count =>
      parallels_stages limit budget resuming count parallels,
    traffics.relates parallels⟩

/-- A carriage return and a feed end the first line, a carriage return the last. -/
example :
    let text : Text := ['3', '\r', '\n', '\n', '4', '\r']
    [0, 1, 2, 3].map (fun count => (LineSource.bytes text.encode).reading count) =
      [.line ['3'], .line [], .line ['4', '\r'], .exhausted] := by
  decide +kernel

end Invocation

end StackTape
