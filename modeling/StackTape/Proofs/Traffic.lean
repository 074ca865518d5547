import StackTape.Machine.Bench.Lemmas
import StackTape.Proofs.OwnFaults

namespace StackTape

/-!
# Traffic

Work has traffic with its surroundings: it makes exchanges with its channel and notes
events in its journal.  Its traffic says all that the channel has to do with how it
comes out: with any channel that answers these exchanges alike, and with any journal,
it comes out the same.  One lemma for each piece of work; work in sequence has the
traffic of its parts in sequence.
-/

/-- One use of a channel, and what the channel answered. -/
inductive Exchange where
  | read (reading : Reading)
  /-- The emission was taken. -/
  | taken (emission : Emission)
  /-- The emission was refused. -/
  | refused (emission : Emission)
  deriving DecidableEq

namespace Exchange

/-- Whether something was read. -/
def isRead : Exchange → Bool
  | .read _ =>
      true
  | .taken _ | .refused _ =>
      false

/-- Whether something was emitted, be it taken or refused. -/
def isWrite (exchange : Exchange) : Bool :=
  !exchange.isRead

end Exchange

namespace Channel

/-- The channel makes these exchanges one after the other and is then the other one. -/
inductive Answers : Channel → List Exchange → Channel → Prop where
  | nothing
      {channel : Channel} :
      Answers channel [] channel
  | read
      {channel next final : Channel}
      {reading : Reading}
      {rest : List Exchange}
      (given : channel.read = (reading, next))
      (onward : Answers next rest final) :
      Answers channel (.read reading :: rest) final
  | taken
      {channel next final : Channel}
      {emission : Emission}
      {rest : List Exchange}
      (given : channel.emit emission = .ok next)
      (onward : Answers next rest final) :
      Answers channel (.taken emission :: rest) final
  | refused
      {channel next final : Channel}
      {emission : Emission}
      {rest : List Exchange}
      (given : channel.emit emission = .error next)
      (onward : Answers next rest final) :
      Answers channel (.refused emission :: rest) final

namespace Answers

/-- Exchanges made one after the other. -/
theorem append
    {channel middle final : Channel}
    {first second : List Exchange}
    (firstAnswers : Answers channel first middle)
    (secondAnswers : Answers middle second final) :
    Answers channel (first ++ second) final := by
  induction firstAnswers with
  | nothing =>
      exact secondAnswers
  | read given _ inductionHypothesis =>
      exact .read given (inductionHypothesis secondAnswers)
  | taken given _ inductionHypothesis =>
      exact .taken given (inductionHypothesis secondAnswers)
  | refused given _ inductionHypothesis =>
      exact .refused given (inductionHypothesis secondAnswers)

/-- Between two rows of exchanges there is a channel. -/
theorem exists_between
    {channel final : Channel}
    {first second : List Exchange}
    (answers : Answers channel (first ++ second) final) :
    ∃ middle, Answers channel first middle ∧ Answers middle second final := by
  induction first generalizing channel with
  | nil =>
      exact ⟨channel, .nothing, answers⟩
  | cons exchange rest inductionHypothesis =>
      cases answers with
      | read given onward =>
          obtain ⟨middle, before, behind⟩ := inductionHypothesis onward
          exact ⟨middle, .read given before, behind⟩
      | taken given onward =>
          obtain ⟨middle, before, behind⟩ := inductionHypothesis onward
          exact ⟨middle, .taken given before, behind⟩
      | refused given onward =>
          obtain ⟨middle, before, behind⟩ := inductionHypothesis onward
          exact ⟨middle, .refused given before, behind⟩

/-- The exchanges determine the channel that they leave. -/
theorem unique
    {channel first second : Channel}
    {exchanges : List Exchange}
    (firstAnswers : Answers channel exchanges first)
    (secondAnswers : Answers channel exchanges second) :
    first = second := by
  induction firstAnswers with
  | nothing =>
      cases secondAnswers
      rfl
  | read given _ inductionHypothesis =>
      cases secondAnswers with
      | read otherGiven onward =>
          rw [given] at otherGiven
          cases otherGiven
          exact inductionHypothesis onward
  | taken given _ inductionHypothesis =>
      cases secondAnswers with
      | taken otherGiven onward =>
          rw [given] at otherGiven
          cases otherGiven
          exact inductionHypothesis onward
  | refused given _ inductionHypothesis =>
      cases secondAnswers with
      | refused otherGiven onward =>
          rw [given] at otherGiven
          cases otherGiven
          exact inductionHypothesis onward

/-- A caller's stack stays one, and refuses nothing. -/
theorem of_caller
    {stack : Stack}
    {final : Channel}
    {exchanges : List Exchange}
    (answers : Answers (.caller stack) exchanges final) :
    (∃ rest, final = .caller rest) ∧
      ∀ emission, .refused emission ∉ exchanges := by
  generalize origin : Channel.caller stack = channel at answers
  induction answers generalizing stack with
  | nothing =>
      exact ⟨⟨stack, origin.symm⟩, by simp⟩
  | read given _ inductionHypothesis =>
      subst origin
      simp only [Channel.read] at given
      split at given <;> cases given
      · obtain ⟨stays, unrefused⟩ := inductionHypothesis rfl
        exact ⟨stays, by simpa using unrefused⟩
      · obtain ⟨stays, unrefused⟩ := inductionHypothesis rfl
        exact ⟨stays, by simpa using unrefused⟩
  | taken given _ inductionHypothesis =>
      subst origin
      cases given
      obtain ⟨stays, unrefused⟩ := inductionHypothesis rfl
      exact ⟨stays, by simpa using unrefused⟩
  | refused given _ _ =>
      subst origin
      cases given

/-- A console stays one. -/
theorem of_console
    {source : LineSource}
    {sink : Sink}
    {final : Channel}
    {exchanges : List Exchange}
    (answers : Answers (.console source sink) exchanges final) :
    ∃ restSource restSink, final = .console restSource restSink := by
  generalize origin : Channel.console source sink = channel at answers
  induction answers generalizing source sink with
  | nothing =>
      exact ⟨source, sink, origin.symm⟩
  | read given _ inductionHypothesis =>
      subst origin
      cases given
      exact inductionHypothesis rfl
  | taken given _ inductionHypothesis | refused given _ inductionHypothesis =>
      subst origin
      simp only [Channel.emit] at given
      split at given <;> cases given
      exact inductionHypothesis rfl

end Answers

/-- Reading all integers is reading some lines, and nothing else. -/
theorem exists_readings_of_readIntegers
    (channel : Channel) :
    ∃ readings : List Reading,
      channel.Answers (readings.map .read) channel.readIntegers.2.2 ∧
        ∀ {other final : Channel},
          other.Answers (readings.map .read) final →
          other.readIntegers =
            (channel.readIntegers.1, channel.readIntegers.2.1, final) := by
  fun_induction readIntegers channel with
  | case1 channel rest given =>
      refine ⟨[.exhausted], .read given .nothing, ?_⟩
      rintro other final (_ | ⟨otherGiven, ⟨⟩⟩)
      rw [readIntegers]
      split <;> simp_all
  | case2 channel rest given =>
      refine ⟨[.unreadable], .read given .nothing, ?_⟩
      rintro other final (_ | ⟨otherGiven, ⟨⟩⟩)
      rw [readIntegers]
      split <;> simp_all
  | case3 channel rest given =>
      refine ⟨[.line []], .read given .nothing, ?_⟩
      rintro other final (_ | ⟨otherGiven, ⟨⟩⟩)
      rw [readIntegers]
      split <;> simp_all
  | case4 channel line rest given nonempty unspelled =>
      refine ⟨[.line line], .read given .nothing, ?_⟩
      rintro other final (_ | ⟨otherGiven, ⟨⟩⟩)
      rw [readIntegers]
      split <;> simp_all
  | case5 channel line rest given nonempty value spelled _ others ending final
      readOthers inductionHypothesis =>
      obtain ⟨readings, answers, determined⟩ := inductionHypothesis
      rw [readOthers] at answers determined
      refine ⟨.line line :: readings, .read given answers, ?_⟩
      rintro other otherFinal (_ | ⟨otherGiven, onward⟩)
      have again := determined onward
      rw [readIntegers]
      split <;> simp_all

end Channel

namespace Journal

/-- Note events one after the other. -/
def noteAll (journal : Journal) (events : List Event) : Journal :=
  events.foldl note journal

@[simp] theorem noteAll_nil
    (journal : Journal) :
    journal.noteAll [] = journal :=
  rfl

@[simp] theorem noteAll_singleton
    (journal : Journal)
    (event : Event) :
    journal.noteAll [event] = journal.note event :=
  rfl

theorem noteAll_append
    (journal : Journal)
    (first second : List Event) :
    journal.noteAll (first ++ second) =
      (journal.noteAll first).noteAll second :=
  List.foldl_append

end Journal

/-- What a computation has to do with its surroundings. -/
structure Traffic where
  exchanges : List Exchange
  events : List Journal.Event

namespace Traffic

/-- No traffic. -/
def none : Traffic :=
  ⟨[], []⟩

/-- First the one traffic, then the other. -/
def followedBy (first second : Traffic) : Traffic :=
  ⟨first.exchanges ++ second.exchanges, first.events ++ second.events⟩

end Traffic

namespace Bench

/-- The bench with another channel and another journal. -/
def reconnected
    (bench : Bench)
    (channel : Channel)
    (journal : Journal) : Bench :=
  { bench with
    channel := channel
    journal := journal }

end Bench

namespace Fault

/-- An instruction's own fault, or the refusal that ended these exchanges. -/
def IsRaisedAmid
    (exchanges : List Exchange)
    (fault : Fault) : Prop :=
  fault.isOwn = true ∨
    fault = .outputRefused Sink.refusal ∧
      ∃ emission, .refused emission ∈ exchanges

/-- More exchanges before and behind do not matter. -/
theorem IsRaisedAmid.mono
    {fault : Fault}
    {few many : List Exchange}
    (raised : fault.IsRaisedAmid few)
    (among : few ⊆ many) :
    fault.IsRaisedAmid many := by
  rcases raised with own | ⟨refusal, emission, member⟩
  · exact .inl own
  · exact .inr ⟨refusal, emission, among member⟩

end Fault

namespace Work

variable {α β : Type}
variable {allowed : Exchange → Prop}

/-- The result of work, on a bench with another channel and another journal. -/
def reconnected
    (channel : Channel)
    (journal : Journal) :
    EStateM.Result Fault Bench α → EStateM.Result Fault Bench α
  | .ok result bench =>
      .ok result (bench.reconnected channel journal)
  | .error fault bench =>
      .error fault (bench.reconnected channel journal)

/--
The traffic of work on a bench.  The bench's channel makes the exchanges, and with
every channel that makes them as well, whatever else it may have to say, and every
journal the work comes out the same.
-/
structure HasTraffic
    (work : Work α)
    (bench : Bench)
    (traffic : Traffic) : Prop where
  answered : ∃ final, bench.channel.Answers traffic.exchanges final
  determined :
    ∀ {channel final : Channel} (journal : Journal),
      channel.Answers traffic.exchanges final →
      work (bench.reconnected channel journal) =
        reconnected final (journal.noteAll traffic.events) (work bench)
  raised :
    ∀ {fault : Fault} {after : Bench},
      work bench = .error fault after →
      fault.IsRaisedAmid traffic.exchanges

/-- The work has traffic, and all of its exchanges are allowed ones. -/
def KeepsTo
    (allowed : Exchange → Prop)
    (work : Work α)
    (bench : Bench) : Prop :=
  ∃ traffic,
    HasTraffic work bench traffic ∧
      ∀ exchange ∈ traffic.exchanges, allowed exchange

/-- Every reading is allowed. -/
def MayRead (allowed : Exchange → Prop) : Prop :=
  ∀ reading, allowed (.read reading)

/-- Every emission is allowed. -/
def MayWrite (allowed : Exchange → Prop) : Prop :=
  ∀ emission, allowed (.taken emission) ∧ allowed (.refused emission)

namespace HasTraffic

/-- The channel that work leaves is the one that its exchanges leave. -/
theorem channel_of_ok
    {work : Work α}
    {bench after : Bench}
    {traffic : Traffic}
    {result : α}
    (traffics : HasTraffic work bench traffic)
    (worked : work bench = .ok result after) :
    bench.channel.Answers traffic.exchanges after.channel := by
  obtain ⟨final, answers⟩ := traffics.answered
  have same := traffics.determined bench.journal answers
  change work bench = _ at same
  rw [worked] at same
  injection same with _ benches
  rw [benches]
  exact answers

end HasTraffic

/-- Work that looks neither at the channel nor at the journal. -/
theorem KeepsTo.silent
    {work : Work α}
    {bench : Bench}
    (blind :
      ∀ channel journal,
        work (bench.reconnected channel journal) =
          reconnected channel journal (work bench))
    (own :
      ∀ {fault : Fault} {after : Bench},
        work bench = .error fault after → fault.isOwn = true) :
    KeepsTo allowed work bench := by
  refine ⟨.none, ⟨⟨_, .nothing⟩, ?_, fun failed => .inl (own failed)⟩, ?_⟩
  · intro channel final journal answers
    cases answers
    exact blind channel journal
  · intro exchange member
    cases member

/-- Work in sequence keeps to what its parts keep to. -/
theorem KeepsTo.bind
    {first : Work α}
    {next : α → Work β}
    {bench : Bench}
    (firstKeeps : KeepsTo allowed first bench)
    (nextKeeps :
      ∀ {result : α} {after : Bench},
        first bench = .ok result after →
        KeepsTo allowed (next result) after) :
    KeepsTo allowed (first >>= next) bench := by
  obtain ⟨firstTraffic, firstTraffics, firstAllowed⟩ := firstKeeps
  cases firstWorked : first bench with
  | error fault after =>
      refine ⟨firstTraffic, ⟨firstTraffics.answered, ?_, ?_⟩, firstAllowed⟩
      · intro channel final journal answers
        simp [firstTraffics.determined journal answers, firstWorked, reconnected]
      · intro raised final worked
        simp only [bind_apply, firstWorked] at worked
        cases worked
        exact firstTraffics.raised firstWorked
  | ok result after =>
      obtain ⟨nextTraffic, nextTraffics, nextAllowed⟩ := nextKeeps firstWorked
      obtain ⟨nextFinal, nextAnswers⟩ := nextTraffics.answered
      refine ⟨firstTraffic.followedBy nextTraffic, ⟨?_, ?_, ?_⟩, ?_⟩
      · exact ⟨nextFinal,
          (firstTraffics.channel_of_ok firstWorked).append nextAnswers⟩
      · intro channel final journal answers
        obtain ⟨middle, before, behind⟩ := answers.exists_between
        have onward := nextTraffics.determined
          (journal.noteAll firstTraffic.events) behind
        simp [firstTraffics.determined journal before, firstWorked, reconnected,
          onward, Traffic.followedBy, Journal.noteAll_append]
      · intro raised final worked
        simp only [bind_apply, firstWorked] at worked
        exact (nextTraffics.raised worked).mono
          (List.subset_append_right _ _)
      · intro exchange member
        rcases List.mem_append.1 member with before | behind
        · exact firstAllowed exchange before
        · exact nextAllowed exchange behind

theorem keepsTo_ite
    {condition : Prop}
    [Decidable condition]
    {positive negative : Work α}
    {bench : Bench}
    (positiveKeeps : condition → KeepsTo allowed positive bench)
    (negativeKeeps : ¬ condition → KeepsTo allowed negative bench) :
    KeepsTo allowed (if condition then positive else negative) bench := by
  split
  · exact positiveKeeps ‹_›
  · exact negativeKeeps ‹_›

/-! ## Single accesses to the bench -/

theorem keepsTo_pure
    (result : α)
    (bench : Bench) :
    KeepsTo allowed (pure result) bench :=
  .silent (fun _ _ => rfl) fun worked => nomatch worked

theorem keepsTo_fail
    {fault : Fault}
    (own : fault.isOwn = true)
    (bench : Bench) :
    KeepsTo allowed (fail fault : Work α) bench :=
  .silent (fun _ _ => rfl) fun worked => by
    cases worked
    exact own

theorem keepsTo_ofExcept
    {computed : Except Fault α}
    (own : ∀ fault, computed = .error fault → fault.isOwn = true)
    (bench : Bench) :
    KeepsTo allowed (ofExcept computed) bench := by
  cases computed with
  | ok result =>
      exact keepsTo_pure result bench
  | error fault =>
      exact keepsTo_fail (own fault rfl) bench

theorem keepsTo_note
    (event : Journal.Event)
    (bench : Bench) :
    KeepsTo allowed (note event) bench := by
  refine ⟨⟨[], [event]⟩, ⟨⟨_, .nothing⟩, ?_, fun worked => nomatch worked⟩, ?_⟩
  · intro channel final journal answers
    cases answers
    rfl
  · intro exchange member
    cases member

theorem keepsTo_stack
    (bench : Bench) :
    KeepsTo allowed stack bench :=
  .silent (fun _ _ => rfl) fun worked => nomatch worked

theorem keepsTo_setStack
    (replacement : Stack)
    (bench : Bench) :
    KeepsTo allowed (setStack replacement) bench :=
  .silent (fun _ _ => rfl) fun worked => nomatch worked

theorem keepsTo_push
    (cell : Cell)
    (bench : Bench) :
    KeepsTo allowed (push cell) bench :=
  .silent (fun _ _ => rfl) fun worked => nomatch worked

theorem keepsTo_append
    (cells : List Cell)
    (bench : Bench) :
    KeepsTo allowed (append cells) bench :=
  .silent (fun _ _ => rfl) fun worked => nomatch worked

theorem keepsTo_takeAll
    (bench : Bench) :
    KeepsTo allowed takeAll bench :=
  .silent (fun _ _ => rfl) fun worked => nomatch worked

theorem keepsTo_pop?
    (bench : Bench) :
    KeepsTo allowed pop? bench := by
  cases popped : bench.stack.pop? with
  | none =>
      refine .silent ?_ ?_ <;> simp [pop?_apply, popped, Bench.reconnected, reconnected]
  | some taken =>
      refine .silent ?_ ?_ <;> simp [pop?_apply, popped, Bench.reconnected, reconnected]

theorem keepsTo_takeTop
    (bench : Bench) :
    KeepsTo allowed takeTop bench := by
  refine (keepsTo_pop? bench).bind fun {taken after} _ => ?_
  cases taken with
  | none =>
      exact keepsTo_fail rfl after
  | some top =>
      exact keepsTo_pure top after

/-! ## Reading and writing -/

theorem keepsTo_readLine
    (mayRead : MayRead allowed)
    (bench : Bench) :
    KeepsTo allowed readLine bench := by
  cases given : bench.channel.read with
  | mk reading rest =>
      refine
        ⟨⟨[.read reading],
            if reading = .unreadable then [.unreadableLine] else []⟩,
          ⟨⟨rest, .read given .nothing⟩, ?_, ?_⟩, ?_⟩
      · intro channel final journal answers
        cases answers with
        | read otherGiven onward =>
            cases onward
            rw [readLine_apply, readLine_apply]
            simp only [Bench.reconnected, reconnected, given, otherGiven]
            split <;> rfl
      · intro fault after worked
        rw [readLine_apply] at worked
        cases worked
      · simpa using mayRead reading

theorem keepsTo_emit
    (mayWrite : MayWrite allowed)
    (emission : Emission)
    (bench : Bench) :
    KeepsTo allowed (emit emission) bench := by
  cases given : bench.channel.emit emission with
  | ok next =>
      refine
        ⟨⟨[.taken emission], []⟩,
          ⟨⟨next, .taken given .nothing⟩, ?_, ?_⟩, ?_⟩
      · intro channel final journal answers
        cases answers with
        | taken otherGiven onward =>
            cases onward
            simp [emit_apply, Bench.reconnected, reconnected, given, otherGiven]
      · intro fault after worked
        simp [emit_apply, given] at worked
      · simpa using (mayWrite emission).1
  | error next =>
      refine
        ⟨⟨[.refused emission], []⟩,
          ⟨⟨next, .refused given .nothing⟩, ?_, ?_⟩, ?_⟩
      · intro channel final journal answers
        cases answers with
        | refused otherGiven onward =>
            cases onward
            simp [emit_apply, Bench.reconnected, reconnected, given, otherGiven]
      · intro fault after worked
        simp only [emit_apply, given] at worked
        cases worked
        exact .inr ⟨rfl, emission, by simp⟩
      · simpa using (mayWrite emission).2

theorem keepsTo_readIntegers
    (mayRead : MayRead allowed)
    (bench : Bench) :
    KeepsTo allowed readIntegers bench := by
  obtain ⟨readings, answers, determined⟩ :=
    bench.channel.exists_readings_of_readIntegers
  refine
    ⟨⟨readings.map .read,
        if bench.channel.readIntegers.2.1 = .unreadable then
          [.unreadableLine]
        else
          []⟩,
      ⟨⟨_, answers⟩, ?_, ?_⟩, ?_⟩
  · intro channel final journal otherAnswers
    have again := determined otherAnswers
    rw [readIntegers_apply, readIntegers_apply]
    simp only [Bench.reconnected, again]
    cases bench.channel.readIntegers.2.1 <;> rfl
  · intro fault after worked
    rw [readIntegers_apply] at worked
    cases ended : bench.channel.readIntegers.2.1 with
    | complete | unreadable =>
        simp [ended] at worked
    | notInteger line =>
        simp only [ended] at worked
        cases worked
        exact .inl rfl
  · intro exchange member
    obtain ⟨reading, -, rfl⟩ := List.mem_map.1 member
    exact mayRead reading

end Work

end StackTape
