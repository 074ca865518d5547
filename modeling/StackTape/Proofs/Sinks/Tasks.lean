import StackTape.Proofs.Sinks
import StackTape.Proofs.Traffic.Runs

namespace StackTape

/-!
# Tasks and sinks

A program's work does not depend on the sink of its console.  It writes a row of
emissions; a sink that takes them all makes no difference, and one that refuses one of
them ends the work right there.  Most work writes nothing, as its traffic tells; what
writes is put together from single emissions.
-/

namespace Channel.Answers

/-- Readings use up the source, whatever the sink is. -/
theorem of_reads
    {source : LineSource}
    {sink : Sink}
    {exchanges : List Exchange}
    {final : Channel}
    (answers : Answers (.console source sink) exchanges final)
    (reads : ∀ exchange ∈ exchanges, exchange.isRead = true) :
    ∃ rest,
      ∀ other, Answers (.console source other) exchanges (.console rest other) := by
  induction exchanges generalizing source with
  | nil =>
      exact ⟨source, fun other => .nothing⟩
  | cons exchange later inductionHypothesis =>
      cases answers with
      | read given onward =>
          cases given
          obtain ⟨rest, behind⟩ :=
            inductionHypothesis onward fun other member => reads other (.tail _ member)
          exact ⟨rest, fun other => .read rfl (behind other)⟩
      | taken | refused =>
          simp [Exchange.isRead] at reads

end Channel.Answers

namespace Bench

/-- The bench with another channel. -/
def onChannel
    (bench : Bench)
    (channel : Channel) : Bench :=
  { bench with channel := channel }

end Bench

namespace Work

variable {α β : Type}

/-- The result of work, on a bench with another channel. -/
def onChannel (channel : Channel) :
    EStateM.Result Fault Bench α → EStateM.Result Fault Bench α
  | .ok result bench =>
      .ok result (bench.onChannel channel)
  | .error fault bench =>
      .error fault (bench.onChannel channel)

/--
On a console with this source the work writes these emissions and comes to this result,
up to the channel.  If the sink refuses one of them the work fails there.
-/
structure Writes
    (work : Work α)
    (bench : Bench)
    (source rest : LineSource)
    (written : List Emission)
    (result : EStateM.Result Fault Bench α) : Prop where
  taken :
    ∀ {sink final : Sink},
      sink.emitAll written = .ok final →
      work (bench.onChannel (.console source sink)) =
        onChannel (.console rest final) result
  refused :
    ∀ {sink refusing : Sink},
      sink.emitAll written = .error refusing →
      ∃ left after,
        work (bench.onChannel (.console source sink)) =
            .error (.outputRefused Sink.refusal) after ∧
          after.channel = .console left refusing

/-- What the work writes and comes to is the same for all sinks. -/
def WritesAlike (work : Work α) : Prop :=
  ∀ bench source,
    ∃ rest written result, Writes work bench source rest written result

namespace WritesAlike

/-- Work that may only read writes nothing. -/
theorem of_keepsTo
    {work : Work α}
    (keeps :
      ∀ bench, KeepsTo (fun exchange => exchange.isRead = true) work bench) :
    WritesAlike work := by
  intro bench source
  obtain ⟨traffic, traffics, reads⟩ :=
    keeps (bench.onChannel (.console source (.emissions [])))
  obtain ⟨final, answers⟩ := traffics.answered
  obtain ⟨rest, alike⟩ := answers.of_reads reads
  have same (sink : Sink) :
      work (bench.onChannel (.console source sink)) =
        reconnected (.console rest sink)
          (bench.journal.noteAll traffic.events)
          (work (bench.onChannel (.console source (.emissions [])))) :=
    traffics.determined bench.journal (alike sink)
  refine ⟨rest, [],
    work (bench.onChannel (.console source (.emissions []))), ?_, nofun⟩
  intro sink after taken
  cases taken
  rw [same sink, same (.emissions [])]
  cases work (bench.onChannel (.console source (.emissions []))) <;> rfl

/-- Work in sequence writes what its parts write. -/
theorem bind
    {first : Work α}
    {next : α → Work β}
    (firstAlike : WritesAlike first)
    (nextAlike : ∀ result, WritesAlike (next result)) :
    WritesAlike (first >>= next) := by
  intro bench source
  obtain ⟨middle, early, firstResult, firstWrites⟩ := firstAlike bench source
  cases firstResult with
  | error fault after =>
      refine ⟨middle, early, .error fault after, ?_, ?_⟩
      · intro sink final taken
        rw [bind_apply, firstWrites.taken taken]
        rfl
      · intro sink refusing refused
        obtain ⟨left, after, worked, held⟩ := firstWrites.refused refused
        exact ⟨left, after, by rw [bind_apply, worked], held⟩
  | ok result after =>
      obtain ⟨rest, late, lastResult, nextWrites⟩ := nextAlike result after middle
      refine ⟨rest, early ++ late, lastResult, ?_, ?_⟩
      · intro sink final taken
        rw [Sink.emitAll_append] at taken
        cases between : sink.emitAll early with
        | error refusing =>
            rw [between] at taken
            cases taken
        | ok full =>
            rw [between] at taken
            rw [bind_apply, firstWrites.taken between]
            exact nextWrites.taken taken
      · intro sink refusing refused
        rw [Sink.emitAll_append] at refused
        cases between : sink.emitAll early with
        | error full =>
            rw [between] at refused
            cases refused
            obtain ⟨left, after, worked, held⟩ := firstWrites.refused between
            exact ⟨left, after, by rw [bind_apply, worked], held⟩
        | ok full =>
            rw [between] at refused
            rw [bind_apply, firstWrites.taken between]
            exact nextWrites.refused refused

end WritesAlike

/-- An emission is what it writes. -/
theorem writesAlike_emit
    (emission : Emission) :
    WritesAlike (emit emission) := by
  intro bench source
  refine ⟨source, [emission], .ok () bench, ?_, ?_⟩
  · intro sink final taken
    rw [Sink.emitAll_singleton] at taken
    simp [emit_apply, Bench.onChannel, Channel.emit, taken, onChannel]
  · intro sink refusing refused
    rw [Sink.emitAll_singleton] at refused
    exact ⟨source, bench.onChannel (.console source refusing),
      by simp [emit_apply, Bench.onChannel, Channel.emit, refused], rfl⟩

/-! ## What writes -/

/-- All that work which writes nothing may do. -/
theorem mayRead_of_isRead :
    MayRead fun exchange => exchange.isRead = true :=
  fun _ => rfl

theorem writesAlike_character
    (cell : Cell) :
    WritesAlike
      (do
        let c ← ofExcept cell.character
        emit (.character c)) := by
  have computed : WritesAlike (ofExcept cell.character) :=
    .of_keepsTo (keepsTo_ofExcept (Cell.ownOnly_character cell))
  exact computed.bind fun c => writesAlike_emit _

theorem writesAlike_writeCharacter :
    WritesAlike writeCharacter := by
  have taken : WritesAlike takeTop :=
    .of_keepsTo keepsTo_takeTop
  exact taken.bind writesAlike_character

theorem writesAlike_writeNumber :
    WritesAlike writeNumber := by
  have taken : WritesAlike takeTop :=
    .of_keepsTo keepsTo_takeTop
  exact taken.bind fun _ => writesAlike_emit _

theorem writesAlike_writeCells
    (cells : List Cell) :
    WritesAlike (writeCells cells) := by
  induction cells with
  | nil =>
      exact .of_keepsTo (keepsTo_pure _)
  | cons cell rest inductionHypothesis =>
      have computed : WritesAlike (ofExcept cell.character) :=
        .of_keepsTo (keepsTo_ofExcept (Cell.ownOnly_character cell))
      exact computed.bind fun c =>
        (writesAlike_emit _).bind fun _ => inductionHypothesis

theorem writesAlike_writeCharacters :
    WritesAlike writeCharacters := by
  have looked : WritesAlike stack :=
    .of_keepsTo keepsTo_stack
  have written : WritesAlike (takeAll >>= writeCells) :=
    WritesAlike.bind (.of_keepsTo keepsTo_takeAll) writesAlike_writeCells
  have filled (line : Text) :
      WritesAlike (append (line.map Cell.ofChar)) :=
    .of_keepsTo (keepsTo_append _)
  have given : WritesAlike readLineOrEmpty :=
    .of_keepsTo (keepsTo_readLineOrEmpty mayRead_of_isRead)
  refine looked.bind fun stack => ?_
  split
  · exact given.bind fun line => (filled line).bind fun _ => written
  · exact written

theorem writesAlike_writeNumbers :
    WritesAlike writeNumbers := by
  have filled : WritesAlike readIfEmpty :=
    .of_keepsTo fun _ => keepsTo_readIfEmpty fun _ => mayRead_of_isRead
  have taken : WritesAlike takeAll :=
    .of_keepsTo keepsTo_takeAll
  exact filled.bind fun _ => taken.bind fun _ => writesAlike_emit _

/-- Every task writes the same, whatever the sink is. -/
theorem writesAlike_perform
    (whole : Bool)
    (task : Task) :
    WritesAlike (task.perform whole) := by
  by_cases writes : task.isWriter = true
  · cases task with
    | writeCharacter =>
        cases whole with
        | true => exact writesAlike_writeCharacters
        | false => exact writesAlike_writeCharacter
    | writeNumber =>
        cases whole with
        | true => exact writesAlike_writeNumbers
        | false => exact writesAlike_writeNumber
    | _ =>
        cases writes
  · exact .of_keepsTo fun bench =>
      keepsTo_perform whole task (fun _ => mayRead_of_isRead)
        fun writer => absurd writer writes

/-- So does the output at the end of the text. -/
theorem writesAlike_outputStack
    (isFunction : Bool) :
    WritesAlike (Invocation.outputStack isFunction) := by
  have noted : WritesAlike (note .implicitOutput) :=
    .of_keepsTo (keepsTo_note _)
  have looked : WritesAlike stack :=
    .of_keepsTo keepsTo_stack
  have listed (cells : List Cell) :
      WritesAlike (cells.forM fun cell => emit (.number cell)) := by
    induction cells with
    | nil =>
        exact .of_keepsTo (keepsTo_pure _)
    | cons cell rest inductionHypothesis =>
        exact (writesAlike_emit _).bind fun _ => inductionHypothesis
  refine noted.bind fun _ => looked.bind fun stack => ?_
  cases isFunction with
  | true =>
      exact listed stack.toList
  | false =>
      exact writesAlike_emit _

end Work

end StackTape
