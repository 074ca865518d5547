import StackTape.Proofs.CallerNumbers
import StackTape.Proofs.Exhaustion
import StackTape.Proofs.Printing
import StackTape.Proofs.Readings

namespace StackTape

/-!
# The whole input at once

Reading all numbers goes on until a reading gives none: at an empty line, at the end of the
input, or at a line that is no integer.  What one program writes with all numbers, a number
on a line, another one reads so: it comes to the end of its input with the same numbers on
its stack, in the same order, whether the text arrives as lines or as bytes.
-/

namespace Channel

/-- The next lines hold these integers, and behind them the channel is the other one. -/
inductive GivesIntegers : Channel → List Int → Channel → Prop where
  | nothing
      {channel : Channel} :
      GivesIntegers channel [] channel
  | next
      {channel final : Channel}
      {value : Int}
      {rest : List Int}
      (filled : channel.read.1.fill = .ok (some value))
      (onward : GivesIntegers channel.read.2 rest final) :
      GivesIntegers channel (value :: rest) final

section

variable {channel : Channel}

/-- These integers are the first ones of all that are read. -/
theorem readIntegers_of_gives
    {values : List Int}
    {middle : Channel}
    (gives : channel.GivesIntegers values middle) :
    channel.readIntegers =
      (values ++ middle.readIntegers.1, middle.readIntegers.2) := by
  induction gives with
  | nothing =>
      rfl
  | next filled _ inductionHypothesis =>
      obtain ⟨line, isLine, nonempty, spelled⟩ := Reading.exists_line_of_fill filled
      rw [readIntegers_of_integer (Prod.ext isLine rfl) nonempty spelled,
        inductionHypothesis]
      rfl

/-- An empty line or the end of the input ends the reading. -/
theorem readIntegers_of_nothing
    (ended : channel.read.1.fill = .ok none) :
    channel.readIntegers =
      ([], if channel.read.1 = .unreadable then .unreadable else .complete,
        channel.read.2) := by
  rw [readIntegers]
  split
  · simp_all
  · simp_all
  · rename_i line rest given
    by_cases empty : line = []
    · simp [given, empty]
    · cases spelled : Cell.integerOfLine? line <;>
        simp [given, Reading.fill, Reading.line?, empty, spelled] at ended

/-- So does a line that is no integer. -/
theorem readIntegers_of_refused
    {line : Text}
    (refused : channel.read.1.fill = .error line) :
    channel.readIntegers = ([], .notInteger line, channel.read.2) := by
  obtain ⟨isLine, nonempty, unspelled⟩ := Reading.eq_line_of_fill refused
  exact readIntegers_of_notInteger (Prod.ext isLine rfl) nonempty unspelled

end

/-- Every channel gives integers up to a reading that is none. -/
theorem exists_gives
    (channel : Channel) :
    ∃ values middle,
      channel.GivesIntegers values middle ∧
        (middle.read.1.fill = .ok none ∨
          ∃ line, middle.read.1.fill = .error line) := by
  fun_induction readIntegers channel with
  | case1 channel rest given | case2 channel rest given | case3 channel rest given =>
      exact ⟨[], channel, .nothing, .inl (by rw [given]; rfl)⟩
  | case4 channel line rest given nonempty unspelled =>
      refine ⟨[], channel, .nothing, .inr ⟨line, ?_⟩⟩
      simp [given, Reading.fill, Reading.line?, nonempty, unspelled]
  | case5 channel line rest given nonempty value spelled _ others ending final _
      inductionHypothesis =>
      obtain ⟨values, middle, gives, ended⟩ := inductionHypothesis
      refine ⟨value :: values, middle, .next ?_ ?_, ended⟩
      · simp [given, Reading.fill, Reading.line?, nonempty, spelled]
      · rwa [given]

/-- Which integers these are is determined by where no more integer is read. -/
theorem GivesIntegers.unique
    {channel middle last : Channel}
    {values others : List Int}
    (gives : channel.GivesIntegers values middle)
    (ended : ∀ value, middle.read.1.fill ≠ .ok (some value))
    (givesOthers : channel.GivesIntegers others last)
    (endedToo : ∀ value, last.read.1.fill ≠ .ok (some value)) :
    values = others ∧ middle = last := by
  induction gives generalizing others with
  | nothing =>
      cases givesOthers with
      | nothing =>
          exact ⟨rfl, rfl⟩
      | next filled _ =>
          exact absurd filled (ended _)
  | next filled _ inductionHypothesis =>
      cases givesOthers with
      | nothing =>
          exact absurd filled (endedToo _)
      | next filledToo onwardToo =>
          obtain ⟨rfl, rfl⟩ := inductionHypothesis ended onwardToo
          rw [filled] at filledToo
          cases filledToo
          exact ⟨rfl, rfl⟩

end Channel

namespace Work

variable {bench : Bench}
variable {values : List Int}
variable {middle : Channel}

/-- All integers up to an empty line or the end of the input end up on the stack. -/
theorem readIntegers_of_gives_nothing
    (gives : bench.channel.GivesIntegers values middle)
    (ended : middle.read.1.fill = .ok none) :
    ∃ journal,
      readIntegers bench =
        .ok ()
          { bench with
            stack := bench.stack.append (values.map .int)
            channel := middle.read.2
            journal := journal } := by
  rw [readIntegers_apply, Channel.readIntegers_of_gives gives,
    Channel.readIntegers_of_nothing ended]
  by_cases unreadable : middle.read.1 = .unreadable
  · exact ⟨bench.journal.note .unreadableLine, by simp [unreadable]⟩
  · exact ⟨bench.journal, by simp [unreadable]⟩

/-- Up to a line that is no integer they do as well, and the reading fails. -/
theorem readIntegers_of_gives_refused
    (gives : bench.channel.GivesIntegers values middle)
    {line : Text}
    (refused : middle.read.1.fill = .error line) :
    readIntegers bench =
      .error (.notInteger line)
        { bench with
          stack := bench.stack.append (values.map .int)
          channel := middle.read.2 } := by
  rw [readIntegers_apply, Channel.readIntegers_of_gives gives,
    Channel.readIntegers_of_refused refused]
  simp

end Work

/-! ## Numbers that another program wrote -/

/-- The text of numbers, one on a line. -/
def Text.ofNumbers (values : List Int) : Text :=
  List.intercalate ['\n'] (values.map Decimal.ofInteger)

namespace LineSource

/-- Such a text is cut into the texts of the numbers. -/
theorem ofText_ofNumbers
    (values : List Int) :
    ofText (Text.ofNumbers values) =
      .lines (values.map Decimal.ofInteger) := by
  have plain : ∀ line ∈ values.map Decimal.ofInteger, line.IsPlainLine := by
    intro line member
    obtain ⟨value, -, rfl⟩ := List.mem_map.1 member
    exact Cell.isPlainLine_text (.int value)
  rw [ofText, Text.ofNumbers, Text.lines_intercalate_feed plain]

/-- A source that reads like the texts of numbers gives these numbers. -/
theorem ReadsAlike.gives
    {source : LineSource}
    {values : List Int}
    (alike : source.ReadsAlike (.lines (values.map Decimal.ofInteger)))
    (sink : Sink) :
    ∃ rest : LineSource,
      (Channel.console source sink).GivesIntegers values (.console rest sink) ∧
        rest.ReadsAlike (.lines []) := by
  induction values generalizing source with
  | nil =>
      exact ⟨source, .nothing, alike⟩
  | cons value others inductionHypothesis =>
      obtain ⟨now, afterwards⟩ := alike.read
      obtain ⟨rest, gives, behind⟩ := inductionHypothesis afterwards
      refine ⟨rest, .next ?_ gives, behind⟩
      change source.read.1.fill = _
      rw [now]
      exact Reading.fill_text_int value

end LineSource

/-- Nothing but this text was written, and this source is left to read. -/
def Channel.Shows
    (channel : Channel)
    (source : LineSource)
    (shown : Text) : Prop :=
  ∃ newest,
    channel = .console source (.text newest) ∧ (Sink.text newest).output = shown

namespace Channel.Shows

variable {channel : Channel}
variable {source : LineSource}
variable {shown : Text}

/-- One more text is written behind what was written before. -/
theorem emit_text
    (shows : channel.Shows source shown)
    (text : Text) :
    ∃ after,
      channel.emit (.text text) = .ok after ∧ after.Shows source (shown ++ text) := by
  obtain ⟨newest, rfl, rfl⟩ := shows
  have written : (Sink.text newest).emit (.text text) = .ok (.text (text :: newest)) :=
    rfl
  exact ⟨_, rfl, _, rfl, Sink.output_of_emit written⟩

end Channel.Shows

namespace Work

theorem readIfEmpty_of_empty
    {bench : Bench}
    (empty : bench.stack = .empty) :
    readIfEmpty bench = readIntegers bench := by
  rw [readIfEmpty, bind_apply, stack_apply, empty]
  rfl

theorem readIfEmpty_of_nonempty
    {bench : Bench}
    (nonempty : bench.stack.toList ≠ []) :
    readIfEmpty bench = .ok () bench := by
  simp [readIfEmpty, nonempty]

/-- Once the stack is filled, its numbers are written as one text. -/
theorem writeNumbers_of_filled
    {bench filled : Bench}
    {after : Channel}
    (fills : readIfEmpty bench = .ok () filled)
    (emitted :
      filled.channel.emit
          (.text (List.intercalate ['\n'] (filled.stack.toList.map Cell.text))) =
        .ok after) :
    writeNumbers bench = .ok () { filled with stack := .empty, channel := after } := by
  simp only [writeNumbers, bind_apply, fills, takeAll_apply, emit_apply, emitted]

/--
All numbers of the stack are written behind what was written before.  An empty stack is
filled first, which comes to nothing at the end of the input.
-/
theorem writeNumbers_of_shows
    {bench : Bench}
    {values : List Int}
    {source : LineSource}
    {shown : Text}
    (stack : bench.stack = .ofList (values.map .int))
    (shows : bench.channel.Shows source shown)
    (ended : values = [] → source.read.1.fill = .ok none) :
    ∃ rest after journal,
      writeNumbers bench =
          .ok () { bench with stack := .empty, channel := after, journal := journal } ∧
        after.Shows rest
          (shown ++ Text.ofNumbers values) ∧
        (values ≠ [] → rest = source) := by
  have written :
      List.intercalate ['\n'] (bench.stack.toList.map Cell.text) =
        Text.ofNumbers values := by
    rw [stack, Stack.toList_ofList]
    exact congrArg (List.intercalate ['\n']) List.map_map
  by_cases nothing : values = []
  · obtain ⟨newest, channel, output⟩ := shows
    have empty : bench.stack = .empty := by
      rw [stack, nothing]
      rfl
    have endedHere : bench.channel.read.1.fill = .ok none := by
      rw [channel]
      exact ended nothing
    obtain ⟨journal, fills⟩ := readIntegers_of_gives_nothing .nothing endedHere
    rw [← readIfEmpty_of_empty empty] at fills
    have showsStill : bench.channel.read.2.Shows source.read.2 shown :=
      ⟨newest, by rw [channel]; rfl, output⟩
    obtain ⟨after, emitted, showsMore⟩ :=
      showsStill.emit_text (Text.ofNumbers values)
    rw [← written] at emitted
    exact ⟨source.read.2, after, journal, writeNumbers_of_filled fills emitted, showsMore,
      absurd nothing⟩
  · have fills : readIfEmpty bench = .ok () bench :=
      readIfEmpty_of_nonempty (by simp [stack, nothing])
    obtain ⟨after, emitted, showsMore⟩ :=
      shows.emit_text (Text.ofNumbers values)
    rw [← written] at emitted
    exact ⟨source, after, bench.journal, writeNumbers_of_filled fills emitted, showsMore,
      fun _ => rfl⟩

end Work

namespace Invocation

/-- A program that stops with an empty stack writes nothing more. -/
theorem run_of_stopping
    {invocation : Invocation}
    {source : LineSource}
    {shown : Text}
    (running : invocation.halt = none)
    (empty : invocation.stack = .empty)
    (shows : invocation.channel.Shows source shown)
    (stops :
      invocation.instruction? = none ∨ invocation.dispatched? = some .terminate)
    (limit budget : Nat) :
    ∃ stopped,
      invocation.run limit (budget + 1) = .done stopped ∧
        stopped.halt.isSome = true ∧
        stopped.channel.Shows source shown := by
  suffices
      ∃ stopped,
        stepWith limit (run limit budget) invocation = .done stopped ∧
          stopped.halt.isSome = true ∧
          stopped.channel.Shows source shown by
    obtain ⟨stopped, stepped, halted, shows⟩ := this
    refine ⟨stopped, ?_, halted, shows⟩
    rw [run_succ_of_done running stepped, run_of_halted limit budget halted]
  rcases stops with ended | terminates
  · obtain ⟨after, emitted, showsStill⟩ := shows.emit_text []
    rw [List.append_nil] at showsStill
    have noCell : invocation.bench.stack = .empty := empty
    have onBench : invocation.bench.channel.emit (.text []) = .ok after := emitted
    obtain ⟨bench, output, showsOnBench⟩ :
        ∃ bench,
          outputStack invocation.isFunction invocation.bench = .ok () bench ∧
            bench.channel.Shows source shown := by
      cases isFunction : invocation.isFunction with
      | true =>
          exact ⟨{ invocation.bench with
              journal := invocation.bench.journal.note .implicitOutput },
            by simp [outputStack, noCell], shows⟩
      | false =>
          refine ⟨{ invocation.bench with
              channel := after
              journal := invocation.bench.journal.note .implicitOutput },
            ?_, showsStill⟩
          simp [outputStack, noCell, Work.emit_apply, onBench]
    rw [stepWith_of_ended limit _ running ended]
    exact ⟨_, congrArg (Outcome.passOn _ _) (working_of_ok output), rfl, showsOnBench⟩
  · obtain ⟨instruction, present, -⟩ := dispatched?_eq_some_iff.1 terminates
    rw [stepWith_of_performed limit _ running present terminates]
    exact ⟨_, rfl, rfl, shows⟩

/--
What one program writes with all numbers of its stack, a number on a line, is read by
another program with all numbers of its input.  Into an empty text the first one writes the
numbers, and if it stops then, nothing comes behind them; with an empty stack it needs the
end of its input for that.  The second one, on an empty stack and with that text as its
input, be it as lines or as bytes, comes to have the same numbers on its stack, in the same
order, and from then on every reading finds the input exhausted.
-/
theorem written_numbers_read_back
    (values : List Int)
    (limit budget : Nat) :
    (∀ (writer : Invocation) (source : LineSource),
        writer.AtTask true .writeNumber →
        writer.stack = .ofList (values.map .int) →
        writer.channel.Shows source [] →
        (values = [] → source.read.1.fill = .ok none) →
        ∃ wrote rest,
          writer.step limit budget = .done wrote ∧
            wrote.halt = none ∧
            wrote.cursor = writer.cursor + 1 ∧
            wrote.stack = .empty ∧
            wrote.channel.Shows rest (.ofNumbers values) ∧
            (values ≠ [] → rest = source) ∧
            (wrote.instruction? = none ∨ wrote.dispatched? = some .terminate →
              ∃ stopped,
                wrote.run limit (budget + 1) = .done stopped ∧
                  stopped.halt.isSome = true ∧
                  stopped.channel.Shows rest (.ofNumbers values))) ∧
      ∀ (reader : Invocation) (source : LineSource) (sink : Sink),
        reader.AtTask true .readNumber →
        reader.stack = .empty →
        reader.channel = .console source sink →
        source = .ofText (.ofNumbers values) ∨
            source = .bytes (Text.ofNumbers values).encode →
        ∃ read rest,
          reader.step limit budget = .done read ∧
            read.halt = none ∧
            read.cursor = reader.cursor + 1 ∧
            read.stack = .ofList (values.map .int) ∧
            read.channel = .console rest sink ∧
            ∀ count, rest.reading count = .exhausted := by
  refine ⟨?written, ?readBack⟩
  case written =>
    intro writer source atTask stack shows ended
    obtain ⟨instruction, present⟩ := atTask.exists_instruction
    have onBench :
        (writer.announcing instruction).bench.stack = .ofList (values.map .int) := stack
    obtain ⟨rest, after, journal, worked, showsMore, unread⟩ :=
      Work.writeNumbers_of_shows onBench shows ended
    have stepped := atTask.step_of_ok present worked limit budget
    refine ⟨_, rest, stepped, atTask.running, rfl, rfl, showsMore, unread, ?_⟩
    exact fun stops =>
      run_of_stopping (by exact atTask.running) (by rfl) showsMore stops limit budget
  case readBack =>
    intro reader source sink atTask empty channel isWritten
    have alike : source.ReadsAlike (.lines (values.map Decimal.ofInteger)) := by
      rw [← LineSource.ofText_ofNumbers values]
      rcases isWritten with rfl | rfl
      · exact fun _ => rfl
      · exact LineSource.readsAlike_encode _
    obtain ⟨rest, gives, behind⟩ := alike.gives sink
    have ended : (Channel.console rest sink).read.1.fill = .ok none := by
      have nothing := behind.read.1
      change rest.read.1.fill = _
      rw [nothing]
      rfl
    obtain ⟨instruction, present⟩ := atTask.exists_instruction
    have onBench :
        (reader.announcing instruction).bench.channel.GivesIntegers values
          (.console rest sink) := by
      change reader.channel.GivesIntegers _ _
      rwa [channel]
    obtain ⟨journal, worked⟩ := Work.readIntegers_of_gives_nothing onBench ended
    have stepped := atTask.step_of_ok present worked limit budget
    refine ⟨_, rest.read.2, stepped, atTask.running, rfl, ?_, rfl, fun count => ?_⟩
    · change reader.stack.append _ = _
      rw [empty, Stack.empty_append]
    · exact (behind.read.2 count).trans (LineSource.reading_of_exhausted rfl count)

/-- A negative number, zero and a large one, through a program that stops and as bytes. -/
theorem written_numbers_read_back_through_bytes :
    let values : List Int := [-12, 0, 0x100000000000000000]
    let shown : Text := "-12\n0\n295147905179352825856".toList
    let program (code : Text) (source : LineSource) (stack : Stack) :=
      ((start code (.console source (.text [])) (.blank .error) default).withStack
        stack).withCursor 1
    let writer := program ['&', 'u', ';'] .emptyLines (.ofList (values.map .int))
    let reader := program ['&', 'n'] (.bytes shown.encode) .empty
    (∃ wrote stopped,
        writer.step 0 0 = .done wrote ∧
          wrote.run 0 1 = .done stopped ∧
          stopped.channel.Shows .emptyLines shown) ∧
      ∃ read rest,
        reader.step 0 0 = .done read ∧
          read.stack.toList = values.map .int ∧
          read.channel = .console rest (.text []) ∧
          rest.reading 0 = .exhausted := by
  intro values shown program writer reader
  have text : Text.ofNumbers values = shown := by
    decide +kernel
  have both := written_numbers_read_back values 0 0
  rw [text] at both
  obtain ⟨writes, reads⟩ := both
  constructor
  · have atTask : writer.AtTask true .writeNumber := ⟨rfl, rfl, rfl⟩
    obtain ⟨wrote, rest, stepped, -, -, -, -, unread, stops⟩ :=
      writes writer .emptyLines atTask rfl ⟨[], rfl, rfl⟩ nofun
    obtain rfl := unread (List.cons_ne_nil _ _)
    have atEnd : wrote.dispatched? = some .terminate := by
      cases stepped
      rfl
    obtain ⟨stopped, ran, -, shows⟩ := stops (.inr atEnd)
    exact ⟨wrote, stopped, stepped, ran, shows⟩
  · have atTask : reader.AtTask true .readNumber := ⟨rfl, rfl, rfl⟩
    obtain ⟨read, rest, stepped, -, -, stack, channel, exhausted⟩ :=
      reads reader _ _ atTask rfl rfl (.inr rfl)
    exact ⟨read, rest, stepped, by rw [stack, Stack.toList_ofList], channel,
      exhausted 0⟩

end Invocation

end StackTape
