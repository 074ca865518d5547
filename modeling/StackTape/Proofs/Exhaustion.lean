import StackTape.Proofs.Readings
import StackTape.Proofs.Traffic.Runs

namespace StackTape

/-!
# The end of the input

A source that is at its end stays there, and whoever reads on finds it exhausted.  A line
of bytes that is no text gives no line either, and reads like the end; but it is used up,
and the lines behind it are still to come.
-/

/-- Without a line, the source is exhausted or the line was no text. -/
theorem Reading.exhausted_or_unreadable
    {reading : Reading}
    (noLine : reading.line? = none) :
    reading = .exhausted ∨ reading = .unreadable := by
  cases reading with
  | line text =>
      cases noLine
  | exhausted =>
      exact .inl rfl
  | unreadable =>
      exact .inr rfl

namespace LineSource

/-- The source after a number of readings. -/
def after : Nat → LineSource → LineSource
  | 0, source =>
      source
  | count + 1, source =>
      after count source.read.2

theorem reading_add
    (count later : Nat)
    (source : LineSource) :
    source.reading (count + later) = (source.after count).reading later := by
  induction count generalizing source with
  | zero =>
      rw [Nat.zero_add]
      rfl
  | succ count inductionHypothesis =>
      rw [Nat.add_right_comm]
      exact inductionHypothesis source.read.2

/-- Reading at the end leaves the source as it is. -/
theorem read_of_exhausted
    {source : LineSource}
    (exhausted : source.read.1 = .exhausted) :
    source.read.2 = source := by
  cases source with
  | exhausted | emptyLines =>
      rfl
  | lines pending =>
      cases pending with
      | nil =>
          rfl
      | cons first rest =>
          cases exhausted
  | bytes pending =>
      cases pending with
      | nil =>
          rfl
      | cons first rest =>
          simp only [read] at exhausted
          split at exhausted <;> cases exhausted

/-- A source that is at its end stays there. -/
theorem reading_of_exhausted
    {source : LineSource}
    (exhausted : source.read.1 = .exhausted)
    (later : Nat) :
    source.reading later = .exhausted := by
  induction later with
  | zero =>
      exact exhausted
  | succ later inductionHypothesis =>
      rw [reading, read_of_exhausted exhausted]
      exact inductionHypothesis

/-- Reading a line of bytes that does not decode. -/
theorem read_bytes_of_undecoded
    {bytes line rest : List UInt8}
    (nonempty : bytes ≠ [])
    (split : splitFeed bytes = (line, rest))
    (undecoded : decode? line = none) :
    (LineSource.bytes bytes).read = (.unreadable, .bytes rest) := by
  cases bytes with
  | nil =>
      exact absurd rfl nonempty
  | cons first others =>
      simp [read, split, undecoded]

/-- A line of bytes that is no text is used up. -/
theorem read_of_unreadable
    {source : LineSource}
    (unreadable : source.read.1 = .unreadable) :
    ∃ pending,
      source = .bytes pending ∧
        pending ≠ [] ∧
        decode? (splitFeed pending).1 = none ∧
        source.read.2 = .bytes (splitFeed pending).2 := by
  cases source with
  | exhausted | emptyLines =>
      cases unreadable
  | lines pending =>
      cases pending <;> cases unreadable
  | bytes pending =>
      cases pending with
      | nil =>
          cases unreadable
      | cons first rest =>
          simp only [read] at unreadable
          split at unreadable
          · cases unreadable
          · rename_i undecoded
            have nonempty := List.cons_ne_nil first rest
            exact ⟨first :: rest, rfl, nonempty, undecoded,
              congrArg Prod.snd (read_bytes_of_undecoded nonempty rfl undecoded)⟩

/-- Lines are texts. -/
theorem reading_lines_ne_unreadable
    (pending : List Text)
    (count : Nat) :
    (LineSource.lines pending).reading count ≠ .unreadable := by
  induction count generalizing pending with
  | zero =>
      cases pending <;> exact nofun
  | succ count inductionHypothesis =>
      cases pending with
      | nil =>
          exact inductionHypothesis []
      | cons first rest =>
          exact inductionHypothesis rest

/-- Bytes that decode are those of their text. -/
theorem eq_encode_of_decode?
    {bytes : List UInt8}
    {text : Text}
    (decoded : decode? bytes = some text) :
    bytes = text.encode := by
  have valid : bytes.toByteArray.utf8Decode?.isSome = true := by
    rw [← Option.isSome_map, ← decode?, decoded]
    rfl
  obtain ⟨characters, encoded⟩ := ByteArray.isSome_utf8Decode?_iff.1 valid
  have same : bytes = Text.encode characters := List.toByteArray_inj.1 encoded
  rw [same, decode?_encode] at decoded
  cases decoded
  exact same

/-- Whether all of the source is text; bytes are if they are UTF-8. -/
def isText : LineSource → Bool
  | .exhausted | .emptyLines | .lines _ =>
      true
  | .bytes pending =>
      (decode? pending).isSome

theorem reading_ne_unreadable
    {source : LineSource}
    (isText : source.isText = true)
    (count : Nat) :
    source.reading count ≠ .unreadable := by
  cases source with
  | exhausted =>
      rw [reading_of_exhausted rfl]
      exact nofun
  | emptyLines =>
      induction count with
      | zero =>
          exact nofun
      | succ count inductionHypothesis =>
          exact inductionHypothesis
  | lines pending =>
      exact reading_lines_ne_unreadable pending count
  | bytes pending =>
      obtain ⟨text, decoded⟩ := Option.isSome_iff_exists.1 isText
      rw [eq_encode_of_decode? decoded, readsAlike_encode text count]
      exact reading_lines_ne_unreadable text.lines count

/-- What is behind the first line of bytes is shorter than they are. -/
theorem length_splitFeed_lt
    {pending line others : List UInt8}
    (nonempty : pending ≠ [])
    (split : splitFeed pending = (line, others)) :
    others.length < pending.length := by
  have whole := splitFeed_append pending
  rw [split] at whole
  cases pending with
  | nil =>
      exact absurd rfl nonempty
  | cons first rest =>
      have consumed : line ≠ [] := by
        simp only [splitFeed] at split
        split at split <;> cases split <;> exact List.cons_ne_nil _ _
      rw [← whole, List.length_append]
      exact Nat.lt_add_of_pos_left (List.length_pos_iff.2 consumed)

/-- Among the lines of bytes that are not UTF-8 there is one that is not. -/
theorem exists_unreadable_of_decode?
    {pending : List UInt8}
    (undecoded : decode? pending = none) :
    ∃ count, (LineSource.bytes pending).reading count = .unreadable := by
  induction size : pending.length using Nat.strongRecOn generalizing pending with
  | ind size inductionHypothesis =>
      have nonempty : pending ≠ [] := by
        rintro rfl
        cases (decode?_encode []).symm.trans undecoded
      obtain ⟨line, others, split⟩ : ∃ line others, splitFeed pending = (line, others) :=
        ⟨_, _, rfl⟩
      cases decoded : decode? line with
      | none =>
          exact ⟨0, congrArg Prod.fst (read_bytes_of_undecoded nonempty split decoded)⟩
      | some text =>
          have shorter := length_splitFeed_lt nonempty split
          -- if the bytes behind the line were UTF-8, all of them would be
          have onward : decode? others = none := by
            cases behind : decode? others with
            | none =>
                rfl
            | some rest =>
                have whole := splitFeed_append pending
                rw [split, eq_encode_of_decode? decoded, eq_encode_of_decode? behind,
                  ← Text.encode_append] at whole
                rw [← whole, decode?_encode] at undecoded
                cases undecoded
          obtain ⟨count, unreadable⟩ :=
            inductionHypothesis others.length (size ▸ shorter) onward rfl
          refine ⟨count + 1, ?_⟩
          rw [reading, read_bytes nonempty split decoded]
          exact unreadable

/-- The sources that are no text are those with a line that is none. -/
theorem isText_eq_false_iff
    {source : LineSource} :
    source.isText = false ↔ ∃ count, source.reading count = .unreadable := by
  constructor
  · intro noText
    cases source with
    | exhausted | emptyLines | lines =>
        cases noText
    | bytes pending =>
        exact exists_unreadable_of_decode? (Option.isNone_iff_eq_none.1
          (Option.isSome_eq_false_iff.1 noText))
  · rintro ⟨count, unreadable⟩
    rw [← Bool.not_eq_true]
    intro isText
    exact reading_ne_unreadable isText count unreadable

end LineSource

/-! ## What a program is given -/

/-- This reading gave no line, but a later one did. -/
def Exchange.IsResumedAfter
    (reading : Reading)
    (exchanges : List Exchange) : Prop :=
  reading.line? = none ∧
    ∃ before behind line,
      exchanges = before ++ .read reading :: behind ∧ .read (.line line) ∈ behind

namespace Channel.Answers

variable {source : LineSource}
variable {sink : Sink}
variable {final : Channel}
variable {exchanges : List Exchange}

/-- Exchanges leave the source as so many readings do. -/
theorem exists_after
    (answers : Answers (.console source sink) exchanges final) :
    ∃ count restSink, final = .console (source.after count) restSink := by
  generalize origin : Channel.console source sink = channel at answers
  induction answers generalizing source sink with
  | nothing =>
      exact ⟨0, sink, origin.symm⟩
  | read given _ inductionHypothesis =>
      subst origin
      cases given
      obtain ⟨count, restSink, rest⟩ := inductionHypothesis rfl
      exact ⟨count + 1, restSink, rest⟩
  | taken given _ inductionHypothesis | refused given _ inductionHypothesis =>
      subst origin
      simp only [Channel.emit] at given
      split at given <;> cases given
      exact inductionHypothesis rfl

/-- What an exchange gives is one of the readings of the source. -/
theorem exists_reading
    {reading : Reading}
    (answers : Answers (.console source sink) exchanges final)
    (member : .read reading ∈ exchanges) :
    ∃ count, reading = source.reading count := by
  obtain ⟨before, behind, rfl⟩ := List.append_of_mem member
  obtain ⟨middle, prior, onward⟩ := answers.exists_between
  obtain ⟨count, restSink, rfl⟩ := prior.exists_after
  cases onward with
  | read given _ =>
      cases given
      exact ⟨count, (source.reading_add count 0).symm⟩

/-- A line comes behind a reading without a line only if that one was unreadable. -/
theorem unreadable_of_resumed
    {reading : Reading}
    (answers : Answers (.console source sink) exchanges final)
    (resumed : Exchange.IsResumedAfter reading exchanges) :
    reading = .unreadable ∧ source.isText = false := by
  obtain ⟨noLine, before, behind, line, rfl, isBehind⟩ := resumed
  obtain ⟨middle, prior, onward⟩ := answers.exists_between
  obtain ⟨count, restSink, rfl⟩ := prior.exists_after
  cases onward with
  | read given later =>
      simp only [Channel.read, Prod.mk.injEq] at given
      obtain ⟨rfl, rfl⟩ := given
      rcases Reading.exhausted_or_unreadable noLine with exhausted | unreadable
      · obtain ⟨more, isLine⟩ := later.exists_reading isBehind
        rw [LineSource.read_of_exhausted exhausted,
          LineSource.reading_of_exhausted exhausted] at isLine
        cases isLine
      · exact ⟨unreadable, LineSource.isText_eq_false_iff.2
          ⟨count, (source.reading_add count 0).trans unreadable⟩⟩

end Channel.Answers

namespace Invocation

/--
Once a source is exhausted it stays so.  Where a reading gives no line although the source
is not exhausted, a line of bytes that is no text was used up, and the readings go on with
what is behind it.  Sources of text have no such line, so that once a reading of theirs
gives none, no other one does.  Hence whatever a program takes for the end of its input, a
line comes behind it only if it was a line that is no text.
-/
theorem exhausted_but_for_unreadable
    (source : LineSource) :
    (∀ count later,
        source.reading count = .exhausted →
          source.reading (count + later) = .exhausted) ∧
      (∀ count,
        (source.reading count).line? = none →
          source.reading count ≠ .exhausted →
            ∃ pending,
              source.after count = .bytes pending ∧
                pending ≠ [] ∧
                LineSource.decode? (LineSource.splitFeed pending).1 = none ∧
                ∀ later,
                  source.reading (count + 1 + later) =
                    (LineSource.bytes (LineSource.splitFeed pending).2).reading later) ∧
        (source.isText = true →
          ∀ count later,
            (source.reading count).line? = none →
              (source.reading (count + later)).line? = none) ∧
          ∀ (invocation : Invocation) (sink : Sink),
            invocation.channel = .console source sink →
              ∀ limit budget count,
                ∃ traffic,
                  HasTraffic (steps limit budget count) invocation traffic ∧
                    ∀ reading,
                      Exchange.IsResumedAfter reading traffic.exchanges →
                        reading = .unreadable ∧ source.isText = false := by
  have exhausted
      (count later : Nat)
      (ended : source.reading count = .exhausted) :
      source.reading (count + later) = .exhausted := by
    rw [LineSource.reading_add]
    exact LineSource.reading_of_exhausted ((source.reading_add count 0).symm.trans ended)
      later
  refine ⟨exhausted, ?skipped, ?texts, ?program⟩
  case skipped =>
    intro count noLine notExhausted
    have unreadable : (source.after count).read.1 = .unreadable := by
      have now := (Reading.exhausted_or_unreadable noLine).resolve_left notExhausted
      exact (source.reading_add count 0).symm.trans now
    obtain ⟨pending, isBytes, nonempty, undecoded, behind⟩ :=
      LineSource.read_of_unreadable unreadable
    refine ⟨pending, isBytes, nonempty, undecoded, fun later => ?_⟩
    rw [Nat.add_assoc, LineSource.reading_add, Nat.add_comm, LineSource.reading, behind]
  case texts =>
    intro isText count later noLine
    have ended :=
      (Reading.exhausted_or_unreadable noLine).resolve_right
        (LineSource.reading_ne_unreadable isText count)
    rw [exhausted count later ended]
    rfl
  case program =>
    intro invocation sink channel limit budget count
    obtain ⟨traffic, traffics⟩ := exists_traffic_of_steps limit budget count invocation
    obtain ⟨final, answers⟩ := traffics.answered
    rw [channel] at answers
    exact ⟨traffic, traffics, fun reading => answers.unreadable_of_resumed⟩

/--
A program that reads all numbers takes a byte that is no text for the end of its input; its
next instruction reads the line behind it.
-/
theorem line_behind_unreadable :
    let source := LineSource.bytes [0xFF, LineSource.feed, 0x31]
    let program :=
      start ['&', 'n', 'n'] (.console source (.text [])) (.blank .error) default
    let seen (after : Invocation) := (after.cursor, after.stack)
    (source.reading 0).line? = none ∧
      (source.reading 1).line? = some ['1'] ∧
      (program.steps 0 0 2).state?.map seen = some (2, .empty) ∧
      (program.steps 0 0 3).state?.map seen = some (3, .ofList [.int 1]) := by
  decide +kernel

/-- Behind that line the input is exhausted for ever, and so are given lines at their end. -/
theorem exhausted_behind_unreadable :
    let source := LineSource.bytes [0xFF, LineSource.feed, 0x31]
    let program :=
      start ['&', 'n', 'n'] (.console source (.text [])) (.blank .error) default
    (∀ later, source.reading (2 + later) = .exhausted) ∧
      (∀ later, source.reading (1 + later) = (LineSource.bytes [0x31]).reading later) ∧
      (∀ later, ((LineSource.lines [['1']]).reading (1 + later)).line? = none) ∧
      ∃ traffic,
        HasTraffic (steps 0 0 3) program traffic ∧
          ∀ reading,
            Exchange.IsResumedAfter reading traffic.exchanges → reading = .unreadable := by
  intro source program
  obtain ⟨exhausted, skipped, -, resumed⟩ := exhausted_but_for_unreadable source
  refine ⟨fun later => ?_, fun later => ?_, fun later => ?_, ?_⟩
  · exact exhausted 2 later (by decide +kernel)
  · obtain ⟨pending, isBytes, -, -, behind⟩ :=
      skipped 0 (by decide +kernel) (by decide +kernel)
    cases isBytes
    exact behind later
  · obtain ⟨-, -, texts, -⟩ := exhausted_but_for_unreadable (.lines [['1']])
    exact texts rfl 1 later rfl
  · obtain ⟨traffic, traffics, only⟩ := resumed program (.text []) rfl 0 0 3
    exact ⟨traffic, traffics, fun reading after => (only reading after).1⟩

end Invocation

end StackTape
