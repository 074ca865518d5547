import StackTape.Machine.Control
import StackTape.Proofs.Traffic

namespace StackTape

/-!
# Operands from the input

An instruction with two operands turns to the input for those that the stack lacks.  One
reading makes up for one operand: the integer on a line, or zero at an empty line and at
the end of the input.  Arithmetic takes both operands at once and sorts them: the zeros
are beneath the cells of the stack, and what comes from lines is on top of them, as if it
had been read before.  The remainder, the exchange and the range take one operand after
the other, so that whatever is read is beneath what was taken before it.
-/

namespace Reading

/--
What a reading makes up for a missing operand with: the integer of a line, or nothing,
which counts as zero.  A line that holds something else is no operand.
-/
def fill (reading : Reading) : Except Text (Option Int) :=
  let line := reading.line?.getD []
  if line = [] then
    .ok none
  else
    match Cell.integerOfLine? line with
    | some value =>
        .ok (some value)
    | none =>
        .error line

/-- The events of a reading for a missing operand. -/
def fillEvents (reading : Reading) : List Journal.Event :=
  (if reading = .unreadable then [.unreadableLine] else []) ++
    match reading.fill with
    | .ok none =>
        [.implicitZero]
    | .ok (some _) =>
        [.implicitInput]
    | .error _ =>
        []

/-- Only a line with an integer gives an integer. -/
theorem exists_line_of_fill
    {reading : Reading}
    {value : Int}
    (filled : reading.fill = .ok (some value)) :
    ∃ line,
      reading = .line line ∧
        line ≠ [] ∧ Cell.integerOfLine? line = some value := by
  cases reading with
  | exhausted | unreadable =>
      cases filled
  | line line =>
      by_cases empty : line = []
      · simp [fill, line?, empty] at filled
      · cases spelled : Cell.integerOfLine? line with
        | none =>
            simp [fill, line?, empty, spelled] at filled
        | some found =>
            simp only [fill, line?, Option.getD_some, empty, if_false, spelled,
              Except.ok.injEq, Option.some.injEq] at filled
            exact ⟨line, rfl, empty, by rw [spelled, filled]⟩

/-- Only a line that is neither empty nor an integer is no operand. -/
theorem eq_line_of_fill
    {reading : Reading}
    {line : Text}
    (refused : reading.fill = .error line) :
    reading = .line line ∧
      line ≠ [] ∧ Cell.integerOfLine? line = none := by
  cases reading with
  | exhausted | unreadable =>
      cases refused
  | line read =>
      by_cases empty : read = []
      · simp [fill, line?, empty] at refused
      · cases spelled : Cell.integerOfLine? read with
        | none =>
            simp only [fill, line?, Option.getD_some, empty, if_false, spelled,
              Except.error.injEq] at refused
            subst refused
            exact ⟨rfl, empty, spelled⟩
        | some found =>
            simp [fill, line?, empty, spelled] at refused

end Reading

namespace Channel

/-- The channel makes up for a number of missing operands by as many readings. -/
structure Supplies
    (channel : Channel)
    (missing : Nat)
    (readings : List Reading)
    (fills : List (Option Int))
    (final : Channel) : Prop where
  answers : channel.Answers (readings.map .read) final
  count : readings.length = missing
  filled : readings.map Reading.fill = fills.map .ok

/-- The last of at most as many readings is a line that is no operand. -/
structure Lacks
    (channel : Channel)
    (missing : Nat)
    (readings : List Reading)
    (line : Text)
    (final : Channel) : Prop where
  answers : channel.Answers (readings.map .read) final
  count : readings.length ≤ missing
  last :
    ∃ before,
      readings = before ++ [.line line] ∧
        ∀ reading ∈ before, ∃ fill, reading.fill = .ok fill
  nonempty : line ≠ []
  unspelled : Cell.integerOfLine? line = none

/-- A channel makes up for missing operands or comes to a line that is none. -/
theorem supplies_or_lacks
    (channel : Channel)
    (missing : Nat) :
    (∃ readings fills final, channel.Supplies missing readings fills final) ∨
      ∃ readings line final, channel.Lacks missing readings line final := by
  induction missing generalizing channel with
  | zero =>
      exact .inl ⟨[], [], channel, .nothing, rfl, rfl⟩
  | succ missing inductionHypothesis =>
      have given : channel.read = (channel.read.1, channel.read.2) := rfl
      cases filled : channel.read.1.fill with
      | error line =>
          obtain ⟨isLine, nonempty, unspelled⟩ := Reading.eq_line_of_fill filled
          rw [isLine] at given
          exact .inr ⟨[.line line], line, _, .read given .nothing,
            Nat.succ_le_succ (Nat.zero_le _), ⟨[], rfl, nofun⟩, nonempty,
            unspelled⟩
      | ok fill =>
          rcases inductionHypothesis channel.read.2 with
            ⟨readings, fills, final, supplies⟩ | ⟨readings, line, final, lacks⟩
          · refine .inl ⟨_ :: readings, fill :: fills, final,
              .read given supplies.answers, ?_, ?_⟩
            · rw [List.length_cons, supplies.count]
            · rw [List.map_cons, List.map_cons, filled, supplies.filled]
          · obtain ⟨before, shape, allFill⟩ := lacks.last
            refine .inr ⟨_ :: readings, line, final,
              .read given lacks.answers, Nat.succ_le_succ lacks.count,
              ⟨_ :: before, by rw [shape]; rfl, ?_⟩, lacks.nonempty,
              lacks.unspelled⟩
            intro reading member
            rcases List.mem_cons.1 member with rfl | behind
            · exact ⟨fill, filled⟩
            · exact allFill reading behind

end Channel

/-! ## Taking two operands -/

/-- How an instruction takes its two operands. -/
inductive Taking where
  /-- Both together, sorted by where they come from. -/
  | atOnce
  /-- The upper one first and then the lower one. -/
  | inTurn
  deriving DecidableEq

namespace Taking

/--
The operands, the lower one first, that come of the cells on the stack, bottom first,
and of what the missing ones were made up for with, in the order of reading.
-/
def operands
    (cells : List Cell)
    (fills : List (Option Int)) : Taking → List Cell
  | .atOnce =>
      (fills.filter Option.isNone).map (fun _ => .int 0) ++
        cells ++
        (fills.filterMap id).map .int
  | .inTurn =>
      (fills.map fun fill => .int (fill.getD 0)).reverse ++ cells

/-- Lines are arranged as cells that were on the stack above the others. -/
theorem operands_atOnce_of_values
    (cells : List Cell)
    (values : List Int) :
    operands cells (values.map some) .atOnce = cells ++ values.map .int := by
  induction values with
  | nil =>
      simp [operands]
  | cons value values inductionHypothesis =>
      simp_all [operands]

/-- Where nothing counts as zero, every reading gives an integer. -/
theorem exists_values_of_none_notMem
    {fills : List (Option Int)}
    (allLines : none ∉ fills) :
    ∃ values : List Int, fills = values.map some := by
  induction fills with
  | nil =>
      exact ⟨[], rfl⟩
  | cons fill fills inductionHypothesis =>
      cases fill with
      | none =>
          exact absurd List.mem_cons_self allLines
      | some value =>
          obtain ⟨values, rfl⟩ :=
            inductionHypothesis fun member =>
              allLines (List.mem_cons_of_mem _ member)
          exact ⟨value :: values, rfl⟩

/-- Take the lower and the upper operand. -/
def take : Taking → Work (Cell × Cell)
  | .atOnce => do
      let (upper, lower) ← Work.takePair
      return (lower, upper)
  | .inTurn => do
      let upper ← Work.takeOperand
      let lower ← Work.takeOperand
      return (lower, upper)

end Taking

/--
How a task takes its two operands, and the cells that it puts on for them; none for a
task that has other operands or does more than that.
-/
def Task.combination? :
    Task → Option (Taking × (Cell → Cell → Except Fault (List Cell)))
  | .add =>
      some (.atOnce, fun lower upper => (lower.add upper).map ([·]))
  | .subtract =>
      some (.atOnce, fun lower upper => (lower.sub upper).map ([·]))
  | .multiply =>
      some (.atOnce, fun lower upper => (lower.mul upper).map ([·]))
  | .divide =>
      some (.atOnce, fun lower upper => (lower.div upper).map ([·]))
  | .power =>
      some (.atOnce, fun lower upper => (lower.pow upper).map ([·]))
  | .modulo =>
      some (.inTurn, fun lower upper => (lower.mod upper).map ([·]))
  | .swap =>
      some (.inTurn, fun lower upper => .ok [upper, lower])
  | .range =>
      some (.inTurn, fun lower upper => do
        let low ← lower.integer
        let high ← upper.integer
        return Work.integersBetween low high)
  | _ =>
      none

namespace Work

/-- Take two operands and put on what comes of them. -/
def combination
    (taking : Taking)
    (combine : Cell → Cell → Except Fault (List Cell)) : Work Unit := do
  let (lower, upper) ← taking.take
  append (← ofExcept (combine lower upper))

theorem binary_apply
    (operation : Cell → Cell → Except Fault Cell)
    (bench : Bench) :
    binary operation bench =
      combination .atOnce
        (fun lower upper => (operation lower upper).map ([·])) bench := by
  cases taken : takePair bench with
  | error fault after =>
      simp [binary, combination, Taking.take, taken]
  | ok pair after =>
      cases computed : operation pair.2 pair.1 <;>
        simp [binary, combination, Taking.take, taken, computed, Except.map,
          Stack.push, Stack.append]

/-- Work on two operands that are taken one after the other. -/
theorem inTurn_apply
    {combine : Cell → Cell → Except Fault (List Cell)}
    {finish : Cell → Cell → Work Unit}
    (finishes :
      ∀ upper lower bench,
        finish upper lower bench =
          (do append (← ofExcept (combine lower upper))) bench)
    (bench : Bench) :
    (do
        let upper ← takeOperand
        let lower ← takeOperand
        finish upper lower) bench =
      combination .inTurn combine bench := by
  cases upperTaken : takeOperand bench with
  | error fault after =>
      simp [combination, Taking.take, upperTaken]
  | ok upper middle =>
      cases lowerTaken : takeOperand middle <;>
        simp [combination, Taking.take, upperTaken, lowerTaken, finishes]

end Work

/-- A task with two operands does nothing but combine them. -/
theorem Task.perform_of_combination
    {task : Task}
    {taking : Taking}
    {combine : Cell → Cell → Except Fault (List Cell)}
    (known : task.combination? = some (taking, combine))
    {whole : Bool}
    (part : whole = true → task ≠ .add)
    (bench : Bench) :
    task.perform whole bench = Work.combination taking combine bench := by
  cases task with
  | add =>
      cases known
      cases whole with
      | true =>
          exact absurd rfl (part rfl)
      | false =>
          exact Work.binary_apply _ bench
  | subtract | multiply | divide | power =>
      cases known
      exact Work.binary_apply _ bench
  | modulo =>
      cases known
      refine Work.inTurn_apply (fun upper lower after => ?_) bench
      cases lower.mod upper <;>
        simp [Except.map, Stack.push, Stack.append]
  | swap =>
      cases known
      refine Work.inTurn_apply (fun upper lower after => ?_) bench
      rfl
  | range =>
      cases known
      refine Work.inTurn_apply (fun upper lower after => ?_) bench
      cases lower.integer <;> cases upper.integer <;> rfl
  | _ =>
      cases known

/-! ## Operands on a stack that lacks them -/

namespace Channel

section

variable {channel final : Channel}
variable {missing : Nat}
variable {readings : List Reading}

/-- The first of several operands that are made up for. -/
theorem Supplies.exists_first
    {fills : List (Option Int)}
    (supplies : channel.Supplies (missing + 1) readings fills final) :
    ∃ fill others later,
      channel.read.1.fill = .ok fill ∧
        readings = channel.read.1 :: others ∧
        fills = fill :: later ∧
        channel.read.2.Supplies missing others later final := by
  obtain ⟨answers, count, filled⟩ := supplies
  cases readings with
  | nil =>
      cases count
  | cons reading others =>
      cases answers with
      | read given onward =>
          cases fills with
          | nil =>
              cases filled
          | cons fill later =>
              simp only [List.map_cons, List.cons.injEq] at filled
              rw [given]
              exact ⟨fill, others, later, filled.1, rfl, rfl, onward,
                Nat.succ.inj count, filled.2⟩

theorem Supplies.nothing
    {fills : List (Option Int)}
    (supplies : channel.Supplies 0 readings fills final) :
    readings = [] ∧ fills = [] ∧ final = channel := by
  obtain ⟨answers, count, filled⟩ := supplies
  obtain rfl := List.length_eq_zero_iff.1 count
  cases answers
  exact ⟨rfl, List.map_eq_nil_iff.1 filled.symm, rfl⟩

/-- The first reading fails, or one of the others does. -/
theorem Lacks.first_cases
    {line : Text}
    (lacks : channel.Lacks missing readings line final) :
    (channel.read.1.fill = .error line ∧
        readings = [channel.read.1] ∧ final = channel.read.2) ∨
      ∃ fill others,
        channel.read.1.fill = .ok fill ∧
          readings = channel.read.1 :: others ∧
          channel.read.2.Lacks (missing - 1) others line final := by
  obtain ⟨answers, count, ⟨before, rfl, allFill⟩, nonempty, unspelled⟩ := lacks
  cases before with
  | nil =>
      cases answers with
      | read given onward =>
          cases onward
          refine .inl ⟨?_, by rw [given]; rfl, by rw [given]⟩
          simp [given, Reading.fill, Reading.line?, nonempty, unspelled]
  | cons first before =>
      cases answers with
      | read given onward =>
          obtain ⟨fill, filled⟩ := allFill first List.mem_cons_self
          simp only [List.cons_append, List.length_cons] at count
          refine .inr ⟨fill, before ++ [.line line], by rw [given, filled], ?_,
            ?_⟩
          · rw [given]
            rfl
          · rw [given]
            exact ⟨onward, by omega,
              ⟨before, rfl, fun reading member =>
                allFill reading (List.mem_cons_of_mem _ member)⟩,
              nonempty, unspelled⟩

/-- No line is lacking where no operand is missing. -/
theorem Lacks.missing_pos
    {line : Text}
    (lacks : channel.Lacks missing readings line final) :
    0 < missing := by
  obtain ⟨before, shape, -⟩ := lacks.last
  have count := lacks.count
  rw [shape, List.length_append, List.length_singleton] at count
  omega

end

end Channel

/-- A stack of fewer than two cells. -/
theorem Stack.cases_of_length_lt_two
    {stack : Stack}
    (few : stack.length < 2) :
    stack = .empty ∨ ∃ cell, stack = Stack.empty.push cell := by
  obtain ⟨topFirst⟩ := stack
  rcases topFirst with _ | ⟨cell, _ | ⟨second, others⟩⟩
  · exact .inl rfl
  · exact .inr ⟨cell, rfl⟩
  · simp only [length, List.length_cons] at few
    omega

/-- The bench after these readings for operands, with nothing left on the stack. -/
def Bench.usedUp
    (bench : Bench)
    (readings : List Reading)
    (final : Channel) : Bench :=
  { bench with
    stack := .empty
    channel := final
    journal := bench.journal.noteAll (readings.flatMap Reading.fillEvents) }

theorem Bench.usedUp_usedUp
    (bench : Bench)
    (first second : List Reading)
    (middle final : Channel) :
    (bench.usedUp first middle).usedUp second final =
      bench.usedUp (first ++ second) final := by
  simp [usedUp, Journal.noteAll_append]

namespace Taking

/-- The lower and the upper one of two operands, the first of which was taken first. -/
def arrange (first second : Work.Operand) : Taking → Cell × Cell
  | .atOnce =>
      if second.isFromLine then
        (first.cell, second.cell)
      else
        (second.cell, first.cell)
  | .inTurn =>
      (second.cell, first.cell)

theorem take_apply
    (taking : Taking)
    (bench : Bench) :
    taking.take bench =
      (do
        let first ← Work.operand
        let second ← Work.operand
        return taking.arrange first second) bench := by
  cases firstTaken : Work.operand bench with
  | error fault after =>
      cases taking <;>
        simp [take, Work.takePair, Work.takeOperand, firstTaken]
  | ok first middle =>
      cases secondTaken : Work.operand middle with
      | error fault after =>
          cases taking <;>
            simp [take, Work.takePair, Work.takeOperand, firstTaken, secondTaken]
      | ok second after =>
          cases taking with
          | inTurn =>
              simp [take, Work.takeOperand, firstTaken, secondTaken, arrange]
          | atOnce =>
              cases fromLine : second.isFromLine <;>
                simp [take, Work.takePair, firstTaken, secondTaken, arrange,
                  fromLine]

end Taking

namespace Work

/-- What a reading makes up for an operand with. -/
theorem implicitOperand?_apply
    (bench : Bench) :
    implicitOperand? bench =
      let after :=
        bench.reconnected bench.channel.read.2
          (bench.journal.noteAll bench.channel.read.1.fillEvents)
      match bench.channel.read.1.fill with
      | .ok fill => .ok fill after
      | .error line => .error (.notInteger line) after := by
  cases given : bench.channel.read with
  | mk reading rest =>
      cases reading with
      | exhausted =>
          simp [implicitOperand?, readLineOrEmpty, readLine_apply, given,
            Reading.line?, Reading.fill, Reading.fillEvents, Bench.reconnected]
      | unreadable =>
          simp [implicitOperand?, readLineOrEmpty, readLine_apply, given,
            Reading.line?, Reading.fill, Reading.fillEvents, Bench.reconnected]
          rfl
      | line line =>
          by_cases empty : line = []
          · simp [implicitOperand?, readLineOrEmpty, readLine_apply, given,
              Reading.line?, Reading.fill, Reading.fillEvents, Bench.reconnected,
              empty]
          · cases spelled : Cell.integerOfLine? line <;>
              simp [implicitOperand?, readLineOrEmpty, readLine_apply, given,
                Reading.line?, Reading.fill, Reading.fillEvents,
                Bench.reconnected, empty, spelled]

section

variable {bench : Bench}

/-- An operand that is read. -/
theorem operand_apply_of_empty
    (empty : bench.stack = .empty)
    {fill : Option Int}
    (filled : bench.channel.read.1.fill = .ok fill) :
    operand bench =
      .ok ⟨.int (fill.getD 0), fill.isSome⟩
        (bench.usedUp [bench.channel.read.1] bench.channel.read.2) := by
  have nothing : Stack.empty.pop? = none := rfl
  cases fill <;>
    simp [operand, pop?_apply, empty, nothing, implicitOperand?_apply, filled,
      Bench.usedUp, Bench.reconnected]

/-- A line that is no operand. -/
theorem operand_apply_of_error
    (empty : bench.stack = .empty)
    {line : Text}
    (refused : bench.channel.read.1.fill = .error line) :
    operand bench =
      .error (.notInteger line)
        (bench.usedUp [bench.channel.read.1] bench.channel.read.2) := by
  have nothing : Stack.empty.pop? = none := rfl
  simp [operand, pop?_apply, empty, nothing, implicitOperand?_apply, refused,
    Bench.usedUp, Bench.reconnected]

variable {readings : List Reading}
variable {final : Channel}

/-- Both operands are read. -/
theorem take_of_empty
    {fills : List (Option Int)}
    (empty : bench.stack = .empty)
    (supplies : bench.channel.Supplies 2 readings fills final)
    (taking : Taking) :
    ∃ lower upper,
      taking.operands [] fills = [lower, upper] ∧
        taking.take bench = .ok (lower, upper) (bench.usedUp readings final) := by
  obtain ⟨first, _, _, firstFilled, rfl, rfl, laterSupplies⟩ :=
    supplies.exists_first
  obtain ⟨second, _, _, secondFilled, rfl, rfl, noneMissing⟩ :=
    laterSupplies.exists_first
  obtain ⟨rfl, rfl, rfl⟩ := noneMissing.nothing
  have secondTaken :
      operand (bench.usedUp [bench.channel.read.1] bench.channel.read.2) = _ :=
    operand_apply_of_empty rfl secondFilled
  rw [Bench.usedUp_usedUp] at secondTaken
  rw [Taking.take_apply, bind_apply, operand_apply_of_empty empty firstFilled]
  simp only [bind_apply, secondTaken, pure_apply]
  refine ⟨_, _, ?_, rfl⟩
  cases taking <;> cases first <;> cases second <;> rfl

/-- The lower operand is on the stack, or is read. -/
theorem take_of_single
    {cell : Cell}
    {fills : List (Option Int)}
    (single : bench.stack = Stack.empty.push cell)
    (supplies : bench.channel.Supplies 1 readings fills final)
    (taking : Taking) :
    ∃ lower upper,
      taking.operands [cell] fills = [lower, upper] ∧
        taking.take bench = .ok (lower, upper) (bench.usedUp readings final) := by
  obtain ⟨fill, _, _, filled, rfl, rfl, noneMissing⟩ := supplies.exists_first
  obtain ⟨rfl, rfl, rfl⟩ := noneMissing.nothing
  have secondTaken :
      operand { bench with stack := .empty } =
        .ok _ (bench.usedUp [bench.channel.read.1] bench.channel.read.2) :=
    operand_apply_of_empty rfl filled
  rw [Taking.take_apply, bind_apply, operand_apply_of_push single]
  simp only [bind_apply, secondTaken, pure_apply]
  refine ⟨_, _, ?_, rfl⟩
  cases taking <;> cases fill <;> rfl

/-- Whatever the stack lacks is read. -/
theorem take_of_supplies
    {fills : List (Option Int)}
    (few : bench.stack.length < 2)
    (supplies :
      bench.channel.Supplies (2 - bench.stack.length) readings fills final)
    (taking : Taking) :
    ∃ lower upper,
      taking.operands bench.stack.toList fills = [lower, upper] ∧
        taking.take bench = .ok (lower, upper) (bench.usedUp readings final) := by
  rcases Stack.cases_of_length_lt_two few with empty | ⟨cell, single⟩
  · rw [empty] at supplies
    rw [empty]
    exact take_of_empty empty supplies taking
  · rw [single] at supplies
    rw [single]
    exact take_of_single single supplies taking

/-- A line that is no operand ends the taking, be it the first one or the second. -/
theorem take_of_lacks
    {line : Text}
    (few : bench.stack.length < 2)
    (lacks :
      bench.channel.Lacks (2 - bench.stack.length) readings line final)
    (taking : Taking) :
    taking.take bench =
      .error (.notInteger line) (bench.usedUp readings final) := by
  rw [Taking.take_apply, bind_apply]
  rcases Stack.cases_of_length_lt_two few with empty | ⟨cell, single⟩
  · rcases lacks.first_cases with
      ⟨refused, rfl, rfl⟩ | ⟨fill, others, filled, rfl, later⟩
    · rw [operand_apply_of_error empty refused]
    · rcases later.first_cases with
        ⟨refused, rfl, rfl⟩ | ⟨_, _, _, _, beyond⟩
      · have secondTaken :
            operand (bench.usedUp [bench.channel.read.1] bench.channel.read.2) =
              _ :=
          operand_apply_of_error rfl refused
        rw [Bench.usedUp_usedUp] at secondTaken
        rw [operand_apply_of_empty empty filled]
        simp only [bind_apply, secondTaken]
        rfl
      · exact absurd beyond.missing_pos (by omega)
  · have one : bench.stack.length = 1 := by
      rw [single]
      rfl
    rcases lacks.first_cases with
      ⟨refused, rfl, rfl⟩ | ⟨_, _, _, _, beyond⟩
    · have secondTaken :
          operand { bench with stack := .empty } =
            .error _ (bench.usedUp [bench.channel.read.1] bench.channel.read.2) :=
        operand_apply_of_error rfl refused
      rw [operand_apply_of_push single]
      simp only [bind_apply, secondTaken]
    · exact absurd beyond.missing_pos (by omega)

end

end Work

namespace Invocation

/--
The invocation after an instruction that used its two operands up and came to this
result, with this channel and this journal left.
-/
def combined
    (invocation : Invocation)
    (channel : Channel)
    (journal : Journal) :
    Except Fault (List Cell) → Outcome Fault Invocation
  | .ok cells =>
      .done
        { invocation with
          tape := invocation.tape.withCurrent (.ofList cells)
          channel := channel
          journal := journal }
  | .error fault =>
      .failed fault
        { invocation with
          tape := invocation.tape.withCurrent .empty
          channel := channel
          journal := journal }

/-- Read a number of integers, one instruction after the other. -/
def readNumbers : Nat → Invocation → Outcome Fault Invocation
  | 0, invocation =>
      .done invocation
  | count + 1, invocation =>
      match invocation.perform false (.task .readNumber) with
      | .done after =>
          readNumbers count after
      | stopped =>
          stopped

section

variable {invocation : Invocation}
variable {taking : Taking}
variable {combine : Cell → Cell → Except Fault (List Cell)}
variable {channel : Channel}
variable {journal : Journal}

theorem perform_of_combination
    {task : Task}
    (known : task.combination? = some (taking, combine))
    {whole : Bool}
    (part : whole = true → task ≠ .add) :
    invocation.perform whole (.task task) =
      invocation.doing (Work.combination taking combine) := by
  change invocation.doing (task.perform whole) = _
  unfold doing working
  rw [task.perform_of_combination known part]

/-- What combining comes to once the operands are taken. -/
theorem doing_combination
    {lower upper : Cell}
    (taken :
      taking.take invocation.bench =
        .ok (lower, upper)
          { invocation.bench with
            stack := .empty
            channel := channel
            journal := journal }) :
    invocation.doing (Work.combination taking combine) =
      invocation.combined channel journal (combine lower upper) := by
  cases computed : combine lower upper with
  | ok cells =>
      have worked :
          Work.combination taking combine invocation.bench =
            .ok ()
              { invocation.bench with
                stack := .ofList cells
                channel := channel
                journal := journal } := by
        simp [Work.combination, taken, computed, Stack.append, Stack.ofList,
          Stack.empty]
      exact working_of_ok worked
  | error fault =>
      have worked :
          Work.combination taking combine invocation.bench =
            .error fault
              { invocation.bench with
                stack := .empty
                channel := channel
                journal := journal } := by
        simp [Work.combination, taken, computed]
      exact working_of_error worked

theorem doing_combination_of_error
    {fault : Fault}
    (failed :
      taking.take invocation.bench =
        .error fault
          { invocation.bench with
            stack := .empty
            channel := channel
            journal := journal }) :
    invocation.doing (Work.combination taking combine) =
      invocation.combined channel journal (.error fault) := by
  have worked :
      Work.combination taking combine invocation.bench =
        .error fault
          { invocation.bench with
            stack := .empty
            channel := channel
            journal := journal } := by
    simp [Work.combination, failed]
  exact working_of_error worked

/-- Two cells on the stack are the operands of work that takes both at once. -/
theorem doing_combination_of_pair
    {lower upper : Cell}
    (pair : invocation.stack.toList = [lower, upper]) :
    invocation.doing (Work.combination .atOnce combine) =
      invocation.combined invocation.channel invocation.journal
        (combine lower upper) := by
  have top :
      invocation.bench.stack = (Stack.empty.push lower).push upper := by
    rw [← Stack.ofList_toList invocation.bench.stack]
    exact congrArg Stack.ofList pair
  refine doing_combination ?_
  simp only [Taking.take, Work.bind_apply, Work.takePair_apply_of_push top,
    Work.pure_apply]
  rfl

theorem readNumber_apply
    {bench : Bench}
    {value : Int}
    (filled : bench.channel.read.1.fill = .ok (some value)) :
    Work.readNumber bench =
      .ok ()
        { bench with
          stack := bench.stack.push (.int value)
          channel := bench.channel.read.2 } := by
  obtain ⟨line, isLine, nonempty, spelled⟩ := Reading.exists_line_of_fill filled
  simp [Work.readNumber, Work.readLineOrEmpty, Work.readLine_apply,
    Work.pushInteger, isLine, Reading.line?, nonempty, spelled]

/-- Lines that hold integers, read one after the other, end up on the stack. -/
theorem readNumbers_of_answers
    {readings : List Reading}
    {values : List Int}
    (answers : invocation.channel.Answers (readings.map .read) channel)
    (filled :
      readings.map Reading.fill = values.map fun value => .ok (some value)) :
    readNumbers readings.length invocation =
      .done
        { invocation with
          tape :=
            invocation.tape.withCurrent
              (invocation.stack.append (values.map .int))
          channel := channel } := by
  induction readings generalizing invocation values with
  | nil =>
      obtain rfl := List.map_eq_nil_iff.1 filled.symm
      cases answers
      rfl
  | cons reading readings inductionHypothesis =>
      cases values with
      | nil =>
          cases filled
      | cons value values =>
          cases answers with
          | read given onward =>
              simp only [List.map_cons, List.cons.injEq] at filled
              have read :
                  invocation.perform false (.task .readNumber) =
                    .done
                      (invocation.withBench
                        { invocation.bench with
                          stack := invocation.stack.push (.int value)
                          channel := invocation.channel.read.2 }) :=
                working_of_ok
                  (readNumber_apply (by
                    change invocation.channel.read.1.fill = _
                    rw [given]
                    exact filled.1))
              rw [List.length_cons, readNumbers, read]
              rw [given]
              refine (inductionHypothesis (by exact onward) filled.2).trans ?_
              simp [withBench, bench, Tape.withCurrent, stack, Stack.push, Stack.append]

end

/--
An instruction with two operands on a stack that has fewer makes exactly one reading for
each that is missing.  If all of them give an operand, it combines the operands that its
way of taking them arranges the cells and the readings to, and nothing else happens; one
that takes both at once and reads nothing but lines comes out, but for the journal, as if
the lines had been read onto the stack before.  A line that is no operand is the last
reading, and ends the instruction with a fault that quotes it.
-/
theorem perform_with_missing_operands
    {task : Task}
    (known : task.combination? = some (taking, combine))
    {whole : Bool}
    (part : whole = true → task ≠ .add)
    (few : invocation.stack.length < 2) :
    (∃ readings fills final lower upper,
        invocation.channel.Supplies (2 - invocation.stack.length) readings fills
            final ∧
          taking.operands invocation.stack.toList fills = [lower, upper] ∧
          invocation.perform whole (.task task) =
            invocation.combined final
              (invocation.journal.noteAll (readings.flatMap Reading.fillEvents))
              (combine lower upper) ∧
          (taking = .atOnce →
            none ∉ fills →
            ∃ ready,
              readNumbers (2 - invocation.stack.length) invocation =
                  .done ready ∧
                ready.perform whole (.task task) =
                  invocation.combined final invocation.journal
                    (combine lower upper))) ∨
      ∃ readings line final fault,
        invocation.channel.Lacks (2 - invocation.stack.length) readings line
            final ∧
          fault.category.name = "InputError" ∧
          fault.message =
            "program expected integer input, got " ++
              String.ofList (Text.quoted line) ++ " instead" ∧
          invocation.perform whole (.task task) =
            invocation.combined final
              (invocation.journal.noteAll (readings.flatMap Reading.fillEvents))
              (.error fault) := by
  have performs {other : Invocation} :
      other.perform whole (.task task) =
        other.doing (Work.combination taking combine) :=
    perform_of_combination known part
  have fewOnBench : invocation.bench.stack.length < 2 := few
  rcases invocation.channel.supplies_or_lacks (2 - invocation.stack.length) with
    ⟨readings, fills, final, supplies⟩ | ⟨readings, line, final, lacks⟩
  · obtain ⟨lower, upper, arranged, taken⟩ :=
      Work.take_of_supplies fewOnBench supplies taking
    refine .inl ⟨readings, fills, final, lower, upper, supplies, arranged,
      performs.trans (doing_combination taken), ?_⟩
    rintro rfl allLines
    obtain ⟨values, rfl⟩ := Taking.exists_values_of_none_notMem allLines
    have filled :
        readings.map Reading.fill = values.map fun value => .ok (some value) := by
      rw [supplies.filled, List.map_map]
      rfl
    rw [Taking.operands_atOnce_of_values] at arranged
    have read := readNumbers_of_answers supplies.answers filled
    rw [supplies.count] at read
    have combines
        (ready : Invocation)
        (pair : ready.stack.toList = [lower, upper]) :
        ready.perform whole (.task task) =
          ready.combined ready.channel ready.journal (combine lower upper) :=
      performs.trans (doing_combination_of_pair pair)
    refine ⟨_, read, (combines _ ?_).trans ?_⟩
    · exact (Stack.toList_append _ _).trans arranged
    · cases combine lower upper <;> rfl
  · refine .inr ⟨readings, line, final, .notInteger line, lacks, rfl, rfl, ?_⟩
    exact performs.trans
      (doing_combination_of_error (Work.take_of_lacks fewOnBench lacks taking))

/-- A difference from five, and the number to take away comes from a line. -/
theorem perform_with_missing_operands_from_line :
    let invocation :=
      (start [] (.console (.lines [['7'], ['8']]) (.emissions [])) (.blank .error)
        default).withStack (.ofList [.int 5])
    Task.subtract.combination? =
        some (.atOnce, fun lower upper => (lower.sub upper).map ([·])) ∧
      invocation.stack.length < 2 ∧
      ∃ final ready,
        final = .console (.lines [['8']]) (.emissions []) ∧
          invocation.perform false (.task .subtract) =
            invocation.combined final
              (invocation.journal.noteAll [.implicitInput]) (.ok [.int (-2)]) ∧
          readNumbers 1 invocation = .done ready ∧
          ready.perform false (.task .subtract) =
            invocation.combined final invocation.journal (.ok [.int (-2)]) := by
  intro invocation
  have known :
      Task.subtract.combination? =
        some (.atOnce, fun lower upper => (lower.sub upper).map ([·])) := rfl
  have few : invocation.stack.length < 2 := by
    decide
  have filled : invocation.channel.read.1.fill = .ok (some 7) := by
    rfl
  refine ⟨known, few, ?_⟩
  have notWhole : false = true → Task.subtract ≠ .add := nofun
  rcases perform_with_missing_operands known notWhole few with
    ⟨readings, fills, final, lower, upper, supplies, arranged, performed, ready⟩ |
      ⟨readings, line, final, fault, lacks, -⟩
  · obtain ⟨fill, _, _, firstFilled, rfl, rfl, noneMissing⟩ :=
      Channel.Supplies.exists_first supplies
    obtain ⟨rfl, rfl, rfl⟩ := noneMissing.nothing
    obtain rfl : some 7 = fill := Except.ok.inj (filled.symm.trans firstFilled)
    cases arranged
    obtain ⟨ready, read, again⟩ := ready rfl (by decide)
    exact ⟨_, ready, rfl, performed, read, again⟩
  · rcases lacks.first_cases with ⟨refused, -⟩ | ⟨_, _, _, _, beyond⟩
    · exact absurd (filled.symm.trans refused) nofun
    · exact absurd beyond.missing_pos (Nat.lt_irrefl 0)

end Invocation

end StackTape
