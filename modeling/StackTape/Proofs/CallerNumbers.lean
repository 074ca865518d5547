import StackTape.Proofs.Operands
import StackTape.Proofs.Returns

namespace StackTape

/-!
# Numbers from the caller

A function reads numbers off its caller's stack, each as the line that is the text of a
cell.  An integer comes back from its text as it was, whatever its size and its sign.  The
text of a real is no integer, so a real is refused where a number is read.  No text of a
cell is empty, so a cell is never taken for the end of the input.
-/

namespace Reading

/-- The line of an integer makes up for an operand with that integer. -/
theorem fill_text_int
    (value : Int) :
    fill (.line (Cell.text (.int value))) = .ok (some value) := by
  have nonempty := (Cell.isPlainLine_text (.int value)).nonempty
  simp [fill, line?, nonempty]

/-- The line of a real is no operand. -/
theorem fill_text_real
    (value : Binary64) :
    fill (.line (Cell.text (.real value))) =
      .error (Cell.text (.real value)) := by
  have nonempty := (Cell.isPlainLine_text (.real value)).nonempty
  simp [fill, line?, nonempty, Cell.integerOfLine?_text_real]

end Reading

namespace Channel

theorem read_caller_push
    (rest : Stack)
    (cell : Cell) :
    read (.caller (rest.push cell)) = (.line cell.text, .caller rest) :=
  rfl

theorem read_caller_empty :
    read (.caller .empty) = (.exhausted, .caller .empty) :=
  rfl

/-! ## Reading all integers -/

section

variable {channel rest : Channel}
variable {line : Text}

/-- The integer of a line is the first one, and reading goes on behind the line. -/
theorem readIntegers_of_integer
    {value : Int}
    (given : channel.read = (.line line, rest))
    (nonempty : line ≠ [])
    (spelled : Cell.integerOfLine? line = some value) :
    channel.readIntegers = (value :: rest.readIntegers.1, rest.readIntegers.2) := by
  rw [readIntegers]
  split <;> simp_all

/-- A line that is no integer ends the reading. -/
theorem readIntegers_of_notInteger
    (given : channel.read = (.line line, rest))
    (nonempty : line ≠ [])
    (unspelled : Cell.integerOfLine? line = none) :
    channel.readIntegers = ([], .notInteger line, rest) := by
  rw [readIntegers]
  split <;> simp_all

theorem readIntegers_of_exhausted
    (given : channel.read = (.exhausted, rest)) :
    channel.readIntegers = ([], .complete, rest) := by
  rw [readIntegers]
  split <;> simp_all

end

theorem readIntegers_caller_int
    (rest : Stack)
    (value : Int) :
    readIntegers (.caller (rest.push (.int value))) =
      (value :: (readIntegers (.caller rest)).1,
        (readIntegers (.caller rest)).2) :=
  readIntegers_of_integer (read_caller_push rest _)
    (Cell.isPlainLine_text _).nonempty (Cell.integerOfLine?_text_int value)

theorem readIntegers_caller_real
    (rest : Stack)
    (value : Binary64) :
    readIntegers (.caller (rest.push (.real value))) =
      ([], .notInteger (Cell.text (.real value)), .caller rest) :=
  readIntegers_of_notInteger (read_caller_push rest _)
    (Cell.isPlainLine_text _).nonempty (Cell.integerOfLine?_text_real value)

end Channel

namespace Work

section

variable {bench : Bench}
variable {rest : Stack}

/-! ## Reading one number -/

/-- An integer that a function reads. -/
theorem readNumber_of_caller_int
    {value : Int}
    (lent : bench.channel = .caller (rest.push (.int value))) :
    readNumber bench =
      .ok ()
        { bench with
          stack := bench.stack.push (.int value)
          channel := .caller rest } := by
  have filled : bench.channel.read.1.fill = .ok (some value) := by
    rw [lent]
    exact Reading.fill_text_int value
  rw [Invocation.readNumber_apply filled, lent]
  rfl

/-- A real that a function comes across. -/
theorem readNumber_of_caller_real
    {value : Binary64}
    (lent : bench.channel = .caller (rest.push (.real value))) :
    readNumber bench =
      .error (.notInteger (Cell.text (.real value)))
        { bench with channel := .caller rest } := by
  have nonempty := (Cell.isPlainLine_text (.real value)).nonempty
  simp [readNumber, readLineOrEmpty, readLine_apply, lent,
    Channel.read_caller_push, Reading.line?, nonempty,
    Cell.integerOfLine?_text_real]

/-- On an empty stack of the caller zero is read. -/
theorem readNumber_of_caller_empty
    (lent : bench.channel = .caller .empty) :
    readNumber bench =
      .ok () { bench with stack := bench.stack.push (.int 0) } := by
  simp [readNumber, readLineOrEmpty, readLine_apply, lent,
    Channel.read_caller_empty, Reading.line?, pushInteger]

/-! ## Reading all numbers -/

/-- One of the readings of all integers. -/
theorem readIntegers_of_caller_int
    {value : Int}
    (lent : bench.channel = .caller (rest.push (.int value))) :
    readIntegers bench =
      readIntegers
        { bench with
          stack := bench.stack.push (.int value)
          channel := .caller rest } := by
  simp only [readIntegers_apply, lent, Channel.readIntegers_caller_int, List.map_cons,
    Stack.push_append]

/-- All integers on top of the caller's stack are read, the top one first. -/
theorem readIntegers_of_caller_append
    {values : List Int}
    (lent : bench.channel = .caller (rest.append (values.map .int))) :
    readIntegers bench =
      readIntegers
        { bench with
          stack := bench.stack.append (values.reverse.map .int)
          channel := .caller rest } := by
  induction values using List.reverseRecOn generalizing bench with
  | nil =>
      have unread : bench.channel = .caller rest := lent
      have nothing : bench.stack.append [] = bench.stack := rfl
      rw [List.reverse_nil, List.map_nil, nothing, ← unread]
  | append_singleton values value inductionHypothesis =>
      rw [List.map_append, List.map_singleton, Stack.append_concat] at lent
      rw [readIntegers_of_caller_int lent, inductionHypothesis rfl]
      simp [Stack.push, Stack.append]

/-- A real ends the reading of all integers. -/
theorem readIntegers_of_caller_real
    {value : Binary64}
    (lent : bench.channel = .caller (rest.push (.real value))) :
    readIntegers bench =
      .error (.notInteger (Cell.text (.real value)))
        { bench with channel := .caller rest } := by
  simp only [readIntegers_apply, lent, Channel.readIntegers_caller_real]
  rfl

/-- So does the bottom of the caller's stack. -/
theorem readIntegers_of_caller_empty
    (lent : bench.channel = .caller .empty) :
    readIntegers bench = .ok () bench := by
  have ended :=
    Channel.readIntegers_of_exhausted Channel.read_caller_empty
  simp only [readIntegers_apply, lent, ended]
  rw [← lent]
  rfl

/-! ## Reading a missing operand -/

/-- An integer of the caller makes up for an operand that a function lacks. -/
theorem operand_of_caller_int
    {value : Int}
    (lent : bench.channel = .caller (rest.push (.int value)))
    (empty : bench.stack = .empty) :
    operand bench =
      .ok ⟨.int value, true⟩
        { bench with
          channel := .caller rest
          journal := bench.journal.note .implicitInput } := by
  have filled := Reading.fill_text_int value
  have read : bench.channel.read = (.line (Cell.text (.int value)), .caller rest) := by
    rw [lent]
    rfl
  rw [operand_apply_of_empty empty (by rw [read]; exact filled), read]
  simp [Bench.usedUp, Reading.fillEvents, filled, empty]

/-- A real of the caller does not. -/
theorem operand_of_caller_real
    {value : Binary64}
    (lent : bench.channel = .caller (rest.push (.real value)))
    (empty : bench.stack = .empty) :
    operand bench =
      .error (.notInteger (Cell.text (.real value)))
        { bench with channel := .caller rest } := by
  have refused := Reading.fill_text_real value
  have read : bench.channel.read = (.line (Cell.text (.real value)), .caller rest) := by
    rw [lent]
    rfl
  rw [operand_apply_of_error empty (by rw [read]; exact refused), read]
  simp [Bench.usedUp, Reading.fillEvents, refused, empty]

/-- On an empty stack of the caller zero does. -/
theorem operand_of_caller_empty
    (lent : bench.channel = .caller .empty)
    (empty : bench.stack = .empty) :
    operand bench =
      .ok ⟨.int 0, false⟩
        { bench with journal := bench.journal.note .implicitZero } := by
  have read : bench.channel.read = (.exhausted, bench.channel) := by
    rw [lent]
    rfl
  rw [operand_apply_of_empty empty (by rw [read]; rfl), read]
  simp [Bench.usedUp, Reading.fillEvents, Reading.fill, Reading.line?, empty]

end

/--
A function reads numbers off its caller's stack, and none of them is altered.  Where it
reads one number, all numbers, or an operand that it lacks, an integer on top of the stack
is taken off and is that very number, and a real on top is taken off and is refused with a
fault that quotes its text.  All integers down to the topmost real or the bottom are what
reading all numbers gives, the top one first.  A stack that is not empty always gives a
line that is not; an empty one is the end of the input, which gives zero, or nothing more
where all numbers are read.
-/
theorem numbers_read_from_caller
    {bench : Bench}
    {lent : Stack}
    (channel : bench.channel = .caller lent) :
    (∀ rest value,
        lent = rest.push (.int value) →
        let below : Bench := { bench with channel := .caller rest }
        let taken : Bench :=
          { below with stack := bench.stack.push (.int value) }
        Task.perform false .readNumber bench = .ok () taken ∧
          Task.perform true .readNumber bench =
            Task.perform true .readNumber taken ∧
          (bench.stack = .empty →
            operand bench =
              .ok ⟨.int value, true⟩
                { below with journal := bench.journal.note .implicitInput })) ∧
      (∀ rest value,
        lent = rest.push (.real value) →
        let below : Bench := { bench with channel := .caller rest }
        ∃ fault,
          fault.category.name = "InputError" ∧
            fault.message =
              "program expected integer input, got " ++
                String.ofList (Text.quoted (Cell.text (.real value))) ++
                " instead" ∧
            Task.perform false .readNumber bench = .error fault below ∧
            Task.perform true .readNumber bench = .error fault below ∧
            (bench.stack = .empty → operand bench = .error fault below)) ∧
      (lent = .empty →
        bench.channel.read = (.exhausted, bench.channel) ∧
          Task.perform false .readNumber bench =
            .ok () { bench with stack := bench.stack.push (.int 0) } ∧
          Task.perform true .readNumber bench = .ok () bench ∧
          (bench.stack = .empty →
            operand bench =
              .ok ⟨.int 0, false⟩
                { bench with journal := bench.journal.note .implicitZero })) ∧
      (lent ≠ .empty →
        ∃ top rest,
          lent = rest.push top ∧
            bench.channel.read = (.line top.text, .caller rest) ∧
            top.text ≠ []) ∧
      (∀ rest (values : List Int),
        lent = rest.append (values.map .int) →
        Task.perform true .readNumber bench =
          Task.perform true .readNumber
            { bench with
              stack := bench.stack.append (values.reverse.map .int)
              channel := .caller rest }) ∧
      (bench.stack = .empty →
        readIfEmpty bench = Task.perform true .readNumber bench) := by
  refine ⟨?integers, ?reals, ?bottom, ?top, ?all, ?missing⟩
  case integers =>
    rintro rest value rfl
    exact ⟨readNumber_of_caller_int channel, readIntegers_of_caller_int channel,
      operand_of_caller_int channel⟩
  case reals =>
    rintro rest value rfl
    exact ⟨.notInteger (Cell.text (.real value)), rfl, rfl,
      readNumber_of_caller_real channel, readIntegers_of_caller_real channel,
      operand_of_caller_real channel⟩
  case bottom =>
    rintro rfl
    refine ⟨by rw [channel]; rfl, readNumber_of_caller_empty channel,
      readIntegers_of_caller_empty channel, operand_of_caller_empty channel⟩
  case top =>
    intro nonempty
    obtain ⟨topFirst⟩ := lent
    cases topFirst with
    | nil =>
        exact absurd rfl nonempty
    | cons top rest =>
        exact ⟨top, ⟨rest⟩, rfl, by rw [channel]; rfl,
          (Cell.isPlainLine_text top).nonempty⟩
  case all =>
    rintro rest values rfl
    exact readIntegers_of_caller_append channel
  case missing =>
    intro empty
    simp [readIfEmpty, empty, Task.perform]

/-- A negative integer on top of a half, read by a function that reads all numbers. -/
theorem numbers_read_from_caller_above_real :
    let half := Cell.real (.finite false 0x14000000000000 (-51) (by decide))
    let lent := Stack.ofList [half, .int (-12)]
    let bench : Bench := ⟨.empty, .caller lent, .blank .error, default, []⟩
    half.text = "2.5".toList ∧
      lent = (Stack.empty.append [half]).push (.int (-12)) ∧
      operand bench =
        .ok ⟨.int (-12), true⟩ { bench with channel := .caller (.ofList [half]) } ∧
      ∃ fault,
        fault.message = "program expected integer input, got \"2.5\" instead" ∧
          Task.perform true .readNumber bench =
            .error fault
              { bench with
                stack := .ofList [.int (-12)]
                channel := .caller .empty } := by
  intro half lent bench
  have text : half.text = "2.5".toList := by
    decide +kernel
  have first := numbers_read_from_caller (show bench.channel = .caller lent from rfl)
  obtain ⟨-, readOn, made⟩ := first.1 (.ofList [half]) (-12) rfl
  let taken : Bench :=
    { bench with stack := .ofList [.int (-12)], channel := .caller (.ofList [half]) }
  have second :=
    numbers_read_from_caller (show taken.channel = .caller (.ofList [half]) from rfl)
  obtain ⟨fault, -, message, -, failed, -⟩ := second.2.1 .empty _ rfl
  refine ⟨text, rfl, made rfl, fault, ?_, readOn.trans failed⟩
  change _ = _ ++ String.ofList (Text.quoted half.text) ++ _ at message
  rw [message, text]
  decide +kernel

end Work

end StackTape
