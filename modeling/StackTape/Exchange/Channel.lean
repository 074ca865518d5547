import StackTape.Cell.Reading
import StackTape.Exchange.LineSource
import StackTape.Exchange.Sink
import StackTape.Stack

namespace StackTape

/-!
# Channels

An invocation reads lines from, and emits to, its channel.  A program's channel is a
source and a sink.  A called function's channel is its caller's current stack: a
read takes the top cell off as a line, and an emission is pushed, a text line by
line.
-/

/-- What an invocation reads from and writes to. -/
inductive Channel where
  | console (source : LineSource) (sink : Sink)
  | caller (stack : Stack)
  deriving DecidableEq

namespace Channel

/-- The next line, and the channel after it. -/
def read : Channel → Reading × Channel
  | .console source sink =>
      let (reading, rest) := source.read
      (reading, .console rest sink)
  | .caller stack =>
      match stack.pop? with
      | some (top, rest) =>
          (.line top.text, .caller rest)
      | none =>
          (.exhausted, .caller stack)

/-- The cells that an emission leaves on a caller's stack. -/
def returned : Emission → List Cell
  | .character value =>
      [Cell.ofChar value]
  | .number cell =>
      [cell]
  | .text value =>
      value.lines.flatMap Cell.ofReturnedLine

/-- Take an emission; on a refusal the channel that is left behind. -/
def emit : Channel → Emission → Except Channel Channel
  | .console source sink, emission =>
      match sink.emit emission with
      | .ok after =>
          .ok (.console source after)
      | .error after =>
          .error (.console source after)
  | .caller stack, emission =>
      .ok (.caller (stack.append (returned emission)))

/-- How many more nonempty lines there can be at most. -/
def pending : Channel → Nat
  | .console source _ =>
      source.pending
  | .caller stack =>
      stack.length

/-- Reading a nonempty line leaves less to read. -/
theorem pending_read_lt
    {channel rest : Channel}
    {line : Text}
    (nonempty : line ≠ [])
    (given : channel.read = (.line line, rest)) :
    rest.pending < channel.pending := by
  cases channel with
  | console source sink =>
      simp only [read, Prod.mk.injEq] at given
      rw [← given.2]
      apply LineSource.pending_read_lt nonempty
      rw [← given.1]
  | caller stack =>
      simp only [read] at given
      split at given
      · rename_i top others popped
        simp only [Prod.mk.injEq] at given
        rw [← given.2, Stack.pop?_eq_some_iff.1 popped]
        simp [pending, Stack.length, Stack.push]
      · simp at given

/-- How reading all numbers came to its end. -/
inductive Ending where
  /-- At an empty line or the end of the input. -/
  | complete
  /-- At a line that is no text. -/
  | unreadable
  /-- At a line that is no integer. -/
  | notInteger (line : Text)
  deriving DecidableEq

/--
Read one integer after the other up to the first empty line or the end of the
input: the integers, why it ended, and the channel after it.
-/
def readIntegers (channel : Channel) : List Int × Ending × Channel :=
  match given : channel.read with
  | (.exhausted, rest) =>
      ([], .complete, rest)
  | (.unreadable, rest) =>
      ([], .unreadable, rest)
  | (.line line, rest) =>
      if nonempty : line = [] then
        ([], .complete, rest)
      else
        match Cell.integerOfLine? line with
        | none =>
            ([], .notInteger line, rest)
        | some value =>
            have _shorter := pending_read_lt nonempty given
            let (others, ending, final) := readIntegers rest
            (value :: others, ending, final)
termination_by channel.pending

end Channel

end StackTape
