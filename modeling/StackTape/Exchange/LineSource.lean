import StackTape.Text.Lines

namespace StackTape

/-!
# Sources of input lines

A source gives one line after the other until it is exhausted.  A source of bytes
ends a line at a line feed or at the end, and drops the line feed and one carriage
return before it.  A line of bytes that is not UTF-8 is used up without giving a
text.
-/

/-- What one attempt to read a line gives. -/
inductive Reading where
  | line (text : Text)
  | exhausted
  /-- The line was used up but is no text. -/
  | unreadable
  deriving DecidableEq

namespace Reading

/-- The line; an unreadable one counts as the end of the input. -/
def line? : Reading → Option Text
  | .line text =>
      some text
  | .exhausted | .unreadable =>
      none

end Reading

/-- Where a program's input lines come from. -/
inductive LineSource where
  /-- No line, ever. -/
  | exhausted
  /-- Empty lines without end. -/
  | emptyLines
  /-- These lines. -/
  | lines (pending : List Text)
  /-- The lines of these bytes. -/
  | bytes (pending : List UInt8)
  deriving DecidableEq

namespace LineSource

/-- The byte that ends a line. -/
def feed : UInt8 :=
  10

/-- The bytes of the first line with its line feed, and the bytes after it. -/
def splitFeed : List UInt8 → List UInt8 × List UInt8
  | [] =>
      ([], [])
  | byte :: rest =>
      if byte = feed then
        ([byte], rest)
      else
        let (line, others) := splitFeed rest
        (byte :: line, others)

/-- The text that bytes encode in UTF-8. -/
def decode? (bytes : List UInt8) : Option Text :=
  bytes.toByteArray.utf8Decode?.map Array.toList

/-- A line's content: without its line feed and a carriage return before that. -/
def content (line : Text) : Text :=
  if line.getLast? = some '\n' then
    Text.dropCarriageReturn line.dropLast
  else
    line

/-- The lines of a text. -/
def ofText (text : Text) : LineSource :=
  .lines text.lines

/-- The next line, and the source after it. -/
def read : LineSource → Reading × LineSource
  | .exhausted =>
      (.exhausted, .exhausted)
  | .emptyLines =>
      (.line [], .emptyLines)
  | .lines [] =>
      (.exhausted, .lines [])
  | .lines (first :: rest) =>
      (.line first, .lines rest)
  | .bytes [] =>
      (.exhausted, .bytes [])
  | .bytes (first :: rest) =>
      let (line, others) := splitFeed (first :: rest)
      match decode? line with
      | some text =>
          (.line (content text), .bytes others)
      | none =>
          (.unreadable, .bytes others)

/-- How much input is left that can still give a nonempty line. -/
def pending : LineSource → Nat
  | .exhausted | .emptyLines =>
      0
  | .lines pending =>
      pending.length
  | .bytes pending =>
      pending.length

/-- Splitting at a line feed loses no byte. -/
theorem splitFeed_append
    (bytes : List UInt8) :
    (splitFeed bytes).1 ++ (splitFeed bytes).2 = bytes := by
  induction bytes with
  | nil =>
      rfl
  | cons byte rest inductionHypothesis =>
      simp only [splitFeed]
      split
      · rfl
      · simpa using inductionHypothesis

/-- Reading a nonempty line leaves less input. -/
theorem pending_read_lt
    {source rest : LineSource}
    {line : Text}
    (nonempty : line ≠ [])
    (given : source.read = (.line line, rest)) :
    rest.pending < source.pending := by
  cases source with
  | exhausted =>
      simp [read] at given
  | emptyLines =>
      simp only [read, Prod.mk.injEq, Reading.line.injEq] at given
      exact absurd given.1.symm nonempty
  | lines waiting =>
      cases waiting with
      | nil =>
          simp [read] at given
      | cons first others =>
          simp only [read, Prod.mk.injEq] at given
          simp [← given.2, pending]
  | bytes waiting =>
      cases waiting with
      | nil =>
          simp [read] at given
      | cons first others =>
          have whole := congrArg List.length (splitFeed_append (first :: others))
          have consumed : 0 < (splitFeed (first :: others)).1.length := by
            simp only [splitFeed]
            split <;> simp
          simp only [List.length_append] at whole
          simp only [read] at given
          split at given
          · simp only [Prod.mk.injEq] at given
            rw [← given.2]
            simp only [pending]
            omega
          · simp at given

end LineSource

end StackTape
