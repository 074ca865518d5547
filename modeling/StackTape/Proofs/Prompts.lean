import StackTape.CommandLine.StandardInput
import StackTape.Proofs.Readings

namespace StackTape

/-!
# Prompts

The prompts between the steps of a program take standard input in blocks and keep what is
behind a line in a buffer of their own.  Wherever the blocks end, one prompt after the
other finds what a source of the same bytes gives.  So a text answers as many prompts as
it has lines, and the next one finds standard input closed.
-/

namespace LineSource

/-- What is behind a line feed does not matter to the line. -/
theorem splitFeed_append_of_mem
    {bytes : List UInt8}
    (holdsFeed : feed ∈ bytes)
    (others : List UInt8) :
    splitFeed (bytes ++ others) =
      ((splitFeed bytes).1, (splitFeed bytes).2 ++ others) := by
  obtain ⟨line, rest, rfl, noFeed⟩ := List.eq_append_cons_of_mem holdsFeed
  rw [List.append_assoc, List.cons_append, splitFeed_append_feed noFeed,
    splitFeed_append_feed noFeed]

/-- Only where there are no bytes is there nothing in the first line. -/
theorem splitFeed_fst_ne_nil
    {bytes : List UInt8}
    (nonempty : bytes ≠ []) :
    (splitFeed bytes).1 ≠ [] := by
  cases bytes with
  | nil =>
      exact absurd rfl nonempty
  | cons first rest =>
      simp only [splitFeed]
      split <;> exact List.cons_ne_nil _ _

end LineSource

namespace CommandLine

namespace StandardInput

/-- What the prompts have still to read. -/
def ahead (input : StandardInput) : List UInt8 :=
  input.prompt ++ input.file

/-- Taking blocks loses no byte. -/
theorem takeLineBlocks_append
    (file : List UInt8) :
    (takeLineBlocks file).1 ++ (takeLineBlocks file).2 = file := by
  fun_induction takeLineBlocks file with
  | case1 file _ _ block =>
      exact List.take_append_drop blockSize file
  | case2 file _ _ block _ others rest taken inductionHypothesis =>
      rw [taken] at inductionHypothesis
      rw [List.append_assoc, inductionHypothesis]
      exact List.take_append_drop blockSize file
  | case3 file none =>
      exact (Classical.not_not.1 none).symm

/-- Blocks are taken up to a line feed, or else up to the end. -/
theorem takeLineBlocks_ends
    (file : List UInt8) :
    LineSource.feed ∈ (takeLineBlocks file).1 ∨ (takeLineBlocks file).2 = [] := by
  fun_induction takeLineBlocks file with
  | case1 file _ _ block holdsFeed =>
      exact .inl (List.contains_iff_mem.1 holdsFeed)
  | case2 file _ _ block _ others rest taken inductionHypothesis =>
      rw [taken] at inductionHypothesis
      exact inductionHypothesis.imp_left (List.mem_append_right block)
  | case3 =>
      exact .inr rfl

/-- The buffer that a prompt takes its line from, and the file behind it. -/
def filled (input : StandardInput) : List UInt8 × List UInt8 :=
  if input.prompt.contains LineSource.feed then
    (input.prompt, input.file)
  else
    (input.prompt ++ (takeLineBlocks input.file).1, (takeLineBlocks input.file).2)

theorem filled_append
    (input : StandardInput) :
    input.filled.1 ++ input.filled.2 = input.ahead := by
  unfold filled
  split
  · rfl
  · rw [List.append_assoc, takeLineBlocks_append, ahead]

/-- All of the line is in the buffer. -/
theorem splitFeed_ahead
    (input : StandardInput) :
    LineSource.splitFeed input.ahead =
      ((LineSource.splitFeed input.filled.1).1,
        (LineSource.splitFeed input.filled.1).2 ++ input.filled.2) := by
  have ends : LineSource.feed ∈ input.filled.1 ∨ input.filled.2 = [] := by
    unfold filled
    split
    · rename_i holdsFeed
      exact .inl (List.contains_iff_mem.1 holdsFeed)
    · exact (takeLineBlocks_ends input.file).imp_left (List.mem_append_right _)
  rw [← filled_append]
  rcases ends with holdsFeed | atEnd
  · exact LineSource.splitFeed_append_of_mem holdsFeed _
  · simp [atEnd]

/-- What a prompt finds where a source gives this reading. -/
def Prompt.ofReading : Reading → Prompt
  | .line _ =>
      .answered
  | .exhausted =>
      .closed
  | .unreadable =>
      .unreadable

/-- What a prompt finds is said by the first line that is ahead of it. -/
theorem answerPrompt_eq
    (input : StandardInput) :
    let line := (LineSource.splitFeed input.ahead).1
    input.answerPrompt =
      (if line = [] then
          .closed
        else if (LineSource.decode? line).isSome then
          .answered
        else
          .unreadable,
        { input with
          prompt := (LineSource.splitFeed input.filled.1).2
          file := input.filled.2 }) := by
  intro line
  have taken :
      input.answerPrompt =
        let line := (LineSource.splitFeed input.filled.1).1
        let after : StandardInput :=
          { input with
            prompt := (LineSource.splitFeed input.filled.1).2
            file := input.filled.2 }
        if line = [] then
          (.closed, after)
        else if (LineSource.decode? line).isSome then
          (.answered, after)
        else
          (.unreadable, after) :=
    rfl
  have same : (LineSource.splitFeed input.filled.1).1 = line := by
    simp only [line, splitFeed_ahead]
  rw [taken]
  simp only [same]
  split
  · rfl
  · split <;> rfl

/-- A prompt reads like a source of the bytes that are ahead of it. -/
theorem answerPrompt_reads
    (input : StandardInput) :
    input.answerPrompt.1 = .ofReading (LineSource.bytes input.ahead).read.1 ∧
      (LineSource.bytes input.ahead).read.2 = .bytes input.answerPrompt.2.ahead := by
  have behind :
      input.answerPrompt.2.ahead = (LineSource.splitFeed input.ahead).2 := by
    rw [answerPrompt_eq, splitFeed_ahead, ahead]
  rw [behind, answerPrompt_eq]
  cases pending : input.ahead with
  | nil =>
      exact ⟨rfl, rfl⟩
  | cons first others =>
      have line := LineSource.splitFeed_fst_ne_nil (List.cons_ne_nil first others)
      simp only [LineSource.read, line, reduceIte]
      cases LineSource.decode? (LineSource.splitFeed (first :: others)).1 with
      | some text =>
          exact ⟨rfl, rfl⟩
      | none =>
          exact ⟨rfl, rfl⟩

/-- The bytes ahead are a text of so many lines. -/
def HoldsLines
    (input : StandardInput)
    (count : Nat) : Prop :=
  ∃ text : Text, input.ahead = text.encode ∧ text.lines.length = count

/-- A prompt uses one of the lines up. -/
theorem HoldsLines.answered
    {input : StandardInput}
    {count : Nat}
    (holds : input.HoldsLines (count + 1)) :
    ∃ after, input.answerPrompt = (.answered, after) ∧ after.HoldsLines count := by
  obtain ⟨text, bytes, counted⟩ := holds
  obtain ⟨found, left⟩ := input.answerPrompt_reads
  obtain ⟨rest, reading, bytesLeft, linesLeft⟩ := LineSource.read_encode_and_lines text
  rw [bytes, reading] at found
  rw [bytes, bytesLeft] at left
  cases lines : text.lines with
  | nil =>
      rw [lines] at counted
      cases counted
  | cons first others =>
      rw [LineSource.ofText, lines] at found linesLeft
      refine ⟨input.answerPrompt.2, Prod.ext found rfl, rest, ?_, ?_⟩
      · injection left with same
        exact same.symm
      · injection linesLeft with same
        rw [← same]
        rw [lines] at counted
        exact Nat.succ.inj counted

/-- Where no line is left, a prompt finds standard input closed. -/
theorem HoldsLines.closed
    {input : StandardInput}
    (holds : input.HoldsLines 0) :
    ∃ after, input.answerPrompt = (.closed, after) := by
  obtain ⟨text, bytes, counted⟩ := holds
  obtain ⟨found, -⟩ := input.answerPrompt_reads
  obtain ⟨rest, reading, -, -⟩ := LineSource.read_encode_and_lines text
  rw [bytes, reading, LineSource.ofText, List.length_eq_zero_iff.1 counted] at found
  exact ⟨input.answerPrompt.2, Prod.ext found rfl⟩

end StandardInput

end CommandLine

end StackTape
