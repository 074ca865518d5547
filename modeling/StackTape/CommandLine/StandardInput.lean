import StackTape.Exchange.LineSource

namespace StackTape

/-!
# Sharing standard input

A program that is run step by step may read the same standard input as the prompts
between its steps.  The file is taken in blocks.  The prompts have a buffer of their
own, and so has the program; the program's first takes over what the prompts' buffer
holds, and then blocks of the file.
-/

namespace CommandLine

/-- Standard input and the two buffers on it. -/
structure StandardInput where
  /-- What the program has taken but not read. -/
  program : List UInt8
  /-- What the prompts have taken but not read. -/
  prompt : List UInt8
  /-- What nobody has taken. -/
  file : List UInt8
  deriving DecidableEq

namespace StandardInput

/-- Standard input before its first use. -/
def ofBytes (bytes : List UInt8) : StandardInput :=
  ⟨[], [], bytes⟩

/-- How many bytes are taken at a time. -/
def blockSize : Nat :=
  8192

/-- Taking a block off a nonempty file leaves less of it. -/
theorem length_drop_blockSize_lt
    {file : List UInt8}
    (nonempty : file ≠ []) :
    (file.drop blockSize).length < file.length := by
  have := List.length_pos_iff.2 nonempty
  simp only [List.length_drop, blockSize]
  omega

/-- Everything that the program can still read. -/
def readable (input : StandardInput) : List UInt8 :=
  input.program ++ input.prompt ++ input.file

/-- Take blocks of the file until the program's buffer holds enough. -/
def fillFromFile
    (wanted : Nat)
    (program file : List UInt8) : List UInt8 × List UInt8 :=
  if more : program.length < wanted ∧ file ≠ [] then
    have _shorter := length_drop_blockSize_lt more.2
    fillFromFile wanted (program ++ file.take blockSize) (file.drop blockSize)
  else
    (program, file)
termination_by file.length
decreasing_by
  assumption

/-- Standard input after the program read this many bytes. -/
def consume
    (input : StandardInput)
    (count : Nat) : StandardInput :=
  if count ≤ input.program.length then
    { input with program := input.program.drop count }
  else
    let (program, file) :=
      fillFromFile count (input.program ++ input.prompt) input.file
    ⟨program.drop count, [], file⟩

/-- What a prompt finds. -/
inductive Prompt where
  | answered
  | closed
  | unreadable
  deriving DecidableEq

/-- Take blocks of the file up to one that ends a line. -/
def takeLineBlocks (file : List UInt8) : List UInt8 × List UInt8 :=
  if more : file ≠ [] then
    have _shorter := length_drop_blockSize_lt more
    let block := file.take blockSize
    if block.contains LineSource.feed then
      (block, file.drop blockSize)
    else
      let (others, rest) := takeLineBlocks (file.drop blockSize)
      (block ++ others, rest)
  else
    ([], [])
termination_by file.length
decreasing_by
  assumption

/-- Read the line that a prompt waits for. -/
def answerPrompt (input : StandardInput) : Prompt × StandardInput :=
  let (buffer, file) :=
    if input.prompt.contains LineSource.feed then
      (input.prompt, input.file)
    else
      let (blocks, rest) := takeLineBlocks input.file
      (input.prompt ++ blocks, rest)
  let (line, rest) := LineSource.splitFeed buffer
  let after : StandardInput := { input with prompt := rest, file := file }
  if line = [] then
    (.closed, after)
  else if (LineSource.decode? line).isSome then
    (.answered, after)
  else
    (.unreadable, after)

end StandardInput

end CommandLine

end StackTape
