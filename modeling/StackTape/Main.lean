import StackTape.CommandLine.Report

/-!
# The command line program

Everything is decided by `StackTape.CommandLine`; here files and standard input are
read, and what a session writes and logs is shown step by step.  From a terminal,
lines are read one by one as the session comes to need them; any other standard input
is read to its end before the first step.
-/

namespace StackTape

namespace CommandLine

/-- More steps than any function body makes. -/
def unboundedBudget : Nat :=
  1 <<< 62

/-- Read a stream to its end. -/
partial def readAll
    (stream : IO.FS.Stream)
    (bytes : ByteArray) : IO ByteArray := do
  let block ← stream.read 8192
  if block.isEmpty then
    return bytes
  else
    readAll stream (bytes ++ block)

/-- Why a file cannot be read, in the words of the operating system. -/
def reasonOf : IO.Error → String
  | .noFileOrDirectory .. =>
      "No such file or directory (os error 2)"
  | .inappropriateType .. =>
      "Is a directory (os error 21)"
  | .permissionDenied .. =>
      "Permission denied (os error 13)"
  | other =>
      toString other

/-- The bytes of a file, or the reason why it cannot be read. -/
def bytesOf (path : Text) : IO (Except String (List UInt8)) := do
  try
    let bytes ← IO.FS.readBinFile (String.ofList path)
    return .ok bytes.toList
  catch error =>
    return .error (reasonOf error)

/-- Show an answer. -/
def deliver (answer : Answer) : IO UInt32 := do
  let stdout ← IO.getStdout
  stdout.putStr answer.stdout
  stdout.flush
  (← IO.getStderr).putStr answer.stderr
  return UInt32.ofNat answer.exit

/-- Wait for a number of seconds. -/
def pause (seconds : Binary64) : IO Unit :=
  IO.sleep (seconds.toFloat * 1000).toUInt32

/-- Show what a session wrote and logged, and wait as long as it asked for. -/
def showProgress (before after : Session) : IO Unit := do
  let stdout ← IO.getStdout
  stdout.putStr (String.ofList (before.writtenSince after))
  stdout.flush
  (← IO.getStderr).putStr
    (String.join ((before.notedSince after).map logLine))
  (before.waitedSince after).forM pause

/-- Read up to the end of a line. -/
partial def readLine
    (stream : IO.FS.Stream)
    (bytes : List UInt8) : IO (List UInt8) := do
  match (← stream.read 1).toList with
  | [byte] =>
      if byte = LineSource.feed then
        return bytes ++ [byte]
      else
        readLine stream (bytes ++ [byte])
  | _ =>
      return bytes

/--
Do something once enough of the terminal's input has arrived.  Whether it reads past
that is seen from one more line, an empty one, that it would then use up.
-/
partial def onceArrived
    (action : Session → Session × Option Ending)
    (session : Session) : IO (Session × Option Ending) := do
  let (beyond, _) := action (session.receive [LineSource.feed])
  if 0 < beyond.unread then
    return action session
  else
    match ← readLine (← IO.getStdin) [] with
    | [] =>
        return action session
    | line =>
        onceArrived action (session.receive line)

/-- Step until the session ends. -/
partial def play
    (isTerminal : Bool)
    (session : Session) : IO (Session × Ending) := do
  let perform := fun (action : Session → Session × Option Ending) session =>
    if isTerminal then onceArrived action session else pure (action session)
  if session.invocation.halt.isNone && session.invocation.instruction?.isSome then
    session.options.time.forM pause
  let (acted, ending?) ← perform (Session.act unboundedBudget) session
  showProgress session acted
  match ending? with
  | some ending =>
      return (acted, ending)
  | none =>
      if acted.options.slow then
        match ← perform Session.prompt acted with
        | (prompted, some ending) =>
            return (prompted, ending)
        | (prompted, none) =>
            play isTerminal prompted
      else
        play isTerminal acted

/-- Run the program in a file. -/
def runFile (options : Options) : IO UInt32 := do
  let found ← bytesOf options.file
  let stdin ← IO.getStdin
  let isTerminal ← stdin.isTty
  let isReading := options.slow || Session.readsStandardInput options
  let input ←
    if isReading && !isTerminal then
      readAll stdin .empty
    else
      pure .empty
  let seed ← IO.rand 0 0xFFFFFFFFFFFFFFFF
  let environment : Environment :=
    { fileBytes := fun _ => found
      standardInput := input.toList
      draws := .ofSeed (UInt64.ofNat seed)
      elapsed := "" }
  match prepare environment options with
  | .error refused =>
      deliver refused
  | .ok session =>
      let started ← IO.monoNanosNow
      let (final, ending) ← play (isReading && isTerminal) session
      let nanoseconds := (← IO.monoNanosNow) - started
      let elapsed : Decimal := ⟨nanoseconds, -9⟩
      deliver (closing (String.ofList elapsed.positional) final ending)

end CommandLine

end StackTape

/-- Do what the arguments ask for. -/
def main (arguments : List String) : IO UInt32 := do
  let request := StackTape.CommandLine.readArguments (arguments.map String.toList)
  match request.options with
  | .error given =>
      StackTape.CommandLine.deliver given
  | .ok options =>
      StackTape.CommandLine.runFile options
