import StackTape.CommandLine.Session
import StackTape.Text.Control

namespace StackTape

/-!
# What a session leaves on the terminal

The command line answers with an exit code, standard output and standard error.  The
journal and the reports of errors go to standard error.
-/

namespace CommandLine

/-- The answer of the command line. -/
structure Answer where
  exit : Nat
  stdout : String
  stderr : String
  deriving DecidableEq

/-- The world around the command line. -/
structure Environment where
  /-- The bytes of a file, or the reason why it cannot be read. -/
  fileBytes : Text → Except String (List UInt8)
  standardInput : List UInt8
  draws : Draws
  /-- How long the run took, in seconds. -/
  elapsed : String

/-- The exit code of a success. -/
def success : Nat :=
  0

/-- The exit code of every failure. -/
def failure : Nat :=
  1

/-- The exit code when the arguments make no sense. -/
def misuse : Nat :=
  2

/-- What the version is asked for. -/
def versionText : String :=
  "ly 0.1.0\n"

/-- How the command line is used. -/
def usage : String :=
  "Interpreter for the Ly stack language\n\n" ++
  "Usage: ly [OPTIONS] <FILE>\n\n" ++
  "Arguments:\n" ++
  "  <FILE>  File to interpret\n\n" ++
  "Options:\n" ++
  "  -d, --debug          Output additional debug information, " ++
  "announcing each output separately\n" ++
  "  -s, --slow           Go through the program step-by-step, " ++
  "pressing Enter for each instruction\n" ++
  "  -i, --input <INPUT>  Input for the program, one line per line of text. " ++
  "If not given, you will be prompted if the program requires input\n" ++
  "  -t, --time <TIME>    Seconds to wait between each execution tick\n" ++
  "      --timeit         Time the program and output how long it took " ++
  "to finish execution\n" ++
  "      --no-input       Don't prompt for input, no matter what\n" ++
  "  -h, --help           Print help\n" ++
  "  -V, --version        Print version\n"

/-- Four blanks in front of every line but the first. -/
def indent (message : String) : String :=
  String.intercalate "\n    " ((message.splitOn "\n"))

/-- A level's name on five columns. -/
def column (level : Journal.Level) : String :=
  level.name ++ String.ofList (List.replicate (5 - level.name.length) ' ')

/-- An event as a line of the log, which holds no controls. -/
def logLine (event : Journal.Event) : String :=
  let level := column event.level
  let origin := event.origin
  let message := indent event.message
  let line := s!"[{level} {origin}] {message}\n"
  String.ofList (Text.withoutControls line.toList)

/-- The journal as a log. -/
def log (journal : Journal) : String :=
  String.join (journal.events.map logLine)

/-- The instruction at a position; the end of the text has none. -/
def instructionName : Option Char → String
  | some c =>
      String.singleton c
  | none =>
      "<end>"

/-- Where a failure happened and what it was. -/
def describe (failed : Failure) : String :=
  match failed.fault with
  | .inFunction name index instruction _ =>
      let origin := failed.origin
      let shown := instructionName instruction
      let kind := origin.fault.category.name
      let reason := origin.fault.message
      s!"Error occurred in function {name}, index {index}, " ++
        s!"instruction {shown} (zero-indexed, excludes comments)\n" ++
        s!"{kind}: {reason}\n"
  | fault =>
      let index := failed.index
      let shown := instructionName failed.instruction
      let kind := fault.category.name
      let reason := fault.message
      s!"Error occurred at program index {index}, " ++
        s!"instruction {shown} (zero-indexed, excludes comments)\n" ++
        s!"{kind}: {reason}\n"

/-- What is said of the end of a session. -/
def endingReport : Ending → String
  | .completed =>
      ""
  | .failed failed =>
      describe failed
  | .closed =>
      "standard input closed during step-by-step execution\n"
  | .unreadable =>
      Journal.notText ++ "\n"
  | .unfinished =>
      "the budget was used up\n"

/-- Why a number of seconds cannot be waited for. -/
def invalidTime? (seconds : Binary64) : Option String :=
  if Cell.isDuration (.real seconds) then
    none
  else if seconds.compare? (Binary64.zero false) = some .lt then
    some "cannot convert float seconds to Duration: value is negative"
  else
    some
      "cannot convert float seconds to Duration: value is either too big or NaN"

/-- What an ended session adds to what it wrote and logged. -/
def closing
    (elapsed : String)
    (session : Session)
    (ending : Ending) : Answer :=
  let timing :=
    if session.options.timeit then
      s!"\nTotal execution time in seconds: {elapsed}\n"
    else
      ""
  let transcript := String.ofList session.transcript
  let summary :=
    if session.options.debug then s!"\nTotal output: {transcript}\n" else ""
  { exit := if ending = .completed then success else failure
    stdout := timing ++ summary
    stderr := endingReport ending }

/-- What an ended session leaves on the terminal. -/
def answerOf
    (elapsed : String)
    (session : Session)
    (ending : Ending) : Answer :=
  let last := closing elapsed session ending
  { exit := last.exit
    stdout := String.ofList session.written ++ last.stdout
    stderr := log session.invocation.journal ++ last.stderr }

/-- An event and a message of a run that did not come to its first step. -/
def refusal
    (options : Options)
    (event : Journal.Event)
    (message : String) : Answer :=
  let journal := (Journal.blank (Session.verbosity options)).note event
  ⟨failure, "", log journal ++ message⟩

/-- The text of the program, or the reason why there is none. -/
def sourceIn
    (environment : Environment)
    (path : Text) : Except String Text := do
  let bytes ← environment.fileBytes path
  match LineSource.decode? bytes with
  | some source =>
      return source
  | none =>
      .error Journal.notText

/-- A session that is ready for its first step, or the answer if there is none. -/
def prepare
    (environment : Environment)
    (options : Options) : Except Answer Session :=
  match sourceIn environment options.file with
  | .error reason =>
      .error
        (refusal options
          (.unreadableFile options.file reason)
          "That file couldn't be found.\n")
  | .ok source =>
      match Program.load? source with
      | none =>
          .error
            (refusal options
              (.rejected Program.loadFailure)
              ("Error occurred during parsing\n" ++
                "SyntaxError: Unmatched brackets in program\n"))
      | some program =>
          match options.time.bind invalidTime? with
          | some reason =>
              .error ⟨failure, "", s!"invalid tick time: {reason}\n"⟩
          | none =>
              .ok
                (Session.start options program environment.standardInput
                  environment.draws)

/-- The options of the run that is asked for, or the answer if it is not a run. -/
def Request.options : Request → Except Answer Options
  | .run options =>
      .ok options
  | .version =>
      .error ⟨success, versionText, ""⟩
  | .help =>
      .error ⟨success, usage, ""⟩
  | .misuse =>
      .error ⟨CommandLine.misuse, "", usage⟩

/-- Do what the arguments ask for. -/
def answer
    (budget : Nat)
    (environment : Environment)
    (arguments : List Text) : Answer :=
  match (readArguments arguments).options with
  | .error given =>
      given
  | .ok options =>
      match prepare environment options with
      | .error refused =>
          refused
      | .ok session =>
          let (final, ending) := session.run budget
          answerOf environment.elapsed final ending

end CommandLine

end StackTape
