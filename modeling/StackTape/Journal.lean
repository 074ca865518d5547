import StackTape.Machine.Backup
import StackTape.Tape
import StackTape.Text.Quoted

namespace StackTape

/-!
# The journal

A run keeps a journal of events worth a look.  Each event has a level, an origin and
a message.  A journal admits the events up to its verbosity and drops the rest.
-/

namespace Journal

/-- How important an event is. -/
inductive Level where
  | error
  | warn
  | debug
  | trace
  deriving DecidableEq, Repr

namespace Level

/-- Zero for the most important level. -/
def rank : Level → Nat
  | .error =>
      0
  | .warn =>
      1
  | .debug =>
      2
  | .trace =>
      3

/-- The name of the level in a log. -/
def name : Level → String
  | .error =>
      "ERROR"
  | .warn =>
      "WARN"
  | .debug =>
      "DEBUG"
  | .trace =>
      "TRACE"

end Level

/-- What an invocation looks like right before an instruction. -/
structure Scene where
  instruction : Char
  tape : Tape
  backup : Backup
  inFunction : Bool
  cursor : Nat
  deriving DecidableEq

/-- Something worth a look. -/
inductive Event where
  /-- An instruction is about to run. -/
  | performing (scene : Scene)
  /-- A missing operand was taken from the input. -/
  | implicitInput
  /-- A missing operand was taken to be zero. -/
  | implicitZero
  /-- The end of the text was reached. -/
  | implicitOutput
  /-- A name was bound to a body. -/
  | defined (name : Char)
  /-- An input line was no text. -/
  | unreadableLine
  /-- A run ended with an error. -/
  | failed (report : String)
  /-- The file with the program could not be read. -/
  | unreadableFile (path : Text) (reason : String)
  /-- The program did not load. -/
  | rejected (reason : String)
  deriving DecidableEq

/-- Why bytes are no text. -/
def notText : String :=
  "stream did not contain valid UTF-8"

namespace Event

/-- How important the event is. -/
def level : Event → Level
  | .performing _ =>
      .trace
  | .implicitInput | .implicitZero | .implicitOutput | .defined _
  | .unreadableFile _ _ | .rejected _ =>
      .debug
  | .unreadableLine =>
      .warn
  | .failed _ =>
      .error

/-- The part of the program that notes the event. -/
def origin : Event → String
  | .performing _ | .implicitInput | .implicitZero | .implicitOutput
  | .defined _ =>
      "ly::vm"
  | .unreadableLine =>
      "ly::io"
  | .failed _ | .unreadableFile _ _ | .rejected _ =>
      "ly"

/-- The state of an invocation in one line. -/
def sceneMessage (scene : Scene) : String :=
  let instruction := scene.instruction
  let row :=
    String.ofList
      (List.intercalate [',', ' '] (scene.tape.toList.map Stack.text))
  let backup := scene.backup.inspect
  let place := if scene.inFunction then "function" else "program"
  let cursor := scene.cursor
  let pointer := scene.tape.pointer
  s!"{instruction} | [{row}] | {backup} | {place} | {cursor} | {pointer}"

/-- What the journal says about the event. -/
def message : Event → String
  | .performing scene =>
      sceneMessage scene
  | .implicitInput =>
      "stack empty, using implicit input"
  | .implicitZero =>
      "stack and input empty, using implicit zero"
  | .implicitOutput =>
      "outputting implicitly"
  | .defined name =>
      s!"defined function {name}"
  | .unreadableLine =>
      s!"reading input failed, treating it as exhausted: {notText}"
  | .failed report =>
      report
  | .unreadableFile path reason =>
      let shown := String.ofList (Text.quotedPath path)
      s!"reading {shown} failed: {reason}"
  | .rejected reason =>
      reason

end Event

end Journal

/-- The events admitted so far, newest first. -/
structure Journal where
  verbosity : Journal.Level
  newestFirst : List Journal.Event
  deriving DecidableEq

namespace Journal

/-- A journal without events. -/
def blank (verbosity : Level) : Journal :=
  ⟨verbosity, []⟩

/-- Whether events of a level are kept. -/
def admits
    (journal : Journal)
    (level : Level) : Bool :=
  level.rank ≤ journal.verbosity.rank

/-- Note an event if its level is admitted. -/
def note
    (journal : Journal)
    (event : Event) : Journal :=
  if journal.admits event.level then
    { journal with newestFirst := event :: journal.newestFirst }
  else
    journal

/-- The events in the order in which they happened. -/
def events (journal : Journal) : List Event :=
  journal.newestFirst.reverse

end Journal

end StackTape
