import StackTape.CommandLine.Arguments
import StackTape.CommandLine.StandardInput
import StackTape.Interpreter

namespace StackTape

/-!
# Sessions

A session is a program run from the command line.  Its output goes to standard
output, plainly or announced.  Step by step, every step is followed by a prompt that
waits for a line of standard input.
-/

namespace CommandLine

/-- A program at work for the command line. -/
structure Session where
  options : Options
  invocation : Invocation
  input : StandardInput

/-- Why a session ended. -/
inductive Ending where
  | completed
  | failed (failure : Failure)
  /-- A prompt found standard input closed. -/
  | closed
  /-- A prompt found a line that is no text. -/
  | unreadable
  /-- The budget was used up. -/
  | unfinished
  deriving DecidableEq

namespace Session

/-- Whether the program reads standard input. -/
def readsStandardInput (options : Options) : Bool :=
  options.input.isNone && !options.noInput

/-- Where the program's lines come from. -/
def source
    (options : Options)
    (bytes : List UInt8) : LineSource :=
  match options.input, options.noInput with
  | some given, _ =>
      .ofText given
  | none, true =>
      .emptyLines
  | none, false =>
      .bytes bytes

/-- Where the program's output goes. -/
def sink (options : Options) : Sink :=
  if options.debug then
    .announced (.blank none) []
  else
    .plain (.blank none)

/-- How much of the journal is kept. -/
def verbosity (options : Options) : Journal.Level :=
  if options.debug then .trace else .warn

/-- A session before its first step. -/
def start
    (options : Options)
    (program : Program)
    (bytes : List UInt8)
    (draws : Draws) : Session where
  options := options
  invocation :=
    Invocation.start
      program.code
      (.console (source options bytes) (sink options))
      (.blank (verbosity options))
      draws
  input := .ofBytes bytes

/--
Let the program read what standard input still holds for it.  Unless prompts read
standard input too, the program's own source already holds all of it.
-/
def offerInput (session : Session) : Invocation :=
  match session.options.slow, session.invocation.channel with
  | true, .console (.bytes _) sink =>
      { session.invocation with
        channel := .console (.bytes session.input.readable) sink }
  | _, _ =>
      session.invocation

/-- Standard input after a step that left the invocation like this. -/
def inputAfter
    (session : Session)
    (invocation : Invocation) : StandardInput :=
  match session.options.slow, invocation.channel with
  | true, .console (.bytes rest) _ =>
      session.input.consume (session.input.readable.length - rest.length)
  | _, _ =>
      session.input

/-- Wait for a line after a step of a session that goes step by step. -/
def prompt (session : Session) : Session × Option Ending :=
  let (found, input) := session.input.answerPrompt
  let after := { session with input := input }
  match found with
  | .answered =>
      (after, none)
  | .closed =>
      (after, some .closed)
  | .unreadable =>
      (after, some .unreadable)

/-- Make one step, or tell why the session ended. -/
def act
    (budget : Nat)
    (session : Session) : Session × Option Ending :=
  if session.invocation.halt.isSome then
    (session, some .completed)
  else
    match session.offerInput.step Interpreter.usualLimit budget with
    | .done invocation =>
        ({ session with
            invocation := invocation
            input := session.inputAfter invocation },
          none)
    | .failed failure invocation =>
        ({ session with
            invocation := invocation
            input := session.inputAfter invocation },
          some (.failed failure))
    | .unfinished =>
        (session, some .unfinished)

/-- Make one step and, step by step, wait for a line after it. -/
def advance
    (budget : Nat)
    (session : Session) : Session × Option Ending :=
  match session.act budget with
  | (after, none) =>
      if after.options.slow then after.prompt else (after, none)
  | (after, some ending) =>
      (after, some ending)

/-- Go on until the session ends. -/
def run : Nat → Session → Session × Ending
  | 0, session =>
      (session, .unfinished)
  | budget + 1, session =>
      match session.advance budget with
      | (after, none) =>
          run budget after
      | (after, some ending) =>
          (after, ending)

/-- The device behind the program's output. -/
def device? (session : Session) : Option Device :=
  match session.invocation.channel with
  | .console _ (.plain device) =>
      some device
  | .console _ (.announced device _) =>
      some device
  | _ =>
      none

/-- The program's writes to standard output, newest first. -/
def writes (session : Session) : List Text :=
  (session.device?.map Device.newestFirst).getD []

/-- What a list that is kept newest first has gained, oldest first. -/
def gained
    {α : Type}
    (before after : List α) : List α :=
  (after.take (after.length - before.length)).reverse

/-- What was written since an earlier state of the session. -/
def writtenSince (earlier session : Session) : Text :=
  (gained earlier.writes session.writes).flatten

/-- What was noted since an earlier state of the session. -/
def notedSince (earlier session : Session) : List Journal.Event :=
  gained
    earlier.invocation.journal.newestFirst
    session.invocation.journal.newestFirst

/-- How long to wait since an earlier state of the session, in seconds. -/
def waitedSince (earlier session : Session) : List Binary64 :=
  gained earlier.invocation.waits session.invocation.waits

/-- Let more of standard input arrive. -/
def receive
    (session : Session)
    (bytes : List UInt8) : Session :=
  let invocation :=
    match session.invocation.channel with
    | .console (.bytes pending) sink =>
        { session.invocation with
          channel := .console (.bytes (pending ++ bytes)) sink }
    | _ =>
        session.invocation
  { session with
    invocation := invocation
    input := { session.input with file := session.input.file ++ bytes } }

/-- How much of what arrived is still to be read. -/
def unread (session : Session) : Nat :=
  match session.options.slow, session.invocation.channel with
  | false, .console (.bytes pending) _ =>
      pending.length
  | _, _ =>
      session.input.readable.length

/-- What the program wrote to standard output. -/
def written (session : Session) : Text :=
  (session.device?.map Device.contents).getD []

/-- Everything the program output, without announcements. -/
def transcript (session : Session) : Text :=
  match session.invocation.channel with
  | .console _ sink =>
      sink.output
  | .caller _ =>
      []

end Session

end CommandLine

end StackTape
