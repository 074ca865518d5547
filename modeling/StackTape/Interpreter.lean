import StackTape.Machine.Run
import StackTape.Source.Program

namespace StackTape

/-!
# Interpreting a source text

Interpretation loads a source text and runs the program until it stops.  Its verdict
says how that came out; output, input and journal are left as the run made them.
-/

/-- How an interpretation came out. -/
inductive Verdict where
  | completed
  /-- The source text did not load. -/
  | rejected
  | failed (failure : Failure)
  /-- The budget was used up. -/
  | unfinished
  deriving DecidableEq

namespace Verdict

/-- The report of a verdict that is no success. -/
def report? : Verdict → Option String
  | .completed =>
      none
  | .rejected =>
      some Program.loadFailure
  | .failed failure =>
      some failure.report
  | .unfinished =>
      some "the budget was used up"

end Verdict

namespace Interpreter

/-- How deeply function calls may nest unless something else is asked for. -/
def usualLimit : Nat :=
  200

/-- What an interpretation leaves behind. -/
structure Result where
  verdict : Verdict
  channel : Channel
  journal : Journal

/-- Load a source text and run it until it stops. -/
def evaluate
    (limit budget : Nat)
    (source : Text)
    (channel : Channel)
    (journal : Journal)
    (draws : Draws) : Result :=
  match Program.load? source with
  | none =>
      ⟨.rejected, channel, journal⟩
  | some program =>
      let start := Invocation.start program.code channel journal draws
      match start.run limit budget with
      | .done final =>
          ⟨.completed, final.channel, final.journal⟩
      | .failed failure final =>
          ⟨.failed failure, final.channel, final.journal⟩
      | .unfinished =>
          ⟨.unfinished, channel, journal⟩

/-- Interpret with the usual limit, and note an error in the journal. -/
def evaluateNoting
    (budget : Nat)
    (source : Text)
    (channel : Channel)
    (journal : Journal)
    (draws : Draws) : Result :=
  let result := evaluate usualLimit budget source channel journal draws
  match result.verdict.report? with
  | none =>
      result
  | some report =>
      { result with journal := result.journal.note (.failed report) }

end Interpreter

end StackTape
