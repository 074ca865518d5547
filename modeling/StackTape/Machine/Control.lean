import StackTape.Machine.Invocation
import StackTape.Machine.Task
import StackTape.Source.Literal
import StackTape.Source.Nesting

namespace StackTape

/-!
# Instructions beyond the current stack

These instructions read the text around the cursor, move the cursor, or touch what
an invocation has beside its current stack.  A jump to a closing bracket stops one
character short, so that the step's own advance lands on it.
-/

namespace Invocation

/-- The text behind the cursor. -/
def behindCursor (invocation : Invocation) : Text :=
  invocation.code.drop (invocation.cursor + 1)

/-- The partner behind the cursor of an opening bracket at the cursor. -/
def partner?
    (invocation : Invocation)
    (opening closing : Char) : Option Nat :=
  Source.partnerAfter? opening closing invocation.code (invocation.cursor + 1)

/-- Push what a row of digits spells, nothing when there is no digit. -/
def pushSpelled
    (invocation : Invocation)
    (row : Text) : Invocation :=
  if row = [] then
    invocation
  else
    invocation.withStack (invocation.stack.push (.int (Decimal.spelled row)))

/--
Push the number made of all digits up to the matching parenthesis; without one, of
all digits behind the cursor.
-/
def pushNumber (invocation : Invocation) : Invocation :=
  match invocation.partner? '(' ')' with
  | some close =>
      let inside := invocation.behindCursor.take (close - (invocation.cursor + 1))
      (invocation.pushSpelled (inside.filter Char.isDigit)).withCursor (close - 1)
  | none =>
      invocation.pushSpelled (invocation.behindCursor.filter Char.isDigit)

/--
Push the characters of a string.  Without a closing quote the cursor stays, and the
characters run as instructions afterwards.
-/
def pushString (invocation : Invocation) : Invocation :=
  let (characters, closing) := Source.readString false invocation.behindCursor
  let pushed :=
    invocation.withStack
      (invocation.stack.append (characters.map Cell.ofChar))
  match closing with
  | some offset =>
      pushed.withCursor (invocation.cursor + 1 + offset)
  | none =>
      pushed

/-- Push the next character and step over it, when there is one. -/
def pushCharacter (invocation : Invocation) : Invocation :=
  match invocation.next? with
  | some c =>
      (invocation.withStack
        (invocation.stack.push (Cell.ofChar (Source.disclose c)))).withCursor
          (invocation.cursor + 1)
  | none =>
      invocation

/-- Skip a loop unless the top cell is true. -/
def enterLoop (invocation : Invocation) : Invocation :=
  if invocation.isTopTrue then
    invocation
  else
    match invocation.partner? '[' ']' with
    | some close =>
        invocation.withCursor (close - 1)
    | none =>
        invocation

/-- Go back to the start of a loop if the top cell is true. -/
def repeatLoop (invocation : Invocation) : Invocation :=
  if invocation.isTopTrue then
    match Source.partnerBefore? '[' ']' invocation.code invocation.cursor with
    | some position =>
        invocation.withCursor position
    | none =>
        invocation
  else
    invocation

/-- Where the cursor is after leaving a number of loops. -/
def cursorOutside
    (code : Text) : Nat → Nat → Nat
  | 0, cursor =>
      cursor
  | count + 1, cursor =>
      match Source.partnerAfter? '[' ']' code (cursor + 1) with
      | some close =>
          cursorOutside code count close
      | none =>
          cursor

/-- Take a number off the stack and leave that many loops. -/
def leaveLoops (invocation : Invocation) : Outcome Fault Invocation :=
  invocation.working
    (do Work.ofExcept (← Work.takeTop).clampedInteger)
    fun count after =>
      .done
        (after.withCursor (cursorOutside after.code count.toNat after.cursor))

/-- Bind the body up to the matching brace to the character before. -/
def define (invocation : Invocation) : Outcome Fault Invocation :=
  match invocation.partner? '\x7b' '\x7d' with
  | none =>
      .done invocation
  | some close =>
      let body := invocation.behindCursor.take (close - (invocation.cursor + 1))
      let moved := invocation.withCursor (close - 1)
      if body.contains 'i' then
        .failed .inputInFunction moved
      else
        match invocation.previous? with
        | none =>
            .done moved
        | some name =>
            .done
              { moved.noting (.defined name) with
                functions := moved.functions.bind name body }

/-- Put the backup on the stack. -/
def load (invocation : Invocation) : Outcome Fault Invocation :=
  match invocation.backup with
  | .empty =>
      .failed .emptyBackup invocation
  | .cell cell =>
      .done (invocation.withStack (invocation.stack.push cell))
  | .column cells =>
      .done (invocation.withStack (invocation.stack.append cells))

/-- Back the top cell up; an empty stack empties the backup. -/
def storeTop (invocation : Invocation) : Invocation :=
  match invocation.stack.peek? with
  | some top =>
      { invocation with backup := .cell top }
  | none =>
      { invocation with backup := .empty }

/-- Back the whole stack up. -/
def storeAll (invocation : Invocation) : Outcome Fault Invocation :=
  invocation.working
    (do
      Work.readIfEmpty
      return (← Work.stack).toList)
    fun cells after =>
      .done { after with backup := .column cells }

/-- What an opcode does; `whole` selects the variant for the whole stack. -/
def perform
    (invocation : Invocation)
    (whole : Bool) : Opcode → Outcome Fault Invocation
  | .task task =>
      invocation.doing (task.perform whole)
  | .number =>
      .done invocation.pushNumber
  | .string =>
      .done invocation.pushString
  | .character =>
      .done invocation.pushCharacter
  | .loopStart =>
      .done invocation.enterLoop
  | .loopEnd =>
      .done invocation.repeatLoop
  | .leaveLoops =>
      invocation.leaveLoops
  | .define =>
      invocation.define
  | .load =>
      invocation.load
  | .store =>
      if whole then invocation.storeAll else .done invocation.storeTop
  | .moveLeft =>
      .done { invocation with tape := invocation.tape.moveLeft }
  | .moveRight =>
      .done { invocation with tape := invocation.tape.moveRight }
  | .terminate =>
      .done { invocation with halt := some .terminated }

end Invocation

end StackTape
