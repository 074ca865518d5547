import StackTape.Machine.Run
import StackTape.Proofs.Structured.Script

namespace StackTape

/-!
# Structured semantics

How a script runs, told along its tree: there is no cursor, and nothing is searched in
a text.  A loop runs its body as long as the top of the current stack is true when the
body could begin.  Leaving loops, the end of the invocation and failures are endings
that a script hands on to what encloses it.  A run that goes on forever has no
derivation.
-/

namespace Structured

/-- All of an invocation but its text, its place in it, its halt and its journal. -/
structure State where
  depth : Nat
  tape : Tape
  backup : Backup
  functions : Bindings
  channel : Channel
  draws : Draws
  waits : List Binary64

/-- Where a script stands: behind which text and in how many loops. -/
structure Place where
  before : Text
  loops : Nat

/-- How the run of a script ends. -/
inductive Ending where
  /-- The script was run to its end. -/
  | through (state : State)
  /-- The innermost loop is left, and as many further ones. -/
  | leaving (further : Nat) (state : State)
  /-- A terminating instruction was executed. -/
  | stopped (state : State)
  | failed (failure : Failure) (state : State)

/-- How an invocation as a whole comes out. -/
structure Conclusion where
  failure? : Option Failure
  halt : Option Halt
  state : State

namespace Place

/-- The place of a whole text. -/
def start : Place :=
  ⟨[], 0⟩

/-- How many characters there are before. -/
def index (place : Place) : Nat :=
  place.before.length

/-- The character right before. -/
def previous? (place : Place) : Option Char :=
  place.before.getLast?

/-- The place behind a text. -/
def past
    (place : Place)
    (text : Text) : Place :=
  { place with before := place.before ++ text }

/-- The place of a loop's body. -/
def inside (place : Place) : Place :=
  ⟨place.before ++ ['['], place.loops + 1⟩

/-- A fault of the instruction that stands there. -/
def failure
    (place : Place)
    (sign : Char)
    (fault : Fault) : Failure :=
  ⟨place.index, some sign, fault⟩

end Place

namespace Ending

/-- The state in which the run ended. -/
def state : Ending → State
  | .through state =>
      state
  | .leaving _ state =>
      state
  | .stopped state =>
      state
  | .failed _ state =>
      state

/-- Whether what follows the script is run. -/
def isThrough : Ending → Bool
  | .through _ =>
      true
  | _ =>
      false

/-- The ending of leaving a number of loops; nothing ends when it is zero. -/
def leave : Nat → State → Ending
  | 0, state =>
      .through state
  | further + 1, state =>
      .leaving further state

/-- What the ending of a body is to its loop, when the loop neither goes on nor ends. -/
def outside? : Ending → Option Ending
  | .through _ =>
      none
  | .leaving 0 _ =>
      none
  | .leaving (further + 1) state =>
      some (.leaving further state)
  | .stopped state =>
      some (.stopped state)
  | .failed failure state =>
      some (.failed failure state)

end Ending

/--
How many of the enclosing loops a count leaves: as many as it says, but no more than
there are, nor more than an instruction can count.
-/
def loopsLeft
    (count : Int)
    (loops : Nat) : Nat :=
  min count.toNat (min loops Cell.greatestCount.toNat)

/-- In a text of any real length the greatest count does not matter. -/
theorem loopsLeft_of_le
    {loops : Nat}
    (few : (loops : Int) ≤ Cell.greatestCount)
    (count : Int) :
    loopsLeft count loops = min (max count 0).toNat loops := by
  simp only [loopsLeft]
  omega

namespace State

/-- The state of an invocation. -/
def of (invocation : Invocation) : State where
  depth := invocation.depth
  tape := invocation.tape
  backup := invocation.backup
  functions := invocation.functions
  channel := invocation.channel
  draws := invocation.draws
  waits := invocation.waits

/-- The current stack. -/
def stack (state : State) : Stack :=
  state.tape.current

/-- The state with another current stack. -/
def withStack
    (state : State)
    (stack : Stack) : State :=
  { state with tape := state.tape.withCurrent stack }

/-- What a task works on, with nothing in the journal. -/
def bench (state : State) : Bench where
  stack := state.stack
  channel := state.channel
  journal := .blank .error
  draws := state.draws
  waits := state.waits

/-- The state after work on its bench. -/
def withBench
    (state : State)
    (bench : Bench) : State :=
  { state with
    tape := state.tape.withCurrent bench.stack
    channel := bench.channel
    draws := bench.draws
    waits := bench.waits }

/-- Whether the top of the current stack exists and is true. -/
def isTopTrue (state : State) : Bool :=
  state.stack.peek?.any Cell.isNonzero

/-- Let the instruction at a place work on the bench and go on with the result. -/
def working
    {α : Type}
    (state : State)
    (place : Place)
    (sign : Char)
    (work : Work α)
    (goOn : α → State → Ending) : Ending :=
  match work state.bench with
  | .ok result bench =>
      goOn result (state.withBench bench)
  | .error fault bench =>
      .failed (place.failure sign fault) (state.withBench bench)

/-- Take a number off the stack and leave that many loops. -/
def leaveLoops
    (state : State)
    (place : Place) : Ending :=
  state.working place '$'
    (do Work.ofExcept (← Work.takeTop).integer)
    fun count after => .leave (loopsLeft count place.loops) after

/-- Put the backup on the stack. -/
def load
    (state : State)
    (place : Place) : Ending :=
  match state.backup with
  | .empty =>
      .failed (place.failure 'l' .emptyBackup) state
  | .cell cell =>
      .through (state.withStack (state.stack.push cell))
  | .column cells =>
      .through (state.withStack (state.stack.append cells))

/-- Back the top cell up; an empty stack empties the backup. -/
def storeTop (state : State) : State :=
  { state with
    backup :=
      match state.stack.peek? with
      | some top => .cell top
      | none => .empty }

/-- Back the whole stack up. -/
def storeAll
    (state : State)
    (place : Place) : Ending :=
  state.working place 's'
    (do
      Work.readIfEmpty
      return (← Work.stack).toList)
    fun cells after =>
      .through { after with backup := .column cells }

/-- Do what a character stands for; delimiters are atoms or loops of their own. -/
def perform
    (state : State)
    (place : Place)
    (sign : Char) : Opcode → Ending
  | .task task =>
      state.working place sign (task.perform (place.previous? == some '&'))
        fun _ after => .through after
  | .leaveLoops =>
      state.leaveLoops place
  | .load =>
      state.load place
  | .store =>
      if place.previous? == some '&' then
        state.storeAll place
      else
        .through state.storeTop
  | .moveLeft =>
      .through { state with tape := state.tape.moveLeft }
  | .moveRight =>
      .through { state with tape := state.tape.moveRight }
  | .terminate =>
      .stopped state
  | .number | .string | .character | .loopStart | .loopEnd | .define =>
      .through state

/-- Push what a row of digits spells, nothing when there is no digit. -/
def pushSpelled
    (state : State)
    (row : Text) : State :=
  if row = [] then
    state
  else
    state.withStack (state.stack.push (.int (Decimal.spelled row)))

/-- Push the characters that the content of a string spells. -/
def pushContent
    (state : State)
    (content : Text) : State :=
  state.withStack
    (state.stack.append
      (((Source.decoded content).map Source.disclose).map Cell.ofChar))

/-- Bind a body to the name before it, when there is one. -/
def define
    (state : State)
    (place : Place)
    (body : Text) : Ending :=
  if body.contains 'i' then
    .failed (place.failure '\x7b' .inputInFunction) state
  else
    match place.previous? with
    | none =>
        .through state
    | some name =>
        .through { state with functions := state.functions.bind name body }

/-- A function body before its first instruction. -/
def enter (state : State) : State where
  depth := state.depth + 1
  tape := .initial
  backup := .empty
  functions := state.functions
  channel := .caller state.stack
  draws := state.draws
  waits := state.waits

/-- The caller after a function that it called. -/
def leave
    (state callee : State) : State :=
  let stack :=
    match callee.channel with
    | .caller stack =>
        stack
    | .console _ _ =>
        state.stack
  { state with
    tape := state.tape.withCurrent stack
    draws := callee.draws
    waits := callee.waits }

/-- Output the stack at the end of the text. -/
def output
    (state : State)
    (length : Nat) : Conclusion :=
  match Invocation.outputStack (decide (0 < state.depth)) state.bench with
  | .ok _ bench =>
      ⟨none, some .finished, state.withBench bench⟩
  | .error fault bench =>
      ⟨some ⟨length, none, fault⟩, none, state.withBench bench⟩

end State

/-- How the invocation comes out that ran a whole text of some length. -/
def Ending.conclude
    (length : Nat) : Ending → Conclusion
  | .through state =>
      state.output length
  | .leaving _ state =>
      state.output length
  | .stopped state =>
      ⟨none, some .terminated, state⟩
  | .failed failure state =>
      ⟨some failure, none, state⟩

namespace Atom

/-- The body that the atom calls. -/
def callee?
    (functions : Bindings) : Atom → Option Text
  | .instruction c =>
      functions.find? c
  | _ =>
      none

/--
What an atom does that calls nothing.  An instruction right before a definition is
the name that is defined and does nothing.
-/
def perform
    (place : Place)
    (isName : Bool)
    (state : State) : Atom → Ending
  | .instruction c =>
      if isName then
        .through state
      else
        match Opcode.ofChar? c with
        | none =>
            .through state
        | some opcode =>
            state.perform place c opcode
  | .number inside =>
      .through (state.pushSpelled (inside.filter Char.isDigit))
  | .definition body =>
      state.define place body
  | .string content =>
      .through (state.pushContent content)
  | .openQuote rest =>
      .through (state.pushContent rest)
  | .character c =>
      .through
        (state.withStack
          (state.stack.push (Cell.ofChar (Source.disclose c))))

end Atom

/-- The text of a loop. -/
def Script.loopText (body : Script) : Text :=
  '[' :: (body.text ++ [']'])

/-- How a script can run; calls nest up to `limit`. -/
inductive Runs
    (limit : Nat) : Place → Script → State → Ending → Prop where
  | stop
      {place : Place}
      {state : State} :
      Runs limit place .stop state (.through state)
  | atom
      {place : Place}
      {first : Atom}
      {rest : Script}
      {state middle : State}
      {ending : Ending}
      (own : first.callee? state.functions = none)
      (performed :
        first.perform place rest.isDefinition state = .through middle)
      (onward : Runs limit (place.past first.text) rest middle ending) :
      Runs limit place (.atom first rest) state ending
  | atomEnds
      {place : Place}
      {first : Atom}
      {rest : Script}
      {state : State}
      {ending : Ending}
      (own : first.callee? state.functions = none)
      (performed : first.perform place rest.isDefinition state = ending)
      (ends : ending.isThrough = false) :
      Runs limit place (.atom first rest) state ending
  | call
      {place : Place}
      {name : Char}
      {body : Text}
      {script rest : Script}
      {state inside : State}
      {halt : Option Halt}
      {inner ending : Ending}
      (bound : state.functions.find? name = some body)
      (shallow : state.depth < limit)
      (isScript : script.IsScriptOf body)
      (ran : Runs limit .start script state.enter inner)
      (returned : inner.conclude body.length = ⟨none, halt, inside⟩)
      (onward :
        Runs limit (place.past [name]) rest (state.leave inside) ending) :
      Runs limit place (.atom (.instruction name) rest) state ending
  | callFails
      {place : Place}
      {name : Char}
      {body : Text}
      {script rest : Script}
      {state inside : State}
      {failure : Failure}
      {halt : Option Halt}
      {inner : Ending}
      (bound : state.functions.find? name = some body)
      (shallow : state.depth < limit)
      (isScript : script.IsScriptOf body)
      (ran : Runs limit .start script state.enter inner)
      (raised : inner.conclude body.length = ⟨some failure, halt, inside⟩) :
      Runs limit place (.atom (.instruction name) rest) state
        (.failed (place.failure name (failure.raisedBy name))
          (state.leave inside))
  | callTooDeep
      {place : Place}
      {name : Char}
      {body : Text}
      {rest : Script}
      {state : State}
      (bound : state.functions.find? name = some body)
      (deep : limit ≤ state.depth) :
      Runs limit place (.atom (.instruction name) rest) state
        (.failed (place.failure name (.recursionLimit limit)) state)
  | loopSkipped
      {place : Place}
      {body rest : Script}
      {state : State}
      {ending : Ending}
      (isFalse : state.isTopTrue = false)
      (onward : Runs limit (place.past body.loopText) rest state ending) :
      Runs limit place (.loop body rest) state ending
  | loopAgain
      {place : Place}
      {body rest : Script}
      {state middle : State}
      {ending : Ending}
      (isTrue : state.isTopTrue = true)
      (ran : Runs limit place.inside body state (.through middle))
      (again : Runs limit place (.loop body rest) middle ending) :
      Runs limit place (.loop body rest) state ending
  | loopLeft
      {place : Place}
      {body rest : Script}
      {state middle : State}
      {ending : Ending}
      (isTrue : state.isTopTrue = true)
      (ran : Runs limit place.inside body state (.leaving 0 middle))
      (onward : Runs limit (place.past body.loopText) rest middle ending) :
      Runs limit place (.loop body rest) state ending
  | loopEnds
      {place : Place}
      {body rest : Script}
      {state : State}
      {bodyEnding ending : Ending}
      (isTrue : state.isTopTrue = true)
      (ran : Runs limit place.inside body state bodyEnding)
      (outside : bodyEnding.outside? = some ending) :
      Runs limit place (.loop body rest) state ending

/-- How an invocation that runs the script from its start can come out. -/
def Script.Concludes
    (limit : Nat)
    (script : Script)
    (state : State)
    (conclusion : Conclusion) : Prop :=
  ∃ ending,
    Runs limit .start script state ending ∧
      ending.conclude script.text.length = conclusion

end Structured

end StackTape
