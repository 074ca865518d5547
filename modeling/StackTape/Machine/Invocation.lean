import StackTape.Machine.Bench
import StackTape.Machine.Bindings

namespace StackTape

/-!
# Invocations

A running program is an invocation, and so is every function that it calls.  An
invocation has a text, a cursor into it, a tape of stacks and a backup of its own.  A
called function knows its caller's functions, and its channel is its caller's
current stack.
-/

/-- Why an invocation stopped. -/
inductive Halt where
  /-- The terminating instruction was executed. -/
  | terminated
  /-- The end of the text was reached and the stack was output. -/
  | finished
  deriving DecidableEq, Repr

/-- How a computation on a state came out. -/
inductive Outcome (ε σ : Type) where
  | done (state : σ)
  /-- An error, and the state that it left behind. -/
  | failed (error : ε) (state : σ)
  /-- The budget was used up before the computation was. -/
  | unfinished
  deriving DecidableEq

/-- A program or a function body at work. -/
structure Invocation where
  /-- The prepared text. -/
  code : Text
  /-- The position of the instruction to run next. -/
  cursor : Nat
  halt : Option Halt
  /-- How many function calls enclose the invocation. -/
  depth : Nat
  tape : Tape
  backup : Backup
  functions : Bindings
  channel : Channel
  journal : Journal
  draws : Draws
  /-- How many seconds each wait was to take, the last one first. -/
  waits : List Binary64

namespace Invocation

/-- A program before its first instruction. -/
def start
    (code : Text)
    (channel : Channel)
    (journal : Journal)
    (draws : Draws) : Invocation where
  code := code
  cursor := 0
  halt := none
  depth := 0
  tape := .initial
  backup := .empty
  functions := .empty
  channel := channel
  journal := journal
  draws := draws
  waits := []

/-- Whether the invocation is a function body. -/
def isFunction (invocation : Invocation) : Bool :=
  0 < invocation.depth

/-- The instruction at the cursor. -/
def instruction? (invocation : Invocation) : Option Char :=
  invocation.code[invocation.cursor]?

/-- The character after the cursor. -/
def next? (invocation : Invocation) : Option Char :=
  invocation.code[invocation.cursor + 1]?

/-- The character before the cursor. -/
def previous? (invocation : Invocation) : Option Char :=
  match invocation.cursor with
  | 0 =>
      none
  | before + 1 =>
      invocation.code[before]?

/-- The current stack. -/
def stack (invocation : Invocation) : Stack :=
  invocation.tape.current

/-- The invocation with another current stack. -/
def withStack
    (invocation : Invocation)
    (stack : Stack) : Invocation :=
  { invocation with tape := invocation.tape.withCurrent stack }

/-- The invocation with the cursor moved. -/
def withCursor
    (invocation : Invocation)
    (cursor : Nat) : Invocation :=
  { invocation with cursor := cursor }

/-- The invocation with an event noted. -/
def noting
    (invocation : Invocation)
    (event : Journal.Event) : Invocation :=
  { invocation with journal := invocation.journal.note event }

/-- What a task of the invocation works on. -/
def bench (invocation : Invocation) : Bench where
  stack := invocation.stack
  channel := invocation.channel
  journal := invocation.journal
  draws := invocation.draws
  waits := invocation.waits

/-- The invocation after work on its bench. -/
def withBench
    (invocation : Invocation)
    (bench : Bench) : Invocation :=
  { invocation with
    tape := invocation.tape.withCurrent bench.stack
    channel := bench.channel
    journal := bench.journal
    draws := bench.draws
    waits := bench.waits }

/-- Do work on the bench and go on with its result. -/
def working
    {α : Type}
    (invocation : Invocation)
    (work : Work α)
    (goOn : α → Invocation → Outcome Fault Invocation) :
    Outcome Fault Invocation :=
  match work invocation.bench with
  | .ok result bench =>
      goOn result (invocation.withBench bench)
  | .error fault bench =>
      .failed fault (invocation.withBench bench)

/-- Do work on the bench. -/
def doing
    (invocation : Invocation)
    (work : Work Unit) : Outcome Fault Invocation :=
  invocation.working work fun _ after => .done after

/-- Whether the top cell exists and is true. -/
def isTopTrue (invocation : Invocation) : Bool :=
  invocation.stack.peek?.any Cell.isNonzero

/-- A function body before its first instruction, called by the invocation. -/
def enter
    (invocation : Invocation)
    (body : Text) : Invocation where
  code := body
  cursor := 0
  halt := none
  depth := invocation.depth + 1
  tape := .initial
  backup := .empty
  functions := invocation.functions
  channel := .caller invocation.stack
  journal := invocation.journal
  draws := invocation.draws
  waits := invocation.waits

/-- The invocation after a function that it called stopped. -/
def leave
    (invocation callee : Invocation) : Invocation :=
  let stack :=
    match callee.channel with
    | .caller stack =>
        stack
    | .console _ _ =>
        invocation.stack
  { invocation with
    tape := invocation.tape.withCurrent stack
    journal := callee.journal
    draws := callee.draws
    waits := callee.waits }

@[simp] theorem withBench_bench
    (invocation : Invocation) :
    invocation.withBench invocation.bench = invocation :=
  rfl

@[simp] theorem bench_withBench
    (invocation : Invocation)
    (bench : Bench) :
    (invocation.withBench bench).bench = bench :=
  rfl

theorem working_of_ok
    {α : Type}
    {invocation : Invocation}
    {work : Work α}
    {goOn : α → Invocation → Outcome Fault Invocation}
    {result : α}
    {bench : Bench}
    (worked : work invocation.bench = .ok result bench) :
    invocation.working work goOn = goOn result (invocation.withBench bench) := by
  simp [working, worked]

theorem working_of_error
    {α : Type}
    {invocation : Invocation}
    {work : Work α}
    {goOn : α → Invocation → Outcome Fault Invocation}
    {fault : Fault}
    {bench : Bench}
    (worked : work invocation.bench = .error fault bench) :
    invocation.working work goOn =
      .failed fault (invocation.withBench bench) := by
  simp [working, worked]

end Invocation

end StackTape
