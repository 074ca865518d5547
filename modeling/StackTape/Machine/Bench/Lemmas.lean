import StackTape.Machine.Bench

namespace StackTape

/-!
# What work does to the bench

One equation for each small piece of work: its result and the bench that it leaves.
Longer work is opened by the equation of its sequence, so no later proof has to unfold
the pieces.
-/

namespace Work

@[simp] theorem pure_apply
    {α : Type}
    (result : α)
    (bench : Bench) :
    (pure result : Work α) bench = .ok result bench :=
  rfl

/-- Work goes on where the work before it left the bench. -/
@[simp] theorem bind_apply
    {α β : Type}
    (first : Work α)
    (next : α → Work β)
    (bench : Bench) :
    (first >>= next) bench =
      match first bench with
      | .ok result after => next result after
      | .error fault after => .error fault after := by
  change EStateM.bind first next bench = _
  unfold EStateM.bind
  cases first bench <;> rfl

/-- A function of a result leaves the bench alone. -/
@[simp] theorem map_apply
    {α β : Type}
    (change : α → β)
    (work : Work α)
    (bench : Bench) :
    (change <$> work) bench =
      match work bench with
      | .ok result after => .ok (change result) after
      | .error fault after => .error fault after := by
  change EStateM.map _ work bench = _
  unfold EStateM.map
  cases work bench <;> rfl

@[simp] theorem get_apply
    (bench : Bench) :
    (get : Work Bench) bench = .ok bench bench :=
  rfl

@[simp] theorem set_apply
    (bench other : Bench) :
    (set other : Work PUnit) bench = .ok () other :=
  rfl

@[simp] theorem modify_apply
    (change : Bench → Bench)
    (bench : Bench) :
    (modify change : Work PUnit) bench = .ok () (change bench) :=
  rfl

@[simp] theorem fail_apply
    {α : Type}
    (fault : Fault)
    (bench : Bench) :
    (fail fault : Work α) bench = .error fault bench :=
  rfl

@[simp] theorem ofExcept_ok
    {α : Type}
    (result : α) :
    ofExcept (.ok result) = pure result :=
  rfl

@[simp] theorem ofExcept_error
    {α : Type}
    (fault : Fault) :
    (ofExcept (.error fault) : Work α) = fail fault :=
  rfl

@[simp] theorem note_apply
    (event : Journal.Event)
    (bench : Bench) :
    note event bench =
      .ok () { bench with journal := bench.journal.note event } :=
  rfl

@[simp] theorem stack_apply
    (bench : Bench) :
    stack bench = .ok bench.stack bench :=
  rfl

@[simp] theorem setStack_apply
    (stack : Stack)
    (bench : Bench) :
    setStack stack bench = .ok () { bench with stack := stack } :=
  rfl

@[simp] theorem push_apply
    (cell : Cell)
    (bench : Bench) :
    push cell bench = .ok () { bench with stack := bench.stack.push cell } :=
  rfl

@[simp] theorem append_apply
    (cells : List Cell)
    (bench : Bench) :
    append cells bench =
      .ok () { bench with stack := bench.stack.append cells } :=
  rfl

@[simp] theorem takeAll_apply
    (bench : Bench) :
    takeAll bench = .ok bench.stack.toList { bench with stack := .empty } :=
  rfl

theorem pop?_apply
    (bench : Bench) :
    pop? bench =
      match bench.stack.pop? with
      | some (top, rest) => .ok (some top) { bench with stack := rest }
      | none => .ok none bench := by
  cases popped : bench.stack.pop? <;> simp [pop?, popped]

theorem takeTop_apply
    (bench : Bench) :
    takeTop bench =
      match bench.stack.pop? with
      | some (top, rest) => .ok top { bench with stack := rest }
      | none => .error (.emptyStack .pop) bench := by
  cases popped : bench.stack.pop? <;> simp [takeTop, pop?_apply, popped]

/-- A stack that holds a cell gives it as the operand. -/
theorem operand_apply_of_push
    {bench : Bench}
    {rest : Stack}
    {cell : Cell}
    (top : bench.stack = rest.push cell) :
    operand bench = .ok ⟨cell, false⟩ { bench with stack := rest } := by
  simp [operand, pop?_apply, top]

/-- A stack of two cells gives both, the top one first, and nothing is read. -/
theorem takePair_apply_of_push
    {bench : Bench}
    {rest : Stack}
    {left right : Cell}
    (top : bench.stack = (rest.push left).push right) :
    takePair bench = .ok (right, left) { bench with stack := rest } := by
  have second :
      operand { bench with stack := rest.push left } =
        .ok ⟨left, false⟩ { bench with stack := rest } :=
    operand_apply_of_push rfl
  simp [takePair, operand_apply_of_push top, second]

theorem readLine_apply
    (bench : Bench) :
    readLine bench =
      .ok bench.channel.read.1.line?
        { bench with
          channel := bench.channel.read.2
          journal :=
            if bench.channel.read.1 = .unreadable then
              bench.journal.note .unreadableLine
            else
              bench.journal } := by
  cases given : bench.channel.read with
  | mk reading rest =>
      by_cases unreadable : reading = .unreadable <;>
        simp [readLine, given, unreadable]

theorem readIntegers_apply
    (bench : Bench) :
    readIntegers bench =
      let after :=
        { bench with
          channel := bench.channel.readIntegers.2.2
          stack :=
            bench.stack.append (bench.channel.readIntegers.1.map .int) }
      match bench.channel.readIntegers.2.1 with
      | .complete => .ok () after
      | .unreadable => note .unreadableLine after
      | .notInteger line => .error (.notInteger line) after := by
  cases ended : bench.channel.readIntegers.2.1 <;>
    simp [readIntegers, ended]

theorem emit_apply
    (emission : Emission)
    (bench : Bench) :
    emit emission bench =
      match bench.channel.emit emission with
      | .ok after => .ok () { bench with channel := after }
      | .error after =>
          .error (.outputRefused Sink.refusal) { bench with channel := after } := by
  cases emitted : bench.channel.emit emission <;>
    simp [emit, emitted]

/-- Cells that are output one after the other end up on the caller's stack. -/
theorem forM_emit_number_apply
    (cells : List Cell)
    (bench : Bench)
    {stack : Stack}
    (lent : bench.channel = .caller stack) :
    (cells.forM fun cell => emit (.number cell)) bench =
      .ok () { bench with channel := .caller (stack.append cells) } := by
  induction cells generalizing bench stack with
  | nil =>
      have unchanged : stack.append [] = stack := rfl
      rw [unchanged, ← lent]
      rfl
  | cons cell rest inductionHypothesis =>
      have others :=
        inductionHypothesis
          { bench with channel := .caller (stack.append [cell]) } rfl
      have both : (stack.append [cell]).append rest = stack.append (cell :: rest) := by
        simp [Stack.append]
      rw [both] at others
      change (emit (.number cell) >>= fun _ => rest.forM _) bench = _
      rw [bind_apply, emit_apply, lent]
      exact others

end Work

end StackTape
