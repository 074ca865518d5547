import StackTape.Proofs.Digits

namespace StackTape

/-!
# The whole stack at once

Behind an ampersand an instruction works on the whole stack.  On a stack of integers that
is not empty, the whole sum is what adding again and again comes to, popping cell by cell
ends in the same empty stack, and writing the whole stack writes what reversing it and
writing cell by cell does, in the same order.  Storing the whole stack keeps what loading
puts back.  In none of this is anything read.
-/

namespace Channel

/-- Take emissions one after the other, up to the first that is refused. -/
def emitAll
    (channel : Channel)
    (emissions : List Emission) : Except Channel Channel :=
  emissions.foldlM emit channel

/-- Nothing is read: the source is the same, a caller's stack has cells on top at most. -/
inductive IsUnread : Channel → Channel → Prop where
  | console
      {source : LineSource}
      {before after : Sink} :
      IsUnread (.console source before) (.console source after)
  | caller
      {stack : Stack}
      (cells : List Cell) :
      IsUnread (.caller stack) (.caller (stack.append cells))

namespace IsUnread

theorem refl
    (channel : Channel) :
    channel.IsUnread channel := by
  cases channel with
  | console source sink =>
      exact .console
  | caller stack =>
      exact .caller []

theorem trans
    {first second third : Channel}
    (before : first.IsUnread second)
    (after : second.IsUnread third) :
    first.IsUnread third := by
  cases before with
  | console =>
      cases after
      exact .console
  | caller cells =>
      cases after
      rw [Stack.append_append]
      exact .caller _

end IsUnread

/-- An emission reads nothing, taken or refused. -/
theorem isUnread_of_emit
    {channel after : Channel}
    {emission : Emission}
    (emitted :
      channel.emit emission = .ok after ∨ channel.emit emission = .error after) :
    channel.IsUnread after := by
  cases channel with
  | console source sink =>
      simp only [emit] at emitted
      split at emitted <;> rcases emitted with emitted | emitted <;> cases emitted <;>
        exact .console
  | caller stack =>
      rcases emitted with emitted | emitted <;> cases emitted
      exact .caller _

theorem emitAll_cons
    (channel : Channel)
    (emission : Emission)
    (rest : List Emission) :
    channel.emitAll (emission :: rest) =
      channel.emit emission >>= fun after => after.emitAll rest :=
  List.foldlM_cons ..

/-- Neither does a row of emissions. -/
theorem isUnread_of_emitAll
    {channel after : Channel}
    {emissions : List Emission}
    (emitted :
      channel.emitAll emissions = .ok after ∨
        channel.emitAll emissions = .error after) :
    channel.IsUnread after := by
  induction emissions generalizing channel with
  | nil =>
      rcases emitted with emitted | emitted <;> cases emitted
      exact .refl _
  | cons emission rest inductionHypothesis =>
      rw [emitAll_cons] at emitted
      cases first : channel.emit emission with
      | ok middle =>
          rw [first] at emitted
          exact (isUnread_of_emit (.inl first)).trans (inductionHypothesis emitted)
      | error left =>
          rw [first] at emitted
          rcases emitted with emitted | emitted <;> cases emitted
          exact isUnread_of_emit (.inr first)

end Channel

/-- The integer is the code point of a character. -/
def IsCodePoint (value : Int) : Prop :=
  0 ≤ value ∧ value.toNat.isValidChar

instance (value : Int) : Decidable (IsCodePoint value) :=
  inferInstanceAs (Decidable (_ ∧ _))

/-- The emission of the character at a code point. -/
def Emission.ofCodePoint (value : Int) : Emission :=
  .character (Char.ofNat value.toNat)

theorem Cell.character_of_isCodePoint
    {value : Int}
    (valid : IsCodePoint value) :
    (Cell.int value).character = .ok (Char.ofNat value.toNat) :=
  if_pos valid

/-- The sum of integers. -/
def total (values : List Int) : Int :=
  values.foldl (fun sum value => sum + value) 0

theorem total_append_singleton
    (values : List Int)
    (value : Int) :
    total (values ++ [value]) = total values + value :=
  List.foldl_append

namespace Work

/-! ## Tasks on the whole stack -/

/-- Integers are added up exactly. -/
theorem sumOf_int
    (values : List Int) :
    sumOf (values.map .int) = .ok (.int (total values)) := by
  induction values using List.reverseRecOn with
  | nil =>
      rfl
  | append_singleton values value inductionHypothesis =>
      rw [sumOf] at inductionHypothesis ⊢
      rw [List.map_append, List.foldlM_append, inductionHypothesis,
        total_append_singleton]
      rfl

/-- Characters of cells are handed over one by one, up to the first that is refused. -/
theorem writeCells_of_codePoints
    {values : List Int}
    (valid : ∀ value ∈ values, IsCodePoint value)
    (bench : Bench) :
    writeCells (values.map .int) bench =
      match bench.channel.emitAll (values.map .ofCodePoint) with
      | .ok taken => .ok () { bench with channel := taken }
      | .error left =>
          .error (.outputRefused Sink.refusal) { bench with channel := left } := by
  induction values generalizing bench with
  | nil =>
      rfl
  | cons value rest inductionHypothesis =>
      obtain ⟨first, others⟩ := List.forall_mem_cons.1 valid
      have emitted := emit_apply (.ofCodePoint value) bench
      rw [Emission.ofCodePoint] at emitted
      simp only [List.map_cons, writeCells, Cell.character_of_isCodePoint first,
        ofExcept_ok, bind_apply, pure_apply, emitted, Channel.emitAll_cons]
      rw [← Emission.ofCodePoint]
      cases bench.channel.emit (.ofCodePoint value) with
      | ok middle =>
          exact inductionHypothesis others _
      | error left =>
          rfl

end Work

namespace Invocation

section

variable (backup : Backup)
variable (channel : Channel)

/-! ## Adding -/

theorem executes_add
    (rest : Stack)
    (left right : Int) :
    Executes (command false '+') ⟨(rest.push (.int left)).push (.int right), backup, channel⟩
      ⟨rest.push (.int (left + right)), backup, channel⟩ := by
  have known : Opcode.ofChar? '+' = some (.task .add) := rfl
  refine executes_task known (fun journal draws waits => ?_) backup
  have taken :
      Work.takePair
          ⟨(rest.push (.int left)).push (.int right), channel, journal, draws, waits⟩ =
        .ok (.int right, .int left) ⟨rest, channel, journal, draws, waits⟩ :=
    Work.takePair_apply_of_push rfl
  refine ⟨⟨rest.push _, channel, journal, draws, waits⟩, ?_, rfl, rfl⟩
  simp [Task.perform, Work.binary, taken]

/-- Adding once for every integer but one leaves the sum. -/
theorem executes_adds
    (values : List Int)
    (top : Int) :
    Executes (List.replicate values.length '+')
      ⟨(Stack.ofList (values.map .int)).push (.int top), backup, channel⟩
      ⟨.ofList [.int (total values + top)], backup, channel⟩ := by
  -- on the cells beneath the top one, which joins the uppermost of them
  induction values using List.reverseRecOn generalizing top with
  | nil =>
      have alone : total [] + top = top := Int.zero_add top
      rw [alone]
      exact executes_nil _
  | append_singleton values value inductionHypothesis =>
      have added := inductionHypothesis (value + top)
      rw [← Int.add_assoc, ← total_append_singleton] at added
      rw [List.length_append, List.length_singleton, List.replicate_succ,
        List.map_append, List.map_singleton, Stack.ofList_concat]
      exact (executes_add backup channel _ value top).append added

theorem executes_sum
    {values : List Int}
    (nonempty : values ≠ []) :
    Executes (command true '+') ⟨.ofList (values.map .int), backup, channel⟩
      ⟨.ofList [.int (total values)], backup, channel⟩ := by
  have known : Opcode.ofChar? '+' = some (.task .add) := rfl
  refine executes_task known (fun journal draws waits => ?_) backup
  refine ⟨⟨.ofList _, channel, journal, draws, waits⟩, ?_, rfl, rfl⟩
  simp [Task.perform, Work.sum, Work.readIfEmpty, nonempty, Work.sumOf_int]
  rfl

/-! ## Popping -/

theorem executes_pop
    (rest : Stack)
    (cell : Cell) :
    Executes (command false 'p') ⟨rest.push cell, backup, channel⟩
      ⟨rest, backup, channel⟩ := by
  have known : Opcode.ofChar? 'p' = some (.task .pop) := rfl
  refine executes_task known (fun journal draws waits => ?_) backup
  refine ⟨⟨rest, channel, journal, draws, waits⟩, ?_, rfl, rfl⟩
  simp [Task.perform, Work.takeTop_apply]

theorem executes_pops
    (cells : List Cell) :
    Executes (List.replicate cells.length 'p') ⟨.ofList cells, backup, channel⟩
      ⟨.empty, backup, channel⟩ := by
  induction cells using List.reverseRecOn with
  | nil =>
      exact executes_nil _
  | append_singleton cells cell inductionHypothesis =>
      rw [List.length_append, List.length_singleton, List.replicate_succ,
        Stack.ofList_concat]
      exact (executes_pop backup channel _ cell).append inductionHypothesis

theorem executes_popAll
    (stack : Stack) :
    Executes (command true 'p') ⟨stack, backup, channel⟩ ⟨.empty, backup, channel⟩ := by
  have known : Opcode.ofChar? 'p' = some (.task .pop) := rfl
  exact executes_task known
    (fun journal draws waits =>
      ⟨⟨.empty, channel, journal, draws, waits⟩, rfl, rfl, rfl⟩) backup

/-! ## Storing and loading -/

theorem executes_storeAll
    {cells : List Cell}
    (nonempty : cells ≠ []) :
    Executes (command true 's') ⟨.ofList cells, backup, channel⟩
      ⟨.ofList cells, .column cells, channel⟩ := by
  have known : Opcode.ofChar? 's' = some .store := rfl
  refine executes_of_performs known fun invocation holds => ?_
  rw [holding, Holding.mk.injEq] at holds
  obtain ⟨stack, rfl, rfl⟩ := holds
  have worked :
      (do
        Work.readIfEmpty
        return (← Work.stack).toList : Work (List Cell)) invocation.bench =
        .ok cells invocation.bench := by
    have onBench : invocation.bench.stack = .ofList cells := stack
    simp [Work.readIfEmpty, onBench, nonempty]
  have performed :
      invocation.perform true .store = .done { invocation with backup := .column cells } := by
    change invocation.storeAll = _
    rw [storeAll, working_of_ok worked]
    rfl
  refine ⟨_, performed, ⟨rfl, rfl, rfl, rfl⟩, ?_⟩
  exact congrArg (Holding.mk · (.column cells) invocation.channel) stack

theorem executes_load
    (stack : Stack)
    (cells : List Cell) :
    Executes (command false 'l') ⟨stack, .column cells, channel⟩
      ⟨stack.append cells, .column cells, channel⟩ := by
  have known : Opcode.ofChar? 'l' = some .load := rfl
  refine executes_of_performs known fun invocation holds => ?_
  rw [holding, Holding.mk.injEq] at holds
  obtain ⟨rfl, stored, rfl⟩ := holds
  have loaded :
      invocation.perform false .load =
        .done (invocation.withStack (invocation.stack.append cells)) := by
    rw [perform, load, stored]
  refine ⟨_, loaded, ⟨rfl, rfl, rfl, rfl⟩, ?_⟩
  rw [← stored]
  rfl

theorem executes_duplicateAll
    {cells : List Cell}
    (nonempty : cells ≠ []) :
    Executes (command true ':') ⟨.ofList cells, backup, channel⟩
      ⟨(Stack.ofList cells).append cells, backup, channel⟩ := by
  have known : Opcode.ofChar? ':' = some (.task .duplicate) := rfl
  refine executes_task known (fun journal draws waits => ?_) backup
  refine ⟨⟨(Stack.ofList cells).append cells, channel, journal, draws, waits⟩, ?_, rfl,
    rfl⟩
  simp [Task.perform, Work.duplicateAll, Work.readIfEmpty, nonempty]

/-! ## Writing -/

theorem executes_reverse
    {cells : List Cell}
    (nonempty : cells ≠ []) :
    Executes (command false 'r') ⟨.ofList cells, backup, channel⟩
      ⟨(Stack.ofList cells).reverse, backup, channel⟩ := by
  have known : Opcode.ofChar? 'r' = some (.task .reverse) := rfl
  refine executes_task known (fun journal draws waits => ?_) backup
  refine ⟨⟨(Stack.ofList cells).reverse, channel, journal, draws, waits⟩, ?_, rfl, rfl⟩
  simp [Task.perform, Work.readIfEmpty, nonempty]

end

section

variable (backup : Backup)
variable {channel : Channel}

/-- What writing the character of the top cell does. -/
theorem writeCharacter_apply
    (rest : Stack)
    {value : Int}
    (valid : IsCodePoint value)
    (journal : Journal)
    (draws : Draws)
    (waits : List Binary64) :
    Work.writeCharacter ⟨rest.push (.int value), channel, journal, draws, waits⟩ =
      match channel.emit (.ofCodePoint value) with
      | .ok taken => .ok () ⟨rest, taken, journal, draws, waits⟩
      | .error left =>
          .error (.outputRefused Sink.refusal) ⟨rest, left, journal, draws, waits⟩ := by
  have emitted :=
    Work.emit_apply (.ofCodePoint value) ⟨rest, channel, journal, draws, waits⟩
  simp only [Work.writeCharacter, Work.bind_apply, Work.takeTop_apply, Stack.pop?_push,
    Cell.character_of_isCodePoint valid, Work.ofExcept_ok, Work.pure_apply]
  exact emitted

theorem executes_write
    (rest : Stack)
    {value : Int}
    (valid : IsCodePoint value)
    {taken : Channel}
    (emitted : channel.emit (.ofCodePoint value) = .ok taken) :
    Executes (command false 'o') ⟨rest.push (.int value), backup, channel⟩
      ⟨rest, backup, taken⟩ := by
  have known : Opcode.ofChar? 'o' = some (.task .writeCharacter) := rfl
  refine executes_task known (fun journal draws waits => ?_) backup
  have written :
      Work.writeCharacter ⟨rest.push (.int value), channel, journal, draws, waits⟩ = _ :=
    writeCharacter_apply rest valid journal draws waits
  rw [emitted] at written
  exact ⟨_, written, rfl, rfl⟩

theorem failsIn_write
    (rest : Stack)
    {value : Int}
    (valid : IsCodePoint value)
    {left : Channel}
    (refused : channel.emit (.ofCodePoint value) = .error left) :
    FailsIn (command false 'o') ⟨rest.push (.int value), backup, channel⟩
      (.outputRefused Sink.refusal) ⟨rest, backup, left⟩ := by
  have known : Opcode.ofChar? 'o' = some (.task .writeCharacter) := rfl
  refine failsIn_task known (fun journal draws waits => ?_) backup
  have written :
      Work.writeCharacter ⟨rest.push (.int value), channel, journal, draws, waits⟩ = _ :=
    writeCharacter_apply rest valid journal draws waits
  rw [refused] at written
  exact ⟨_, written, rfl, rfl⟩

section

variable {values : List Int}
variable (valid : ∀ value ∈ values, IsCodePoint value)

include valid

/-- Cells on top of each other are written from the top one on. -/
theorem executes_writes
    {taken : Channel}
    (emitted : channel.emitAll (values.map .ofCodePoint) = .ok taken) :
    Executes (List.replicate values.length 'o') ⟨⟨values.map .int⟩, backup, channel⟩
      ⟨.empty, backup, taken⟩ := by
  induction values generalizing channel with
  | nil =>
      cases emitted
      exact executes_nil _
  | cons value rest inductionHypothesis =>
      obtain ⟨first, others⟩ := List.forall_mem_cons.1 valid
      rw [List.map_cons, Channel.emitAll_cons] at emitted
      cases emission : channel.emit (.ofCodePoint value) with
      | ok middle =>
          rw [emission] at emitted
          exact (executes_write backup ⟨rest.map .int⟩ first emission).append
            (inductionHypothesis others emitted)
      | error left =>
          rw [emission] at emitted
          cases emitted

/-- The first refusal ends the writing. -/
theorem failsIn_writes
    {left : Channel}
    (refused : channel.emitAll (values.map .ofCodePoint) = .error left) :
    ∃ kept,
      FailsIn (List.replicate values.length 'o') ⟨⟨values.map .int⟩, backup, channel⟩
        (.outputRefused Sink.refusal) ⟨kept, backup, left⟩ := by
  induction values generalizing channel with
  | nil =>
      cases refused
  | cons value rest inductionHypothesis =>
      obtain ⟨first, others⟩ := List.forall_mem_cons.1 valid
      rw [List.map_cons, Channel.emitAll_cons] at refused
      cases emission : channel.emit (.ofCodePoint value) with
      | ok middle =>
          rw [emission] at refused
          obtain ⟨kept, fails⟩ := inductionHypothesis others refused
          exact ⟨kept,
            (executes_write backup ⟨rest.map .int⟩ first emission).append_fails fails⟩
      | error remaining =>
          rw [emission] at refused
          cases refused
          exact ⟨_, (failsIn_write backup ⟨rest.map .int⟩ first emission).append _⟩

end

section

variable {values : List Int}
variable (nonempty : values ≠ [])
variable (valid : ∀ value ∈ values, IsCodePoint value)

include nonempty valid

theorem executes_writeAll
    {taken : Channel}
    (emitted : channel.emitAll (values.map .ofCodePoint) = .ok taken) :
    Executes (command true 'o') ⟨.ofList (values.map .int), backup, channel⟩
      ⟨.empty, backup, taken⟩ := by
  have known : Opcode.ofChar? 'o' = some (.task .writeCharacter) := rfl
  refine executes_task known (fun journal draws waits => ?_) backup
  have written :=
    Work.writeCells_of_codePoints valid ⟨.empty, channel, journal, draws, waits⟩
  rw [emitted] at written
  refine ⟨⟨.empty, taken, journal, draws, waits⟩, ?_, rfl, rfl⟩
  simp [Task.perform, Work.writeCharacters, nonempty, written]

theorem failsIn_writeAll
    {left : Channel}
    (refused : channel.emitAll (values.map .ofCodePoint) = .error left) :
    FailsIn (command true 'o') ⟨.ofList (values.map .int), backup, channel⟩
      (.outputRefused Sink.refusal) ⟨.empty, backup, left⟩ := by
  have known : Opcode.ofChar? 'o' = some (.task .writeCharacter) := rfl
  refine failsIn_task known (fun journal draws waits => ?_) backup
  have written :=
    Work.writeCells_of_codePoints valid ⟨.empty, channel, journal, draws, waits⟩
  rw [refused] at written
  refine ⟨⟨.empty, left, journal, draws, waits⟩, ?_, rfl, rfl⟩
  simp [Task.perform, Work.writeCharacters, nonempty, written]

end

end

/--
On a stack of integers that is not empty, what an instruction does to the whole stack is
what the plain instruction does again and again, and nothing is read.  The whole sum is
what adding once less than there are cells comes to.  Popping all cells ends in the empty
stack, as popping as often as there are cells does.  Storing the whole stack, popping it
and loading it ends in the same stack, and doubling it in the stack that storing and
loading gives.  Writing the whole stack as characters emits what reversing it and writing
cell by cell does, in the same order, and both end in the empty stack; if an emission is
refused, both fail with the same fault and the same has been emitted.
-/
theorem whole_stack_as_cell_by_cell
    {values : List Int}
    (nonempty : values ≠ [])
    (backup : Backup)
    (channel : Channel) :
    let cells : List Cell := values.map .int
    let whole : Holding := ⟨.ofList cells, backup, channel⟩
    let stored (after : Stack) : Holding := ⟨after, .column cells, channel⟩
    let ends (after : Stack) : Holding := ⟨after, backup, channel⟩
    (Executes ['&', '+'] whole (ends (.ofList [.int (total values)])) ∧
        Executes (List.replicate (values.length - 1) '+') whole
          (ends (.ofList [.int (total values)]))) ∧
      (Executes ['&', 'p'] whole (ends .empty) ∧
        Executes (List.replicate values.length 'p') whole (ends .empty)) ∧
      Executes ['&', 's', '&', 'p', 'l'] whole (stored (.ofList cells)) ∧
      (Executes ['&', ':'] whole (ends (.ofList (cells ++ cells))) ∧
        Executes ['&', 's', 'l'] whole (stored (.ofList (cells ++ cells)))) ∧
      ((∀ value ∈ values, IsCodePoint value) →
        let oneByOne := 'r' :: List.replicate values.length 'o'
        match channel.emitAll (values.map .ofCodePoint) with
        | .ok taken =>
            channel.IsUnread taken ∧
              Executes ['&', 'o'] whole ⟨.empty, backup, taken⟩ ∧
              Executes oneByOne whole ⟨.empty, backup, taken⟩
        | .error left =>
            channel.IsUnread left ∧
              FailsIn ['&', 'o'] whole (.outputRefused Sink.refusal)
                ⟨.empty, backup, left⟩ ∧
              ∃ kept,
                FailsIn oneByOne whole (.outputRefused Sink.refusal)
                  ⟨kept, backup, left⟩) := by
  intro cells whole stored ends
  have someCells : cells ≠ [] :=
    List.map_eq_nil_iff.not.2 nonempty
  have doubled : (Stack.ofList cells).append cells = .ofList (cells ++ cells) := by
    simp [Stack.append, Stack.ofList]
  refine ⟨⟨?sum, ?adds⟩, ⟨?popAll, ?pops⟩, ?restored, ⟨?twice, ?storedTwice⟩, ?written⟩
  case sum =>
    exact executes_sum backup channel nonempty
  case adds =>
    -- the top cell is where adding starts, so it makes one addition less
    obtain ⟨others, top, rfl⟩ := List.eq_nil_or_concat' values |>.resolve_left nonempty
    have added := executes_adds backup channel others top
    rw [← total_append_singleton, ← Stack.ofList_concat] at added
    simpa [whole, cells, ends] using added
  case popAll =>
    exact executes_popAll backup channel _
  case pops =>
    have popped := executes_pops backup channel cells
    rwa [List.length_map] at popped
  case restored =>
    have loaded := executes_load channel .empty cells
    rw [Stack.empty_append] at loaded
    exact ((executes_storeAll backup channel someCells).append
      (executes_popAll _ channel _)).append loaded
  case twice =>
    have duplicated := executes_duplicateAll backup channel someCells
    rwa [doubled] at duplicated
  case storedTwice =>
    have loaded := executes_load channel (.ofList cells) cells
    rw [doubled] at loaded
    exact (executes_storeAll backup channel someCells).append loaded
  case written =>
    intro valid oneByOne
    have reversed := executes_reverse backup channel someCells
    have upsideDown : (Stack.ofList cells).reverse = ⟨cells⟩ := by
      simp [Stack.reverse, Stack.ofList]
    rw [upsideDown] at reversed
    cases emitted : channel.emitAll (values.map .ofCodePoint) with
    | ok taken =>
        exact ⟨Channel.isUnread_of_emitAll (.inl emitted),
          executes_writeAll backup nonempty valid emitted,
          reversed.append (executes_writes backup valid emitted)⟩
    | error left =>
        obtain ⟨kept, fails⟩ := failsIn_writes backup valid emitted
        exact ⟨Channel.isUnread_of_emitAll (.inr emitted),
          failsIn_writeAll backup nonempty valid emitted, kept,
          reversed.append_fails fails⟩

/-- Three characters, a line that nothing reads, and a device with room for two. -/
theorem whole_stack_as_cell_by_cell_before_line :
    let values : List Int := [72, 105, 33]
    let unread := LineSource.lines ["5".toList]
    let blank (limit : Option Nat) := Channel.console unread (.plain (.blank limit))
    let facing (code : Text) (limit : Option Nat) :=
      (start code (blank limit) (.blank .error) default).withStack
        (.ofList (values.map .int))
    (∃ count final,
        Walks count (facing ['+', '+'] none) final ∧
          final.holding = ⟨.ofList [.int 210], .empty, blank none⟩) ∧
      (∃ count final,
        Walks count (facing ['r', 'o', 'o', 'o'] none) final ∧
          final.holding =
            ⟨.empty, .empty, .console unread (.plain ⟨none, [['!'], ['i'], ['H']]⟩)⟩) ∧
      ∃ count last failure final,
        Walks count (facing ['&', 'o'] (some 2)) last ∧
          last.step 0 0 = .failed failure final ∧
          failure.fault = .outputRefused Sink.refusal ∧
          final.channel = .console unread (.plain ⟨some 2, [['i'], ['H']]⟩) := by
  intro values unread blank facing
  have nonempty : values ≠ [] := List.cons_ne_nil _ _
  have valid : ∀ value ∈ values, IsCodePoint value := by
    decide
  have faces
      (code : Text)
      (limit : Option Nat)
      (braceless : '\x7b' ∉ code) :
      (facing code limit).Faces false (code ++ []) [] :=
    .of_beginning rfl rfl rfl rfl braceless
  have unlimited := whole_stack_as_cell_by_cell nonempty .empty (blank none)
  have limited := whole_stack_as_cell_by_cell nonempty .empty (blank (some 2))
  refine ⟨?adds, ?written, ?full⟩
  case adds =>
    obtain ⟨count, final, -, walks, -, holds⟩ :=
      unlimited.1.2 _ _ _ (faces _ none (by decide)) rfl
    exact ⟨count, final, walks, holds⟩
  case written =>
    obtain ⟨-, -, writes⟩ := unlimited.2.2.2.2 valid
    obtain ⟨count, final, -, walks, -, holds⟩ :=
      writes _ _ _ (faces _ none (by decide)) rfl
    exact ⟨count, final, walks, holds⟩
  case full =>
    obtain ⟨-, fails, -⟩ := limited.2.2.2.2 valid
    obtain ⟨count, last, instruction, final, -, walks, failed, holds⟩ :=
      fails _ _ _ (faces _ (some 2) (by decide)) rfl
    exact ⟨count, last, _, final, walks, failed 0 (run 0 0), rfl,
      congrArg Holding.channel holds⟩

end Invocation

end StackTape
