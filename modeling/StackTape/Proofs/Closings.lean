import StackTape.Proofs.Bodies
import StackTape.Proofs.Bounds
import StackTape.Proofs.Steps

namespace StackTape

/-!
# Closing brackets

A number literal, a definition and a skipped loop move the cursor to their closing
bracket, and the next step is made there.  It does nothing, provided that no function has
the bracket for its name.  A program can define such a function, for a closing bracket
may stand right before an opening brace; then the step calls it.
-/

namespace Invocation

/-- The text behind the cursor up to a place. -/
def upTo
    (invocation : Invocation)
    (close : Nat) : Text :=
  invocation.behindCursor.take (close - (invocation.cursor + 1))

/-- The invocation once a body is bound to a name. -/
def defining
    (invocation : Invocation)
    (name : Char)
    (body : Text) : Invocation :=
  { invocation.noting (.defined name) with
    functions := invocation.functions.bind name body }

/-- What a definition at the cursor does, given the brace that ends it. -/
theorem define_of_partner?
    {invocation : Invocation}
    {close : Nat}
    (found : invocation.partner? '\x7b' '\x7d' = some close) :
    invocation.define =
      if 'i' ∈ invocation.upTo close then
        .failed .inputInFunction (invocation.withCursor (close - 1))
      else
        match invocation.previous? with
        | none =>
            .done (invocation.withCursor (close - 1))
        | some name =>
            .done
              ((invocation.defining name (invocation.upTo close)).withCursor
                (close - 1)) := by
  have member :
      ((invocation.upTo close).contains 'i' = true) = ('i' ∈ invocation.upTo close) := by
    simp
  simp only [define, found, ← member]
  rfl

/--
What an instruction at the cursor changes, besides the cursor, before it jumps to the
closing bracket: a number literal pushes what its digits spell, if it has any, a
definition binds one name, if there is one, and a skipped loop changes nothing.
-/
inductive Jumps
    (before : Invocation)
    (close : Nat) : Char → Char → Invocation → Prop where
  | number
      (dispatched : before.dispatched? = some .number) :
      Jumps before close '(' ')'
        ((before.announcing '(').pushSpelled
          ((before.upTo close).filter Char.isDigit))
  | loop
      (dispatched : before.dispatched? = some .loopStart)
      (untrue : before.isTopTrue = false) :
      Jumps before close '[' ']' (before.announcing '[')
  | definition
      {name : Char}
      (dispatched : before.dispatched? = some .define)
      (named : before.previous? = some name)
      (withoutInput : 'i' ∉ before.upTo close) :
      Jumps before close '\x7b' '\x7d'
        ((before.announcing '\x7b').defining name (before.upTo close))
  | unnamed
      (dispatched : before.dispatched? = some .define)
      (unnamed : before.previous? = none)
      (withoutInput : 'i' ∉ before.upTo close) :
      Jumps before close '\x7b' '\x7d' (before.announcing '\x7b')

namespace Jumps

variable {before changed : Invocation}
variable {close : Nat}
variable {opening closing : Char}

/-- The two brackets are a pair. -/
theorem pair
    (jumps : Jumps before close opening closing changed) :
    Source.Pair opening closing := by
  cases jumps with
  | number =>
      exact .parentheses
  | loop =>
      exact .squares
  | definition | unnamed =>
      exact .braces

/-- The text and the halt are left alone. -/
theorem code_and_halt
    (jumps : Jumps before close opening closing changed) :
    changed.code = before.code ∧ changed.halt = before.halt := by
  cases jumps with
  | number =>
      unfold pushSpelled
      split <;> exact ⟨rfl, rfl⟩
  | loop | definition | unnamed =>
      exact ⟨rfl, rfl⟩

/-- Only a loop that is skipped leads to a closing square bracket. -/
theorem untrue
    (jumps : Jumps before close opening ']' changed) :
    changed.isTopTrue = false := by
  cases jumps with
  | loop _ untrue =>
      exact untrue

/-- Having jumped, the invocation stands at the closing bracket. -/
theorem instruction?_landed
    (jumps : Jumps before close opening closing changed)
    (found : before.partner? opening closing = some close) :
    (changed.withCursor close).instruction? = some closing := by
  change changed.code[close]? = some closing
  rw [jumps.code_and_halt.1]
  exact Source.getElem?_of_partnerAfter? found

/-- The opcode at the cursor makes the change and stops one short of the bracket. -/
theorem performed
    (jumps : Jumps before close opening closing changed)
    (found : before.partner? opening closing = some close)
    (whole : Bool) :
    ∃ opcode,
      before.dispatched? = some opcode ∧
        opcode.sign? = some opening ∧
        (before.announcing opening).perform whole opcode =
          .done (changed.withCursor (close - 1)) := by
  have foundAgain :
      (before.announcing opening).partner? opening closing = some close :=
    found
  cases jumps with
  | number dispatched =>
      refine ⟨.number, dispatched, rfl, ?_⟩
      rw [perform, pushNumber, foundAgain]
      rfl
  | loop dispatched untrue =>
      have stillUntrue : (before.announcing '[').isTopTrue = false := untrue
      refine ⟨.loopStart, dispatched, rfl, ?_⟩
      rw [perform, enterLoop, foundAgain, stillUntrue]
      rfl
  | @definition name dispatched named withoutInput =>
      refine ⟨.define, dispatched, rfl, ?_⟩
      have stillNamed : (before.announcing '\x7b').previous? = some name := named
      rw [perform, define_of_partner? foundAgain, if_neg (by exact withoutInput),
        stillNamed]
      rfl
  | unnamed dispatched unnamed withoutInput =>
      refine ⟨.define, dispatched, rfl, ?_⟩
      have stillUnnamed : (before.announcing '\x7b').previous? = none := unnamed
      rw [perform, define_of_partner? foundAgain, if_neg (by exact withoutInput),
        stillUnnamed]

/-- So a step that jumps stands at the closing bracket afterwards. -/
theorem stepWith_eq
    (jumps : Jumps before close opening closing changed)
    (running : before.halt = none)
    (found : before.partner? opening closing = some close)
    (limit : Nat)
    (runBody : Invocation → Outcome Failure Invocation) :
    stepWith limit runBody before = .done (changed.withCursor close) := by
  obtain ⟨opcode, dispatched, signed, performed⟩ :=
    jumps.performed found (before.previous? == some '&')
  have onward :
      (changed.withCursor (close - 1)).advance = changed.withCursor (close - 1 + 1) :=
    advance_of_running (jumps.code_and_halt.2.trans running)
  have bounds := partner?_bounds found
  rw [stepWith_of_performed limit runBody running
    (instruction?_of_dispatched? dispatched signed) dispatched, performed,
    Outcome.passOn, onward, Nat.sub_add_cancel (by omega)]

end Jumps

/--
A step that dispatches one of these three instructions in a balanced text, and does not
refuse a definition, jumps.
-/
theorem exists_jumps_of_done
    {limit : Nat}
    {runBody : Invocation → Outcome Failure Invocation}
    {before landed : Invocation}
    (balanced : Source.isBalanced before.code = true)
    (running : before.halt = none)
    (dispatched :
      before.dispatched? = some .number ∨
        before.dispatched? = some .define ∨
        before.dispatched? = some .loopStart ∧ before.isTopTrue = false)
    (stepped : stepWith limit runBody before = .done landed) :
    ∃ opening closing close changed,
      Jumps before close opening closing changed ∧
        before.partner? opening closing = some close := by
  rcases dispatched with number | define | ⟨loop, untrue⟩
  · obtain ⟨inside, after, -, -, found⟩ :=
      exists_partner .parentheses balanced (instruction?_of_dispatched? number rfl)
    exact ⟨_, _, _, _, .number number, found⟩
  · have atBrace := instruction?_of_dispatched? define rfl
    obtain ⟨inside, after, -, -, found⟩ := exists_partner .braces balanced atBrace
    have foundAgain :
        (before.announcing '\x7b').partner? '\x7b' '\x7d' =
          some (before.cursor + 1 + inside.length) :=
      found
    by_cases refused : 'i' ∈ before.upTo (before.cursor + 1 + inside.length)
    · rw [stepWith_of_performed limit runBody running atBrace define, perform,
        define_of_partner? foundAgain, if_pos (by exact refused)] at stepped
      cases stepped
    · cases named : before.previous? with
      | none =>
          exact ⟨_, _, _, _, .unnamed define named refused, found⟩
      | some name =>
          exact ⟨_, _, _, _, .definition define named refused, found⟩
  · obtain ⟨inside, after, -, -, found⟩ :=
      exists_partner .squares balanced (instruction?_of_dispatched? loop rfl)
    exact ⟨_, _, _, _, .loop loop untrue, found⟩

/-- At a closing bracket that names no function, and repeats no loop, a step moves on. -/
theorem stepWith_at_closing
    (limit : Nat)
    (runBody : Invocation → Outcome Failure Invocation)
    {landed : Invocation}
    {opening closing : Char}
    (pair : Source.Pair opening closing)
    (running : landed.halt = none)
    (present : landed.instruction? = some closing)
    (unbound : landed.functions.find? closing = none)
    (untrue : closing = ']' → landed.isTopTrue = false) :
    stepWith limit runBody landed =
      .done ((landed.announcing closing).withCursor (landed.cursor + 1)) := by
  have moves :
      (landed.announcing closing).advance =
        (landed.announcing closing).withCursor (landed.cursor + 1) :=
    advance_of_running running
  cases dispatched : landed.dispatched? with
  | none =>
      rw [stepWith_of_idle limit runBody running present unbound dispatched, moves]
  | some opcode =>
      obtain ⟨instruction, samePresent, -, -, known⟩ :=
        dispatched?_eq_some_iff.1 dispatched
      rw [present] at samePresent
      cases samePresent
      -- the square bracket alone is an instruction
      cases pair with
      | parentheses | braces =>
          cases known
      | squares =>
          cases known
          have stillUntrue : (landed.announcing ']').isTopTrue = false := untrue rfl
          rw [stepWith_of_performed limit runBody running present dispatched, perform,
            repeatLoop, stillUntrue]
          exact congrArg Outcome.done moves

/--
In every state that a loaded program comes across, a step that jumps to a closing bracket
changes nothing else but what its instruction says.  The next step, made on the bracket,
succeeds and moves the cursor on by one alone, unless the bracket names a function; then
that function is called, and the program has its definition somewhere, with the bracket
right before the opening brace.
-/
theorem reached_closing_stepped_over
    {source : Text}
    {program : Program}
    (loaded : Program.load? source = some program)
    {limit : Nat}
    {channel : Channel}
    {journal : Journal}
    {draws : Draws}
    {before : Invocation}
    (reached : Reaches limit (.start program.code channel journal draws) before)
    (running : before.halt = none)
    (dispatched :
      before.dispatched? = some .number ∨
        before.dispatched? = some .define ∨
        before.dispatched? = some .loopStart ∧ before.isTopTrue = false)
    {budget : Nat}
    {landed : Invocation}
    (stepped : before.step limit budget = .done landed) :
    ∃ opening closing close changed,
      Jumps before close opening closing changed ∧
        before.partner? opening closing = some close ∧
        landed = changed.withCursor close ∧
        landed.instruction? = some closing ∧
        (landed.functions.find? closing = none →
          ∀ budget,
            landed.step limit budget =
              .done ((landed.announcing closing).withCursor (close + 1))) ∧
        ∀ body,
          landed.functions.find? closing = some body →
          Source.IsDefinition program.code closing body ∧
            ∀ budget,
              landed.step limit budget =
                (call limit (run limit budget) (landed.announcing closing) closing
                  body).passOn advance fun fault => ⟨close, some closing, fault⟩ := by
  have codeLoaded := Source.isLoaded_of_load? loaded
  have validated := Validated.of_reaches codeLoaded reached
  obtain ⟨opening, closing, close, changed, jumps, found⟩ :=
    exists_jumps_of_done (validated.isLoaded codeLoaded).balanced running dispatched
      stepped
  have landing : landed = changed.withCursor close := by
    rw [step, jumps.stepWith_eq running found] at stepped
    exact (Outcome.done.inj stepped).symm
  have validatedLanding : Validated program.code landed :=
    .of_reaches codeLoaded (reached.step budget (by rw [stepped]; rfl))
  have stillRunning : landed.halt = none := by
    rw [landing]
    exact jumps.code_and_halt.2.trans running
  have atClosing : landed.instruction? = some closing := by
    rw [landing]
    exact jumps.instruction?_landed found
  refine ⟨opening, closing, close, changed, jumps, found, landing, atClosing, ?_, ?_⟩
  · intro unbound budget
    have untrue : closing = ']' → landed.isTopTrue = false := by
      rintro rfl
      rw [landing]
      exact jumps.untrue
    have moved :=
      stepWith_at_closing limit (run limit budget) jumps.pair stillRunning atClosing
        unbound untrue
    rwa [congrArg cursor landing] at moved
  · intro body bound
    refine ⟨validatedLanding.bound bound, fun budget => ?_⟩
    have called := stepWith_of_calls limit (run limit budget) stillRunning ⟨atClosing, bound⟩
    rwa [congrArg cursor landing] at called

/-- At a number literal in a function that has been called. -/
theorem reached_closing_stepped_over_in_function :
    let source : Text := ['a', '\x7b', '(', '1', '2', ')', '\x7d', 'a']
    ∃ program before landed,
      Program.load? source = some program ∧
        Reaches 200
          (start program.code (.console .exhausted (.emissions []))
            (.blank .error) default)
          before ∧
        before.depth = 1 ∧
        before.dispatched? = some .number ∧
        before.step 200 0 = .done landed ∧
        landed.stack = .ofList [.int 12] ∧
        landed.step 200 0 = .done ((landed.announcing ')').withCursor 4) := by
  intro source
  let program : Program := ⟨Source.prepare source, by decide⟩
  have loaded : Program.load? source = some program :=
    Program.load?_eq_some_iff.2 rfl
  have begun :
      Reaches 200
        (start program.code (.console .exhausted (.emissions []))
          (.blank .error) default)
        (start program.code (.console .exhausted (.emissions []))
          (.blank .error) default) :=
    .origin
  have atCall := ((begun.step 0 rfl).step 0 rfl).step 0 rfl
  have inside :=
    atCall.call rfl (rfl : _ = some 'a') (rfl : _ = some _) (by decide)
  refine ⟨program, _, _, loaded, inside, rfl, rfl, rfl, by decide +kernel, ?_⟩
  obtain ⟨opening, closing, close, changed, jumps, found, -, -, steppedOver, -⟩ :=
    reached_closing_stepped_over loaded inside rfl (.inl rfl)
      (rfl : Invocation.step 200 0 _ = .done _)
  cases jumps with
  | number =>
      have place : close = 3 := Option.some.inj (found.symm.trans rfl)
      subst place
      exact steppedOver rfl 0
  | loop dispatched | definition dispatched | unnamed dispatched =>
      cases dispatched

/-- The second literal of this program ends at a bracket that names a function. -/
theorem bound_closing_called :
    let source : Text := ['(', '1', ')', '\x7b', '2', '\x7d', '(', '3', ')']
    ∃ program before landed,
      Program.load? source = some program ∧
        Reaches 200
          (start program.code (.console .exhausted (.emissions []))
            (.blank .error) default)
          before ∧
        before.halt = none ∧
        before.dispatched? = some .number ∧
        before.step 200 2 = .done landed ∧
        landed.instruction? = some ')' ∧
        landed.stack = .ofList [.int 1, .int 3] ∧
        (landed.step 200 2).state?.map Invocation.stack =
          some (.ofList [.int 1, .int 3, .int 2]) := by
  intro source
  let program : Program := ⟨Source.prepare source, by decide⟩
  have loaded : Program.load? source = some program :=
    Program.load?_eq_some_iff.2 rfl
  have begun :
      Reaches 200
        (start program.code (.console .exhausted (.emissions []))
          (.blank .error) default)
        (start program.code (.console .exhausted (.emissions []))
          (.blank .error) default) :=
    .origin
  have atSecond := (((begun.step 0 rfl).step 0 rfl).step 0 rfl).step 0 rfl
  exact ⟨program, _, _, loaded, atSecond, rfl, rfl, rfl, by decide +kernel,
    by decide +kernel, by decide +kernel⟩

end Invocation

end StackTape
