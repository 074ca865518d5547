import StackTape.Proofs.Preparation
import StackTape.Proofs.Reachability
import StackTape.Source.Program

namespace StackTape

/-!
# Function bodies

Loading checks the text of the program alone, yet functions run texts that are cut out
of it later, some of them out of other bodies.  Every such text stands between two
braces of the program that belong together.  What loading established for the program
holds for any such piece, so it carries over to every body that a run can bind or call.
-/

namespace Source

/-- A balanced text that stands between two braces of the code, which thus match. -/
structure IsBody (code body : Text) : Prop where
  balanced : isBalanced body = true
  delimited :
    ∃ before after,
      code = before ++ '\x7b' :: (body ++ '\x7d' :: after)

/-- A body of the code that stands behind a name and reads no input lines. -/
structure IsDefinition
    (code : Text)
    (name : Char)
    (body : Text) : Prop where
  balanced : isBalanced body = true
  delimited :
    ∃ before after,
      code = before ++ name :: '\x7b' :: (body ++ '\x7d' :: after)
  withoutInput : 'i' ∉ body

/-- A text as loading leaves it. -/
structure IsLoaded (text : Text) : Prop where
  balanced : isBalanced text = true
  prepared : IsPrepared text

namespace IsDefinition

/-- The body of a definition is a body of the code. -/
theorem isBody
    {code : Text}
    {name : Char}
    {body : Text}
    (definition : IsDefinition code name body) :
    IsBody code body where
  balanced := definition.balanced
  delimited := by
    obtain ⟨before, after, rfl⟩ := definition.delimited
    exact ⟨before ++ [name], after, by simp⟩

/-- A definition inside a body of the code is a definition of the code. -/
theorem of_isBody
    {code outer : Text}
    {name : Char}
    {body : Text}
    (definition : IsDefinition outer name body)
    (piece : IsBody code outer) :
    IsDefinition code name body where
  balanced := definition.balanced
  delimited := by
    obtain ⟨before, after, rfl⟩ := piece.delimited
    obtain ⟨inner, rest, rfl⟩ := definition.delimited
    exact ⟨before ++ '\x7b' :: inner, rest ++ '\x7d' :: after, by simp⟩
  withoutInput := definition.withoutInput

end IsDefinition

/-- What loading established for the code holds for every body of it. -/
theorem IsLoaded.of_isBody
    {code body : Text}
    (loaded : IsLoaded code)
    (piece : IsBody code body) :
    IsLoaded body where
  balanced := piece.balanced
  prepared := by
    obtain ⟨before, after, rfl⟩ := piece.delimited
    exact loaded.prepared.between_brackets .braces

/-- A text that the balance check accepts and that preparing and loading keep. -/
def LoadsUnchanged (text : Text) : Prop :=
  isBalanced text = true ∧
    prepare text = text ∧
    (Program.load? text).map Program.code = some text

/-- A balanced and prepared text loads and comes out unchanged. -/
theorem IsLoaded.loadsUnchanged
    {text : Text}
    (loaded : IsLoaded text) :
    LoadsUnchanged text := by
  have accepted : Program.load? text = some ⟨text, loaded.balanced⟩ :=
    Program.load?_eq_some_iff.2 loaded.prepared.symm
  exact ⟨loaded.balanced, loaded.prepared, by rw [accepted]; rfl⟩

/-- The code of a program that was loaded is loaded. -/
theorem isLoaded_of_load?
    {source : Text}
    {program : Program}
    (loaded : Program.load? source = some program) :
    IsLoaded program.code where
  balanced := program.isBalanced
  prepared := by
    rw [Program.load?_eq_some_iff.1 loaded]
    exact prepare_prepare source

end Source

namespace Invocation

/-! ## What the cursor finds in a well-nested text -/

/-- The instruction at the cursor, with the texts before and behind it. -/
theorem exists_around_cursor
    {invocation : Invocation}
    {c : Char}
    (present : invocation.instruction? = some c) :
    ∃ before,
      invocation.code = before ++ c :: invocation.behindCursor ∧
        before.length = invocation.cursor := by
  have inside := (List.getElem?_eq_some_iff.1 present).1
  exact ⟨invocation.code.take invocation.cursor,
    Source.eq_append_of_getElem? present,
    List.length_take_of_le (Nat.le_of_lt inside)⟩

/-- The character before the cursor is the last one of the text before it. -/
theorem previous?_eq_getLast?
    {invocation : Invocation}
    {before rest : Text}
    (shape : invocation.code = before ++ rest)
    (place : before.length = invocation.cursor) :
    invocation.previous? = before.getLast? := by
  unfold previous?
  rw [← place, List.getLast?_eq_getElem?]
  cases size : before.length with
  | zero =>
      simp [List.eq_nil_of_length_eq_zero size]
  | succ last =>
      change invocation.code[last]? = before[last]?
      rw [shape, List.getElem?_append_left (by omega)]

/-- An opening bracket at the cursor has its partner behind a well-nested text. -/
theorem exists_partner
    {invocation : Invocation}
    {opening closing : Char}
    (kind : Source.Pair opening closing)
    (balanced : Source.isBalanced invocation.code = true)
    (present : invocation.instruction? = some opening) :
    ∃ inside after,
      invocation.behindCursor = inside ++ closing :: after ∧
        Source.Nested inside ∧
        invocation.partner? opening closing =
          some (invocation.cursor + 1 + inside.length) := by
  obtain ⟨before, shape, place⟩ := exists_around_cursor present
  have nested := Source.isBalanced_iff_nested.1 balanced
  rw [shape] at nested
  obtain ⟨inside, after, behind, insideNested⟩ := nested.exists_closing kind
  refine ⟨inside, after, behind, insideNested, ?_⟩
  have found :=
    Source.partnerAfter?_of_nested kind insideNested (before ++ [opening]) after
  rw [partner?, shape, behind, ← place]
  simpa using found

/-- A closing bracket at the cursor has its partner before a well-nested text. -/
theorem exists_partnerBefore
    {invocation : Invocation}
    {opening closing : Char}
    (kind : Source.Pair opening closing)
    (balanced : Source.isBalanced invocation.code = true)
    (present : invocation.instruction? = some closing) :
    ∃ before inside,
      invocation.code =
          before ++ opening :: (inside ++ closing :: invocation.behindCursor) ∧
        Source.Nested inside ∧
        Source.partnerBefore? opening closing invocation.code
          invocation.cursor = some before.length := by
  obtain ⟨front, shape, place⟩ := exists_around_cursor present
  have nested := Source.isBalanced_iff_nested.1 balanced
  obtain ⟨before, inside, rfl, insideNested⟩ :=
    nested.exists_opening shape kind
  have whole :
      invocation.code =
        before ++ opening :: (inside ++ closing :: invocation.behindCursor) := by
    simpa using shape
  refine ⟨before, inside, whole, insideNested, ?_⟩
  have found :=
    Source.partnerBefore?_of_nested kind insideNested before
      (closing :: invocation.behindCursor)
  rw [← whole] at found
  rw [← place, ← found]
  congr 1
  simp
  omega

/-- What a definition at the cursor binds is a definition of the text. -/
theorem Defines.isDefinition
    {invocation : Invocation}
    {name : Char}
    {body : Text}
    (defines : Defines invocation name body)
    (balanced : Source.isBalanced invocation.code = true)
    (present : invocation.instruction? = some '\x7b') :
    Source.IsDefinition invocation.code name body := by
  obtain ⟨inside, after, behind, insideNested, found⟩ :=
    exists_partner .braces balanced present
  obtain ⟨close, sameFound, cut⟩ := defines.delimited
  rw [found] at sameFound
  cases sameFound
  have same : body = inside := by
    rw [cut, behind]
    simp
  subst same
  obtain ⟨front, shape, place⟩ := exists_around_cursor present
  have named := defines.named
  rw [previous?_eq_getLast? shape place, List.getLast?_eq_some_iff] at named
  obtain ⟨before, rfl⟩ := named
  refine ⟨Source.isBalanced_iff_nested.2 insideNested, ⟨before, after, ?_⟩,
    defines.withoutInput⟩
  rw [shape, behind]
  simp

/-! ## The invariant -/

/--
What holds of every invocation that a program comes across: its text is the program's
or a body of it, and what is bound are definitions of the program.
-/
structure Validated
    (code : Text)
    (invocation : Invocation) : Prop where
  program : invocation.depth = 0 → invocation.code = code
  function :
    0 < invocation.depth →
      Source.IsBody code invocation.code ∧ 'i' ∉ invocation.code
  bound :
    ∀ {name : Char} {body : Text},
      invocation.functions.find? name = some body →
      Source.IsDefinition code name body

namespace Validated

/-- The text of a validated invocation is the program's or a body of it. -/
theorem code_or_isBody
    {code : Text}
    {invocation : Invocation}
    (validated : Validated code invocation) :
    invocation.code = code ∨ Source.IsBody code invocation.code := by
  rcases Nat.eq_zero_or_pos invocation.depth with outermost | nested
  · exact .inl (validated.program outermost)
  · exact .inr (validated.function nested).1

/-- The text of a validated invocation is loaded. -/
theorem isLoaded
    {code : Text}
    {invocation : Invocation}
    (validated : Validated code invocation)
    (loaded : Source.IsLoaded code) :
    Source.IsLoaded invocation.code := by
  rcases validated.code_or_isBody with same | piece
  · rwa [same]
  · exact loaded.of_isBody piece

/-- A definition of the invocation's text is one of the program. -/
theorem isDefinition
    {code : Text}
    {invocation : Invocation}
    (validated : Validated code invocation)
    {name : Char}
    {body : Text}
    (definition : Source.IsDefinition invocation.code name body) :
    Source.IsDefinition code name body := by
  rcases validated.code_or_isBody with same | piece
  · rwa [same] at definition
  · exact definition.of_isBody piece

/-- A program is validated before its first instruction. -/
theorem start
    (code : Text)
    (channel : Channel)
    (journal : Journal)
    (draws : Draws) :
    Validated code (.start code channel journal draws) where
  program _ := rfl
  function nested := absurd nested (Nat.lt_irrefl 0)
  bound found := by
    simp [Invocation.start] at found

/-- A step keeps an invocation validated, also a failed one. -/
theorem step
    {code : Text}
    {before after : Invocation}
    (validated : Validated code before)
    (loaded : Source.IsLoaded code)
    (frame : StepFrame before after) :
    Validated code after where
  program outermost := by
    rw [frame.code]
    exact validated.program (frame.depth ▸ outermost)
  function nested := by
    rw [frame.code]
    exact validated.function (frame.depth ▸ nested)
  bound {name body} found := by
    rcases frame.functions with
      same | ⟨dispatched, defined, definedBody, defines, binding⟩
    · rw [same] at found
      exact validated.bound found
    · rw [binding] at found
      by_cases renamed : name = defined
      · subst renamed
        rw [Bindings.find?_bind_self] at found
        cases found
        exact validated.isDefinition
          (defines.isDefinition (validated.isLoaded loaded).balanced
            (instruction?_of_dispatched? dispatched rfl))
      · rw [Bindings.find?_bind_of_ne _ _ renamed] at found
        exact validated.bound found

/-- A called body is validated before its first instruction. -/
theorem enter
    {code : Text}
    {caller : Invocation}
    (validated : Validated code caller)
    {name : Char}
    {body : Text}
    (bound : caller.functions.find? name = some body) :
    Validated code ((caller.announcing name).enter body) where
  program outermost := by
    cases outermost
  function _ :=
    ⟨(validated.bound bound).isBody, (validated.bound bound).withoutInput⟩
  bound found := validated.bound found

/-- Every invocation that a loaded program comes across is validated. -/
theorem of_reaches
    {limit : Nat}
    {code : Text}
    (loaded : Source.IsLoaded code)
    {channel : Channel}
    {journal : Journal}
    {draws : Draws}
    {invocation : Invocation}
    (reached :
      Reaches limit (.start code channel journal draws) invocation) :
    Validated code invocation := by
  induction reached with
  | origin =>
      exact .start code channel journal draws
  | step budget _ left inductionHypothesis =>
      exact inductionHypothesis.step loaded (frame_stepWith left)
  | call _ _ _ bound _ inductionHypothesis =>
      exact inductionHypothesis.enter bound

end Validated

/-- The letter i alone reads a line of characters. -/
theorem eq_letter_of_readLine
    {c : Char}
    (known : Opcode.ofChar? c = some (.task .readLine)) :
    c = 'i' := by
  unfold Opcode.ofChar? at known
  split at known
  case h_13 =>
    obtain ⟨task, taskKnown, same⟩ := Option.map_eq_some_iff.1 known
    cases same
    unfold Task.ofChar? at taskKnown
    split at taskKnown
    · cases taskKnown
    · split at taskKnown <;> simp_all
  all_goals cases known

/-- In a text without the letter i no line of characters is read. -/
theorem dispatched?_ne_readLine
    {invocation : Invocation}
    (withoutInput : 'i' ∉ invocation.code) :
    invocation.dispatched? ≠ some (.task .readLine) := by
  intro dispatched
  obtain ⟨instruction, present, -, -, known⟩ :=
    dispatched?_eq_some_iff.1 dispatched
  rw [eq_letter_of_readLine known] at present
  exact withoutInput (List.mem_of_getElem? present)

/--
The validation of a program carries over to every text that a run of it comes across.
An invocation's text is the program's or, like every body that it can call, stands
between two matching braces of the program; these texts load as they are, a function
never reads a line of characters, and no bracket lacks its partner when it is
dispatched.
-/
theorem reached_texts_validated
    {source : Text}
    {program : Program}
    (loaded : Program.load? source = some program)
    {limit : Nat}
    {channel : Channel}
    {journal : Journal}
    {draws : Draws}
    {invocation : Invocation}
    (reached :
      Reaches limit (.start program.code channel journal draws) invocation) :
    (invocation.code = program.code ∨
        Source.IsBody program.code invocation.code) ∧
      Source.LoadsUnchanged invocation.code ∧
      (∀ name body,
        invocation.functions.find? name = some body →
        Source.IsBody program.code body ∧
          Source.LoadsUnchanged body ∧
          'i' ∉ body) ∧
      (invocation.isFunction = true →
        invocation.dispatched? ≠ some (.task .readLine)) ∧
      (invocation.dispatched? = some .number →
        invocation.partner? '(' ')' ≠ none) ∧
      (invocation.dispatched? = some .loopStart →
        invocation.partner? '[' ']' ≠ none) ∧
      (invocation.dispatched? = some .loopEnd →
        Source.partnerBefore? '[' ']' invocation.code invocation.cursor ≠
          none) ∧
      (invocation.dispatched? = some .define →
        invocation.partner? '\x7b' '\x7d' ≠ none) := by
  have codeLoaded := Source.isLoaded_of_load? loaded
  have validated := Validated.of_reaches codeLoaded reached
  have textLoaded := validated.isLoaded codeLoaded
  have partnered
      {opcode : Opcode}
      {opening closing : Char}
      (kind : Source.Pair opening closing)
      (signed : opcode.sign? = some opening)
      (dispatched : invocation.dispatched? = some opcode) :
      invocation.partner? opening closing ≠ none := by
    obtain ⟨inside, after, -, -, found⟩ :=
      exists_partner kind textLoaded.balanced
        (instruction?_of_dispatched? dispatched signed)
    simp [found]
  refine ⟨validated.code_or_isBody, textLoaded.loadsUnchanged, ?_, ?_,
    partnered .parentheses rfl, partnered .squares rfl, ?_,
    partnered .braces rfl⟩
  · intro name body found
    have definition := validated.bound found
    exact ⟨definition.isBody,
      (codeLoaded.of_isBody definition.isBody).loadsUnchanged,
      definition.withoutInput⟩
  · intro isFunction
    have nested : 0 < invocation.depth := by
      simpa [Invocation.isFunction] using isFunction
    exact dispatched?_ne_readLine (validated.function nested).2
  · intro dispatched
    obtain ⟨before, inside, -, -, found⟩ :=
      exists_partnerBefore .squares textLoaded.balanced
        (instruction?_of_dispatched? dispatched rfl)
    simp [found]

/-- Inside a function that a function has defined and called, behind a comment. -/
theorem reached_texts_validated_in_nested_function :
    let source := "#\x7b\na\x7bb\x7b('()\x7db\x7da".toList
    ∃ program invocation,
      Program.load? source = some program ∧
        Reaches 200
          (start program.code (.console .exhausted (.emissions []))
            (.blank .error) default)
          invocation ∧
        invocation.depth = 2 ∧
        invocation.dispatched? = some .number ∧
        Source.LoadsUnchanged invocation.code ∧
        invocation.partner? '(' ')' ≠ none := by
  intro source
  let program : Program := ⟨Source.prepare source, by decide⟩
  have loaded : Program.load? source = some program :=
    Program.load?_eq_some_iff.2 rfl
  have begun :
      Reaches 200
        (start program.code (.console .exhausted (.emissions []))
          (.blank .error) default)
        (start program.code (.console .exhausted (.emissions []))
          (.blank .error) default) :=
    .origin
  have atOuterCall := (((begun.step 0 rfl).step 0 rfl).step 0 rfl).step 0 rfl
  have inOuter :=
    atOuterCall.call rfl (rfl : _ = some 'a') (rfl : _ = some _) (by decide)
  have atInnerCall := ((inOuter.step 0 rfl).step 0 rfl).step 0 rfl
  have inInner :=
    atInnerCall.call rfl (rfl : _ = some 'b') (rfl : _ = some _) (by decide)
  have validated := reached_texts_validated loaded inInner
  exact ⟨program, _, loaded, inInner, rfl, rfl, validated.2.1,
    validated.2.2.2.2.1 rfl⟩

end Invocation

end StackTape
