import StackTape.Proofs.Apostrophes

namespace StackTape

/-!
# The character before an instruction

An ampersand right before an instruction selects its variant for the whole stack.  An
instruction takes the character there as it stands in the text, and does not ask whether
it was an instruction itself.  So the character of a literal counts as well: behind it the
next instruction cannot tell one character from another, but for an ampersand.
-/

namespace Source

variable {opening closing c d : Char}

/-- A bracket search passes over one more character of another kind. -/
theorem partnerBefore?_succ
    {code : Text}
    {position : Nat}
    (present : code[position]? = some c)
    (notOpening : c ≠ opening)
    (notClosing : c ≠ closing) :
    partnerBefore? opening closing code (position + 1) =
      partnerBefore? opening closing code position := by
  have front : (code.take (position + 1)).reverse = c :: (code.take position).reverse := by
    rw [List.take_add_one, present]
    simp
  rw [partnerBefore?, partnerBefore?, front, partnerOffset?, if_neg notClosing,
    if_neg notOpening, Option.map_map]
  congr 1
  funext offset
  simp only [Function.comp_apply]
  omega

/-- The balance check does not distinguish characters that are no brackets. -/
theorem isBalancedFrom_append_cons
    (first : isBracket c = false)
    (second : isBracket d = false)
    (opened : List Char)
    (before rest : Text) :
    isBalancedFrom opened (before ++ c :: rest) =
      isBalancedFrom opened (before ++ d :: rest) := by
  induction before generalizing opened with
  | nil =>
      simp [isBalancedFrom, isOpener_of_not_isBracket, opener?_of_not_isBracket, first,
        second]
  | cons head before inductionHypothesis =>
      simp only [List.cons_append, isBalancedFrom, inductionHypothesis]

/-- A literal of a loaded text may hold any other character that is no bracket. -/
theorem IsLoaded.replace_content
    {before rest : Text}
    (loaded : IsLoaded (before ++ '\'' :: c :: rest))
    (plain : modeAfter .plain before = .plain)
    (neutral : isBracket d = false) :
    IsLoaded (before ++ '\'' :: d :: rest) := by
  obtain ⟨beforeKept, literalKept⟩ := prepareFrom_pieces before loaded.prepared
  rw [plain] at literalKept
  have contentKept : conceal c :: prepareFrom .plain rest = c :: rest := by
    simpa [prepareFrom, Mode.emit, Mode.advance] using literalKept
  rw [List.cons.injEq] at contentKept
  have contentNeutral : isBracket c = false := by
    rw [← contentKept.1]
    exact isBracket_conceal c
  constructor
  · have same :=
      isBalancedFrom_append_cons contentNeutral neutral [] (before ++ ['\'']) rest
    simp only [List.append_assoc, List.singleton_append] at same
    rw [isBalanced, ← same]
    exact loaded.balanced
  · rw [IsPrepared, prepare, prepareFrom_append, beforeKept, plain]
    simp [prepareFrom, Mode.emit, Mode.advance, conceal_of_not_isBracket neutral,
      contentKept.2]

end Source

namespace Task

/-- Whether the task has a variant for the whole stack. -/
def hasWholeVariant : Task → Bool
  | .readNumber | .writeCharacter | .writeNumber | .add | .duplicate | .pop =>
      true
  | _ =>
      false

/-- Without one the ampersand makes no difference. -/
theorem perform_of_not_hasWholeVariant
    {task : Task}
    (single : task.hasWholeVariant = false)
    (first second : Bool) :
    task.perform first = task.perform second := by
  cases task with
  | readNumber | writeCharacter | writeNumber | add | duplicate | pop =>
      cases single
  | _ =>
      rfl

end Task

namespace Opcode

/-- Whether the instruction has a variant for the whole stack. -/
def hasWholeVariant : Opcode → Bool
  | .task known =>
      known.hasWholeVariant
  | .store =>
      true
  | _ =>
      false

end Opcode

namespace Invocation

theorem perform_of_not_hasWholeVariant
    {opcode : Opcode}
    (single : opcode.hasWholeVariant = false)
    (invocation : Invocation)
    (first second : Bool) :
    invocation.perform first opcode = invocation.perform second opcode := by
  cases opcode with
  | task task =>
      rw [perform, perform, Task.perform_of_not_hasWholeVariant single first second]
  | store =>
      cases single
  | _ =>
      rfl

/-! ## Texts that an instruction cannot tell apart -/

/-- The invocation with another text. -/
def withCode
    (invocation : Invocation)
    (code : Text) : Invocation :=
  { invocation with code := code }

/--
The other text is the same from the cursor on, and a loop that ends at the cursor starts
at the same place.
-/
structure LooksAlike
    (invocation : Invocation)
    (code : Text) : Prop where
  ahead : code.drop invocation.cursor = invocation.code.drop invocation.cursor
  loop :
    Source.partnerBefore? '[' ']' code invocation.cursor =
      Source.partnerBefore? '[' ']' invocation.code invocation.cursor

namespace LooksAlike

variable {invocation : Invocation}
variable {code : Text}

/-- The texts are the same from any later place on. -/
theorem drop_eq
    (alike : invocation.LooksAlike code)
    {position : Nat}
    (later : invocation.cursor ≤ position) :
    code.drop position = invocation.code.drop position := by
  obtain ⟨offset, rfl⟩ := Nat.exists_eq_add_of_le later
  rw [← List.drop_drop, alike.ahead, List.drop_drop]

theorem getElem?_eq
    (alike : invocation.LooksAlike code)
    {position : Nat}
    (later : invocation.cursor ≤ position) :
    code[position]? = invocation.code[position]? := by
  have same := congrArg (·[0]?) (alike.drop_eq later)
  simpa using same

theorem partnerAfter?_eq
    (alike : invocation.LooksAlike code)
    {position : Nat}
    (later : invocation.cursor ≤ position)
    (opening closing : Char) :
    Source.partnerAfter? opening closing code position =
      Source.partnerAfter? opening closing invocation.code position := by
  rw [Source.partnerAfter?, Source.partnerAfter?, alike.drop_eq later]

theorem cursorOutside_eq
    (alike : invocation.LooksAlike code)
    (count : Nat)
    {cursor : Nat}
    (later : invocation.cursor ≤ cursor) :
    cursorOutside code count cursor = cursorOutside invocation.code count cursor := by
  induction count generalizing cursor with
  | zero =>
      rfl
  | succ count inductionHypothesis =>
      simp only [cursorOutside, alike.partnerAfter?_eq (Nat.le_succ_of_le later)]
      cases found : Source.partnerAfter? '[' ']' invocation.code (cursor + 1) with
      | none =>
          rfl
      | some close =>
          have bounds := Source.partnerAfter?_bounds found
          exact inductionHypothesis (by omega)

theorem instruction?_eq
    (alike : invocation.LooksAlike code) :
    (invocation.withCode code).instruction? = invocation.instruction? :=
  alike.getElem?_eq (Nat.le_refl _)

theorem next?_eq
    (alike : invocation.LooksAlike code) :
    (invocation.withCode code).next? = invocation.next? :=
  alike.getElem?_eq (Nat.le_succ _)

theorem behindCursor_eq
    (alike : invocation.LooksAlike code) :
    (invocation.withCode code).behindCursor = invocation.behindCursor :=
  alike.drop_eq (Nat.le_succ _)

theorem partner?_eq
    (alike : invocation.LooksAlike code)
    (opening closing : Char) :
    (invocation.withCode code).partner? opening closing =
      invocation.partner? opening closing :=
  alike.partnerAfter?_eq (Nat.le_succ _) opening closing

theorem dispatched?_eq
    (alike : invocation.LooksAlike code) :
    (invocation.withCode code).dispatched? = invocation.dispatched? := by
  unfold dispatched?
  rw [alike.instruction?_eq, alike.next?_eq]
  rfl

theorem announcing
    (alike : invocation.LooksAlike code)
    (instruction : Char) :
    (invocation.announcing instruction).LooksAlike code :=
  ⟨alike.ahead, alike.loop⟩

end LooksAlike

/-- Passing an outcome on does not look at the text unless the finish does. -/
theorem passOn_withCode
    {ε δ : Type}
    {finish : Invocation → Invocation}
    {code : Text}
    (apart : ∀ state, finish (state.withCode code) = (finish state).withCode code)
    (report : ε → δ)
    (outcome : Outcome ε Invocation) :
    (outcome.mapState (·.withCode code)).passOn finish report =
      (outcome.passOn finish report).mapState (·.withCode code) := by
  cases outcome with
  | done state =>
      exact congrArg Outcome.done (apart state)
  | failed | unfinished =>
      rfl

/-- Work on the bench does not look at the text. -/
theorem working_withCode
    {α : Type}
    {invocation : Invocation}
    {code : Text}
    {work : Work α}
    {goOn : α → Invocation → Outcome Fault Invocation}
    (onward :
      ∀ result bench,
        goOn result ((invocation.withBench bench).withCode code) =
          (goOn result (invocation.withBench bench)).mapState (·.withCode code)) :
    (invocation.withCode code).working work goOn =
      (invocation.working work goOn).mapState (·.withCode code) := by
  have same : (invocation.withCode code).bench = invocation.bench := rfl
  unfold working
  rw [same]
  cases work invocation.bench with
  | ok result bench =>
      exact onward result bench
  | error fault bench =>
      rfl

theorem pushSpelled_withCode
    (invocation : Invocation)
    (code row : Text) :
    (invocation.withCode code).pushSpelled row =
      (invocation.pushSpelled row).withCode code := by
  unfold pushSpelled
  split <;> rfl

/-- Every opcode but a definition, which takes the name before it, does the same. -/
theorem perform_withCode
    {invocation : Invocation}
    {code : Text}
    (alike : invocation.LooksAlike code)
    (whole : Bool)
    {opcode : Opcode}
    (nameless : opcode ≠ .define) :
    (invocation.withCode code).perform whole opcode =
      (invocation.perform whole opcode).mapState (·.withCode code) := by
  cases opcode with
  | task task =>
      exact working_withCode fun _ _ => rfl
  | number =>
      simp only [perform, Outcome.mapState, pushNumber, alike.partner?_eq,
        alike.behindCursor_eq, pushSpelled_withCode]
      cases invocation.partner? '(' ')' <;> rfl
  | string =>
      simp only [perform, Outcome.mapState, pushString, alike.behindCursor_eq]
      cases (Source.readString false invocation.behindCursor).2 <;> rfl
  | character =>
      simp only [perform, Outcome.mapState, pushCharacter, alike.next?_eq]
      cases invocation.next? <;> rfl
  | loopStart =>
      have same : (invocation.withCode code).isTopTrue = invocation.isTopTrue := rfl
      simp only [perform, Outcome.mapState, enterLoop, alike.partner?_eq, same]
      split
      · rfl
      · cases invocation.partner? '[' ']' <;> rfl
  | loopEnd =>
      have same : (invocation.withCode code).isTopTrue = invocation.isTopTrue := rfl
      have loop :
          Source.partnerBefore? '[' ']' (invocation.withCode code).code
              (invocation.withCode code).cursor =
            Source.partnerBefore? '[' ']' invocation.code invocation.cursor :=
        alike.loop
      simp only [perform, Outcome.mapState, repeatLoop, loop, same]
      split
      · cases Source.partnerBefore? '[' ']' invocation.code invocation.cursor <;> rfl
      · rfl
  | leaveLoops =>
      simp only [perform, leaveLoops]
      refine working_withCode fun count bench => ?_
      have outside := alike.cursorOutside_eq count.toNat (Nat.le_refl _)
      exact congrArg
        (fun cursor =>
          Outcome.done (((invocation.withBench bench).withCode code).withCursor cursor))
        outside
  | define =>
      exact absurd rfl nameless
  | load =>
      have same : (invocation.withCode code).backup = invocation.backup := rfl
      simp only [perform, load, same]
      cases invocation.backup <;> rfl
  | store =>
      cases whole with
      | true =>
          simp only [perform, if_true, storeAll]
          exact working_withCode fun _ _ => rfl
      | false =>
          have same : (invocation.withCode code).stack = invocation.stack := rfl
          simp only [perform, Outcome.mapState, storeTop, same]
          cases invocation.stack.peek? <;> rfl
  | moveLeft | moveRight | terminate =>
      rfl

/-- A call does not look at its caller's text. -/
theorem call_withCode
    (limit : Nat)
    (runBody : Invocation → Outcome Failure Invocation)
    (invocation : Invocation)
    (code : Text)
    (name : Char)
    (body : Text) :
    call limit runBody (invocation.withCode code) name body =
      (call limit runBody invocation name body).mapState (·.withCode code) := by
  have sameDepth : (invocation.withCode code).depth = invocation.depth := rfl
  have sameCallee : (invocation.withCode code).enter body = invocation.enter body := rfl
  simp only [call, sameDepth, sameCallee]
  split
  · rfl
  · cases runBody (invocation.enter body) <;> rfl

/-- Moving on does not look at the text either. -/
theorem advance_withCode
    (invocation : Invocation)
    (code : Text) :
    (invocation.withCode code).advance = invocation.advance.withCode code := by
  have sameHalt : (invocation.withCode code).halt = invocation.halt := rfl
  unfold advance
  rw [sameHalt]
  split <;> rfl

/--
A step does the same on texts that look alike, but for a definition, and for a variant
that the character before the cursor selects in one of the texts alone.
-/
theorem stepWith_withCode
    (limit : Nat)
    (runBody : Invocation → Outcome Failure Invocation)
    {invocation : Invocation}
    {code : Text}
    (alike : invocation.LooksAlike code)
    (nameless : invocation.dispatched? ≠ some .define)
    (modified :
      ∀ opcode,
        invocation.dispatched? = some opcode →
        opcode.hasWholeVariant = true →
        ((invocation.withCode code).previous? == some '&') =
          (invocation.previous? == some '&')) :
    stepWith limit runBody (invocation.withCode code) =
      (stepWith limit runBody invocation).mapState (·.withCode code) := by
  have announced (instruction : Char) :
      (invocation.withCode code).announcing instruction =
        (invocation.announcing instruction).withCode code :=
    rfl
  cases stepKind invocation with
  | halted stopped =>
      rw [stepWith_of_halted limit runBody stopped,
        stepWith_of_halted limit runBody (by exact stopped)]
      rfl
  | ended running ended =>
      have worked :
          (invocation.withCode code).doing (outputStack invocation.isFunction) =
            (invocation.doing (outputStack invocation.isFunction)).mapState
              (·.withCode code) :=
        working_withCode fun _ _ => rfl
      rw [stepWith_of_ended limit runBody running ended,
        stepWith_of_ended limit runBody (by exact running)
          (alike.instruction?_eq.trans ended)]
      exact (congrArg (Outcome.passOn _ _) worked).trans (passOn_withCode (fun _ => rfl) _ _)
  | called running calls =>
      rw [stepWith_of_calls limit runBody running calls,
        stepWith_of_calls limit runBody (by exact running)
          ⟨alike.instruction?_eq.trans calls.present, calls.bound⟩,
        announced, call_withCode]
      exact passOn_withCode (fun state => advance_withCode state code) _ _
  | idle running present unbound nothing =>
      rw [stepWith_of_idle limit runBody running present unbound nothing,
        stepWith_of_idle limit runBody (by exact running)
          (alike.instruction?_eq.trans present) (by exact unbound)
          (alike.dispatched?_eq.trans nothing), announced, advance_withCode]
      rfl
  | @performed instruction opcode running present dispatched =>
      have noDefinition : opcode ≠ .define := fun same =>
        nameless (same ▸ dispatched)
      have sameVariant :
          (invocation.announcing instruction).perform
              ((invocation.withCode code).previous? == some '&') opcode =
            (invocation.announcing instruction).perform
              (invocation.previous? == some '&') opcode := by
        cases variants : opcode.hasWholeVariant with
        | true =>
            rw [modified opcode dispatched variants]
        | false =>
            exact perform_of_not_hasWholeVariant variants _ _ _
      rw [stepWith_of_performed limit runBody running present dispatched,
        stepWith_of_performed limit runBody (by exact running)
          (alike.instruction?_eq.trans present) (alike.dispatched?_eq.trans dispatched),
        announced, perform_withCode (alike.announcing instruction) _ noDefinition,
        sameVariant]
      exact passOn_withCode (fun state => advance_withCode state code) _ _

/-! ## Behind a character literal -/

/-- The invocation once it has pushed the character at the cursor's right and gone on. -/
def behindLiteral
    (invocation : Invocation)
    (c : Char) : Invocation :=
  ((invocation.announcing '\'').withStack
    (invocation.stack.push (Cell.ofChar (Source.disclose c)))).withCursor
      (invocation.cursor + 2)

section

variable {invocation : Invocation}
variable {c d : Char}

/-- A character literal pushes its character and leads behind it. -/
theorem stepWith_of_character
    (limit : Nat)
    (runBody : Invocation → Outcome Failure Invocation)
    (running : invocation.halt = none)
    (present : invocation.instruction? = some '\'')
    (unbound : invocation.functions.find? '\'' = none)
    (following : invocation.next? = some c)
    (noBrace : c ≠ '\x7b') :
    stepWith limit runBody invocation = .done (invocation.behindLiteral c) := by
  have dispatched : invocation.dispatched? = some .character :=
    dispatched?_eq_some_iff.2
      ⟨'\'', present, unbound, by simpa [following] using noBrace, rfl⟩
  have followingStill : (invocation.announcing '\'').next? = some c := following
  rw [stepWith_of_performed limit runBody running present dispatched, perform,
    pushCharacter, followingStill, Outcome.passOn]
  congr 1
  exact advance_of_running running

/-- Behind the literal its character is the one before the cursor. -/
theorem previous?_behindLiteral
    (following : invocation.next? = some c) :
    (invocation.behindLiteral c).previous? = some c :=
  following

/-- The text with another character in the literal at the cursor. -/
def withContent
    (invocation : Invocation)
    (d : Char) : Text :=
  invocation.code.set (invocation.cursor + 1) d

theorem next?_withContent
    (following : invocation.next? = some c) :
    (invocation.withCode (invocation.withContent d)).next? = some d := by
  have inside := (List.getElem?_eq_some_iff.1 following).1
  exact List.getElem?_set_self inside

/-- Behind the literal both texts look alike, unless a loop begins or ends in it. -/
theorem looksAlike_withContent
    (following : invocation.next? = some c)
    (noSquare : c ≠ '[' ∧ c ≠ ']')
    (noSquareEither : d ≠ '[' ∧ d ≠ ']') :
    (invocation.behindLiteral c).LooksAlike (invocation.withContent d) := by
  have replaced :
      (invocation.withContent d)[invocation.cursor + 1]? = some d :=
    next?_withContent following
  constructor
  · exact List.drop_set_of_lt (Nat.lt_succ_self _)
  · change
      Source.partnerBefore? '[' ']' (invocation.withContent d)
          (invocation.cursor + 1 + 1) =
        Source.partnerBefore? '[' ']' invocation.code (invocation.cursor + 1 + 1)
    rw [Source.partnerBefore?_succ following noSquare.1 noSquare.2,
      Source.partnerBefore?_succ replaced noSquareEither.1 noSquareEither.2,
      Source.partnerBefore?, Source.partnerBefore?, withContent,
      List.take_set_of_le (Nat.le_refl _)]

/-- Another character that is no bracket gives another text that loads. -/
theorem loadsUnchanged_withContent
    (loaded : Source.IsLoaded invocation.code)
    (plain :
      Source.modeAfter .plain (invocation.code.take invocation.cursor) = .plain)
    (present : invocation.instruction? = some '\'')
    (following : invocation.next? = some c)
    (neutral : Source.isBracket d = false) :
    Source.LoadsUnchanged (invocation.withContent d) := by
  obtain ⟨rest, shape⟩ := exists_around_literal present following
  have inside := (List.getElem?_eq_some_iff.1 present).1
  have place : (invocation.code.take invocation.cursor).length = invocation.cursor :=
    List.length_take_of_le (Nat.le_of_lt inside)
  have replaced :
      invocation.withContent d =
        invocation.code.take invocation.cursor ++ '\'' :: d :: rest := by
    generalize invocation.code.take invocation.cursor = front at shape place
    rw [withContent, shape, ← place]
    simp
  rw [shape] at loaded
  rw [replaced]
  exact (loaded.replace_content plain neutral).loadsUnchanged

/-- Behind the literal no definition begins. -/
theorem dispatched?_behindLiteral_ne_define
    (nameless : invocation.code[invocation.cursor + 2]? ≠ some '\x7b') :
    (invocation.behindLiteral c).dispatched? ≠ some .define :=
  fun dispatched => nameless (instruction?_of_dispatched? dispatched rfl)

end

/--
In every state that a loaded program comes across, let the cursor be at an apostrophe that
names no function, and let the character of the literal be replaced by another one that is
no bracket; if preparation has read the apostrophe as such, the other text loads as well.
Both texts push their characters and go on behind the literal.  With the same stack the
next step then does the same on both, provided that either none or both of the characters
are an ampersand, or that the instruction there has no variant for the whole stack.  The
variant is indeed selected by the character of the literal: it is the one that stands right
before the instruction.
-/
theorem reached_content_seen_as_ampersand
    {source : Text}
    {program : Program}
    (loaded : Program.load? source = some program)
    {limit : Nat}
    {channel : Channel}
    {journal : Journal}
    {draws : Draws}
    {before : Invocation}
    (reached : Reaches limit (.start program.code channel journal draws) before)
    (running : before.halt = none)
    (present : before.instruction? = some '\'')
    (unbound : before.functions.find? '\'' = none)
    {c d : Char}
    (following : before.next? = some c)
    (nameless : before.code[before.cursor + 2]? ≠ some '\x7b')
    (neutral : Source.isBracket d = false) :
    let other := before.withContent d
    let first := before.behindLiteral c
    let second := (before.withCode other).behindLiteral d
    (Source.modeAfter .plain (before.code.take before.cursor) = .plain →
        Source.LoadsUnchanged other) ∧
      (∀ budget,
        before.step limit budget = .done first ∧
          (before.withCode other).step limit budget = .done second) ∧
      ((c = '&' ↔ d = '&') ∨
            (∀ opcode,
              first.dispatched? = some opcode → opcode.hasWholeVariant = false) →
        ∀ budget,
          (second.withStack first.stack).step limit budget =
            (first.step limit budget).mapState (·.withCode other)) ∧
      ∀ instruction opcode,
        first.instruction? = some instruction →
        first.dispatched? = some opcode →
        ∀ budget,
          first.step limit budget =
            ((first.announcing instruction).perform (c == '&') opcode).passOn advance
              fun fault => ⟨first.cursor, some instruction, fault⟩ := by
  intro other first second
  have codeLoaded := Source.isLoaded_of_load? loaded
  have textLoaded :=
    (Validated.of_reaches codeLoaded reached).isLoaded codeLoaded
  -- the literal is not one of a bracket that has to be matched
  have noSquare : c ≠ '\x7b' ∧ c ≠ '[' ∧ c ≠ ']' := by
    rcases reached_content_not_bracket loaded reached running present unbound following
      with ordinary | rfl
    · refine ⟨?_, ?_, ?_⟩ <;> rintro rfl <;> cases ordinary
    · decide
  have noSquareEither : d ≠ '\x7b' ∧ d ≠ '[' ∧ d ≠ ']' := by
    refine ⟨?_, ?_, ?_⟩ <;> rintro rfl <;> cases neutral
  have followingOther : (before.withCode other).next? = some d :=
    next?_withContent following
  have presentOther : (before.withCode other).instruction? = some '\'' :=
    (List.getElem?_set_ne (Nat.succ_ne_self _)).trans present
  have alike : first.LooksAlike other :=
    looksAlike_withContent following noSquare.2 noSquareEither.2
  have variant : first.previous? = some c :=
    previous?_behindLiteral following
  have variantOther : (first.withCode other).previous? = some d :=
    previous?_behindLiteral followingOther
  refine ⟨fun plain => loadsUnchanged_withContent textLoaded plain present following
      neutral, fun budget => ⟨?_, ?_⟩, ?_, ?_⟩
  · exact stepWith_of_character limit _ running present unbound following noSquare.1
  · exact stepWith_of_character limit _ (by exact running) presentOther (by exact unbound)
      followingOther noSquareEither.1
  · intro condition budget
    have equalized : second.withStack first.stack = first.withCode other := rfl
    rw [equalized]
    refine stepWith_withCode limit _ alike
      (dispatched?_behindLiteral_ne_define nameless) fun opcode dispatched variants => ?_
    rw [variant, variantOther]
    rcases condition with same | single
    · rw [Bool.eq_iff_iff]
      simpa using same.symm
    · rw [single opcode dispatched] at variants
      cases variants
  · intro instruction opcode here dispatched budget
    have stillRunning : first.halt = none := running
    have performed :=
      stepWith_of_performed limit (run limit budget) stillRunning here dispatched
    rw [variant] at performed
    exact performed

/-- A literal in a loop: its end does not see whether the literal is an ampersand. -/
theorem reached_content_seen_as_ampersand_in_loop :
    let source : Text := ['1', '[', '\'', 'a', ']']
    ∃ program before,
      Program.load? source = some program ∧
        Reaches 200
          (start program.code (.console .exhausted (.emissions []))
            (.blank .error) default)
          before ∧
        before.instruction? = some '\'' ∧
        before.next? = some 'a' ∧
        (before.behindLiteral 'a').instruction? = some ']' ∧
        (((before.withCode (before.withContent '&')).behindLiteral '&').withStack
            (before.behindLiteral 'a').stack).step 200 0 =
          ((before.behindLiteral 'a').step 200 0).mapState
            (·.withCode (before.withContent '&')) := by
  intro source
  let program : Program := ⟨Source.prepare source, by decide⟩
  have loaded : Program.load? source = some program :=
    Program.load?_eq_some_iff.2 rfl
  have begun :
      Reaches 200
        (start program.code (.console .exhausted (.emissions []))
          (.blank .error) default)
        (start program.code (.console .exhausted (.emissions []))
          (.blank .error) default) :=
    .origin
  have atLiteral := (begun.step 0 rfl).step 0 rfl
  have seen :=
    reached_content_seen_as_ampersand (d := '&') loaded atLiteral rfl rfl rfl
      (rfl : _ = some 'a') (by decide) rfl
  have single :
      ∀ opcode,
        some Opcode.loopEnd = some opcode → opcode.hasWholeVariant = false := by
    rintro opcode ⟨⟩
    rfl
  exact ⟨program, _, loaded, atLiteral, rfl, rfl, rfl, seen.2.2.1 (.inr single) 0⟩

/-- Behind the literal of an ampersand the whole stack is written, behind another one cell. -/
theorem content_selects_variant :
    let source : Text := ['\'', 'A', '\'', '&', 'o', ';']
    ∃ program before first second,
      Program.load? source = some program ∧
        Reaches 200
          (start program.code (.console .exhausted (.emissions []))
            (.blank .error) default)
          before ∧
        before.halt = none ∧
        before.instruction? = some '\'' ∧
        before.functions.find? '\'' = none ∧
        before.next? = some '&' ∧
        before.code[before.cursor + 2]? ≠ some '\x7b' ∧
        before.step 200 0 = .done first ∧
        (before.withCode (before.withContent 'x')).step 200 0 = .done second ∧
        (first.step 200 0).state?.map Invocation.stack = some .empty ∧
        ((second.withStack first.stack).step 200 0).state?.map Invocation.stack =
          some (.ofList [.int 65]) := by
  intro source
  let program : Program := ⟨Source.prepare source, by decide⟩
  have loaded : Program.load? source = some program :=
    Program.load?_eq_some_iff.2 rfl
  have begun :
      Reaches 200
        (start program.code (.console .exhausted (.emissions []))
          (.blank .error) default)
        (start program.code (.console .exhausted (.emissions []))
          (.blank .error) default) :=
    .origin
  have atSecond := begun.step 0 rfl
  exact ⟨program, _, _, _, loaded, atSecond, rfl, rfl, rfl, rfl, by decide, rfl, rfl,
    by decide +kernel, by decide +kernel⟩

end Invocation

end StackTape
