import StackTape.Proofs.Digits
import StackTape.Proofs.Lexemes
import StackTape.Proofs.Printing

namespace StackTape

/-!
# Number literals

A number literal reaches up to the matching parenthesis, whatever is nested in it.  All
digits in it, at any depth, spell the one number that it pushes.  So a list of integers is
written as a program: each one as a literal of its size, negated behind the literal if it
is negative.  That program leaves the list on its stack and outputs it.
-/

namespace Invocation

/-! ## One literal -/

section

variable {invocation : Invocation}
variable {inside behind : Text}

theorem behindCursor_of_ahead
    {c : Char}
    {rest : Text}
    (ahead : invocation.code.drop invocation.cursor = c :: rest) :
    invocation.instruction? = some c ∧ invocation.behindCursor = rest := by
  constructor
  · rw [instruction?, ← List.head?_drop, ahead]
    rfl
  · rw [behindCursor, ← List.drop_drop, ahead]
    rfl

/-- The parenthesis that a literal reaches up to. -/
theorem partner?_of_isBalanced
    (ahead : invocation.behindCursor = inside ++ ')' :: behind)
    (balanced : Source.isBalanced inside = true) :
    invocation.partner? '(' ')' = some (invocation.cursor + 1 + inside.length) := by
  have nested := Source.isBalanced_iff_nested.1 balanced
  have passed := nested.passes .parentheses 0 (')' :: behind)
  rw [partner?, Source.partnerAfter?]
  rw [behindCursor] at ahead
  rw [ahead, passed]
  simp [Source.partnerOffset?]

/-- A literal pushes what its digits spell and ends in front of its parenthesis. -/
theorem pushNumber_eq
    (ahead : invocation.behindCursor = inside ++ ')' :: behind)
    (balanced : Source.isBalanced inside = true) :
    invocation.pushNumber =
      (invocation.pushSpelled (inside.filter Char.isDigit)).withCursor
        (invocation.cursor + inside.length) := by
  have length : invocation.cursor + 1 + inside.length - (invocation.cursor + 1) =
      inside.length :=
    Nat.add_sub_cancel_left _ _
  simp only [pushNumber, partner?_of_isBalanced ahead balanced, ahead, length,
    List.take_left]
  congr 1
  omega

/-- A step at a literal lands on its parenthesis. -/
theorem stepWith_of_literal
    (running : invocation.halt = none)
    (ahead : invocation.code.drop invocation.cursor = '(' :: (inside ++ ')' :: behind))
    (dispatched : invocation.dispatched? = some .number)
    (balanced : Source.isBalanced inside = true)
    (limit : Nat)
    (runBody : Invocation → Outcome Failure Invocation) :
    stepWith limit runBody invocation =
      .done
        (((invocation.announcing '(').pushSpelled
            (inside.filter Char.isDigit)).withCursor
          (invocation.cursor + inside.length + 1)) := by
  obtain ⟨present, behindCursor⟩ := behindCursor_of_ahead ahead
  have pushed :
      (invocation.announcing '(').pushNumber = _ :=
    pushNumber_eq behindCursor balanced
  rw [stepWith_of_performed limit runBody running present dispatched, perform, pushed]
  refine congrArg Outcome.done (advance_of_running ?_)
  rw [pushSpelled]
  split <;> exact running

end

end Invocation

/-! ## Lists of integers as programs -/

namespace Source

/-- The program text that pushes an integer: its size, negated if it is negative. -/
def literal (value : Int) : Text :=
  '(' :: (Decimal.digits value.natAbs ++ ')' :: if value < 0 then ['N'] else [])

/-- The program text that pushes integers one after the other. -/
def literals (values : List Int) : Text :=
  values.flatMap literal

theorem isBracket_of_isDigit
    {c : Char}
    (digit : c.isDigit = true) :
    isBracket c = false := by
  rw [← Bool.not_eq_true]
  intro bracket
  simp only [isBracket, Bool.or_eq_true, beq_iff_eq] at bracket
  rcases bracket with ((((rfl | rfl) | rfl) | rfl) | rfl) | rfl <;>
    exact absurd digit (by decide)

theorem isBalanced_of_digits
    {row : Text}
    (allDigits : ∀ c ∈ row, c.isDigit = true) :
    isBalanced row = true :=
  isBalanced_iff_nested.2
    (nested_of_plain fun c member => isBracket_of_isDigit (allDigits c member))

/-- The characters that such a program consists of. -/
theorem isDigit_or_mem_of_mem_literals
    {values : List Int}
    {c : Char}
    (member : c ∈ literals values) :
    c.isDigit = true ∨ c ∈ ['(', ')', 'N'] := by
  obtain ⟨value, -, inLiteral⟩ := List.mem_flatMap.1 member
  rcases List.mem_cons.1 inLiteral with rfl | inLiteral
  · exact .inr (by decide)
  · rcases List.mem_append.1 inLiteral with inDigits | inLiteral
    · exact .inl (Decimal.isDigit_of_mem_digits inDigits)
    · rcases List.mem_cons.1 inLiteral with rfl | inSign
      · exact .inr (by decide)
      · split_ifs at inSign
        · rw [List.mem_singleton.1 inSign]
          exact .inr (by decide)
        · cases inSign

/-- Nothing else is in it. -/
theorem notMem_literals
    (values : List Int)
    {c : Char}
    (noDigit : c.isDigit = false)
    (noMark : c ∉ ['(', ')', 'N']) :
    c ∉ literals values := by
  intro member
  rcases isDigit_or_mem_of_mem_literals member with digit | mark
  · rw [noDigit] at digit
    cases digit
  · exact noMark mark

/-- A text without quotes, apostrophes and number signs is prepared as it is. -/
theorem prepare_of_notMem
    {text : Text}
    (noQuote : '"' ∉ text)
    (noSign : '#' ∉ text)
    (noApostrophe : '\'' ∉ text) :
    prepare text = text := by
  induction text with
  | nil =>
      rfl
  | cons c rest inductionHypothesis =>
      rw [List.mem_cons, not_or] at noQuote noSign noApostrophe
      rw [prepare_cons_of_plain (Ne.symm noQuote.1) (Ne.symm noSign.1)
          fun same => absurd same.symm noApostrophe.1,
        inductionHypothesis noQuote.2 noSign.2 noApostrophe.2]

theorem nested_literals
    (values : List Int) :
    Nested (literals values) := by
  induction values with
  | nil =>
      exact .nil
  | cons value rest inductionHypothesis =>
      have digits : Nested (Decimal.digits value.natAbs) :=
        nested_of_plain fun c member =>
          isBracket_of_isDigit (Decimal.isDigit_of_mem_digits member)
      have sign : Nested (if value < 0 then ['N'] else []) := by
        split_ifs
        · exact .plain rfl .nil
        · exact .nil
      rw [literals, List.flatMap_cons]
      exact Nested.append (.pair .parentheses digits sign) inductionHypothesis

/-- The program loads as it is. -/
theorem exists_load?_literals
    (values : List Int) :
    ∃ program,
      Program.load? (literals values) = some program ∧
        program.code = literals values := by
  have prepared : prepare (literals values) = literals values :=
    prepare_of_notMem (notMem_literals values (by decide) (by decide))
      (notMem_literals values (by decide) (by decide))
      (notMem_literals values (by decide) (by decide))
  let program : Program :=
    ⟨literals values, isBalanced_iff_nested.2 (nested_literals values)⟩
  exact ⟨program, Program.load?_eq_some_iff.2 prepared.symm, rfl⟩

end Source

namespace Invocation

section

variable (stack : Stack)
variable (backup : Backup)
variable (channel : Channel)

/-- A literal of digits alone pushes the number that they spell. -/
theorem executes_digits
    {row : Text}
    (nonempty : row ≠ [])
    (allDigits : ∀ c ∈ row, c.isDigit = true) :
    Executes ('(' :: (row ++ [')'])) ⟨stack, backup, channel⟩
      ⟨stack.push (.ofNat (Decimal.spelled row)), backup, channel⟩ := by
  intro rest behind invocation faces holds
  have ahead :
      invocation.code.drop invocation.cursor =
        '(' :: (row ++ ')' :: (rest ++ behind)) := by
    simp [faces.ahead]
  let landed :=
    ((invocation.announcing '(').withStack
        (invocation.stack.push (.ofNat (Decimal.spelled row)))).withCursor
      (invocation.cursor + row.length + 1)
  have stepped (limit : Nat) (runBody : Invocation → Outcome Failure Invocation) :
      stepWith limit runBody invocation = .done landed := by
    rw [stepWith_of_literal faces.running ahead faces.dispatched?_eq
        (Source.isBalanced_of_digits allDigits),
      List.filter_eq_self.2 allDigits, pushSpelled, if_neg nonempty]
    rfl
  -- the step passes everything up to the last digit, which is no ampersand
  obtain ⟨front, last, shape⟩ := List.eq_nil_or_concat' row |>.resolve_left nonempty
  have passing :
      invocation.Faces false (('(' :: front) ++ last :: (')' :: rest)) behind := by
    simpa [shape] using faces
  have place : landed.cursor = invocation.cursor + ('(' :: front).length + 1 := by
    change invocation.cursor + row.length + 1 = _
    rw [shape, List.length_append, List.length_singleton, List.length_cons]
  have noAmpersand : (last == '&') = false := by
    rw [beq_eq_false_iff_ne]
    rintro rfl
    exact absurd (allDigits '&' (by simp [shape])) (by decide)
  have atClosing : landed.Faces (last == '&') (')' :: rest) behind :=
    passing.skip rfl place rfl rfl
  rw [noAmpersand] at atClosing
  obtain ⟨final, walks, facesRest, finalHolds⟩ := atClosing.exists_walk_of_idle rfl
  refine ⟨2, final, by simp, .step faces.running stepped walks, facesRest, ?_⟩
  rw [finalHolds]
  cases holds
  rfl

theorem executes_negate
    (value : Int) :
    Executes (command false 'N') ⟨stack.push (.int value), backup, channel⟩
      ⟨stack.push (.int (-value)), backup, channel⟩ := by
  have known : Opcode.ofChar? 'N' = some (.task .negate) := rfl
  refine executes_task known (fun journal draws waits => ?_) backup
  refine ⟨⟨stack.push _, channel, journal, draws, waits⟩, ?_, rfl, rfl⟩
  simp [Task.perform, Work.unary, Cell.neg]

/-- The program text of an integer pushes the integer. -/
theorem executes_literal
    (value : Int) :
    Executes (Source.literal value) ⟨stack, backup, channel⟩
      ⟨stack.push (.int value), backup, channel⟩ := by
  have size :=
    executes_digits stack backup channel (Decimal.digits_ne_nil value.natAbs)
      fun c => Decimal.isDigit_of_mem_digits
  rw [Decimal.spelled_digits] at size
  rw [Source.literal]
  split_ifs with negative
  · have negated := executes_negate stack backup channel value.natAbs
    have value_eq : -(value.natAbs : Int) = value := by
      omega
    rw [value_eq] at negated
    have both := size.append negated
    rwa [List.cons_append, List.append_assoc] at both
  · have value_eq : (value.natAbs : Int) = value := by
      omega
    rwa [Cell.ofNat, value_eq] at size

theorem executes_literals
    (values : List Int) :
    Executes (Source.literals values) ⟨stack, backup, channel⟩
      ⟨stack.append (values.map .int), backup, channel⟩ := by
  induction values generalizing stack with
  | nil =>
      exact executes_nil _
  | cons value rest inductionHypothesis =>
      have onward := inductionHypothesis (stack.push (.int value))
      rw [Stack.push_append] at onward
      rw [Source.literals, List.flatMap_cons]
      exact (executes_literal stack backup channel value).append onward

end

/-! ## The end of the text -/

/-- At the end of a program its stack is output as one text. -/
theorem stepWith_of_ended_program
    (limit : Nat)
    (runBody : Invocation → Outcome Failure Invocation)
    {invocation : Invocation}
    (running : invocation.halt = none)
    (ended : invocation.instruction? = none)
    (outermost : invocation.depth = 0)
    {source : LineSource}
    {shown : List Text}
    (channel : invocation.channel = .console source (.text shown)) :
    ∃ after,
      stepWith limit runBody invocation = .done after ∧
        after.halt = some .finished ∧
        after.stack = invocation.stack ∧
        after.channel =
          .console source
            (.text
              (List.intercalate [' '] (invocation.stack.toList.map Cell.text) :: shown)) := by
  have isProgram : invocation.isFunction = false := by
    rw [isFunction, outermost]
    rfl
  have joined :
      Work.emit
          (.text (List.intercalate [' '] (invocation.bench.stack.toList.map Cell.text)))
          { invocation.bench with
            journal := invocation.bench.journal.note .implicitOutput } =
        .ok ()
          { invocation.bench with
            journal := invocation.bench.journal.note .implicitOutput
            channel :=
              .console source
                (.text
                  (List.intercalate [' '] (invocation.stack.toList.map Cell.text) ::
                    shown)) } := by
    have onBench : invocation.bench.channel = .console source (.text shown) := channel
    rw [Work.emit_apply, onBench]
    rfl
  have output : outputStack false invocation.bench = _ := joined
  rw [stepWith_of_ended limit runBody running ended, isProgram]
  exact ⟨_, congrArg (Outcome.passOn _ _) (working_of_ok output), rfl, rfl, rfl⟩

/-- The program of a list of integers, run from its start on. -/
theorem run_start_literals
    (values : List Int)
    (limit budget : Nat)
    (enough : (Source.literals values).length < budget)
    (source : LineSource)
    (journal : Journal)
    (draws : Draws) :
    ∃ final,
      (start (Source.literals values) (.console source (.text [])) journal draws).run
          limit budget = .done final ∧
        final.halt = some .finished ∧
        final.stack.toList = values.map .int ∧
        final.channel =
          .console source
            (.text [List.intercalate [' '] (values.map Decimal.ofInteger)]) := by
  have braceless : '\x7b' ∉ Source.literals values :=
    Source.notMem_literals values (by decide) (by decide)
  obtain ⟨count, atEnd, most, walks, faces, holds⟩ :=
    executes_literals .empty .empty (.console source (.text [])) values [] []
      (start (Source.literals values) (.console source (.text [])) journal draws)
      (.of_beginning rfl rfl rfl rfl braceless) rfl
  rw [holding, Holding.mk.injEq, Stack.empty_append] at holds
  obtain ⟨stack, -, channel⟩ := holds
  have ended : atEnd.instruction? = none := by
    rw [instruction?, ← List.head?_drop, faces.ahead]
    rfl
  obtain ⟨final, stepped, halted, sameStack, output⟩ :=
    stepWith_of_ended_program limit (run limit (budget - count - 1)) faces.running
      ended walks.depth_eq channel
  have budget_eq : budget = budget - count - 1 + 1 + count := by
    omega
  rw [stack, Stack.toList_ofList, List.map_map] at output
  refine ⟨final, ?_, halted, by rw [sameStack, stack, Stack.toList_ofList], output⟩
  rw [budget_eq, walks.run_eq, run_succ_of_done faces.running stepped]
  exact run_of_halted _ _ (by rw [halted]; rfl)

end Invocation

namespace Interpreter

/-- The program of a list of integers completes and prints the list. -/
theorem evaluate_literals
    (values : List Int)
    {limit budget : Nat}
    (enough : (Source.literals values).length < budget)
    (source : LineSource)
    (journal : Journal)
    (draws : Draws) :
    (evaluate limit budget (Source.literals values) (.console source (.text []))
        journal draws).Prints source
      (List.intercalate [' '] (values.map Decimal.ofInteger)) := by
  obtain ⟨program, loaded, code⟩ := Source.exists_load?_literals values
  obtain ⟨final, ran, -, -, shown⟩ :=
    Invocation.run_start_literals values limit budget enough source journal draws
  simp only [evaluate, loaded, code, ran]
  exact ⟨rfl, _, shown, by simp [Sink.output]⟩

/--
Number literals push exactly what they spell.  At a literal whose content is balanced, a
step lands on the matching parenthesis and changes nothing else but that it pushes the
number whose text the digits inside are, at whatever depth they are, behind zeros; without
a digit it pushes nothing.  So a list of integers, each written as a literal of its size
and negated if it is negative, loads as a program that finishes on any input with the list
on its stack, and its output is the list, joined by single spaces.
-/
theorem literals_push_what_they_spell :
    (∀ (invocation : Invocation) (inside behind : Text) (limit budget : Nat),
        invocation.halt = none →
        invocation.code.drop invocation.cursor = '(' :: (inside ++ ')' :: behind) →
        invocation.dispatched? = some .number →
        Source.isBalanced inside = true →
        let digits := inside.filter Char.isDigit
        let closing := invocation.cursor + inside.length + 1
        let noted := invocation.announcing '('
        invocation.partner? '(' ')' = some closing ∧
          (digits = [] →
            invocation.step limit budget = .done (noted.withCursor closing)) ∧
          (digits ≠ [] →
            ∃ n zeros,
              digits = List.replicate zeros '0' ++ Decimal.digits n ∧
                invocation.step limit budget =
                  .done
                    ((noted.withStack (invocation.stack.push (.int n))).withCursor
                      closing))) ∧
      ∀ (values : List Int) (limit budget : Nat) (source : LineSource)
          (journal : Journal) (draws : Draws),
        (Source.literals values).length < budget →
        let channel := Channel.console source (.text [])
        let shown := List.intercalate [' '] (values.map Decimal.ofInteger)
        (∃ program final,
            Program.load? (Source.literals values) = some program ∧
              (Invocation.start program.code channel journal draws).run limit budget =
                .done final ∧
              final.halt = some .finished ∧
              final.stack.toList = values.map .int ∧
              final.channel = .console source (.text [shown])) ∧
          (evaluate limit budget (Source.literals values) channel journal draws).Prints
            source shown := by
  refine ⟨?literal, ?program⟩
  case literal =>
    intro invocation inside behind limit budget running ahead dispatched balanced digits
      closing noted
    have stepped :
        invocation.step limit budget =
          .done ((noted.pushSpelled digits).withCursor closing) :=
      Invocation.stepWith_of_literal running ahead dispatched balanced limit _
    refine ⟨?partner, ?nothing, ?spelled⟩
    case partner =>
      rw [Invocation.partner?_of_isBalanced
        (Invocation.behindCursor_of_ahead ahead).2 balanced, Nat.add_right_comm]
    case nothing =>
      intro noDigit
      rwa [Invocation.pushSpelled, if_pos noDigit] at stepped
    case spelled =>
      intro someDigit
      have allDigits : ∀ c ∈ digits, c.isDigit = true :=
        fun c member => (List.mem_filter.1 member).2
      obtain ⟨zeros, split⟩ := Decimal.exists_zeros_append_digits someDigit allDigits
      rw [Invocation.pushSpelled, if_neg someDigit] at stepped
      exact ⟨Decimal.spelled digits, zeros, split, stepped⟩
  case program =>
    intro values limit budget source journal draws enough channel shown
    obtain ⟨program, loaded, code⟩ := Source.exists_load?_literals values
    obtain ⟨final, ran, halted, stack, output⟩ :=
      Invocation.run_start_literals values limit budget enough source journal draws
    rw [← code] at ran
    exact ⟨⟨program, final, loaded, ran, halted, stack, output⟩,
      evaluate_literals values enough source journal draws⟩

/-- Digits around and inside other brackets, and a list with zero and negative integers. -/
theorem literals_push_what_they_spell_amid_brackets :
    let code := "7(0a[4(2)]&)".toList
    let program :=
      (Invocation.start code (.console .exhausted (.emissions [])) (.blank .error)
        default).withCursor 1
    let values : List Int := [12, -7, 0]
    (∃ after,
        program.step 0 0 = .done after ∧
          after.cursor = 11 ∧
          after.instruction? = some ')' ∧
          after.stack.toList = [.int 42]) ∧
      Source.literals values = "(12)(7)N(0)".toList ∧
      (evaluate 0 12 (Source.literals values) (.console (.lines ["5".toList]) (.text []))
          (.blank .error) default).Prints
        (.lines ["5".toList]) "12 -7 0".toList := by
  intro code program values
  refine ⟨?literal, by decide, ?program⟩
  case literal =>
    obtain ⟨-, -, spelled⟩ :=
      literals_push_what_they_spell.1 program "0a[4(2)]&".toList [] 0 0 rfl rfl rfl rfl
    obtain ⟨n, zeros, digits, stepped⟩ := spelled (by decide)
    have value : n = 42 := by
      have both := congrArg Decimal.spelled digits
      rw [Decimal.spelled_append, Decimal.spelled_zeros, Decimal.spelled_digits,
        Nat.mul_zero, Nat.zero_add] at both
      exact both.symm
    subst value
    exact ⟨_, stepped, rfl, rfl, rfl⟩
  case program =>
    have printed :=
      (literals_push_what_they_spell.2 values 0 12 (.lines ["5".toList])
        (.blank .error) default (by decide)).2
    exact printed

end Interpreter

end StackTape
