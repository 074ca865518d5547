import StackTape.Proofs.Exactness

namespace StackTape

/-!
# Exact tasks

Every task but division and power keeps integers exact.  Their operands are integers
whether they come off the stack or from a line, and what they put on is an integer again.
-/

/-- Whether the task can make reals of integers. -/
def Task.makesReals : Task → Bool
  | .divide | .power =>
      true
  | _ =>
      false

namespace Work

open Fault

variable {β : Type}

/-! ## Operands -/

theorem staysExact_readLineOrEmpty :
    StaysExact (fun _ => True) readLineOrEmpty :=
  staysExact_readLine.bind fun _ _ => staysExact_pure trivial

theorem staysExact_implicitOperand? :
    StaysExact (fun _ => True) implicitOperand? := by
  refine staysExact_readLineOrEmpty.bind fun line _ => ?_
  refine staysExact_ite (fun _ => ?_) fun _ => ?_
  · exact (staysExact_note _).bind fun _ _ => staysExact_pure trivial
  · cases Cell.integerOfLine? line with
    | none =>
        exact staysExact_fail (sparesReals_of_category rfl rfl)
    | some value =>
        exact (staysExact_note _).bind fun _ _ => staysExact_pure trivial

theorem staysExact_operand :
    StaysExact (fun operand => operand.cell.IsInteger) operand := by
  refine staysExact_pop?.bind fun taken integer => ?_
  cases taken with
  | some top =>
      exact staysExact_pure (integer top rfl)
  | none =>
      refine staysExact_implicitOperand?.bind fun given _ => ?_
      cases given <;> exact staysExact_pure (Cell.isInteger_int _)

theorem staysExact_takeOperand :
    StaysExact Cell.IsInteger takeOperand :=
  staysExact_operand.bind fun _ integer => staysExact_pure integer

theorem staysExact_takePair :
    StaysExact (fun pair => pair.1.IsInteger ∧ pair.2.IsInteger) takePair :=
  staysExact_operand.bind fun _ first =>
    staysExact_operand.bind fun _ second =>
      staysExact_ite (fun _ => staysExact_pure ⟨second, first⟩)
        fun _ => staysExact_pure ⟨first, second⟩

/-- Reading all integers first if there is no cell. -/
theorem staysExact_afterReading
    {next : Work β}
    {better : β → Prop}
    (nextStays : StaysExact better next) :
    StaysExact better (do readIfEmpty; next) := by
  have filled : StaysExact (fun _ => True) readIfEmpty :=
    staysExact_stack.bind fun _ _ =>
      staysExact_ite (fun _ => staysExact_readIntegers)
        fun _ => staysExact_pure trivial
  exact filled.bind fun _ _ => nextStays

/-! ## Pieces of tasks -/

/-- Computing an integer and putting it on. -/
theorem staysExact_pushComputed
    {computed : Except Fault Cell}
    (yields : YieldsExact Cell.IsInteger computed) :
    StaysExact (fun _ => True) (do push (← ofExcept computed)) :=
  (staysExact_ofExcept yields).bind fun _ integer => staysExact_push integer

theorem staysExact_unary
    {operation : Cell → Except Fault Cell}
    (yields : ∀ value, YieldsExact Cell.IsInteger (operation (.int value))) :
    StaysExact (fun _ => True) (unary operation) := by
  refine staysExact_takeOperand.bind fun cell integer => ?_
  obtain ⟨value, rfl⟩ := integer
  exact staysExact_pushComputed (yields value)

theorem staysExact_binary
    {operation : Cell → Cell → Except Fault Cell}
    (yields :
      ∀ left right,
        YieldsExact Cell.IsInteger (operation (.int left) (.int right))) :
    StaysExact (fun _ => True) (binary operation) := by
  refine staysExact_takePair.bind fun pair integers => ?_
  obtain ⟨first, second⟩ := pair
  obtain ⟨⟨right, rfl⟩, left, rfl⟩ := integers
  exact staysExact_pushComputed (yields left right)

/-- Work that looks at the top cell first. -/
theorem staysExact_peek
    {present : Cell → Work β}
    {absent : Work β}
    {better : β → Prop}
    (presentStays : ∀ top, top.IsInteger → StaysExact better (present top))
    (absentStays : StaysExact better absent) :
    StaysExact better
      (do
        match (← stack).peek? with
        | some top => present top
        | none => absent) := by
  refine staysExact_stack.bind fun stack isExact => ?_
  cases peeked : stack.peek? with
  | some top =>
      refine presentStays top (isExact top ?_)
      rw [Stack.peek?_eq_getLast?] at peeked
      exact List.mem_of_getLast? peeked
  | none =>
      exact absentStays

theorem staysExact_comparison
    (relation : Cell → Cell → Bool) :
    StaysExact (fun _ => True) (comparison relation) :=
  staysExact_takeOperand.bind fun _ _ =>
    staysExact_peek (fun _ _ => staysExact_push (Cell.isInteger_int _))
      (staysExact_fail (sparesReals_of_category rfl rfl))

theorem staysExact_equal :
    StaysExact (fun _ => True) equal :=
  staysExact_takeTop.bind fun _ _ =>
    staysExact_peek (fun _ _ => staysExact_push (Cell.isInteger_int _))
      (staysExact_push (Cell.isInteger_int _))

theorem staysExact_readCharacters :
    StaysExact (fun _ => True) readCharacters := by
  refine staysExact_readLine.bind fun line _ => ?_
  cases line with
  | some line =>
      exact staysExact_append fun _ => Cell.isInteger_of_mem_map_ofChar
  | none =>
      exact staysExact_push (Cell.isInteger_int 0)

theorem staysExact_readNumber :
    StaysExact (fun _ => True) readNumber := by
  refine staysExact_readLineOrEmpty.bind fun line _ => ?_
  refine staysExact_ite (fun _ => staysExact_push (Cell.isInteger_int 0))
    fun _ => ?_
  cases Cell.integerOfLine? line with
  | some value =>
      exact staysExact_push (Cell.isInteger_int value)
  | none =>
      exact staysExact_fail (sparesReals_of_category rfl rfl)

/-- Outputting the character of an integer. -/
theorem staysExact_writeCell
    {cell : Cell}
    (integer : cell.IsInteger) :
    StaysExact (fun _ => True)
      (do
        let c ← ofExcept cell.character
        emit (.character c)) := by
  obtain ⟨value, rfl⟩ := integer
  refine (staysExact_ofExcept (Cell.yieldsExact_character value)).bind
    fun c _ => staysExact_emit fun cell member => ?_
  rw [List.mem_singleton.1 member]
  exact Cell.isInteger_int _

theorem staysExact_writeCharacter :
    StaysExact (fun _ => True) writeCharacter :=
  staysExact_takeTop.bind fun _ => staysExact_writeCell

theorem staysExact_writeCells
    {cells : List Cell}
    (integers : ∀ cell ∈ cells, cell.IsInteger) :
    StaysExact (fun _ => True) (writeCells cells) := by
  induction cells with
  | nil =>
      exact staysExact_pure trivial
  | cons cell rest inductionHypothesis =>
      have others :=
        inductionHypothesis fun other member =>
          integers other (List.mem_cons_of_mem _ member)
      obtain ⟨value, rfl⟩ := integers cell List.mem_cons_self
      refine (staysExact_ofExcept (Cell.yieldsExact_character value)).bind
        fun c _ => (staysExact_emit fun cell member => ?_).bind fun _ _ => others
      rw [List.mem_singleton.1 member]
      exact Cell.isInteger_int _

theorem staysExact_writeCharacters :
    StaysExact (fun _ => True) writeCharacters := by
  have written : StaysExact (fun _ => True) (takeAll >>= writeCells) :=
    staysExact_takeAll.bind fun _ => staysExact_writeCells
  refine staysExact_stack.bind fun stack _ => ?_
  split
  · exact staysExact_readLineOrEmpty.bind fun _ _ =>
      (staysExact_append fun _ => Cell.isInteger_of_mem_map_ofChar).bind
        fun _ _ => written
  · exact written

theorem staysExact_writeNumber :
    StaysExact (fun _ => True) writeNumber :=
  staysExact_takeTop.bind fun top integer =>
    staysExact_emit fun cell member => by
      rw [List.mem_singleton.1 member]
      exact integer

/-- A function's integers come back from the lines that it outputs. -/
theorem staysExact_writeNumbers :
    StaysExact (fun _ => True) writeNumbers :=
  staysExact_afterReading
    (staysExact_takeAll.bind fun cells integers =>
      staysExact_emit fun cell member => by
        rw [Channel.returned_text] at member
        exact integers cell member)

theorem staysExact_sum :
    StaysExact (fun _ => True) sum :=
  staysExact_afterReading
    (staysExact_takeAll.bind fun _ integers =>
      staysExact_pushComputed (yieldsExact_sumOf integers))

theorem staysExact_joinDigits :
    StaysExact (fun _ => True) joinDigits := by
  refine staysExact_afterReading (staysExact_stack.bind fun stack _ => ?_)
  refine staysExact_ite
    (fun _ => staysExact_fail (sparesReals_of_category rfl rfl))
    fun _ => ?_
  refine (staysExact_ofExcept (yieldsExact_joined stack.toList)).bind
    fun value _ => staysExact_setStack (Stack.isExact_ofList ?_)
  intro cell member
  rw [List.mem_singleton.1 member]
  exact Cell.isInteger_int value

theorem staysExact_splitDigits :
    StaysExact (fun _ => True) splitDigits :=
  staysExact_takeOperand.bind fun cell _ =>
    (staysExact_ofExcept (yieldsExact_digitsOf cell)).bind fun _ =>
      staysExact_append

theorem staysExact_integer
    {cell : Cell}
    (integer : cell.IsInteger) :
    StaysExact (fun _ => True) (ofExcept cell.integer) := by
  obtain ⟨value, rfl⟩ := integer
  exact staysExact_pure trivial

theorem staysExact_clampedInteger
    {cell : Cell}
    (integer : cell.IsInteger) :
    StaysExact (fun _ => True) (ofExcept cell.clampedInteger) := by
  obtain ⟨value, rfl⟩ := integer
  exact staysExact_pure trivial

theorem staysExact_random :
    StaysExact (fun _ => True) random := by
  refine staysExact_takePair.bind fun pair integers => ?_
  obtain ⟨upper, lower⟩ := pair
  refine (staysExact_integer integers.2).bind fun low _ =>
    (staysExact_integer integers.1).bind fun high _ =>
      staysExact_ite (fun _ => ?_) fun _ bench isExact => ?_
  · exact staysExact_fail (sparesReals_of_category rfl rfl)
  · exact ⟨trivial,
      Stack.isExact_push.2 ⟨isExact.stack, Cell.isInteger_int _⟩, isExact.channel⟩

theorem staysExact_index :
    StaysExact (fun _ => True) index :=
  staysExact_takeTop.bind fun _ integer =>
    (staysExact_clampedInteger integer).bind fun place _ =>
      staysExact_stack.bind fun _ isExact =>
        staysExact_pushComputed (isExact.yieldsExact_get place)

theorem staysExact_swapAt :
    StaysExact (fun _ => True) swapAt :=
  staysExact_takeTop.bind fun _ integer =>
    (staysExact_clampedInteger integer).bind fun upper _ =>
      staysExact_takeTop.bind fun _ integer =>
        (staysExact_clampedInteger integer).bind fun lower _ =>
          staysExact_stack.bind fun _ isExact =>
            (staysExact_ofExcept (isExact.yieldsExact_swap lower upper)).bind
              fun _ => staysExact_setStack

theorem staysExact_range :
    StaysExact (fun _ => True) range := by
  refine staysExact_takeOperand.bind fun upper upperInteger =>
    staysExact_takeOperand.bind fun lower lowerInteger =>
      (staysExact_integer lowerInteger).bind fun low _ =>
        (staysExact_integer upperInteger).bind fun high _ =>
          staysExact_append fun cell member => ?_
  obtain ⟨offset, -, rfl⟩ := List.mem_map.1 member
  exact Cell.isInteger_int _

theorem staysExact_contains :
    StaysExact (fun _ => True) contains :=
  staysExact_takeTop.bind fun _ _ =>
    staysExact_stack.bind fun _ _ => staysExact_push (Cell.isInteger_int _)

theorem staysExact_modulo :
    StaysExact (fun _ => True) modulo := by
  refine staysExact_takeOperand.bind fun right rightInteger =>
    staysExact_takeOperand.bind fun left leftInteger => ?_
  obtain ⟨divisor, rfl⟩ := rightInteger
  obtain ⟨dividend, rfl⟩ := leftInteger
  exact staysExact_pushComputed (Cell.yieldsExact_mod dividend divisor)

theorem staysExact_swap :
    StaysExact (fun _ => True) swap :=
  staysExact_takeOperand.bind fun _ topInteger =>
    staysExact_takeOperand.bind fun _ belowInteger =>
      (staysExact_push topInteger).bind fun _ _ => staysExact_push belowInteger

theorem staysExact_duplicate :
    StaysExact (fun _ => True) duplicate :=
  staysExact_peek (fun _ integer => staysExact_push integer)
    (staysExact_pure trivial)

/-- Waiting changes no cell. -/
theorem staysExact_wait :
    StaysExact (fun _ => True) wait := by
  refine staysExact_takeOperand.bind fun cell _ => ?_
  refine staysExact_ite (fun _ => ?_) fun _ =>
    staysExact_fail (sparesReals_of_category rfl rfl)
  exact fun _ isExact => ⟨trivial, isExact.stack, isExact.channel⟩

/-- Rearranging the whole stack. -/
theorem staysExact_rearrange
    {rearrange : Stack → Stack}
    (rearranged : ∀ stack : Stack, stack.IsExact → (rearrange stack).IsExact) :
    StaysExact (fun _ => True)
      (do
        readIfEmpty
        setStack (rearrange (← stack))) :=
  staysExact_afterReading
    (staysExact_stack.bind fun stack isExact =>
      staysExact_setStack (rearranged stack isExact))

/-- Every task but division and power is exact. -/
theorem staysExact_perform
    (whole : Bool)
    {task : Task}
    (makesNoReals : task.makesReals = false) :
    StaysExact (fun _ => True) (task.perform whole) := by
  cases task with
  | divide | power =>
      cases makesNoReals
  | digit value =>
      exact staysExact_push (Cell.isInteger_int _)
  | readLine =>
      exact staysExact_readCharacters
  | readNumber =>
      exact staysExact_ite (fun _ => staysExact_readIntegers)
        fun _ => staysExact_readNumber
  | writeCharacter =>
      exact staysExact_ite (fun _ => staysExact_writeCharacters)
        fun _ => staysExact_writeCharacter
  | writeNumber =>
      exact staysExact_ite (fun _ => staysExact_writeNumbers)
        fun _ => staysExact_writeNumber
  | reverse =>
      exact staysExact_rearrange fun _ => Stack.isExact_reverse.2
  | sort =>
      exact staysExact_rearrange fun _ => Stack.isExact_sort.2
  | add =>
      exact staysExact_ite (fun _ => staysExact_sum)
        fun _ => staysExact_binary fun _ _ => Cell.isInteger_int _
  | subtract | multiply =>
      exact staysExact_binary fun _ _ => Cell.isInteger_int _
  | not | countCharacters | negate | increment | decrement =>
      exact staysExact_unary fun _ => Cell.isInteger_int _
  | modulo =>
      exact staysExact_modulo
  | less | greater =>
      exact staysExact_comparison _
  | equal =>
      exact staysExact_equal
  | duplicate =>
      refine staysExact_ite (fun _ => ?_) fun _ => staysExact_duplicate
      exact staysExact_afterReading
        (staysExact_stack.bind fun _ isExact => staysExact_append isExact)
  | pop =>
      exact staysExact_ite (fun _ => staysExact_setStack Stack.isExact_empty)
        fun _ => staysExact_takeTop.bind fun _ _ => staysExact_pure trivial
  | swap =>
      exact staysExact_swap
  | random =>
      exact staysExact_random
  | length =>
      exact staysExact_stack.bind fun _ _ => staysExact_push (Cell.isInteger_int _)
  | splitDigits =>
      exact staysExact_splitDigits
  | joinDigits =>
      exact staysExact_joinDigits
  | index =>
      exact staysExact_index
  | range =>
      exact staysExact_range
  | wait =>
      exact staysExact_wait
  | swapAt =>
      exact staysExact_swapAt
  | contains =>
      exact staysExact_contains

end Work

end StackTape
