import StackTape.Machine.Bench.Lemmas
import StackTape.Proofs.ReadBack
import StackTape.Proofs.Steps

namespace StackTape

/-!
# What a function gives back

A function gives its stack back as one text, a number on a line, or number by number at
the end of its body.  The text is cut at its line feeds again, and every line is read as a
number.  No written number holds a line feed or a blank, none is empty, and no written real
reads as an integer, so both ways put the same cells on the caller's stack.
-/

namespace Decimal

/-- A natural number has nothing but digits. -/
theorem natural?_shape
    {text : Text}
    {n : Nat}
    (read : natural? text = some n) :
    ∀ c ∈ text, isDigitOrSeparator c = true := by
  cases text with
  | nil =>
      exact List.forall_mem_nil _
  | cons first rest =>
      rw [natural?] at read
      split_ifs at read with shape
      rw [Bool.and_eq_true, List.all_eq_true] at shape
      have firstPlain : isDigitOrSeparator first = true := by
        simp [isDigitOrSeparator, shape.1]
      exact List.forall_mem_cons.2 ⟨firstPlain, shape.2⟩

/-- Behind the first character, which may be a sign, an integer has digits only. -/
theorem integer?_shape
    {first : Char}
    {rest : Text}
    {value : Int}
    (read : integer? (first :: rest) = some value) :
    (first = '-' ∨ first = '+' ∨ isDigitOrSeparator first = true) ∧
      ∀ c ∈ rest, isDigitOrSeparator c = true := by
  have plain
      {body : Text}
      (spells : natural? body ≠ none) :
      ∀ c ∈ body, isDigitOrSeparator c = true := by
    obtain ⟨n, natural⟩ := Option.ne_none_iff_exists'.1 spells
    exact natural?_shape natural
  unfold integer? at read
  split at read
  · rename_i body shape
    cases shape
    exact ⟨.inl rfl, plain fun none => by rw [none] at read; cases read⟩
  · rename_i body shape
    cases shape
    exact ⟨.inr (.inl rfl), plain fun none => by rw [none] at read; cases read⟩
  · have digits := plain fun none => by rw [none] at read; cases read
    exact ⟨.inr (.inr (List.forall_mem_cons.1 digits).1),
      (List.forall_mem_cons.1 digits).2⟩

/-- What holds a character that is neither a sign nor a digit is no integer. -/
theorem integer?_of_foreign
    {text : Text}
    {c : Char}
    (member : c ∈ text)
    (foreign : isDigitOrSeparator c = false)
    (noMinus : c ≠ '-')
    (noPlus : c ≠ '+') :
    integer? text = none := by
  refine Option.eq_none_iff_forall_ne_some.2 fun value read => ?_
  cases text with
  | nil =>
      cases member
  | cons first rest =>
      obtain ⟨signOrDigit, plain⟩ := integer?_shape read
      rcases List.mem_cons.1 member with rfl | inRest
      · rcases signOrDigit with minus | plus | digit
        · exact noMinus minus
        · exact noPlus plus
        · rw [digit] at foreign
          cases foreign
      · rw [plain c inRest] at foreign
        cases foreign

/-- A written finite value has digits around a point, perhaps behind a minus sign. -/
theorem exists_pointed_ofReal
    (negative : Bool)
    {significand : Nat}
    {exponent : Int}
    (canonical : Canonical significand exponent) :
    ∃ text whole places,
      ofReal (.finite negative significand exponent canonical) =
          withSign negative text ∧
        IsPointed text whole places := by
  obtain ⟨value, written, -⟩ := exists_ofFinite_eq_positional canonical
  obtain ⟨whole, places, pointed, -⟩ := value.exists_pointed_positional
  exact ⟨_, whole, places, by rw [ofReal, written], pointed⟩

/-- A written real has no blank in it. -/
theorem isBlank_of_mem_ofReal
    {value : Binary64}
    {c : Char}
    (member : c ∈ ofReal value) :
    Text.isBlank c = false := by
  have solid
      {word : Text}
      (unblank : word.all (fun c => !Text.isBlank c) = true)
      (member : c ∈ word) :
      Text.isBlank c = false := by
    simpa using List.all_eq_true.1 unblank c member
  cases value with
  | nan =>
      exact solid (by decide) member
  | infinite negative =>
      cases negative <;> exact solid (by decide) member
  | finite negative significand exponent canonical =>
      obtain ⟨text, whole, places, written, pointed⟩ :=
        exists_pointed_ofReal negative canonical
      obtain ⟨rfl, -, wholeDigits, placesDigits⟩ := pointed
      have unsigned
          (member : c ∈ whole ++ '.' :: places) :
          Text.isBlank c = false := by
        rcases List.mem_append.1 member with before | behind
        · exact Text.isBlank_of_isDigit (wholeDigits c before)
        · rcases List.mem_cons.1 behind with rfl | behind
          · decide
          · exact Text.isBlank_of_isDigit (placesDigits c behind)
      rw [written] at member
      cases negative with
      | false =>
          exact unsigned member
      | true =>
          rcases List.mem_cons.1 member with rfl | behind
          · decide
          · exact unsigned behind

/-- The text of a real has a letter or a point in it. -/
theorem exists_foreign_ofReal
    (value : Binary64) :
    ∃ c ∈ ofReal value, isDigitOrSeparator c = false ∧ c ≠ '-' ∧ c ≠ '+' := by
  cases value with
  | nan =>
      exact ⟨'N', by decide, by decide⟩
  | infinite negative =>
      exact ⟨'i', by cases negative <;> decide, by decide⟩
  | finite negative significand exponent canonical =>
      obtain ⟨text, whole, places, written, pointed⟩ :=
        exists_pointed_ofReal negative canonical
      have point : '.' ∈ text := by
        rw [pointed.shape]
        exact List.mem_append_right _ List.mem_cons_self
      refine ⟨'.', ?_, by decide⟩
      rw [written]
      cases negative with
      | false =>
          exact point
      | true =>
          exact List.mem_cons_of_mem _ point

/-- No written real reads as an integer. -/
theorem integer?_ofReal
    (value : Binary64) :
    integer? (ofReal value) = none := by
  obtain ⟨c, member, foreign, noMinus, noPlus⟩ := exists_foreign_ofReal value
  exact integer?_of_foreign member foreign noMinus noPlus

end Decimal

namespace Text

/-- A text that is a line of its own and stays one when lines are joined. -/
structure IsPlainLine (line : Text) : Prop where
  noFeed : '\n' ∉ line
  noReturn : '\r' ∉ line
  nonempty : line ≠ []

/-- Plain lines that are joined by line feeds are the lines of the text. -/
theorem lines_intercalate_feed
    {pieces : List Text}
    (plain : ∀ piece ∈ pieces, piece.IsPlainLine) :
    lines (List.intercalate ['\n'] pieces) = pieces := by
  induction pieces with
  | nil =>
      rfl
  | cons first rest inductionHypothesis =>
      have firstPlain := plain first List.mem_cons_self
      cases rest with
      | nil =>
          rw [List.intercalate_singleton]
          exact lines_of_not_mem firstPlain.noFeed firstPlain.nonempty
      | cons second others =>
          have unreturned : dropCarriageReturn first = first :=
            if_neg fun last =>
              firstPlain.noReturn (List.mem_of_getLast? last)
          have behind :=
            inductionHypothesis fun piece member =>
              plain piece (List.mem_cons_of_mem _ member)
          rw [List.intercalate_cons_cons, List.append_assoc, List.singleton_append,
            lines_append_feed firstPlain.noFeed, unreturned, behind]

end Text

namespace Cell

/-- The text of a cell has no blank in it. -/
theorem isBlank_of_mem_text
    {cell : Cell}
    {c : Char}
    (member : c ∈ cell.text) :
    Text.isBlank c = false := by
  cases cell with
  | int value =>
      exact isBlank_of_mem_ofInteger member
  | real value =>
      exact Decimal.isBlank_of_mem_ofReal member

/-- The text of a cell is its own trimmed form. -/
theorem trim_text
    (cell : Cell) :
    Text.trim cell.text = cell.text :=
  Text.trim_eq_self_of_forall fun _ => isBlank_of_mem_text

/-- No line that holds the text of a real is an integer. -/
theorem integerOfLine?_text_real
    (value : Binary64) :
    integerOfLine? (text (.real value)) = none := by
  rw [integerOfLine?, trim_text]
  exact Decimal.integer?_ofReal value

/-- Every cell reads back from a line that holds its text. -/
theorem ofLine?_text
    (cell : Cell) :
    ofLine? cell.text = some cell := by
  cases cell with
  | int value =>
      rw [ofLine?, integerOfLine?_text_int]
  | real value =>
      have readBack : Decimal.real? (text (.real value)) = some value :=
        Decimal.real?_ofReal value
      rw [ofLine?, integerOfLine?_text_real, trim_text, readBack]
      rfl

/-- The text of a cell is a line. -/
theorem isPlainLine_text
    (cell : Cell) :
    Text.IsPlainLine cell.text where
  noFeed member :=
    absurd (isBlank_of_mem_text member) (by decide)
  noReturn member :=
    absurd (isBlank_of_mem_text member) (by decide)
  nonempty empty := by
    have readBack := cell.ofLine?_text
    rw [empty] at readBack
    cases readBack

end Cell

namespace Channel

/-- Cells that are output one on a line come back as these cells. -/
theorem returned_text
    (cells : List Cell) :
    returned (.text (List.intercalate ['\n'] (cells.map Cell.text))) = cells := by
  have plain : ∀ line ∈ cells.map Cell.text, line.IsPlainLine := by
    intro line member
    obtain ⟨cell, -, rfl⟩ := List.mem_map.1 member
    exact cell.isPlainLine_text
  have read (cell : Cell) : Cell.ofReturnedLine cell.text = [cell] := by
    rw [Cell.ofReturnedLine, Cell.ofLine?_text]
  rw [returned, Text.lines_intercalate_feed plain, List.flatMap_map]
  simp only [read, List.flatMap_singleton']

end Channel

namespace Work

/-- Cells that are output as lines of one text end up on the caller's stack. -/
theorem emit_text_apply_of_caller
    (cells : List Cell)
    {bench : Bench}
    {stack : Stack}
    (lent : bench.channel = .caller stack) :
    emit (.text (List.intercalate ['\n'] (cells.map Cell.text))) bench =
      .ok () { bench with channel := .caller (stack.append cells) } := by
  rw [emit_apply, lent, Channel.emit, Channel.returned_text]

/-- A stack that is not empty is output to the caller as it is. -/
theorem writeNumbers_apply_of_caller
    {bench : Bench}
    {stack : Stack}
    (lent : bench.channel = .caller stack)
    (nonempty : bench.stack.toList ≠ []) :
    writeNumbers bench =
      .ok ()
        { bench with
          stack := .empty
          channel := .caller (stack.append bench.stack.toList) } := by
  have stillLent : ({ bench with stack := .empty } : Bench).channel = .caller stack :=
    lent
  have emitted := emit_text_apply_of_caller bench.stack.toList stillLent
  simp [writeNumbers, readIfEmpty, nonempty, emitted]

end Work

namespace Invocation

/-- At the end of a function body the stack is output to the caller as it is. -/
theorem outputStack_apply_of_caller
    {bench : Bench}
    {stack : Stack}
    (lent : bench.channel = .caller stack) :
    outputStack true bench =
      .ok ()
        { bench with
          channel := .caller (stack.append bench.stack.toList)
          journal := bench.journal.note .implicitOutput } := by
  exact Work.forM_emit_number_apply bench.stack.toList
    { bench with journal := bench.journal.note .implicitOutput } lent

/-- A step leaves the caller with this stack. -/
def HandsBack
    (limit budget : Nat)
    (callee : Invocation)
    (stack : Stack) : Prop :=
  ∃ after,
    callee.step limit budget = .done after ∧
      after.channel = .caller stack ∧
      ∀ caller : Invocation, (caller.leave after).stack = stack

section

variable {callee : Invocation}
variable {stack : Stack}

theorem handsBack_of_done
    {limit budget : Nat}
    {after : Invocation}
    (stepped : callee.step limit budget = .done after)
    (lent : after.channel = .caller stack) :
    callee.HandsBack limit budget stack := by
  refine ⟨after, stepped, lent, fun caller => ?_⟩
  rw [leave, lent]
  exact Tape.current_withCurrent _ _

/-- The instruction that outputs the whole stack hands it back as one text. -/
theorem handsBack_of_writeNumbers
    (lent : callee.channel = .caller stack)
    (running : callee.halt = none)
    (dispatched : callee.dispatched? = some (.task .writeNumber))
    (whole : callee.previous? = some '&')
    (nonempty : callee.stack.toList ≠ [])
    (limit budget : Nat) :
    callee.HandsBack limit budget (stack.append callee.stack.toList) := by
  obtain ⟨instruction, present, -⟩ := dispatched?_eq_some_iff.1 dispatched
  have output :
      (callee.announcing instruction).doing (Task.perform true .writeNumber) =
        .done
          ((callee.announcing instruction).withBench
            { (callee.announcing instruction).bench with
              stack := .empty
              channel := .caller (stack.append callee.stack.toList) }) :=
    working_of_ok (Work.writeNumbers_apply_of_caller lent nonempty)
  have stepped :=
    stepWith_of_performed limit (run limit budget) running present dispatched
  have isWhole : (callee.previous? == some '&') = true := by
    rw [whole]
    rfl
  rw [isWhole, perform, output] at stepped
  refine handsBack_of_done stepped ?_
  rw [advance_of_running (by exact running)]
  rfl

/-- The end of a body hands the stack back number by number. -/
theorem handsBack_of_ended
    (lent : callee.channel = .caller stack)
    (running : callee.halt = none)
    (ended : callee.instruction? = none)
    (isFunction : callee.isFunction = true)
    (limit budget : Nat) :
    callee.HandsBack limit budget (stack.append callee.stack.toList) := by
  have output :
      callee.doing (outputStack callee.isFunction) =
        .done
          (callee.withBench
            { callee.bench with
              channel := .caller (stack.append callee.stack.toList)
              journal := callee.journal.note .implicitOutput }) := by
    rw [isFunction]
    exact working_of_ok (outputStack_apply_of_caller lent)
  have stepped := stepWith_of_ended limit (run limit budget) running ended
  rw [output] at stepped
  exact handsBack_of_done stepped rfl

/--
Output to a caller as one text, a cell on a line, and output cell by cell put the same
cells on the caller's stack, in their order.  So the instruction that outputs the whole
stack, when there is any, and the end of a body leave the caller with the same: its stack
with the callee's on top.
-/
theorem handsBack_alike
    (lent : callee.channel = .caller stack)
    (running : callee.halt = none)
    (limit budget : Nat) :
    (∀ cells : List Cell,
        Work.emit (.text (List.intercalate ['\n'] (cells.map Cell.text)))
            callee.bench =
          .ok () { callee.bench with channel := .caller (stack.append cells) } ∧
        (cells.forM fun cell => Work.emit (.number cell)) callee.bench =
          .ok () { callee.bench with channel := .caller (stack.append cells) }) ∧
      (callee.dispatched? = some (.task .writeNumber) →
        callee.previous? = some '&' →
        callee.stack.toList ≠ [] →
        callee.HandsBack limit budget (stack.append callee.stack.toList)) ∧
      (callee.instruction? = none →
        callee.isFunction = true →
        callee.HandsBack limit budget (stack.append callee.stack.toList)) := by
  refine ⟨fun cells => ⟨?_, ?_⟩, ?_, ?_⟩
  · exact Work.emit_text_apply_of_caller cells lent
  · exact Work.forM_emit_number_apply cells callee.bench lent
  · intro dispatched whole nonempty
    exact handsBack_of_writeNumbers lent running dispatched whole nonempty limit
      budget
  · intro ended isFunction
    exact handsBack_of_ended lent running ended isFunction limit budget

end

/-- Integers and reals of all kinds on top of a seven. -/
theorem handsBack_alike_on_mixed_stack :
    let caller :=
      (start [] (.console .exhausted (.emissions [])) (.blank .error)
        default).withStack (.ofList [.int 7])
    let cells :=
      [.int (-12), .real (.finite false 0x1999999999999A (-56) (by decide)),
        .real .nan, .real (.zero true), .int 0x20000000000001]
    let callee := (caller.enter ['&', 'u']).withStack (.ofList cells)
    cells.map Cell.text =
        ["-12".toList, "0.1".toList, "NaN".toList, "-0.0".toList,
          "9007199254740993".toList] ∧
      (callee.withCursor 1).HandsBack 0 0 (.ofList (.int 7 :: cells)) ∧
      (callee.withCursor 2).HandsBack 0 0 (.ofList (.int 7 :: cells)) := by
  intro caller cells callee
  have lent (cursor : Nat) :
      (callee.withCursor cursor).channel = .caller caller.stack :=
    rfl
  have atInstruction := handsBack_alike (lent 1) rfl 0 0
  have atEnd := handsBack_alike (lent 2) rfl 0 0
  refine ⟨by decide +kernel, ?_, ?_⟩
  · exact atInstruction.2.1 (by decide) rfl nofun
  · exact atEnd.2.2 rfl rfl

end Invocation

end StackTape
