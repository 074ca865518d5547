import StackTape.Proofs.Bodies
import StackTape.Proofs.Bounds
import StackTape.Proofs.FailedSteps
import StackTape.Proofs.Literals
import StackTape.Proofs.Termination

namespace StackTape

/-!
# Apostrophes in place

Preparation conceals the bracket behind an apostrophe, unless the apostrophe is itself
the character of a literal.  An invocation does not tell the two apart; it takes every
apostrophe at the cursor for the start of a literal.  That is right all the same: the
cursor comes to an apostrophe that is a literal's character only if some function is
called by that name, or where a definition has been refused.
-/

namespace Source

/-- A character is expected behind an apostrophe of the program proper alone. -/
theorem eq_of_advance_eq_character
    {mode : Mode}
    {c : Char}
    (expected : mode.advance c = .character) :
    mode = .plain ∧ c = '\'' := by
  cases mode with
  | plain =>
      refine ⟨rfl, ?_⟩
      simp only [Mode.advance] at expected
      split at expected
      · cases expected
      · split at expected
        · cases expected
        · split at expected
          · assumption
          · cases expected
  | comment | string =>
      simp only [Mode.advance] at expected
      split at expected <;> cases expected
  | character =>
      cases expected

/-- Behind an apostrophe the program proper goes on only if it was a character. -/
theorem eq_of_advance_apostrophe
    {mode : Mode}
    (plain : mode.advance '\'' = .plain) :
    mode = .character := by
  cases mode with
  | plain | comment | string =>
      simp [Mode.advance] at plain
  | character =>
      rfl

/-- The mode behind one more character of a text. -/
theorem modeAfter_take_succ
    {mode : Mode}
    {text : Text}
    {count : Nat}
    {c : Char}
    (present : text[count]? = some c) :
    modeAfter mode (text.take (count + 1)) =
      (modeAfter mode (text.take count)).advance c := by
  rw [List.take_add_one, present, modeAfter_append]
  rfl

/-- A character is expected right behind an apostrophe. -/
theorem getElem?_of_character
    {text : Text}
    {count : Nat}
    {c : Char}
    (present : text[count]? = some c)
    (expected : modeAfter .plain (text.take (count + 1)) = .character) :
    modeAfter .plain (text.take count) = .plain ∧ c = '\'' := by
  rw [modeAfter_take_succ present] at expected
  exact eq_of_advance_eq_character expected

end Source

namespace Invocation

/--
If preparation has read the apostrophe at the cursor as the character of a literal, a
function has that name, or a definition was refused right here.
-/
def Aligned (invocation : Invocation) : Prop :=
  invocation.halt = none →
  invocation.instruction? = some '\'' →
  Source.modeAfter .plain (invocation.code.take invocation.cursor) = .character →
  (invocation.functions.find? '\'').isSome = true ∨ invocation.next? = some '\x7d'

namespace Aligned

variable {before after : Invocation}

/-- Where no step will be made there is nothing to show. -/
theorem of_halted
    (stopped : after.halt.isSome = true) :
    after.Aligned := by
  intro running
  simp [running] at stopped

/-- Nor at any other character. -/
theorem of_instruction?_ne
    (other : after.instruction? ≠ some '\'') :
    after.Aligned :=
  fun _ present _ => absurd present other

/-- Behind any other character no literal has begun. -/
theorem of_behind
    {position : Nat}
    {c : Char}
    (place : after.cursor = position + 1)
    (present : after.code[position]? = some c)
    (other : c ≠ '\'') :
    after.Aligned := by
  intro _ _ expected
  rw [place] at expected
  exact absurd (Source.getElem?_of_character present expected).2 other

/-- What stays where it was stays aligned. -/
theorem of_same_place
    (aligned : before.Aligned)
    (halt : after.halt = before.halt)
    (code : after.code = before.code)
    (cursor : after.cursor = before.cursor)
    (functions : after.functions = before.functions) :
    after.Aligned := by
  intro running present expected
  rw [halt] at running
  rw [instruction?, code, cursor] at present
  rw [code, cursor] at expected
  rw [functions, next?, code, cursor]
  exact aligned running present expected

end Aligned

/-! ## Where an instruction leaves the cursor -/

/-- Where the cursor is when an opcode has been performed, before the step moves on. -/
inductive Stops
    (opcode : Opcode)
    (before worked : Invocation) : Prop where
  /-- It is where it was; a character literal has been at the end of the text then. -/
  | stays
      (cursor : worked.cursor = before.cursor)
      (notCharacter : opcode = .character → before.next? = none)
  /-- It is at the character of a literal. -/
  | character
      (isCharacter : opcode = .character)
      (cursor : worked.cursor = before.cursor + 1)
  /-- It is at a bracket or a quote. -/
  | onto
      {c : Char}
      (present : before.code[worked.cursor]? = some c)
      (other : c ≠ '\'')
  /-- It is before a closing bracket. -/
  | upTo
      {c : Char}
      (following : before.code[worked.cursor + 1]? = some c)
      (other : c ≠ '\'')

/-- Any other instruction than a character literal may leave the cursor where it was. -/
theorem Stops.still
    {opcode : Opcode}
    {before worked : Invocation}
    (other : opcode ≠ .character)
    (cursor : worked.cursor = before.cursor) :
    Stops opcode before worked :=
  .stays cursor fun same => absurd same other

/-- Right before the partner of a bracket. -/
theorem getElem?_pred_partner?
    {invocation : Invocation}
    {opening closing : Char}
    {close : Nat}
    (found : invocation.partner? opening closing = some close) :
    invocation.code[close - 1 + 1]? = some closing := by
  have bounds := partner?_bounds found
  rw [Nat.sub_add_cancel (by omega)]
  exact Source.getElem?_of_partnerAfter? found

/-- Leaving loops leads to a closing bracket or nowhere. -/
theorem cursorOutside_cases
    (code : Text)
    (count cursor : Nat) :
    cursorOutside code count cursor = cursor ∨
      code[cursorOutside code count cursor]? = some ']' := by
  induction count generalizing cursor with
  | zero =>
      exact .inl rfl
  | succ count inductionHypothesis =>
      simp only [cursorOutside]
      split
      · rename_i close found
        right
        rcases inductionHypothesis close with same | further
        · rw [same]
          exact Source.getElem?_of_partnerAfter? found
        · exact further
      · exact .inl rfl

/-- Every opcode leaves the cursor in one of these places. -/
theorem stops_of_perform
    {whole : Bool}
    {opcode : Opcode}
    {before worked : Invocation}
    (inside : before.cursor ≤ before.code.length)
    (done : before.perform whole opcode = .done worked) :
    Stops opcode before worked := by
  cases opcode with
  | task task =>
      obtain ⟨bench, rfl⟩ := state?_doing (congrArg Outcome.state? done)
      exact .still (by simp) rfl
  | number =>
      cases done
      unfold pushNumber
      cases found : before.partner? '(' ')' with
      | some close =>
          exact .upTo (getElem?_pred_partner? found) (by decide)
      | none =>
          refine .still (by simp) ?_
          simp only [pushSpelled]
          split <;> rfl
  | string =>
      cases done
      unfold pushString
      cases closed : (Source.readString false before.behindCursor).2 with
      | some offset =>
          have present := Source.getElem?_of_readString closed
          rw [behindCursor, List.getElem?_drop] at present
          simp only [closed]
          exact .onto present (by decide)
      | none =>
          exact .still (by simp) (by simp [closed]; rfl)
  | character =>
      cases done
      unfold pushCharacter
      cases following : before.next? with
      | some c =>
          exact .character rfl rfl
      | none =>
          exact .stays rfl fun _ => following
  | loopStart =>
      cases done
      unfold enterLoop
      split
      · exact .still (by simp) rfl
      · cases found : before.partner? '[' ']' with
        | some close =>
            exact .upTo (getElem?_pred_partner? found) (by decide)
        | none =>
            exact .still (by simp) rfl
  | loopEnd =>
      cases done
      unfold repeatLoop
      split
      · cases found : Source.partnerBefore? '[' ']' before.code before.cursor with
        | some position =>
            exact .onto (Source.getElem?_of_partnerBefore? inside found) (by decide)
        | none =>
            exact .still (by simp) rfl
      · exact .still (by simp) rfl
  | leaveLoops =>
      have left : before.leaveLoops.state? = some worked :=
        congrArg Outcome.state? done
      obtain ⟨bench, rfl | ⟨count, moved⟩⟩ := state?_working left
      · exact .still (by simp) rfl
      · cases moved
        rcases cursorOutside_cases before.code count.toNat before.cursor with
          stays | onto
        · exact .still (by simp) stays
        · exact .onto onto (by decide)
  | define =>
      simp only [perform, define] at done
      split at done
      · cases done
        exact .still (by simp) rfl
      · rename_i close found
        have place := getElem?_pred_partner? found
        split at done
        · cases done
        · split at done <;> cases done <;> exact .upTo place (by decide)
  | load =>
      simp only [perform, load] at done
      split at done <;> cases done <;> exact .still (by simp) rfl
  | store =>
      simp only [perform] at done
      split at done
      · have left : before.storeAll.state? = some worked :=
          congrArg Outcome.state? done
        obtain ⟨bench, rfl | ⟨cells, stored⟩⟩ := state?_working left
        · exact .still (by simp) rfl
        · cases stored
          exact .still (by simp) rfl
      · cases done
        unfold storeTop
        split <;> exact .still (by simp) rfl
  | moveLeft | moveRight | terminate =>
      cases done
      exact .still (by simp) rfl

/-! ## The invariant -/

section

variable {before worked : Invocation}
variable {instruction : Char}
variable {opcode : Opcode}

/-- A character literal that starts aligned ends aligned. -/
theorem Aligned.of_literal
    (aligned : before.Aligned)
    (running : before.halt = none)
    (present : before.instruction? = some '\'')
    (unbound : before.functions.find? '\'' = none)
    (code : worked.code = before.code)
    (cursor : worked.cursor = before.cursor + 2) :
    worked.Aligned := by
  intro _ here expected
  rw [instruction?, code, cursor] at here
  rw [code, cursor] at expected
  have inside := (List.getElem?_eq_some_iff.1 here).1
  have following := List.getElem?_eq_getElem (Nat.lt_of_succ_lt inside)
  obtain ⟨plain, isApostrophe⟩ := Source.getElem?_of_character following expected
  rw [Source.modeAfter_take_succ present] at plain
  -- so the apostrophe here was a character, and yet one follows it
  rcases aligned running present (Source.eq_of_advance_apostrophe plain) with
    bound | brace
  · simp [unbound] at bound
  · rw [next?, following, isApostrophe] at brace
    cases brace

/-- An opcode that has been performed leads on to an aligned place. -/
theorem Aligned.of_performed
    (aligned : before.Aligned)
    (running : before.halt = none)
    (present : before.instruction? = some instruction)
    (dispatched : before.dispatched? = some opcode)
    (stops : Stops opcode (before.announcing instruction) worked)
    (code : worked.code = before.code) :
    worked.advance.Aligned := by
  cases stopped : worked.halt with
  | some halt =>
      exact .of_halted (by simp [advance, stopped])
  | none =>
      rw [advance_of_running stopped]
      obtain ⟨_, same, unbound, -, known⟩ := dispatched?_eq_some_iff.1 dispatched
      rw [present] at same
      cases same
      cases stops with
      | stays cursor notCharacter =>
          by_cases isApostrophe : instruction = '\''
          · subst isApostrophe
            cases known
            have place : worked.cursor = before.cursor := cursor
            have ended : before.code[before.cursor + 1]? = none := notCharacter rfl
            refine .of_instruction?_ne ?_
            change worked.code[worked.cursor + 1]? ≠ some '\''
            simp [code, place, ended]
          · have place : worked.cursor + 1 = before.cursor + 1 := congrArg (· + 1) cursor
            have behind : worked.code[before.cursor]? = some instruction := by
              rw [code]
              exact present
            exact .of_behind place behind isApostrophe
      | character isCharacter cursor =>
          subst isCharacter
          have atApostrophe := Opcode.eq_of_sign? known rfl
          subst atApostrophe
          exact aligned.of_literal running present unbound code
            (congrArg (· + 1) cursor)
      | onto place other =>
          exact .of_behind rfl ((congrArg (·[worked.cursor]?) code).trans place) other
      | @upTo c following other =>
          have next : before.code[worked.cursor + 1]? = some c := following
          refine .of_instruction?_ne ?_
          change worked.code[worked.cursor + 1]? ≠ some '\''
          rw [code, next]
          simpa using other

end

/-- A step leads from an aligned place to an aligned place, also a failed one. -/
theorem Aligned.step
    {limit budget : Nat}
    {before after : Invocation}
    (aligned : before.Aligned)
    (inside : before.cursor ≤ before.code.length)
    (left : (before.step limit budget).state? = some after) :
    after.Aligned := by
  have frame := frame_stepWith left
  cases outcome : before.step limit budget with
  | unfinished =>
      rw [outcome] at left
      cases left
  | failed failure state =>
      rw [outcome] at left
      cases left
      cases failed_step_cases outcome with
      | output | tooDeep | passed =>
          exact aligned.of_same_place rfl rfl rfl rfl
      | @performed instruction opcode fault after present dispatched worked =>
          rcases failed_perform_cases worked with
            ⟨-, failed⟩ | ⟨-, refused⟩
          · obtain ⟨bench, rfl⟩ := failed.bench
            exact aligned.of_same_place rfl rfl rfl rfl
          · obtain ⟨close, found, -, place⟩ := refused.cursor
            -- the brace that ends the refused body follows
            intro _ _ _
            right
            rw [next?, frame.code, place]
            exact getElem?_pred_partner? found
  | done state =>
      rw [outcome] at left
      cases left
      rw [Invocation.step] at outcome
      cases stepKind before with
      | halted stopped =>
          rw [stepWith_of_halted _ _ stopped] at outcome
          cases outcome
          exact aligned
      | ended running ended =>
          rw [stepWith_of_ended _ _ running ended] at outcome
          obtain ⟨worked, -, rfl⟩ := Outcome.eq_done_of_passOn outcome
          exact .of_halted rfl
      | @called name body running calls =>
          rw [stepWith_of_calls _ _ running calls] at outcome
          obtain ⟨worked, returned, rfl⟩ := Outcome.eq_done_of_passOn outcome
          obtain ⟨callee, rfl⟩ := eq_leave_of_call returned
          rw [advance_of_running (by exact running)]
          by_cases isApostrophe : name = '\''
          · subst isApostrophe
            intro _ _ _
            left
            exact Option.isSome_of_eq_some calls.bound
          · exact .of_behind rfl calls.present isApostrophe
      | @idle instruction running present unbound nothing =>
          rw [stepWith_of_idle _ _ running present unbound nothing] at outcome
          cases outcome
          rw [advance_of_running (by exact running)]
          by_cases isApostrophe : instruction = '\''
          · subst isApostrophe
            have named : before.next? = some '\x7b' := by
              simpa [dispatched?, present, unbound, Opcode.ofChar?] using nothing
            refine .of_instruction?_ne ?_
            change before.next? ≠ some '\''
            simp [named]
          · exact .of_behind rfl present isApostrophe
      | @performed instruction opcode running present dispatched =>
          rw [stepWith_of_performed _ _ running present dispatched] at outcome
          obtain ⟨worked, done, rfl⟩ := Outcome.eq_done_of_passOn outcome
          have kept := frame_perform (congrArg Outcome.state? done)
          exact aligned.of_performed running present dispatched
            (stops_of_perform inside done) kept.code

/-- Every state that a program comes across is aligned, whatever its text is. -/
theorem reached_aligned
    {limit : Nat}
    {code : Text}
    {channel : Channel}
    {journal : Journal}
    {draws : Draws}
    {invocation : Invocation}
    (reached : Reaches limit (.start code channel journal draws) invocation) :
    invocation.Aligned := by
  induction reached with
  | origin =>
      intro _ _ expected
      cases expected
  | step budget reached left inductionHypothesis =>
      exact inductionHypothesis.step (reached_inBounds reached).1.cursor_le left
  | call =>
      intro _ _ expected
      cases expected

/-- The text around a literal at the cursor. -/
theorem exists_around_literal
    {invocation : Invocation}
    {instruction c : Char}
    (present : invocation.instruction? = some instruction)
    (following : invocation.next? = some c) :
    ∃ rest,
      invocation.code =
        invocation.code.take invocation.cursor ++ instruction :: c :: rest := by
  obtain ⟨front, shape, place⟩ := exists_around_cursor present
  rw [next?_eq_head?, List.head?_eq_some_iff] at following
  obtain ⟨rest, behind⟩ := following
  rw [behind] at shape
  have upTo : invocation.code.take invocation.cursor = front := by
    rw [shape]
    exact List.take_left' place
  exact ⟨rest, by rw [upTo, ← shape]⟩

/--
Wherever a loaded program comes to an apostrophe that names no function, the character
behind it is no structural bracket, unless a definition was refused right there.
-/
theorem reached_content_not_bracket
    {source : Text}
    {program : Program}
    (loaded : Program.load? source = some program)
    {limit : Nat}
    {channel : Channel}
    {journal : Journal}
    {draws : Draws}
    {invocation : Invocation}
    (reached : Reaches limit (.start program.code channel journal draws) invocation)
    (running : invocation.halt = none)
    (present : invocation.instruction? = some '\'')
    (unbound : invocation.functions.find? '\'' = none)
    {c : Char}
    (following : invocation.next? = some c) :
    Source.isBracket c = false ∨ c = '\x7d' := by
  have codeLoaded := Source.isLoaded_of_load? loaded
  have prepared :=
    ((Validated.of_reaches codeLoaded reached).isLoaded codeLoaded).prepared
  obtain ⟨rest, shape⟩ := exists_around_literal present following
  cases bracket : Source.isBracket c with
  | false =>
      exact .inl rfl
  | true =>
      have cut :
          invocation.code =
            (invocation.code.take invocation.cursor ++ ['\'']) ++ c :: rest := by
        simpa using shape
      rw [Source.IsPrepared, cut] at prepared
      -- preparation keeps a bracket in the plain mode alone
      have plain :=
        Source.eq_plain_of_kept_bracket bracket (Source.prepareFrom_pieces _ prepared).2
      rw [Source.modeAfter_append] at plain
      rcases reached_aligned reached running present
          (Source.eq_of_advance_apostrophe plain) with bound | brace
      · simp [unbound] at bound
      · rw [following] at brace
        exact .inr (Option.some.inj brace)

end Invocation

end StackTape
