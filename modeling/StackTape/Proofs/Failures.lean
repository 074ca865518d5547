import StackTape.Proofs.Bounds
import StackTape.Proofs.Frame

namespace StackTape

/-!
# Where failures come from

A failure has a place at every level of calls that it passed through.  The places are
related to texts that only exist while the program runs, so each level is tied to the
state in which the invocation of that level failed.  From it follows that the places
point into the right texts, and how deep calls can nest.
-/

namespace Fault

/-- An own fault has nothing to do with the output. -/
theorem category_ne_output_of_isOwn
    {fault : Fault}
    (own : fault.isOwn = true) :
    fault.category ≠ .output := by
  cases fault with
  | outputRefused | stated =>
      cases own
  | _ =>
      nofun

/-- What work raises neither came out of a call nor exceeded the limit of calls. -/
theorem IsRaisedAmid.ne
    {fault : Fault}
    {exchanges : List Exchange}
    (raised : fault.IsRaisedAmid exchanges) :
    (∀ name inner, fault ≠ Failure.raisedBy name inner) ∧
      ∀ bound, fault ≠ .recursionLimit bound := by
  rcases raised with own | ⟨rfl, -⟩
  · constructor
    · rintro name inner rfl
      cases own
    · rintro bound rfl
      cases own
  · exact ⟨nofun, nofun⟩

/-- On a caller's stack work raises own faults alone. -/
theorem IsRaisedAmid.isOwn_of_caller
    {fault : Fault}
    {exchanges : List Exchange}
    {stack : Stack}
    {final : Channel}
    (raised : fault.IsRaisedAmid exchanges)
    (answers : Channel.Answers (.caller stack) exchanges final) :
    fault.isOwn = true := by
  rcases raised with own | ⟨-, emission, member⟩
  · exact own
  · exact absurd member (answers.of_caller.2 emission)

end Fault

namespace Failure

/-- The place of the failure in a text: at a character, or right behind the last one. -/
structure IsAt
    (failure : Failure)
    (text : Text) : Prop where
  instruction : failure.instruction = text[failure.index]?
  ended : failure.instruction = none ↔ failure.index = text.length

theorem isAt_of_le
    {text : Text}
    {index : Nat}
    {instruction : Option Char}
    (fault : Fault)
    (inside : index ≤ text.length)
    (present : text[index]? = instruction) :
    IsAt ⟨index, instruction, fault⟩ text where
  instruction := present.symm
  ended := by
    rw [← present, List.getElem?_eq_none_iff]
    exact ⟨fun behind => Nat.le_antisymm inside behind, fun atEnd => Nat.le_of_eq atEnd.symm⟩

theorem trail_of_innermost
    (index : Nat)
    (instruction : Option Char)
    {fault : Fault}
    (innermost : ∀ name inner, fault ≠ raisedBy name inner) :
    trail index instruction fault = ([], ⟨index, instruction, fault⟩) := by
  cases fault with
  | inFunction name innerIndex innerInstruction cause =>
      exact absurd rfl (innermost name ⟨innerIndex, innerInstruction, cause⟩)
  | _ =>
      rfl

theorem calls_of_innermost
    {failure : Failure}
    (innermost : ∀ name inner, failure.fault ≠ raisedBy name inner) :
    failure.calls = [] := by
  rw [calls, trail_of_innermost _ _ innermost]

theorem origin_of_innermost
    {failure : Failure}
    (innermost : ∀ name inner, failure.fault ≠ raisedBy name inner) :
    failure.origin = failure := by
  rw [origin, trail_of_innermost _ _ innermost]

/-- What was raised first did not come out of a call. -/
theorem origin_innermost
    (failure : Failure)
    (name : Char)
    (inner : Failure) :
    failure.origin.fault ≠ raisedBy name inner := by
  obtain ⟨index, instruction, fault⟩ := failure
  induction fault generalizing index instruction with
  | inFunction passed innerIndex innerInstruction cause inductionHypothesis =>
      exact inductionHypothesis innerIndex innerInstruction
  | _ =>
      nofun

end Failure

namespace Invocation

/-! ## Steps that succeed -/

/-- Steps that all succeeded lead from the one state of an invocation to the other. -/
inductive Proceeds
    (limit : Nat)
    (origin : Invocation) : Invocation → Prop where
  | origin :
      Proceeds limit origin origin
  | step
      {before after : Invocation}
      (budget : Nat)
      (proceeded : Proceeds limit origin before)
      (stepped : before.step limit budget = .done after) :
      Proceeds limit origin after

namespace Proceeds

theorem trans
    {limit : Nat}
    {origin middle final : Invocation}
    (first : Proceeds limit origin middle)
    (later : Proceeds limit middle final) :
    Proceeds limit origin final := by
  induction later with
  | origin =>
      exact first
  | step budget _ stepped inductionHypothesis =>
      exact inductionHypothesis.step budget stepped

/-- The text and the depth stay, and so does the cursor inside the text. -/
theorem frame
    {limit : Nat}
    {origin final : Invocation}
    (proceeds : Proceeds limit origin final) :
    final.code = origin.code ∧
      final.depth = origin.depth ∧
      (origin.cursor ≤ origin.code.length →
        final.cursor ≤ final.code.length) := by
  induction proceeds with
  | origin =>
      exact ⟨rfl, rfl, id⟩
  | step budget _ stepped inductionHypothesis =>
      obtain ⟨code, depth, cursor⟩ := inductionHypothesis
      have kept : StepFrame _ _ :=
        frame_stepWith (by rw [← Invocation.step, stepped]; rfl)
      refine ⟨kept.code.trans code, kept.depth.trans depth, fun inside => ?_⟩
      rw [kept.code]
      exact kept.cursor (cursor inside)

/-- The stack of a caller stays one. -/
theorem caller
    {limit : Nat}
    {origin final : Invocation}
    {stack : Stack}
    (proceeds : Proceeds limit origin final)
    (lent : origin.channel = .caller stack) :
    ∃ rest, final.channel = .caller rest := by
  induction proceeds with
  | origin =>
      exact ⟨stack, lent⟩
  | @step before after budget _ stepped inductionHypothesis =>
      obtain ⟨rest, channel⟩ := inductionHypothesis
      obtain ⟨traffic, traffics, -⟩ := exists_traffic_of_step limit budget before
      have answers := traffics.answers_of_state? (by rw [stepped]; rfl)
      rw [channel] at answers
      exact answers.of_caller.1

end Proceeds

/-- A failed run makes steps that succeed, and then one that fails. -/
theorem exists_of_run_failed
    {limit budget : Nat}
    {invocation after : Invocation}
    {failure : Failure}
    (failed : invocation.run limit budget = .failed failure after) :
    ∃ inner smaller,
      smaller < budget ∧
        Proceeds limit invocation inner ∧
        inner.step limit smaller = .failed failure after := by
  induction budget generalizing invocation with
  | zero =>
      simp only [run] at failed
      split at failed <;> cases failed
  | succ budget inductionHypothesis =>
      simp only [run] at failed
      split at failed
      · cases failed
      · split at failed
        · rename_i next stepped
          obtain ⟨inner, smaller, less, proceeds, last⟩ :=
            inductionHypothesis failed
          have first : Proceeds limit invocation next :=
            .step budget .origin stepped
          exact ⟨inner, smaller, Nat.lt_succ_of_lt less, first.trans proceeds, last⟩
        · rename_i stepped
          cases failed
          exact ⟨invocation, budget, Nat.lt_succ_self budget, .origin, stepped⟩
        · cases failed

/-! ## Failures and their places -/

/-- The failure is the invocation's own. -/
structure Raises
    (limit : Nat)
    (invocation : Invocation)
    (failure : Failure) : Prop where
  index : failure.index = invocation.cursor
  place : failure.IsAt invocation.code
  innermost : ∀ name inner, failure.fault ≠ Failure.raisedBy name inner
  /-- The limit of calls is exceeded at the limit alone. -/
  limited :
    ∀ bound,
      failure.fault = .recursionLimit bound →
      bound = limit ∧ limit ≤ invocation.depth
  /-- Nothing that a caller's stack is given can fail. -/
  output :
    failure.instruction = none ∨ failure.fault.category = .output →
    ∀ stack, invocation.channel ≠ .caller stack

/--
The failure of a state's next step has its place in the text of every invocation that
it passed through.
-/
inductive Located (limit : Nat) : Invocation → Failure → Prop where
  /-- The invocation failed by itself. -/
  | raised
      {invocation : Invocation}
      {failure : Failure}
      (raises : Raises limit invocation failure) :
      Located limit invocation failure
  /--
  The invocation called the function whose name is at the cursor, with the body that
  it was bound to then; the function got to a state whose step failed.
  -/
  | passed
      {caller inner : Invocation}
      {name : Char}
      {body : Text}
      {failure : Failure}
      (calls : caller.Calls name body)
      (shallow : caller.depth < limit)
      (proceeds : Proceeds limit ((caller.announcing name).enter body) inner)
      (text : inner.code = body)
      (inside : Located limit inner failure) :
      Located limit caller ⟨caller.cursor, some name, failure.raisedBy name⟩

/-- Output to a caller's stack succeeds. -/
theorem outputStack_of_caller
    (isFunction : Bool)
    (bench : Bench)
    {stack : Stack}
    (lent : bench.channel = .caller stack) :
    ∃ after, outputStack isFunction bench = .ok () after := by
  cases isFunction with
  | true =>
      exact ⟨_, Work.forM_emit_number_apply bench.stack.toList
        { bench with journal := bench.journal.note .implicitOutput } lent⟩
  | false =>
      simp [outputStack, Work.emit_apply, Channel.emit, lent]

/-- The output at the end of the text fails at a console, and not by itself. -/
theorem raises_of_output
    {limit : Nat}
    {invocation : Invocation}
    {fault : Fault}
    {bench : Bench}
    (inside : invocation.cursor ≤ invocation.code.length)
    (ended : invocation.instruction? = none)
    (worked :
      outputStack invocation.isFunction invocation.bench = .error fault bench) :
    Raises limit invocation ⟨invocation.cursor, none, fault⟩ := by
  obtain ⟨traffic, traffics, -⟩ :
      Work.KeepsTo (fun _ => True) (outputStack invocation.isFunction)
        invocation.bench :=
    keepsTo_outputStack (fun _ => ⟨trivial, trivial⟩) _ _
  obtain ⟨innermost, limited⟩ := (traffics.raised worked).ne
  refine ⟨rfl, Failure.isAt_of_le _ inside ended, innermost, ?_, ?_⟩
  · intro bound same
    exact absurd same (limited bound)
  · intro _ stack lent
    obtain ⟨after, succeeded⟩ :=
      outputStack_of_caller invocation.isFunction invocation.bench lent
    rw [succeeded] at worked
    cases worked

/-- An opcode fails by itself, and over its output at a console alone. -/
theorem raises_of_perform
    {limit : Nat}
    {whole : Bool}
    {invocation after : Invocation}
    {instruction : Char}
    {opcode : Opcode}
    {fault : Fault}
    (inside : invocation.cursor ≤ invocation.code.length)
    (present : invocation.instruction? = some instruction)
    (worked :
      (invocation.announcing instruction).perform whole opcode =
        .failed fault after) :
    Raises limit invocation ⟨invocation.cursor, some instruction, fault⟩ := by
  have place := Failure.isAt_of_le fault inside present
  rcases failed_perform_cases worked with ⟨-, atWork⟩ | ⟨-, refused⟩
  · obtain ⟨exchanges, final, answers, raised⟩ := atWork.raised
    obtain ⟨innermost, limited⟩ := raised.ne
    refine ⟨rfl, place, innermost, ?_, ?_⟩
    · intro bound same
      exact absurd same (limited bound)
    · rintro (missing | refused) stack lent
      · cases missing
      · change invocation.channel.Answers exchanges final at answers
        rw [lent] at answers
        exact Fault.category_ne_output_of_isOwn
          (raised.isOwn_of_caller answers) refused
  · obtain ⟨rfl, -⟩ := refused
    refine ⟨rfl, place, nofun, nofun, ?_⟩
    rintro (missing | refused)
    · cases missing
    · cases refused

/-- A failed step has its failure at the cursor, and every failure inside it located. -/
theorem located_of_step
    {limit budget : Nat}
    {invocation after : Invocation}
    {failure : Failure}
    (inside : invocation.cursor ≤ invocation.code.length)
    (failed : invocation.step limit budget = .failed failure after) :
    Located limit invocation failure := by
  -- on the budget: a function that failed had less of it for its last step
  induction budget using Nat.strongRecOn
    generalizing invocation failure after with
  | ind budget inductionHypothesis =>
    cases failed_step_cases failed with
    | output ended worked =>
        exact .raised (raises_of_output inside ended worked)
    | tooDeep calls deep =>
        refine .raised ⟨rfl, Failure.isAt_of_le _ inside calls.present, nofun, ?_, ?_⟩
        · intro bound same
          cases same
          exact ⟨rfl, deep⟩
        · rintro (missing | refused)
          · cases missing
          · cases refused
    | passed calls shallow ran =>
        obtain ⟨inner, smaller, less, proceeds, last⟩ := exists_of_run_failed ran
        obtain ⟨text, -, insideText⟩ := proceeds.frame
        exact .passed calls shallow proceeds text
          (inductionHypothesis smaller less (insideText (Nat.zero_le _)) last)
    | performed present dispatched worked =>
        exact .raised (raises_of_perform inside present worked)

namespace Located

/-- The failure stands at its place in the text of the invocation. -/
theorem isAt
    {limit : Nat}
    {invocation : Invocation}
    {failure : Failure}
    (located : Located limit invocation failure) :
    failure.IsAt invocation.code := by
  cases located with
  | raised raises =>
      exact raises.place
  | passed calls _ _ _ _ =>
      have inside := (List.getElem?_eq_some_iff.1 calls.present).1
      exact Failure.isAt_of_le _ (Nat.le_of_lt inside) calls.present

/-- In a function a failure stands at an instruction. -/
theorem instruction_of_caller
    {limit : Nat}
    {invocation : Invocation}
    {failure : Failure}
    {stack : Stack}
    (located : Located limit invocation failure)
    (lent : invocation.channel = .caller stack) :
    failure.instruction ≠ none := by
  cases located with
  | raised raises =>
      exact fun missing => raises.output (.inl missing) stack lent
  | passed _ _ _ _ _ =>
      nofun

/-- What a function raises stands at an instruction, and no output was refused. -/
theorem origin_of_caller
    {limit : Nat}
    {invocation : Invocation}
    {failure : Failure}
    {stack : Stack}
    (located : Located limit invocation failure)
    (lent : invocation.channel = .caller stack) :
    failure.origin.instruction ≠ none ∧
      failure.origin.fault.category ≠ .output := by
  induction located generalizing stack with
  | raised raises =>
      rw [Failure.origin_of_innermost raises.innermost]
      exact ⟨fun missing => raises.output (.inl missing) stack lent,
        fun refused => raises.output (.inr refused) stack lent⟩
  | passed _ _ proceeds _ _ inductionHypothesis =>
      rw [Failure.origin_raisedBy]
      obtain ⟨rest, channel⟩ := proceeds.caller rfl
      exact inductionHypothesis channel

/-- The first call that the failure passed through, and its place in the body. -/
theorem head?_calls
    {limit : Nat}
    {invocation : Invocation}
    {failure : Failure}
    {name : Char}
    {index : Nat}
    {instruction : Option Char}
    (located : Located limit invocation failure)
    (first : failure.calls.head? = some (name, index, instruction)) :
    failure.instruction = some name ∧
      ∃ body,
        invocation.functions.find? name = some body ∧
          index < body.length ∧
          instruction = body[index]? := by
  cases located with
  | raised raises =>
      rw [Failure.calls_of_innermost raises.innermost] at first
      cases first
  | passed calls _ proceeds text inside =>
      rw [Failure.calls_raisedBy] at first
      cases first
      obtain ⟨rest, channel⟩ := proceeds.caller rfl
      have place := inside.isAt.instruction
      have present := inside.instruction_of_caller channel
      rw [text] at place
      refine ⟨rfl, _, calls.bound, ?_, place⟩
      rw [place] at present
      exact Nat.lt_of_not_le fun behind =>
        present (List.getElem?_eq_none_iff.2 behind)

/-- A failure that passed through a call was not raised by the output. -/
theorem origin_of_calls
    {limit : Nat}
    {invocation : Invocation}
    {failure : Failure}
    (located : Located limit invocation failure)
    (wrapped : failure.calls ≠ []) :
    failure.origin.instruction ≠ none ∧
      failure.origin.fault.category ≠ .output := by
  cases located with
  | raised raises =>
      exact absurd (Failure.calls_of_innermost raises.innermost) wrapped
  | passed _ _ proceeds _ inside =>
      rw [Failure.origin_raisedBy]
      obtain ⟨rest, channel⟩ := proceeds.caller rfl
      exact inside.origin_of_caller channel

/-- Calls do not nest beyond the limit, and exceed it exactly there. -/
theorem depth_add_calls
    {limit : Nat}
    {invocation : Invocation}
    {failure : Failure}
    (located : Located limit invocation failure)
    (shallow : invocation.depth ≤ limit) :
    invocation.depth + failure.calls.length ≤ limit ∧
      ∀ bound,
        failure.origin.fault = .recursionLimit bound →
        bound = limit ∧ invocation.depth + failure.calls.length = limit := by
  induction located with
  | raised raises =>
      rw [Failure.calls_of_innermost raises.innermost,
        Failure.origin_of_innermost raises.innermost]
      refine ⟨shallow, fun bound exceeded => ?_⟩
      obtain ⟨same, deep⟩ := raises.limited bound exceeded
      exact ⟨same, Nat.le_antisymm shallow deep⟩
  | @passed caller inner _ _ failure _ below proceeds _ _ inductionHypothesis =>
      have nested : inner.depth = caller.depth + 1 := proceeds.frame.2.1
      have levels :
          caller.depth + (failure.calls.length + 1) =
            inner.depth + failure.calls.length := by
        omega
      rw [Failure.calls_raisedBy, Failure.origin_raisedBy, List.length_cons,
        levels]
      exact inductionHypothesis (by omega)

end Located

/-! ## Failures of programs -/

/-- Calls that are reached nest no deeper than the limit. -/
theorem depth_le_of_reaches
    {limit : Nat}
    {origin invocation : Invocation}
    (shallow : origin.depth ≤ limit)
    (reached : Reaches limit origin invocation) :
    invocation.depth ≤ limit := by
  induction reached with
  | origin =>
      exact shallow
  | step budget _ left inductionHypothesis =>
      have kept : StepFrame _ _ := frame_stepWith left
      rw [kept.depth]
      exact inductionHypothesis
  | call _ _ _ _ below _ =>
      exact below

/-- Outside of functions the text is always the program's. -/
theorem code_of_reaches
    {limit : Nat}
    {code : Text}
    {channel : Channel}
    {journal : Journal}
    {draws : Draws}
    {invocation : Invocation}
    (reached : Reaches limit (.start code channel journal draws) invocation)
    (outermost : invocation.depth = 0) :
    invocation.code = code := by
  induction reached with
  | origin =>
      rfl
  | step budget _ left inductionHypothesis =>
      have kept : StepFrame _ _ := frame_stepWith left
      rw [kept.code]
      exact inductionHypothesis (kept.depth ▸ outermost)
  | call _ _ _ _ _ _ =>
      cases outermost

/--
Whatever the text, the input, the output and the draws are: when a step of the program
fails, the failure is located in the program, and so is every failure inside it in the
body that was called there.  The innermost one is no call's.  If there was a call, then
no output was refused and no level stands at the end of its text, and the place that a
report shows for the first function is an instruction of its body.
-/
theorem reached_failure_located
    {limit budget : Nat}
    {code : Text}
    {channel : Channel}
    {journal : Journal}
    {draws : Draws}
    {invocation after : Invocation}
    {failure : Failure}
    (reached : Reaches limit (.start code channel journal draws) invocation)
    (outermost : invocation.depth = 0)
    (failed : invocation.step limit budget = .failed failure after) :
    failure.IsAt code ∧
      invocation.code = code ∧
      Located limit invocation failure ∧
      (∀ name inner, failure.origin.fault ≠ Failure.raisedBy name inner) ∧
      (failure.calls ≠ [] →
        failure.origin.instruction ≠ none ∧
          failure.origin.fault.category ≠ .output) ∧
      ∀ name index instruction,
        failure.calls.head? = some (name, index, instruction) →
        failure.instruction = some name ∧
          ∃ body,
            invocation.functions.find? name = some body ∧
              index < body.length ∧
              instruction = body[index]? := by
  have located :=
    located_of_step (reached_inBounds reached).1.cursor_le failed
  have same := code_of_reaches reached outermost
  refine ⟨same ▸ located.isAt, same, located, failure.origin_innermost,
    located.origin_of_calls, ?_⟩
  intro name index instruction first
  exact located.head?_calls first

/-- A function that a function has defined and called pops an empty stack. -/
theorem reached_failure_located_in_nested_function :
    let code := "a\x7bb\x7bp\x7db\x7da".toList
    ∃ invocation after failure,
      Reaches 200
          (start code (.console .exhausted (.emissions [])) (.blank .error)
            default)
          invocation ∧
        invocation.depth = 0 ∧
        invocation.step 200 9 = .failed failure after ∧
        failure.calls = [('a', 4, some 'b'), ('b', 0, some 'p')] ∧
        failure.IsAt code ∧
        Located 200 invocation failure ∧
        failure.origin.instruction ≠ none := by
  intro code
  have begun :
      Reaches 200
        (start code (.console .exhausted (.emissions [])) (.blank .error)
          default)
        (start code (.console .exhausted (.emissions [])) (.blank .error)
          default) :=
    .origin
  have atCall := ((begun.step 0 rfl).step 0 rfl).step 0 rfl
  obtain ⟨place, -, located, -, wrapped, -⟩ :=
    reached_failure_located atCall rfl (rfl : step 200 9 _ = .failed _ _)
  exact ⟨_, _, _, atCall, rfl, rfl, rfl, place, located, (wrapped nofun).1⟩

/--
The limit of calls is exact.  No invocation that a program comes across is deeper; a
failure of a step or of a whole run has passed through no more calls than the limit
leaves; a call too many is reported with the limit, from exactly that depth; and it
changes nothing but the journal.
-/
theorem reached_depth_exact
    {limit : Nat}
    {code : Text}
    {channel : Channel}
    {journal : Journal}
    {draws : Draws}
    {invocation : Invocation}
    (reached : Reaches limit (.start code channel journal draws) invocation) :
    invocation.depth ≤ limit ∧
      (∀ budget failure after,
        invocation.step limit budget = .failed failure after ∨
            invocation.run limit budget = .failed failure after →
          invocation.depth + failure.calls.length ≤ limit ∧
            ∀ bound,
              failure.origin.fault = .recursionLimit bound →
              bound = limit ∧
                invocation.depth + failure.calls.length = limit) ∧
      ∀ budget name body,
        invocation.halt = none →
        invocation.Calls name body →
        invocation.depth = limit →
        ∃ after,
          invocation.step limit budget =
              .failed ⟨invocation.cursor, some name, .recursionLimit limit⟩
                after ∧
            after.tape = invocation.tape ∧
            after.functions = invocation.functions ∧
            after.backup = invocation.backup ∧
            after.cursor = invocation.cursor := by
  have shallow := depth_le_of_reaches (Nat.zero_le limit) reached
  have inside := (reached_inBounds reached).1.cursor_le
  refine ⟨shallow, ?_, ?_⟩
  · rintro budget failure after (failed | failed)
    · exact (located_of_step inside failed).depth_add_calls shallow
    · obtain ⟨inner, smaller, -, proceeds, last⟩ := exists_of_run_failed failed
      obtain ⟨-, depth, cursor⟩ := proceeds.frame
      rw [← depth] at shallow ⊢
      exact (located_of_step (cursor inside) last).depth_add_calls shallow
  · intro budget name body running calls deep
    have bound : (invocation.announcing name).functions.find? name = some body :=
      calls.bound
    have reached : limit ≤ (invocation.announcing name).depth :=
      Nat.le_of_eq deep.symm
    have failed :
        runInstruction limit (run limit budget) (invocation.announcing name)
            name =
          .failed (.recursionLimit limit) (invocation.announcing name) := by
      simp [runInstruction, bound, call, reached]
    refine ⟨invocation.announcing name, ?_, rfl, rfl, rfl, rfl⟩
    rw [step, stepWith_of_present limit _ running calls.present, failed]
    rfl

/-- A function that calls itself is stopped by a limit of two calls in the second. -/
theorem reached_depth_exact_of_recursion :
    let code := "a\x7ba\x7da".toList
    ∃ invocation after failure,
      Reaches 2
          (start code (.console .exhausted (.emissions [])) (.blank .error)
            default)
          invocation ∧
        invocation.step 2 9 = .failed failure after ∧
        failure.origin.fault = .recursionLimit 2 ∧
        invocation.depth + failure.calls.length = 2 := by
  intro code
  have begun :
      Reaches 2
        (start code (.console .exhausted (.emissions [])) (.blank .error)
          default)
        (start code (.console .exhausted (.emissions [])) (.blank .error)
          default) :=
    .origin
  have atCall := ((begun.step 0 rfl).step 0 rfl).step 0 rfl
  obtain ⟨-, bounded, -⟩ := reached_depth_exact atCall
  obtain ⟨-, stopped⟩ :=
    bounded 9 _ _ (.inl (rfl : step 2 9 _ = .failed _ _))
  exact ⟨_, _, _, atCall, rfl, rfl, (stopped 2 rfl).2⟩

end Invocation

end StackTape
