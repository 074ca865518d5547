import StackTape.Proofs.Steps

namespace StackTape

/-!
# Sequences of instructions

Instructions that call no function and keep their place run one after the other through a
text.  What they work with is what the invocation holds: its current stack, its backup and
its channel.  What one instruction makes of it is said once, by what the opcode performs;
sequences of instructions are put together from single ones.
-/

namespace Invocation

/-! ## Steps that call no function -/

/-- So many steps, none of which calls a function, lead from the one state to the other. -/
inductive Walks : Nat → Invocation → Invocation → Prop where
  | stay
      {invocation : Invocation} :
      Walks 0 invocation invocation
  | step
      {count : Nat}
      {invocation next final : Invocation}
      (running : invocation.halt = none)
      (stepped :
        ∀ limit runBody, stepWith limit runBody invocation = .done next)
      (onward : Walks count next final) :
      Walks (count + 1) invocation final

namespace Walks

variable {count : Nat}
variable {invocation final : Invocation}

/-- One walk after the other. -/
theorem trans
    {later : Nat}
    {middle : Invocation}
    (first : Walks count invocation middle)
    (second : Walks later middle final) :
    Walks (count + later) invocation final := by
  induction first with
  | stay =>
      rwa [Nat.zero_add]
  | step running stepped _ inductionHypothesis =>
      rw [Nat.succ_add]
      exact .step running stepped (inductionHypothesis second)

/-- No step changes how many calls enclose the invocation. -/
theorem depth_eq
    (walks : Walks count invocation final) :
    final.depth = invocation.depth := by
  induction walks with
  | stay =>
      rfl
  | step _ stepped _ inductionHypothesis =>
      have kept := congrArg Outcome.state? (stepped 0 fun _ => .unfinished)
      exact inductionHypothesis.trans (frame_stepWith kept).depth

/-- A run goes on from where the walk ends. -/
theorem run_eq
    (walks : Walks count invocation final)
    (limit budget : Nat) :
    invocation.run limit (budget + count) = final.run limit budget := by
  induction walks with
  | stay =>
      rfl
  | step running stepped _ inductionHypothesis =>
      rw [← Nat.add_assoc, run]
      simp [running, stepped, inductionHypothesis]

end Walks

/-! ## Texts ahead -/

/-- What the instructions of a sequence work with. -/
structure Holding where
  stack : Stack
  backup : Backup
  channel : Channel

/-- What the invocation holds. -/
def holding (invocation : Invocation) : Holding where
  stack := invocation.stack
  backup := invocation.backup
  channel := invocation.channel

/--
The text is ahead, and another one behind it.  None of its characters is the name of a
function, be it a known one or one that is defined there.  `whole` tells whether an
ampersand is right before the text.
-/
structure Faces
    (whole : Bool)
    (text behind : Text)
    (invocation : Invocation) : Prop where
  running : invocation.halt = none
  ahead : invocation.code.drop invocation.cursor = text ++ behind
  unbound : ∀ name ∈ text, invocation.functions.find? name = none
  braceless : '\x7b' ∉ text
  apart : behind.head? ≠ some '\x7b'
  modified : (invocation.previous? == some '&') = whole

/-- Text, cursor, functions and halt are the same. -/
structure SamePlace (before after : Invocation) : Prop where
  code : after.code = before.code
  cursor : after.cursor = before.cursor
  functions : after.functions = before.functions
  halt : after.halt = before.halt

namespace Faces

variable {whole : Bool}
variable {c : Char}
variable {text behind : Text}
variable {invocation : Invocation}

/-- The whole text is ahead of a program that knows no function yet. -/
theorem of_beginning
    (whole : invocation.code = text)
    (running : invocation.halt = none)
    (atStart : invocation.cursor = 0)
    (nothingKnown : invocation.functions = .empty)
    (braceless : '\x7b' ∉ text) :
    Faces false (text ++ []) [] invocation where
  running := running
  ahead := by
    rw [whole, atStart, List.drop_zero, List.append_nil, List.append_nil]
  unbound name _ := by
    rw [nothingKnown]
    rfl
  braceless := by
    rwa [List.append_nil]
  apart := nofun
  modified := by
    rw [previous?, atStart]
    rfl

theorem instruction?_eq
    (faces : Faces whole (c :: text) behind invocation) :
    invocation.instruction? = some c := by
  have first := congrArg (·[0]?) faces.ahead
  simpa [instruction?] using first

theorem next?_ne
    (faces : Faces whole (c :: text) behind invocation) :
    invocation.next? ≠ some '\x7b' := by
  have second := congrArg (·[1]?) faces.ahead
  simp only [List.getElem?_drop, List.cons_append, List.getElem?_cons_succ] at second
  rw [next?, second]
  intro brace
  cases text with
  | nil =>
      exact faces.apart (by simpa [List.head?_eq_getElem?] using brace)
  | cons d rest =>
      have same : d = '\x7b' := by
        simpa using brace
      exact faces.braceless (by simp [same])

theorem dispatched?_eq
    (faces : Faces whole (c :: text) behind invocation) :
    invocation.dispatched? = Opcode.ofChar? c := by
  simp [dispatched?, faces.instruction?_eq, faces.next?_ne,
    faces.unbound c List.mem_cons_self]

/-- Behind characters that are passed in one go the rest of the text is ahead. -/
theorem skip
    {passed : Text}
    (faces : Faces whole (passed ++ c :: text) behind invocation)
    {after : Invocation}
    (sameCode : after.code = invocation.code)
    (moved : after.cursor = invocation.cursor + passed.length + 1)
    (sameFunctions : after.functions = invocation.functions)
    (sameHalt : after.halt = invocation.halt) :
    Faces (c == '&') text behind after := by
  have ahead : invocation.code.drop invocation.cursor = passed ++ c :: (text ++ behind) := by
    rw [faces.ahead, List.append_assoc, List.cons_append]
  have later {d : Char} (member : d ∈ text) : d ∈ passed ++ c :: text :=
    List.mem_append_right _ (List.mem_cons_of_mem c member)
  refine ⟨sameHalt.trans faces.running, ?_, ?_, ?_, faces.apart, ?_⟩
  · rw [sameCode, moved, Nat.add_assoc, ← List.drop_drop, ahead, ← List.drop_drop,
      List.drop_left]
    rfl
  · intro name member
    rw [sameFunctions]
    exact faces.unbound name (later member)
  · exact fun member => faces.braceless (later member)
  · have present : invocation.code[invocation.cursor + passed.length]? = some c := by
      rw [← List.getElem?_drop, ahead, List.getElem?_append_right (Nat.le_refl _),
        Nat.sub_self]
      rfl
    rw [previous?, moved, sameCode]
    change (invocation.code[invocation.cursor + passed.length]? == some '&') = _
    rw [present]
    exact Option.some_beq_some

/-- Behind an instruction that keeps its place the rest of the text is ahead. -/
theorem advance
    (faces : Faces whole (c :: text) behind invocation)
    {after : Invocation}
    (same : SamePlace invocation after) :
    Faces (c == '&') text behind after.advance := by
  have passing : Faces whole ([] ++ c :: text) behind invocation := faces
  rw [advance_of_running (same.halt.trans faces.running)]
  exact passing.skip same.code (congrArg (· + 1) same.cursor) same.functions same.halt

/-- A step performs the opcode of the first character. -/
theorem stepWith_eq
    (faces : Faces whole (c :: text) behind invocation)
    {opcode : Opcode}
    (known : Opcode.ofChar? c = some opcode)
    (limit : Nat)
    (runBody : Invocation → Outcome Failure Invocation) :
    stepWith limit runBody invocation =
      ((invocation.announcing c).perform whole opcode).passOn Invocation.advance
        fun fault => ⟨invocation.cursor, some c, fault⟩ := by
  rw [stepWith_of_performed limit runBody faces.running faces.instruction?_eq
    (faces.dispatched?_eq.trans known), faces.modified]

/-- A character that is no instruction is stepped over. -/
theorem exists_walk_of_idle
    (faces : Faces whole (c :: text) behind invocation)
    (idle : Opcode.ofChar? c = none) :
    ∃ after,
      Walks 1 invocation after ∧
        after.Faces (c == '&') text behind ∧
        after.holding = invocation.holding := by
  have stepped (limit : Nat) (runBody : Invocation → Outcome Failure Invocation) :=
    stepWith_of_idle limit runBody faces.running faces.instruction?_eq
      (faces.unbound c List.mem_cons_self) (faces.dispatched?_eq.trans idle)
  refine ⟨_, .step faces.running stepped .stay,
    faces.advance ⟨rfl, rfl, rfl, rfl⟩, ?_⟩
  rw [advance_of_running (by exact faces.running)]
  rfl

end Faces

/-! ## Executing a text -/

/--
Every invocation that faces the text and holds the one comes behind the text, in at most
as many steps as there are characters, and holds the other there.
-/
def Executes
    (text : Text)
    (before after : Holding) : Prop :=
  ∀ (rest behind : Text) (invocation : Invocation),
    invocation.Faces false (text ++ rest) behind →
    invocation.holding = before →
    ∃ count final,
      count ≤ text.length ∧
        Walks count invocation final ∧
        final.Faces false rest behind ∧
        final.holding = after

/--
Every invocation that faces the text and holds the one fails at one of its instructions
with this fault, and holds the other then.
-/
def FailsIn
    (text : Text)
    (before : Holding)
    (fault : Fault)
    (after : Holding) : Prop :=
  ∀ (rest behind : Text) (invocation : Invocation),
    invocation.Faces false (text ++ rest) behind →
    invocation.holding = before →
    ∃ count last instruction final,
      count < text.length ∧
        Walks count invocation last ∧
        (∀ limit runBody,
          stepWith limit runBody last =
            .failed ⟨last.cursor, some instruction, fault⟩ final) ∧
        final.holding = after

theorem executes_nil
    (held : Holding) :
    Executes [] held held := by
  intro rest behind invocation faces holds
  exact ⟨0, invocation, Nat.le_refl 0, .stay, faces, holds⟩

section

variable {first second : Text}
variable {before middle after : Holding}

/-- One text after the other. -/
theorem Executes.append
    (firstExecutes : Executes first before middle)
    (secondExecutes : Executes second middle after) :
    Executes (first ++ second) before after := by
  intro rest behind invocation faces holds
  rw [List.append_assoc] at faces
  obtain ⟨firstCount, between, firstMost, firstWalks, facesSecond, betweenHolds⟩ :=
    firstExecutes _ _ _ faces holds
  obtain ⟨secondCount, final, secondMost, secondWalks, facesRest, finalHolds⟩ :=
    secondExecutes _ _ _ facesSecond betweenHolds
  refine ⟨_, final, ?_, firstWalks.trans secondWalks, facesRest, finalHolds⟩
  rw [List.length_append]
  exact Nat.add_le_add firstMost secondMost

/-- What is behind a text that fails is not reached. -/
theorem FailsIn.append
    {fault : Fault}
    (firstFails : FailsIn first before fault after)
    (second : Text) :
    FailsIn (first ++ second) before fault after := by
  intro rest behind invocation faces holds
  rw [List.append_assoc] at faces
  obtain ⟨count, last, instruction, final, most, failed⟩ :=
    firstFails _ _ _ faces holds
  refine ⟨count, last, instruction, final, ?_, failed⟩
  rw [List.length_append]
  exact Nat.lt_add_right _ most

/-- A text that is executed before another one fails. -/
theorem Executes.append_fails
    {fault : Fault}
    (firstExecutes : Executes first before middle)
    (secondFails : FailsIn second middle fault after) :
    FailsIn (first ++ second) before fault after := by
  intro rest behind invocation faces holds
  rw [List.append_assoc] at faces
  obtain ⟨firstCount, between, firstMost, firstWalks, facesSecond, betweenHolds⟩ :=
    firstExecutes _ _ _ faces holds
  obtain ⟨count, last, instruction, final, most, walks, failed, finalHolds⟩ :=
    secondFails _ _ _ facesSecond betweenHolds
  refine ⟨_, last, instruction, final, ?_, firstWalks.trans walks, failed,
    finalHolds⟩
  rw [List.length_append]
  exact Nat.add_lt_add_of_le_of_lt firstMost most

end

/-! ## Single instructions -/

/-- An instruction, behind an ampersand if it is to work on the whole stack. -/
def command (whole : Bool) (letter : Char) : Text :=
  if whole then ['&', letter] else [letter]

section

variable {whole : Bool}
variable {letter : Char}
variable {opcode : Opcode}

/-- The ampersand of an instruction is stepped over. -/
theorem exists_walk_to_letter
    {rest behind : Text}
    {invocation : Invocation}
    (faces : invocation.Faces false (command whole letter ++ rest) behind) :
    ∃ count atLetter,
      count + 1 = (command whole letter).length ∧
        Walks count invocation atLetter ∧
        atLetter.Faces whole (letter :: rest) behind ∧
        atLetter.holding = invocation.holding := by
  cases whole with
  | false =>
      exact ⟨0, invocation, rfl, .stay, faces, rfl⟩
  | true =>
      obtain ⟨atLetter, walks, facesLetter, holds⟩ :=
        faces.exists_walk_of_idle (by decide)
      exact ⟨1, atLetter, rfl, walks, facesLetter, holds⟩

theorem ne_ampersand_of_opcode
    (known : Opcode.ofChar? letter = some opcode) :
    (letter == '&') = false := by
  rw [beq_eq_false_iff_ne]
  rintro rfl
  cases known

/-- What an opcode that keeps its place performs is what its instruction executes. -/
theorem executes_of_performs
    {before after : Holding}
    (known : Opcode.ofChar? letter = some opcode)
    (performs :
      ∀ invocation : Invocation,
        invocation.holding = before →
        ∃ later,
          invocation.perform whole opcode = .done later ∧
            SamePlace invocation later ∧
            later.holding = after) :
    Executes (command whole letter) before after := by
  intro rest behind invocation faces holds
  obtain ⟨count, atLetter, length, walks, facesLetter, stillHolds⟩ :=
    exists_walk_to_letter faces
  obtain ⟨later, performed, same, laterHolds⟩ :=
    performs (atLetter.announcing letter) (stillHolds.trans holds)
  have stepped (limit : Nat) (runBody : Invocation → Outcome Failure Invocation) :
      stepWith limit runBody atLetter = .done later.advance := by
    rw [facesLetter.stepWith_eq known, performed]
    rfl
  have place : SamePlace atLetter later :=
    ⟨same.code, same.cursor, same.functions, same.halt⟩
  have facesRest := facesLetter.advance place
  rw [ne_ampersand_of_opcode known] at facesRest
  refine ⟨count + 1, later.advance, Nat.le_of_eq length,
    walks.trans (.step facesLetter.running stepped .stay), facesRest, ?_⟩
  rw [advance_of_running (place.halt.trans facesLetter.running)]
  exact laterHolds

/-- So is what it fails with. -/
theorem failsIn_of_performs
    {before after : Holding}
    {fault : Fault}
    (known : Opcode.ofChar? letter = some opcode)
    (performs :
      ∀ invocation : Invocation,
        invocation.holding = before →
        ∃ later,
          invocation.perform whole opcode = .failed fault later ∧
            later.holding = after) :
    FailsIn (command whole letter) before fault after := by
  intro rest behind invocation faces holds
  obtain ⟨count, atLetter, length, walks, facesLetter, stillHolds⟩ :=
    exists_walk_to_letter faces
  obtain ⟨later, performed, laterHolds⟩ :=
    performs (atLetter.announcing letter) (stillHolds.trans holds)
  refine ⟨count, atLetter, letter, later, by omega, walks, ?_, laterHolds⟩
  intro limit runBody
  rw [facesLetter.stepWith_eq known, performed]
  rfl

section

variable {task : Task}
variable {before after : Stack}
variable {source final : Channel}

/-- What a task does to its bench is what its instruction executes. -/
theorem executes_task
    (known : Opcode.ofChar? letter = some (.task task))
    (worked :
      ∀ journal draws waits,
        ∃ bench,
          task.perform whole ⟨before, source, journal, draws, waits⟩ =
              .ok () bench ∧
            bench.stack = after ∧ bench.channel = final)
    (backup : Backup) :
    Executes (command whole letter) ⟨before, backup, source⟩
      ⟨after, backup, final⟩ := by
  refine executes_of_performs known fun invocation holds => ?_
  obtain ⟨bench, works, rfl, rfl⟩ :=
    worked invocation.journal invocation.draws invocation.waits
  cases holds
  exact ⟨_, working_of_ok works, ⟨rfl, rfl, rfl, rfl⟩, rfl⟩

/-- What a task fails with is what its instruction fails with. -/
theorem failsIn_task
    {fault : Fault}
    (known : Opcode.ofChar? letter = some (.task task))
    (worked :
      ∀ journal draws waits,
        ∃ bench,
          task.perform whole ⟨before, source, journal, draws, waits⟩ =
              .error fault bench ∧
            bench.stack = after ∧ bench.channel = final)
    (backup : Backup) :
    FailsIn (command whole letter) ⟨before, backup, source⟩ fault
      ⟨after, backup, final⟩ := by
  refine failsIn_of_performs known fun invocation holds => ?_
  obtain ⟨bench, works, rfl, rfl⟩ :=
    worked invocation.journal invocation.draws invocation.waits
  cases holds
  exact ⟨_, working_of_error works, rfl⟩

end

end

end Invocation

end StackTape
