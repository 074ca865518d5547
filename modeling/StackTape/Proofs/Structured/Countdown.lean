import StackTape.Proofs.Structured.Equivalence

namespace StackTape

/-!
# Sequences and countdowns

A script without calls is put together from sequences of instructions and loops.  What a
sequence makes of a state is said once, for every place that it can have; one sequence
after the other is a sequence again.  A loop that counts down runs as often as its counter
says: each time its body leads to the state with the next lower counter, down to the state
with none.
-/

namespace Structured

/-- A sequence of instructions in front of a script. -/
def Script.sequence : Text → Script → Script
  | [], rest =>
      rest
  | c :: text, rest =>
      .atom (.instruction c) (sequence text rest)

namespace Script

/-- Whether every character stands for itself, be it an instruction or not. -/
def isSequence (text : Text) : Bool :=
  text.all fun c => !Source.isDelimiter c

variable {text following : Text}
variable {rest : Script}

theorem sequence_append
    (first second : Text)
    (rest : Script) :
    sequence (first ++ second) rest = sequence first (sequence second rest) := by
  induction first with
  | nil =>
      rfl
  | cons c first inductionHypothesis =>
      exact congrArg (Script.atom _) inductionHypothesis

/-- A sequence is read as it is. -/
theorem Fits.sequence
    (plain : isSequence text = true)
    (restFits : rest.Fits following) :
    (Script.sequence text rest).Fits following := by
  induction text with
  | nil =>
      exact restFits
  | cons c text inductionHypothesis =>
      simp only [isSequence, Source.isDelimiter, List.all_cons, Bool.and_eq_true,
        Bool.not_eq_true', Bool.or_eq_false_iff, beq_eq_false_iff_ne] at plain
      obtain ⟨⟨⟨neutral, noQuote⟩, noApostrophe⟩, others⟩ := plain
      exact .atom (.instruction neutral noQuote fun same => absurd same noApostrophe)
        (inductionHypothesis (by simpa [isSequence, Source.isDelimiter] using others))

/-- A sequence holds no definition. -/
theorem isDefinition_sequence
    (apart : rest.isDefinition = false) :
    (sequence text rest).isDefinition = false := by
  cases text with
  | nil =>
      exact apart
  | cons c text =>
      rfl

end Script

namespace Place

theorem past_append
    (place : Place)
    (first second : Text) :
    place.past (first ++ second) = (place.past first).past second := by
  simp [past]

/-- Right behind a text without ampersand is none. -/
theorem previous?_past_ne
    {place : Place}
    {text : Text}
    (apart : place.previous? ≠ some '&')
    (noAmpersand : '&' ∉ text) :
    (place.past text).previous? ≠ some '&' := by
  intro ampersand
  simp only [previous?, past] at ampersand
  cases text with
  | nil =>
      rw [List.append_nil] at ampersand
      exact apart ampersand
  | cons c text =>
      rw [List.getLast?_append, List.getLast?_cons, Option.some_or] at ampersand
      exact noAmpersand (List.mem_of_getLast? (List.getLast?_cons.trans ampersand))

end Place

namespace State

/-- The state with another current stack and another channel. -/
def holding
    (state : State)
    (stack : Stack)
    (channel : Channel) : State :=
  { state with
    tape := state.tape.withCurrent stack
    channel := channel }

/-- A counter on top is true until it is zero. -/
theorem isTopTrue_of_counter
    (state : State)
    (stack : Stack)
    (channel : Channel)
    (counter : Nat) :
    (state.holding (stack.push (.int counter)) channel).isTopTrue =
      decide (counter ≠ 0) := by
  have top :
      (state.holding (stack.push (.int counter)) channel).isTopTrue =
        (Cell.int counter).isNonzero :=
    rfl
  rw [top, Bool.eq_iff_iff, Cell.isNonzero_int, decide_eq_true_iff]
  exact Int.natCast_ne_zero

end State

/--
The sequence leads from the one state to the other wherever it stands, unless it is right
behind an ampersand or in front of a definition.
-/
structure Carries
    (limit : Nat)
    (text : Text)
    (before after : State) : Prop where
  noAmpersand : '&' ∉ text
  runs :
    ∀ {place : Place} {rest : Script} {ending : Ending},
      place.previous? ≠ some '&' →
      rest.isDefinition = false →
      Runs limit (place.past text) rest after ending →
      Runs limit place (.sequence text rest) before ending

namespace Carries

variable {limit : Nat}
variable {first second : Text}
variable {before middle after : State}

theorem nil
    (state : State) :
    Carries limit [] state state where
  noAmpersand := List.not_mem_nil
  runs := by
    intro place rest ending _ _ onward
    have still : place.past [] = place := by
      simp [Place.past]
    rwa [still] at onward

/-- One sequence after the other. -/
theorem append
    (firstCarries : Carries limit first before middle)
    (secondCarries : Carries limit second middle after) :
    Carries limit (first ++ second) before after where
  noAmpersand := by
    rw [List.mem_append, not_or]
    exact ⟨firstCarries.noAmpersand, secondCarries.noAmpersand⟩
  runs := by
    intro place rest ending apart noDefinition onward
    rw [Place.past_append] at onward
    rw [Script.sequence_append]
    refine firstCarries.runs apart (Script.isDefinition_sequence noDefinition) ?_
    exact secondCarries.runs (Place.previous?_past_ne apart firstCarries.noAmpersand)
      noDefinition onward

/-- A single instruction that the script goes on behind. -/
theorem of_perform
    {c : Char}
    (noAmpersand : c ≠ '&')
    (unbound : before.functions.find? c = none)
    (performed :
      ∀ place : Place,
        place.previous? ≠ some '&' →
        (Atom.instruction c).perform place false before = .through after) :
    Carries limit [c] before after where
  noAmpersand := fun member => noAmpersand (List.mem_singleton.1 member).symm
  runs := by
    intro place rest ending apart noDefinition onward
    have alone :
        (Atom.instruction c).perform place rest.isDefinition before = .through after := by
      rw [noDefinition]
      exact performed place apart
    exact .atom unbound alone onward

/-- What a task makes of the bench is what its instruction makes of the state. -/
theorem of_task
    {c : Char}
    {task : Task}
    (known : Opcode.ofChar? c = some (.task task))
    (unbound : before.functions.find? c = none)
    {bench : Bench}
    (worked : task.perform false before.bench = .ok () bench) :
    Carries limit [c] before (before.withBench bench) := by
  refine of_perform ?_ unbound fun place apart => ?_
  · rintro rfl
    cases known
  · have single : (place.previous? == some '&') = false :=
      beq_eq_false_iff_ne.2 apart
    simp [Atom.perform, known, State.perform, State.working, single, worked]

/-- Characters that are no instructions change nothing. -/
theorem of_idle
    {text : Text}
    {state : State}
    (noAmpersand : '&' ∉ text)
    (idle : ∀ c ∈ text, Opcode.ofChar? c = none)
    (unbound : ∀ c ∈ text, state.functions.find? c = none) :
    Carries limit text state state := by
  induction text with
  | nil =>
      exact nil state
  | cons c text inductionHypothesis =>
      rw [List.mem_cons, not_or] at noAmpersand
      rw [List.forall_mem_cons] at idle unbound
      have first : Carries limit [c] state state :=
        of_perform (Ne.symm noAmpersand.1) unbound.1 fun place _ => by
          simp [Atom.perform, idle.1]
      exact first.append (inductionHypothesis noAmpersand.2 idle.2 unbound.2)

/-- A sequence that is a whole loop body. -/
theorem runs_body
    (carries : Carries limit first before after)
    (place : Place) :
    Runs limit place.inside (.sequence first .stop) before (.through after) := by
  refine carries.runs ?_ rfl .stop
  simp [Place.previous?, Place.inside]

end Carries

/--
A loop runs down from any counter.  Each time the top is true, and the body leads to the
state with the next lower counter; with the counter at zero the top is false.
-/
theorem Runs.of_countdown
    {limit : Nat}
    {place : Place}
    {body : Text}
    {rest : Script}
    {ending : Ending}
    (states : Nat → State)
    (counter : Nat)
    (isTrue : ∀ lower < counter, (states (lower + 1)).isTopTrue = true)
    (carries :
      ∀ lower < counter, Carries limit body (states (lower + 1)) (states lower))
    (isFalse : (states 0).isTopTrue = false)
    (onward :
      Runs limit (place.past (Script.sequence body .stop).loopText) rest (states 0)
        ending) :
    Runs limit place (.loop (.sequence body .stop) rest) (states counter) ending := by
  induction counter with
  | zero =>
      exact .loopSkipped isFalse onward
  | succ lower inductionHypothesis =>
      have again :=
        inductionHypothesis
          (fun lowest below => isTrue lowest (Nat.lt_succ_of_lt below))
          fun lowest below => carries lowest (Nat.lt_succ_of_lt below)
      exact .loopAgain (isTrue lower (Nat.lt_succ_self lower))
        ((carries lower (Nat.lt_succ_self lower)).runs_body place) again

end Structured

end StackTape
