import StackTape.Proofs.Structured.Control
import StackTape.Proofs.Structured.Reading

namespace StackTape

/-!
# Jumps and structure

The cursor's jumps are a run along the tree.  From a flat run that comes out a
derivation is built by induction on its budget; from a derivation a budget is found by
induction on it.  Between the two stand endings: whatever a part of the text does, the
flat run goes on where its ending resumes.
-/

namespace Structured

/-- What a loop hands on is what its body ended with. -/
theorem Ending.state_of_outside?
    {bodyEnding ending : Ending}
    (outside : bodyEnding.outside? = some ending) :
    ending.state = bodyEnding.state := by
  unfold outside? at outside
  split at outside <;> cases outside <;> rfl

/-- A run keeps the names plain and the bodies regular. -/
theorem Runs.tidy
    {limit : Nat}
    {place : Place}
    {script : Script}
    {scope : Scope}
    {state : State}
    {ending : Ending}
    (runs : Runs limit place script state ending)
    (embedded : Embedded place script scope)
    (tidy : state.Tidy) :
    ending.state.Tidy := by
  induction runs generalizing scope with
  | stop =>
      exact tidy
  | @atom place first rest state middle ending own performed _
      inductionHypothesis =>
      have after :=
        tidy_perform rest.isDefinition embedded.first.1 embedded.first.2 tidy
      rw [performed] at after
      exact inductionHypothesis embedded.rest after
  | @atomEnds place first rest state ending own performed ends =>
      have after :=
        tidy_perform rest.isDefinition embedded.first.1 embedded.first.2 tidy
      rwa [performed] at after
  | call _ _ _ _ _ _ _ inductionHypothesis =>
      exact inductionHypothesis embedded.rest tidy
  | callFails =>
      exact tidy
  | callTooDeep =>
      exact tidy
  | loopSkipped _ _ inductionHypothesis =>
      exact inductionHypothesis embedded.loopRest tidy
  | loopAgain _ _ _ bodyHypothesis againHypothesis =>
      exact againHypothesis embedded
        (bodyHypothesis embedded.loopBody tidy)
  | loopLeft _ _ _ bodyHypothesis restHypothesis =>
      exact restHypothesis embedded.loopRest
        (bodyHypothesis embedded.loopBody tidy)
  | loopEnds _ _ outside bodyHypothesis =>
      rw [Ending.state_of_outside? outside]
      exact bodyHypothesis embedded.loopBody tidy

/-- An ending that does not go through resumes whatever follows. -/
theorem Ending.resumes_ahead_iff
    {limit budget : Nat}
    {scope : Scope}
    {ending : Ending}
    {conclusion : Conclusion}
    (ends : ending.isThrough = false)
    (text : Text) :
    ending.Resumes limit budget (scope.ahead text) conclusion ↔
      ending.Resumes limit budget scope conclusion := by
  cases ending with
  | through state =>
      cases ends
  | _ =>
      rfl

/-- What a loop hands on resumes as its body did. -/
theorem Ending.resumes_inside_iff
    {limit budget : Nat}
    {scope : Scope}
    {bodyEnding ending : Ending}
    {conclusion : Conclusion}
    (outside : bodyEnding.outside? = some ending)
    (text : Text) :
    bodyEnding.Resumes limit budget (scope.ahead text).inside conclusion ↔
      ending.Resumes limit budget scope conclusion := by
  unfold outside? at outside
  split at outside <;> cases outside <;> rfl

/-! ## From the flat run to a derivation -/

/-- A script has a derivation, and its ending resumes within a budget. -/
def Derives
    (limit budget : Nat)
    (place : Place)
    (script : Script)
    (scope : Scope)
    (state : State)
    (conclusion : Conclusion) : Prop :=
  ∃ ending smaller,
    Runs limit place script state ending ∧
      smaller ≤ budget ∧
      ending.Resumes limit smaller scope conclusion

/-- Every flat run within a budget that comes out has a derivation. -/
def Recovers (limit budget : Nat) : Prop :=
  ∀ {place : Place} {script : Script} {scope : Scope} {state : State}
    {conclusion : Conclusion},
    Embedded place script scope →
    state.Tidy →
    flat limit budget scope.code place.index state = some conclusion →
    Derives limit budget place script scope state conclusion

section

variable {limit budget : Nat}
variable {place : Place}
variable {scope : Scope}
variable {state : State}
variable {conclusion : Conclusion}

/-- An atom that calls nothing, and what follows it. -/
theorem derives_atom
    (recovers : ∀ smaller, smaller < budget → Recovers limit smaller)
    {first : Atom}
    {rest : Script}
    (embedded : Embedded place (.atom first rest) scope)
    (tidy : state.Tidy)
    (own : first.callee? state.functions = none)
    (concluded :
      flat limit budget scope.code place.index state = some conclusion) :
    Derives limit budget place (.atom first rest) scope state conclusion := by
  obtain ⟨located, fits⟩ := embedded.first
  have leads := leads_atom limit located fits tidy own embedded.named
  have after := tidy_perform rest.isDefinition located fits tidy
  obtain ⟨smaller, less, resumed⟩ := leads.forward concluded
  have fewer := Nat.le_of_lt less
  cases performed : first.perform place rest.isDefinition state with
  | through middle =>
      rw [performed] at resumed after
      rw [Ending.Resumes, Scope.code_ahead, ← embedded.located.index_past]
        at resumed
      obtain ⟨ending, spent, runs, within, onward⟩ :=
        recovers smaller less embedded.rest after resumed
      exact ⟨ending, spent, .atom own performed runs,
        Nat.le_trans within fewer, onward⟩
  | leaving further middle =>
      rw [performed] at resumed
      exact ⟨_, smaller, .atomEnds own performed rfl, fewer, resumed⟩
  | stopped middle =>
      rw [performed] at resumed
      exact ⟨_, smaller, .atomEnds own performed rfl, fewer, resumed⟩
  | failed failure middle =>
      rw [performed] at resumed
      exact ⟨_, smaller, .atomEnds own performed rfl, fewer, resumed⟩

/-- A call, and what follows it. -/
theorem derives_call
    (recovers : ∀ smaller, smaller < budget → Recovers limit smaller)
    {name : Char}
    {body : Text}
    {rest : Script}
    (embedded : Embedded place (.atom (.instruction name) rest) scope)
    (tidy : state.Tidy)
    (bound : state.functions.find? name = some body)
    (concluded :
      flat limit budget scope.code place.index state = some conclusion) :
    Derives limit budget place (.atom (.instruction name) rest) scope state
      conclusion := by
  obtain ⟨located, -⟩ := embedded.first
  rcases Nat.lt_or_ge state.depth limit with shallow | deep
  · cases budget with
    | zero =>
        cases concluded
    | succ budget =>
        have called :=
          flat_succ_of_call limit budget located bound shallow
        rw [Scope.code_ahead, concluded] at called
        obtain ⟨inner, innerConcluded, after⟩ :=
          Option.bind_eq_some_iff.1 called.symm
        have regular := (tidy name body bound).2
        obtain ⟨script, isScript, -⟩ :=
          Script.exists_isScriptOf regular.loaded
        have tidyInside : state.enter.Tidy := tidy
        obtain ⟨innerEnding, spent, ran, -, resumed⟩ :=
          recovers budget (Nat.lt_succ_self budget)
            (.whole regular isScript) tidyInside innerConcluded
        have returned := resumes_whole_iff.1 ⟨spent, resumed⟩
        obtain ⟨_ | failure, halt, inside⟩ := inner
        · rw [afterCall, ← Place.index_past_singleton] at after
          have tidyAfter : (state.leave inside).Tidy := tidy
          obtain ⟨ending, left, runs, within, onward⟩ :=
            recovers budget (Nat.lt_succ_self budget) embedded.rest
              tidyAfter after
          exact ⟨ending, left,
            .call bound shallow isScript ran returned runs,
            Nat.le_succ_of_le within, onward⟩
        · exact ⟨_, budget,
            .callFails bound shallow isScript ran returned,
            Nat.le_succ budget, Option.some_inj.1 after⟩
  · obtain ⟨smaller, less, resumed⟩ :=
      (leads_of_call_too_deep located bound deep).forward concluded
    exact ⟨_, smaller, .callTooDeep bound deep, Nat.le_of_lt less, resumed⟩

/-- What comes out of the closing bracket is what the loop makes of the state there. -/
theorem derives_at_closing
    (recovers : ∀ smaller, smaller ≤ budget → Recovers limit smaller)
    {body rest : Script}
    (embedded : Embedded place (.loop body rest) scope)
    (tidy : state.Tidy)
    (concluded :
      flat limit budget scope.code (place.closing body).index state =
        some conclusion) :
    Derives limit budget place (.loop body rest) scope state conclusion := by
  cases isTrue : state.isTopTrue with
  | true =>
      -- both brackets lead on alike, so it comes out of the opening one too
      rw [flat_closing_eq_opening limit budget embedded tidy isTrue]
        at concluded
      exact recovers budget (Nat.le_refl budget) embedded tidy concluded
  | false =>
      cases budget with
      | zero =>
          cases concluded
      | succ budget =>
          rw [flat_closing_of_false limit budget embedded tidy isTrue]
            at concluded
          obtain ⟨ending, left, runs, within, onward⟩ :=
            recovers budget (Nat.le_succ budget) embedded.loopRest tidy
              concluded
          exact ⟨ending, left, .loopSkipped isTrue runs,
            Nat.le_succ_of_le within, onward⟩

/-- A loop whose body is run first, and what follows it. -/
theorem derives_entered
    (recovers : ∀ smaller, smaller ≤ budget → Recovers limit smaller)
    {body rest : Script}
    (embedded : Embedded place (.loop body rest) scope)
    (tidy : state.Tidy)
    (isTrue : state.isTopTrue = true)
    (concluded :
      flat limit budget scope.code place.inside.index state =
        some conclusion) :
    Derives limit budget place (.loop body rest) scope state conclusion := by
  obtain ⟨bodyEnding, spent, ran, within, resumed⟩ :=
    recovers budget (Nat.le_refl budget) embedded.loopBody tidy concluded
  have recoversStill (smaller : Nat) (fewer : smaller ≤ spent) :
      Recovers limit smaller :=
    recovers smaller (Nat.le_trans fewer within)
  cases bodyEnding with
  | through middle =>
      have after : middle.Tidy := ran.tidy embedded.loopBody tidy
      rw [embedded.resumes_through_iff] at resumed
      obtain ⟨ending, left, runs, fewer, onward⟩ :=
        derives_at_closing recoversStill embedded after resumed
      exact ⟨ending, left, .loopAgain isTrue ran runs,
        Nat.le_trans fewer within, onward⟩
  | leaving further middle =>
      cases further with
      | zero =>
          have after : middle.Tidy := ran.tidy embedded.loopBody tidy
          rw [embedded.resumes_leaving_iff] at resumed
          obtain ⟨ending, left, runs, fewer, onward⟩ :=
            recovers spent within embedded.loopRest after resumed
          exact ⟨ending, left, .loopLeft isTrue ran runs,
            Nat.le_trans fewer within, onward⟩
      | succ further =>
          exact ⟨_, spent, .loopEnds isTrue ran rfl, within, resumed⟩
  | stopped middle =>
      exact ⟨_, spent, .loopEnds isTrue ran rfl, within, resumed⟩
  | failed failure middle =>
      exact ⟨_, spent, .loopEnds isTrue ran rfl, within, resumed⟩

/-- A loop, and what follows it. -/
theorem derives_loop
    (recovers : ∀ smaller, smaller < budget → Recovers limit smaller)
    {body rest : Script}
    (embedded : Embedded place (.loop body rest) scope)
    (tidy : state.Tidy)
    (concluded :
      flat limit budget scope.code place.index state = some conclusion) :
    Derives limit budget place (.loop body rest) scope state conclusion := by
  cases isTrue : state.isTopTrue with
  | false =>
      obtain ⟨smaller, less, resumed⟩ :=
        (leads_skipped limit embedded tidy isTrue).forward concluded
      rw [Ending.Resumes, Scope.code_ahead, ← embedded.loopCut.index_past]
        at resumed
      obtain ⟨ending, spent, runs, within, onward⟩ :=
        recovers smaller less embedded.loopRest tidy resumed
      exact ⟨ending, spent, .loopSkipped isTrue runs,
        Nat.le_trans within (Nat.le_of_lt less), onward⟩
  | true =>
      cases budget with
      | zero =>
          cases concluded
      | succ budget =>
          rw [flat_opening_of_true limit budget embedded tidy isTrue]
            at concluded
          have recoversWithin (smaller : Nat) (fewer : smaller ≤ budget) :
              Recovers limit smaller :=
            recovers smaller (Nat.lt_succ_of_le fewer)
          obtain ⟨ending, spent, runs, within, onward⟩ :=
            derives_entered recoversWithin embedded tidy isTrue concluded
          exact ⟨ending, spent, runs, Nat.le_succ_of_le within, onward⟩

end

/-- Every flat run that comes out has a derivation. -/
theorem recovers
    (limit budget : Nat) :
    Recovers limit budget := by
  induction budget using Nat.strongRecOn with
  | ind budget inductionHypothesis =>
      intro place script scope state conclusion embedded tidy concluded
      cases script with
      | stop =>
          refine ⟨.through state, budget, .stop, Nat.le_refl _, ?_⟩
          have ends := embedded.located.index_add_length
          rw [Ending.Resumes, ← ends]
          exact concluded
      | atom first rest =>
          cases own : first.callee? state.functions with
          | none =>
              exact derives_atom inductionHypothesis embedded tidy own
                concluded
          | some body =>
              cases first with
              | instruction name =>
                  exact derives_call inductionHypothesis embedded tidy own
                    concluded
              | _ =>
                  cases own
      | loop body rest =>
          exact derives_loop inductionHypothesis embedded tidy concluded

/-! ## From a derivation to a flat run -/

section

variable {limit budget : Nat}
variable {place : Place}
variable {scope : Scope}
variable {state : State}
variable {conclusion : Conclusion}

/-- What comes out of the opening bracket comes out of the closing one as well. -/
theorem exists_flat_closing
    {body rest : Script}
    (embedded : Embedded place (.loop body rest) scope)
    (tidy : state.Tidy)
    (concluded :
      flat limit budget scope.code place.index state = some conclusion) :
    ∃ other,
      flat limit other scope.code (place.closing body).index state =
        some conclusion := by
  cases isTrue : state.isTopTrue with
  | true =>
      refine ⟨budget, ?_⟩
      rw [flat_closing_eq_opening limit budget embedded tidy isTrue]
      exact concluded
  | false =>
      cases budget with
      | zero =>
          cases concluded
      | succ budget =>
          rw [flat_opening_of_false limit budget embedded tidy isTrue]
            at concluded
          exact ⟨budget, concluded⟩

/-- What comes out of a body comes out of the loop that enters it. -/
theorem exists_flat_of_body
    {body rest : Script}
    (embedded : Embedded place (.loop body rest) scope)
    (tidy : state.Tidy)
    (isTrue : state.isTopTrue = true)
    (concluded :
      ∃ budget,
        flat limit budget scope.code place.inside.index state =
          some conclusion) :
    ∃ larger,
      flat limit larger scope.code place.index state = some conclusion := by
  obtain ⟨budget, onward⟩ := concluded
  refine ⟨budget + 1, ?_⟩
  rw [flat_opening_of_true limit budget embedded tidy isTrue]
  exact onward

/-- What follows a body that came out comes out of the call. -/
theorem exists_flat_of_call
    {name : Char}
    {body : Text}
    {inner : Conclusion}
    (located : Located place [name] scope)
    (bound : state.functions.find? name = some body)
    (shallow : state.depth < limit)
    (returned :
      ∃ budget, flat limit budget body 0 state.enter = some inner)
    (onward :
      ∃ budget,
        afterCall limit budget scope.code place name state inner =
          some conclusion) :
    ∃ larger,
      flat limit larger scope.code place.index state = some conclusion := by
  obtain ⟨innerBudget, innerConcluded⟩ := returned
  obtain ⟨restBudget, restConcluded⟩ := onward
  -- a budget that is enough both for the body and for what follows
  refine ⟨max innerBudget restBudget + 1, ?_⟩
  rw [flat_succ_of_call limit _ located bound shallow,
    flat_eq_of_le innerConcluded (Nat.le_max_left _ _), Option.bind_some]
  exact afterCall_eq_of_le restConcluded (Nat.le_max_right _ _)

end

/-- A flat run comes out as what a derivation's ending resumes. -/
theorem Runs.exists_flat
    {limit budget : Nat}
    {place : Place}
    {script : Script}
    {scope : Scope}
    {state : State}
    {ending : Ending}
    {conclusion : Conclusion}
    (runs : Runs limit place script state ending)
    (embedded : Embedded place script scope)
    (tidy : state.Tidy)
    (resumed : ending.Resumes limit budget scope conclusion) :
    ∃ larger,
      flat limit larger scope.code place.index state = some conclusion := by
  induction runs generalizing scope budget conclusion with
  | stop =>
      have ends := embedded.located.index_add_length
      rw [Ending.Resumes, ← ends] at resumed
      exact ⟨budget, resumed⟩
  | @atom place first rest state middle ending own performed runs
      inductionHypothesis =>
      obtain ⟨located, fits⟩ := embedded.first
      have leads := leads_atom limit located fits tidy own embedded.named
      have after := tidy_perform rest.isDefinition located fits tidy
      rw [performed] at leads after
      obtain ⟨larger, onward⟩ :=
        inductionHypothesis embedded.rest after resumed
      rw [embedded.located.index_past] at onward
      exact leads.backward onward
  | @atomEnds place first rest state ending own performed ends =>
      obtain ⟨located, fits⟩ := embedded.first
      have leads := leads_atom limit located fits tidy own embedded.named
      rw [performed] at leads
      exact leads.backward
        ((Ending.resumes_ahead_iff ends rest.text).2 resumed)
  | @call place name body script rest state inside halt inner ending bound
      shallow isScript ran returned runs innerHypothesis restHypothesis =>
      have tidyInside : state.enter.Tidy := tidy
      have tidyAfter : (state.leave inside).Tidy := tidy
      obtain ⟨spent, innerResumed⟩ := resumes_whole_iff.2 returned
      have concluded :=
        innerHypothesis (.whole (tidy name body bound).2 isScript) tidyInside
          innerResumed
      have onward := restHypothesis embedded.rest tidyAfter resumed
      rw [Place.index_past_singleton] at onward
      have called :=
        exists_flat_of_call embedded.first.1 bound shallow concluded onward
      exact called
  | @callFails place name body script rest state inside failure halt inner
      bound shallow isScript ran raised innerHypothesis =>
      have tidyInside : state.enter.Tidy := tidy
      obtain ⟨spent, innerResumed⟩ := resumes_whole_iff.2 raised
      have concluded :=
        innerHypothesis (.whole (tidy name body bound).2 isScript) tidyInside
          innerResumed
      have called :=
        exists_flat_of_call embedded.first.1 bound shallow concluded
          ⟨0, congrArg some resumed⟩
      exact called
  | @callTooDeep place name body rest state bound deep =>
      exact (leads_of_call_too_deep embedded.first.1 bound deep).backward
        ((Ending.resumes_ahead_iff rfl rest.text).2 resumed)
  | @loopSkipped place body rest state ending isFalse runs
      inductionHypothesis =>
      obtain ⟨larger, onward⟩ :=
        inductionHypothesis embedded.loopRest tidy resumed
      rw [embedded.loopCut.index_past] at onward
      exact (leads_skipped limit embedded tidy isFalse).backward onward
  | @loopAgain place body rest state middle ending isTrue ran again
      bodyHypothesis againHypothesis =>
      have after : middle.Tidy := ran.tidy embedded.loopBody tidy
      obtain ⟨spent, onceMore⟩ := againHypothesis embedded after resumed
      obtain ⟨enough, atClosing⟩ :=
        exists_flat_closing embedded after onceMore
      have concluded :=
        bodyHypothesis embedded.loopBody tidy
          (embedded.resumes_through_iff.2 atClosing)
      exact exists_flat_of_body embedded tidy isTrue concluded
  | @loopLeft place body rest state middle ending isTrue ran runs
      bodyHypothesis restHypothesis =>
      have after : middle.Tidy := ran.tidy embedded.loopBody tidy
      obtain ⟨spent, behind⟩ :=
        restHypothesis embedded.loopRest after resumed
      have concluded :=
        bodyHypothesis embedded.loopBody tidy
          (embedded.resumes_leaving_iff.2 behind)
      exact exists_flat_of_body embedded tidy isTrue concluded
  | @loopEnds place body rest state bodyEnding ending isTrue ran outside
      bodyHypothesis =>
      have concluded :=
        bodyHypothesis embedded.loopBody tidy
          ((Ending.resumes_inside_iff outside rest.text).2 resumed)
      exact exists_flat_of_body embedded tidy isTrue concluded

/-! ## Runs of programs and functions -/

/-- A run of a regular text is a run of its script. -/
theorem concludes_iff
    (limit : Nat)
    {invocation : Invocation}
    {script : Script}
    (regular : Source.IsRegular invocation.code)
    (tidy : (State.of invocation).Tidy)
    (atStart : invocation.cursor = 0)
    (running : invocation.halt = none)
    (isScript : script.IsScriptOf invocation.code)
    (conclusion : Conclusion) :
    (∃ budget, conclusion? (invocation.run limit budget) = some conclusion) ↔
      script.Concludes limit (.of invocation) conclusion := by
  have embedded := Embedded.whole regular isScript
  have asFlat (budget : Nat) :
      conclusion? (invocation.run limit budget) =
        flat limit budget invocation.code 0 (.of invocation) := by
    rw [conclusion?_run running, atStart]
  simp only [asFlat, Script.Concludes, isScript.text]
  constructor
  · rintro ⟨budget, concluded⟩
    obtain ⟨ending, spent, runs, -, resumed⟩ :=
      recovers limit budget embedded tidy concluded
    exact ⟨ending, runs, resumes_whole_iff.1 ⟨spent, resumed⟩⟩
  · rintro ⟨ending, runs, concluded⟩
    obtain ⟨spent, resumed⟩ := resumes_whole_iff.2 concluded
    exact runs.exists_flat embedded tidy resumed

/-- The functions of a validated invocation have plain names and regular bodies. -/
theorem tidy_of_validated
    {code : Text}
    {invocation : Invocation}
    (regular : Source.IsRegular code)
    (validated : Invocation.Validated code invocation) :
    (State.of invocation).Tidy := by
  intro name body found
  have definition := validated.bound found
  obtain ⟨before, after, shape⟩ := definition.delimited
  exact ⟨Source.hasPlainNames_iff.1 regular.names before name _ shape,
    regular.of_isBody definition.isBody⟩

/--
The jumps of the cursor implement structured loops.  In a program whose definitions
have plain names, every run of an invocation from its start, of the program itself or
of a function at any depth, comes out exactly as its script does: with the same state,
output and halt or failure, or not at all.  A count of loops to leave means what it
says in any text short enough to exist.
-/
theorem reached_run_structured
    {source : Text}
    {program : Program}
    (loaded : Program.load? source = some program)
    (plain : Source.hasPlainNames program.code = true)
    {limit : Nat}
    {channel : Channel}
    {journal : Journal}
    {draws : Draws}
    {invocation : Invocation}
    (reached :
      Invocation.Reaches limit (.start program.code channel journal draws)
        invocation)
    (atStart : invocation.cursor = 0)
    (running : invocation.halt = none) :
    (∃ script : Script,
      script.IsScriptOf invocation.code ∧
        (∀ other : Script,
          other.IsScriptOf invocation.code → other = script) ∧
        (∀ conclusion,
          (∃ budget,
              conclusion? (invocation.run limit budget) = some conclusion) ↔
            script.Concludes limit (.of invocation) conclusion) ∧
        ((∀ budget, invocation.run limit budget = .unfinished) ↔
          ∀ conclusion,
            ¬script.Concludes limit (.of invocation) conclusion)) ∧
      ∀ (count : Int) (loops : Nat),
        (loops : Int) ≤ Cell.greatestCount →
        loopsLeft count loops = min (max count 0).toNat loops := by
  have codeRegular : Source.IsRegular program.code :=
    ⟨Source.isLoaded_of_load? loaded, plain⟩
  have validated :=
    Invocation.Validated.of_reaches codeRegular.loaded reached
  have regular : Source.IsRegular invocation.code := by
    rcases validated.code_or_isBody with same | piece
    · rwa [same]
    · exact codeRegular.of_isBody piece
  have tidy := tidy_of_validated codeRegular validated
  refine ⟨?_, fun count loops few => loopsLeft_of_le few count⟩
  obtain ⟨script, isScript, only⟩ :=
    Script.exists_isScriptOf regular.loaded
  have agree :=
    concludes_iff limit regular tidy atStart running isScript
  refine ⟨script, isScript, only, agree, ?_⟩
  constructor
  · intro endless conclusion concludes
    obtain ⟨budget, concluded⟩ := (agree conclusion).2 concludes
    rw [endless budget] at concluded
    cases concluded
  · intro nothing budget
    rw [← conclusion?_eq_none_iff, Option.eq_none_iff_forall_ne_some]
    intro conclusion concluded
    exact nothing conclusion ((agree conclusion).1 ⟨budget, concluded⟩)

/-- Inside a function that leaves two loops at once. -/
theorem reached_run_structured_in_function :
    let source := "a\x7b1[3[2$]5]7\x7da".toList
    ∃ program invocation,
      Program.load? source = some program ∧
        Invocation.Reaches 200
          (.start program.code (.console .exhausted (.emissions []))
            (.blank .error) default)
          invocation ∧
        invocation.depth = 1 ∧
        ∃ script conclusion,
          script.IsScriptOf invocation.code ∧
            Script.Concludes 200 script (.of invocation) conclusion ∧
            (conclusion.failure?, conclusion.halt,
                conclusion.state.channel) =
              (none, some .finished,
                .caller (.ofList [.int 1, .int 3, .int 7])) := by
  intro source
  let program : Program := ⟨Source.prepare source, by decide⟩
  have loaded : Program.load? source = some program :=
    Program.load?_eq_some_iff.2 rfl
  let body : Text := "1[3[2$]5]7".toList
  let callee : Invocation :=
    { code := body
      cursor := 0
      halt := none
      depth := 1
      tape := .initial
      backup := .empty
      functions := Bindings.empty.bind 'a' body
      channel := .caller .empty
      journal := .blank .error
      draws := default
      waits := [] }
  have begun :
      Invocation.Reaches 200
        (.start program.code (.console .exhausted (.emissions []))
          (.blank .error) default)
        (.start program.code (.console .exhausted (.emissions []))
          (.blank .error) default) :=
    .origin
  have atCall := ((begun.step 0 rfl).step 0 rfl).step 0 rfl
  have inside :
      Invocation.Reaches 200
        (.start program.code (.console .exhausted (.emissions []))
          (.blank .error) default)
        callee :=
    atCall.call rfl (rfl : _ = some 'a') (rfl : _ = some body) (by decide)
  have ran :
      (conclusion? (callee.run 200 20)).map
          (fun conclusion =>
            (conclusion.failure?, conclusion.halt,
              conclusion.state.channel)) =
        some
          (none, some .finished,
            .caller (.ofList [.int 1, .int 3, .int 7])) := by
    decide +kernel
  obtain ⟨conclusion, concluded, shown⟩ := Option.map_eq_some_iff.1 ran
  obtain ⟨⟨script, isScript, -, agrees, -⟩, -⟩ :=
    reached_run_structured loaded (by decide) inside rfl rfl
  exact ⟨program, callee, loaded, inside, rfl, script, conclusion, isScript,
    (agrees conclusion).1 ⟨20, concluded⟩, shown⟩

end Structured

end StackTape
