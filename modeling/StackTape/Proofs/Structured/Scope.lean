import StackTape.Proofs.Structured.Flat

namespace StackTape

/-!
# Places in a text

A part of a text has something behind it, and behind each of the loops around it.  An
ending of the part tells where the flat run goes on: behind the part, behind one of
the loops, or nowhere.  `Leads` says that a flat run comes out as it goes on after an
ending; it is shown step by step and never speaks of how many steps there are.
-/

namespace Source

/-- The texts behind the loops around a place, for what follows there. -/
inductive Encloses : Text → List Text → Prop where
  | outermost
      {following : Text}
      (nested : Nested following) :
      Encloses following []
  | loop
      {inside following : Text}
      {exits : List Text}
      (nested : Nested inside)
      (outer : Encloses following exits) :
      Encloses (inside ++ ']' :: following) (following :: exits)

/-- A well-nested text in front does not change the loops around. -/
theorem Encloses.prepend
    {text following : Text}
    {exits : List Text}
    (encloses : Encloses following exits)
    (nested : Nested text) :
    Encloses (text ++ following) exits := by
  cases encloses with
  | outermost followingNested =>
      exact .outermost (nested.append followingNested)
  | loop insideNested outer =>
      rw [← List.append_assoc]
      exact .loop (nested.append insideNested) outer

end Source

/-- Leaving loops goes behind as many of them as there are, up to the count. -/
theorem Invocation.cursorOutside_of_encloses
    {following : Text}
    {exits : List Text}
    (encloses : Source.Encloses following exits)
    (before : Text)
    (count cursor : Nat)
    (place : cursor + 1 = before.length) :
    cursorOutside (before ++ following) count cursor + 1 =
      (before ++ following).length -
        ((following :: exits).getD (min count exits.length) []).length := by
  induction encloses generalizing before count cursor with
  | @outermost following nested =>
      have stays :
          cursorOutside (before ++ following) count cursor = cursor := by
        cases count with
        | zero =>
            rfl
        | succ count =>
            rw [cursorOutside, place,
              Source.partnerAfter?_eq_none_of_nested .squares nested]
      rw [stays]
      simp [place]
  | @loop inside following exits nested _ inductionHypothesis =>
      cases count with
      | zero =>
          simp [cursorOutside, place]
      | succ count =>
          have found :=
            Source.partnerAfter?_of_nested .squares nested before following
          rw [List.append_assoc, ← place] at found
          have onward :=
            inductionHypothesis (before ++ inside ++ [']']) count
              (cursor + 1 + inside.length) (by simp [← place]; omega)
          have shape :
              before ++ inside ++ [']'] ++ following =
                before ++ (inside ++ ']' :: following) := by
            simp
          rw [shape] at onward
          rw [cursorOutside, found]
          simpa [Nat.succ_min_succ] using onward

/-- Taking a count off fails alike or gives the same count, cut off or whole. -/
theorem Work.takeCount_cases
    (bench : Bench) :
    (∃ fault after,
        (do ofExcept (← takeTop).integer : Work Int) bench =
            .error fault after ∧
          (do ofExcept (← takeTop).clampedInteger : Work Int) bench =
            .error fault after) ∨
      ∃ count after,
        (do ofExcept (← takeTop).integer : Work Int) bench =
            .ok count after ∧
          (do ofExcept (← takeTop).clampedInteger : Work Int) bench =
            .ok (Cell.clamped count) after := by
  have taken := takeTop_apply bench
  cases popped : bench.stack.pop? with
  | none =>
      rw [popped] at taken
      exact .inl ⟨.emptyStack .pop, bench, by simp [taken], by simp [taken]⟩
  | some pair =>
      obtain ⟨top, rest⟩ := pair
      rw [popped] at taken
      cases held : top.integer with
      | error fault =>
          have clamped : top.clampedInteger = .error fault := by
            rw [Cell.clampedInteger, held]
            rfl
          exact .inl ⟨fault, { bench with stack := rest },
            by simp [taken, held], by simp [taken, clamped]⟩
      | ok count =>
          have clamped : top.clampedInteger = .ok (Cell.clamped count) := by
            rw [Cell.clampedInteger, held]
            rfl
          exact .inr ⟨count, { bench with stack := rest },
            by simp [taken, held], by simp [taken, clamped]⟩

namespace Structured

/-- A text, what follows a part of it, and what follows the loops around the part. -/
structure Scope where
  code : Text
  following : Text
  exits : List Text

namespace Scope

/-- The scope of what stands in front of a further text. -/
def ahead
    (scope : Scope)
    (text : Text) : Scope :=
  { scope with following := text ++ scope.following }

@[simp] theorem code_ahead
    (scope : Scope)
    (text : Text) :
    (scope.ahead text).code = scope.code :=
  rfl

/-- The scope of a loop's body, when the loop is what stands in this scope. -/
def inside (scope : Scope) : Scope :=
  { scope with
    following := ']' :: scope.following
    exits := scope.following :: scope.exits }

end Scope

/-- A part of a text stands at a place. -/
structure Located
    (place : Place)
    (part : Text)
    (scope : Scope) : Prop where
  regular : Source.IsRegular scope.code
  shape : scope.code = place.before ++ (part ++ scope.following)
  loops : place.loops = scope.exits.length
  encloses : Source.Encloses scope.following scope.exits

namespace Located

variable {place : Place}
variable {scope : Scope}

/-- The first of two parts. -/
theorem first
    {part rest : Text}
    (located : Located place (part ++ rest) scope)
    (nested : Source.Nested rest) :
    Located place part (scope.ahead rest) where
  regular := located.regular
  shape := by
    rw [Scope.ahead, located.shape]
    simp
  loops := located.loops
  encloses := located.encloses.prepend nested

/-- The second of two parts. -/
theorem past
    {part rest : Text}
    (located : Located place (part ++ rest) scope) :
    Located (place.past part) rest scope where
  regular := located.regular
  shape := by
    rw [Place.past, located.shape]
    simp
  loops := located.loops
  encloses := located.encloses

/-- The body of a loop. -/
theorem body
    {part rest : Text}
    (located : Located place ('[' :: (part ++ ']' :: rest)) scope)
    (nested : Source.Nested rest) :
    Located place.inside part (scope.ahead rest).inside where
  regular := located.regular
  shape := by
    simp [Scope.ahead, Scope.inside, Place.inside, located.shape]
  loops := by
    simp [Scope.ahead, Scope.inside, Place.inside, located.loops]
  encloses := .loop .nil (located.encloses.prepend nested)

/-- The part ends where what follows begins. -/
theorem index_add_length
    {part : Text}
    (located : Located place part scope) :
    place.index + part.length =
      scope.code.length - scope.following.length := by
  simp [Place.index, located.shape]
  omega

/-- The second of two parts begins where it does. -/
theorem index_past
    {part rest : Text}
    (located : Located place (part ++ rest) scope) :
    (place.past part).index =
      scope.code.length - (scope.ahead rest).following.length := by
  simp [Place.past, Place.index, Scope.ahead, located.shape]
  omega

/-- The first character of the part. -/
theorem getElem?_index
    {c : Char}
    {rest : Text}
    (located : Located place (c :: rest) scope) :
    scope.code[place.index]? = some c := by
  simp [Place.index, located.shape]

/-- Behind a delimiter stands no brace. -/
theorem head?_ne_brace
    (front : Text)
    {rest : Text}
    {c : Char}
    (located : Located place (front ++ c :: rest) scope)
    (delimiter : Source.isDelimiter c = true) :
    (rest ++ scope.following).head? ≠ some '\x7b' := by
  intro brace
  obtain ⟨after, behind⟩ := List.head?_eq_some_iff.1 brace
  have regular := located.regular
  have whole :
      scope.code = place.before ++ front ++ c :: '\x7b' :: after := by
    rw [← behind, located.shape]
    simp
  rw [whole] at regular
  rw [regular.name_plain] at delimiter
  cases delimiter

end Located

/-- Every function has a plain name and a regular body. -/
def State.Tidy (state : State) : Prop :=
  ∀ name body,
    state.functions.find? name = some body →
    Source.isDelimiter name = false ∧ Source.IsRegular body

/-- No function has the name of a delimiter. -/
theorem State.Tidy.unbound
    {state : State}
    (tidy : state.Tidy)
    {c : Char}
    (delimiter : Source.isDelimiter c = true) :
    state.functions.find? c = none := by
  cases found : state.functions.find? c with
  | none =>
      rfl
  | some body =>
      rw [(tidy c body found).1] at delimiter
      cases delimiter

/-! ## Where an ending leads -/

/-- How a flat run goes on after an ending, with a budget left. -/
def Ending.Resumes
    (limit budget : Nat)
    (scope : Scope) : Ending → Conclusion → Prop
  | .through state, conclusion =>
      flat limit budget scope.code
          (scope.code.length - scope.following.length) state =
        some conclusion
  | .leaving further state, conclusion =>
      flat limit budget scope.code
          (scope.code.length - (scope.exits.getD further []).length) state =
        some conclusion
  | .stopped state, conclusion =>
      ⟨none, some .terminated, state⟩ = conclusion
  | .failed failure state, conclusion =>
      ⟨some failure, none, state⟩ = conclusion

/-- A flat run comes out as it goes on after an ending. -/
structure Leads
    (limit : Nat)
    (scope : Scope)
    (cursor : Nat)
    (state : State)
    (ending : Ending) : Prop where
  forward
      {budget : Nat}
      {conclusion : Conclusion} :
      flat limit budget scope.code cursor state = some conclusion →
      ∃ smaller,
        smaller < budget ∧ ending.Resumes limit smaller scope conclusion
  backward
      {budget : Nat}
      {conclusion : Conclusion} :
      ending.Resumes limit budget scope conclusion →
      ∃ larger, flat limit larger scope.code cursor state = some conclusion

namespace Leads

variable {limit : Nat}
variable {scope : Scope}
variable {cursor : Nat}
variable {state : State}
variable {ending : Ending}

/-- One step leads to an ending. -/
theorem of_step
    (step :
      ∀ budget conclusion,
        flat limit (budget + 1) scope.code cursor state = some conclusion ↔
          ending.Resumes limit budget scope conclusion) :
    Leads limit scope cursor state ending where
  forward := by
    intro budget conclusion concluded
    cases budget with
    | zero =>
        cases concluded
    | succ budget =>
        exact ⟨budget, Nat.lt_succ_self budget,
          (step budget conclusion).1 concluded⟩
  backward := by
    intro budget conclusion resumed
    exact ⟨budget + 1, (step budget conclusion).2 resumed⟩

/-- One step leads to where an ending follows. -/
theorem after_step
    {next : Nat}
    {after : State}
    (leads : Leads limit scope next after ending)
    (step :
      ∀ budget,
        flat limit (budget + 1) scope.code cursor state =
          flat limit budget scope.code next after) :
    Leads limit scope cursor state ending where
  forward := by
    intro budget conclusion concluded
    cases budget with
    | zero =>
        cases concluded
    | succ budget =>
        rw [step] at concluded
        obtain ⟨smaller, less, resumed⟩ := leads.forward concluded
        exact ⟨smaller, Nat.lt_succ_of_lt less, resumed⟩
  backward := by
    intro budget conclusion resumed
    obtain ⟨larger, concluded⟩ := leads.backward resumed
    exact ⟨larger + 1, by rw [step, concluded]⟩

end Leads

/-- How an instruction comes out in a text, and the ending that this is. -/
inductive Follows
    (scope : Scope)
    (place : Place)
    (sign : Char) : Outcome Fault Invocation → Ending → Prop where
  | through
      {after : State}
      {position : Nat}
      {journal : Journal}
      (lands :
        position + 1 = scope.code.length - scope.following.length) :
      Follows scope place sign
        (.done (after.placed scope.code position journal)) (.through after)
  | leaving
      {further : Nat}
      {after : State}
      {position : Nat}
      {journal : Journal}
      (lands :
        position + 1 =
          scope.code.length - (scope.exits.getD further []).length) :
      Follows scope place sign
        (.done (after.placed scope.code position journal))
        (.leaving further after)
  | stopped
      {after : State}
      {position : Nat}
      {journal : Journal} :
      Follows scope place sign
        (.done
          { after.placed scope.code position journal with
            halt := some .terminated })
        (.stopped after)
  | failed
      {fault : Fault}
      {after : State}
      {position : Nat}
      {journal : Journal} :
      Follows scope place sign
        (.failed fault (after.placed scope.code position journal))
        (.failed (place.failure sign fault) after)

/-- An instruction that leaves the cursor at the end of its part goes through. -/
theorem Follows.of_done
    {scope : Scope}
    {place : Place}
    {sign : Char}
    {outcome : Outcome Fault Invocation}
    {after : State}
    {position : Nat}
    {journal : Journal}
    (lands : position + 1 = scope.code.length - scope.following.length)
    (ran : outcome = .done (after.placed scope.code position journal)) :
    Follows scope place sign outcome (.through after) := by
  rw [ran]
  exact .through lands

/-- An instruction that calls nothing leads to its ending. -/
theorem leads_of_follows
    {limit : Nat}
    {scope : Scope}
    {place : Place}
    {sign : Char}
    {state : State}
    {outcome : Outcome Fault Invocation}
    {ending : Ending}
    (present : scope.code[place.index]? = some sign)
    (ran :
      ∀ runBody,
        Invocation.runInstruction limit runBody
            (state.placed scope.code place.index (.blank .error)) sign =
          outcome)
    (follows : Follows scope place sign outcome ending) :
    Leads limit scope place.index state ending := by
  refine .of_step fun budget conclusion => ?_
  cases follows with
  | through lands =>
      rw [flat_succ_of_done present (ran _), lands]
      rfl
  | leaving lands =>
      rw [flat_succ_of_done present (ran _), lands]
      rfl
  | stopped =>
      rw [flat_succ limit budget present, ran]
      simp only [Invocation.advance, Option.isSome_some, if_true]
      rw [Invocation.run_of_halted limit budget rfl]
      exact Option.some_inj
  | failed =>
      rw [flat_succ limit budget present, ran]
      exact Option.some_inj

end Structured

end StackTape
