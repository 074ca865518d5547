import StackTape.Proofs.Structured.Atoms

namespace StackTape

/-!
# Loops and calls in a text

What the brackets of a loop and the name of a function make of a flat run.  From either
bracket a true top cell leads to the start of the body, and otherwise the run goes on
behind the loop; a call is the flat run of the body and what follows from it.
-/

namespace Structured

/-- A script stands at a place in a text and is read there as it is. -/
structure Embedded
    (place : Place)
    (script : Script)
    (scope : Scope) : Prop where
  located : Located place script.text scope
  fits : script.Fits scope.following
  apart : scope.following.head? ≠ some '\x7b'

namespace Embedded

variable {place : Place}
variable {scope : Scope}

/-- A script of a whole text. -/
theorem whole
    {script : Script}
    {code : Text}
    (regular : Source.IsRegular code)
    (isScript : script.IsScriptOf code) :
    Embedded .start script ⟨code, [], []⟩ where
  located :=
    ⟨regular, by simp [Place.start, isScript.text], rfl, .outermost .nil⟩
  fits := isScript.fits
  apart := by simp

/-- The first atom of a script. -/
theorem first
    {first : Atom}
    {rest : Script}
    (embedded : Embedded place (.atom first rest) scope) :
    Located place first.text (scope.ahead rest.text) ∧
      first.Fits (scope.ahead rest.text).following := by
  cases embedded.fits with
  | atom firstFits restFits =>
      exact ⟨embedded.located.first restFits.nested, firstFits⟩

/-- What follows the first atom of a script. -/
theorem rest
    {first : Atom}
    {rest : Script}
    (embedded : Embedded place (.atom first rest) scope) :
    Embedded (place.past first.text) rest scope := by
  cases embedded.fits with
  | atom _ restFits =>
      exact ⟨embedded.located.past, restFits, embedded.apart⟩

/-- The first atom is a name exactly when a definition follows it. -/
theorem named
    {first : Atom}
    {rest : Script}
    (embedded : Embedded place (.atom first rest) scope) :
    rest.isDefinition = true ↔
      (scope.ahead rest.text).following.head? = some '\x7b' :=
  embedded.rest.fits.isDefinition_iff embedded.apart

/-- The body of a loop. -/
theorem loopBody
    {body rest : Script}
    (embedded : Embedded place (.loop body rest) scope) :
    Embedded place.inside body (scope.ahead rest.text).inside := by
  cases embedded.fits with
  | loop bodyFits restFits =>
      exact ⟨embedded.located.body restFits.nested, bodyFits,
        by simp [Scope.inside]⟩

/-- A loop and what follows it. -/
theorem loopCut
    {body rest : Script}
    (embedded : Embedded place (.loop body rest) scope) :
    Located place (body.loopText ++ rest.text) scope := by
  have located := embedded.located
  rw [Script.text] at located
  simpa [Script.loopText] using located

/-- What follows a loop. -/
theorem loopRest
    {body rest : Script}
    (embedded : Embedded place (.loop body rest) scope) :
    Embedded (place.past body.loopText) rest scope := by
  cases embedded.fits with
  | loop _ restFits =>
      exact ⟨embedded.loopCut.past, restFits, embedded.apart⟩

end Embedded

/-! ## Loops -/

section

variable {place : Place}
variable {scope : Scope}
variable {state : State}
variable {body rest : Script}

/-- The place of the closing bracket of a loop. -/
def Place.closing
    (place : Place)
    (body : Script) : Place :=
  place.past ('[' :: body.text)

@[simp] theorem isTopTrue_placed
    (code : Text)
    (cursor : Nat)
    (journal : Journal) :
    (state.placed code cursor journal).isTopTrue = state.isTopTrue :=
  rfl

/-- The closing bracket of a loop. -/
theorem Embedded.closing
    (embedded : Embedded place (.loop body rest) scope) :
    Located (place.closing body) (']' :: rest.text) scope := by
  have cut :
      Located place (('[' :: body.text) ++ (']' :: rest.text)) scope :=
    embedded.located
  exact cut.past

/-- The body of a loop resumes at its closing bracket. -/
theorem Embedded.resumes_through_iff
    {limit budget : Nat}
    {conclusion : Conclusion}
    (embedded : Embedded place (.loop body rest) scope) :
    (Ending.through state).Resumes limit budget
        (scope.ahead rest.text).inside conclusion ↔
      flat limit budget scope.code (place.closing body).index state =
        some conclusion := by
  have cut :
      Located place (('[' :: body.text) ++ (']' :: rest.text)) scope :=
    embedded.located
  rw [Place.closing, cut.index_past]
  rfl

/-- A body that leaves its own loop resumes behind it. -/
theorem Embedded.resumes_leaving_iff
    {limit budget : Nat}
    {conclusion : Conclusion}
    (embedded : Embedded place (.loop body rest) scope) :
    (Ending.leaving 0 state).Resumes limit budget
        (scope.ahead rest.text).inside conclusion ↔
      flat limit budget scope.code (place.past body.loopText).index state =
        some conclusion := by
  rw [embedded.loopCut.index_past]
  rfl

/-- A true top cell leads from the opening bracket into the body. -/
theorem flat_opening_of_true
    (limit budget : Nat)
    (embedded : Embedded place (.loop body rest) scope)
    (tidy : state.Tidy)
    (isTrue : state.isTopTrue = true) :
    flat limit (budget + 1) scope.code place.index state =
      flat limit budget scope.code place.inside.index state := by
  have located := embedded.located
  have nameless := located.head?_ne_brace [] rfl
  have top :
      (state.placed scope.code place.index (.blank .error)).isTopTrue =
        true :=
    isTrue
  have ran :=
    runInstruction_placed located (tidy.unbound rfl) nameless rfl limit
      (Invocation.run limit budget)
  rw [Invocation.perform, Invocation.enterLoop, if_pos top] at ran
  rw [flat_succ_of_done located.getElem?_index ran]
  simp [Place.inside, Place.index]

/-- Any other top cell leads to the closing bracket. -/
theorem flat_opening_of_false
    (limit budget : Nat)
    (embedded : Embedded place (.loop body rest) scope)
    (tidy : state.Tidy)
    (isFalse : state.isTopTrue = false) :
    flat limit (budget + 1) scope.code place.index state =
      flat limit budget scope.code (place.closing body).index state := by
  have located := embedded.located
  have nameless := located.head?_ne_brace [] rfl
  have top :
      ¬(state.placed scope.code place.index (.blank .error)).isTopTrue =
        true := by
    simp [isFalse]
  have partner :
      (state.placed scope.code place.index (.blank .error)).partner? '[' ']' =
        some (place.index + 1 + body.text.length) :=
    partner?_placed .squares embedded.loopBody.fits.nested
      (embedded.loopCut.first embedded.loopRest.fits.nested) state
      (.blank .error)
  have ran :=
    runInstruction_placed located (tidy.unbound rfl) nameless rfl limit
      (Invocation.run limit budget)
  rw [Invocation.perform, Invocation.enterLoop, if_neg top, partner] at ran
  rw [flat_succ_of_done located.getElem?_index ran]
  congr 1
  simp [Place.closing, Place.past, Place.index]
  omega

/-- A true top cell leads from the closing bracket into the body. -/
theorem flat_closing_of_true
    (limit budget : Nat)
    (embedded : Embedded place (.loop body rest) scope)
    (tidy : state.Tidy)
    (isTrue : state.isTopTrue = true) :
    flat limit (budget + 1) scope.code (place.closing body).index state =
      flat limit budget scope.code place.inside.index state := by
  have located := embedded.closing
  have nameless := located.head?_ne_brace [] rfl
  have top :
      (state.placed scope.code (place.closing body).index
          (.blank .error)).isTopTrue =
        true :=
    isTrue
  have partner :
      Source.partnerBefore? '[' ']'
          (state.placed scope.code (place.closing body).index
            (.blank .error)).code
          (state.placed scope.code (place.closing body).index
            (.blank .error)).cursor =
        some place.index := by
    have found :=
      Source.partnerBefore?_of_nested .squares
        embedded.loopBody.fits.nested place.before
        (']' :: (rest.text ++ scope.following))
    have whole :
        scope.code =
          place.before ++ '[' ::
            (body.text ++ ']' :: (rest.text ++ scope.following)) := by
      simp [embedded.located.shape, Script.text]
    have index :
        (place.closing body).index =
          place.before.length + 1 + body.text.length := by
      simp only [Place.closing, Place.past, Place.index, List.length_append,
        List.length_cons]
      omega
    rw [← whole, ← index] at found
    exact found
  have ran :=
    runInstruction_placed located (tidy.unbound rfl) nameless rfl limit
      (Invocation.run limit budget)
  rw [Invocation.perform, Invocation.repeatLoop, if_pos top, partner] at ran
  rw [flat_succ_of_done located.getElem?_index ran]
  simp [Place.inside, Place.index]

/-- Any other top cell leads behind the loop. -/
theorem flat_closing_of_false
    (limit budget : Nat)
    (embedded : Embedded place (.loop body rest) scope)
    (tidy : state.Tidy)
    (isFalse : state.isTopTrue = false) :
    flat limit (budget + 1) scope.code (place.closing body).index state =
      flat limit budget scope.code (place.past body.loopText).index
        state := by
  have located := embedded.closing
  have nameless := located.head?_ne_brace [] rfl
  have top :
      ¬(state.placed scope.code (place.closing body).index
          (.blank .error)).isTopTrue =
        true := by
    simp [isFalse]
  have ran :=
    runInstruction_placed located (tidy.unbound rfl) nameless rfl limit
      (Invocation.run limit budget)
  rw [Invocation.perform, Invocation.repeatLoop, if_neg top] at ran
  rw [flat_succ_of_done located.getElem?_index ran]
  congr 1
  simp [Place.closing, Place.past, Place.index, Script.loopText]
  omega

/-- A loop whose top cell is not true leads behind itself. -/
theorem leads_skipped
    (limit : Nat)
    (embedded : Embedded place (.loop body rest) scope)
    (tidy : state.Tidy)
    (isFalse : state.isTopTrue = false) :
    Leads limit (scope.ahead rest.text) place.index state
      (.through state) := by
  have closed :
      Leads limit (scope.ahead rest.text) (place.closing body).index state
        (.through state) := by
    refine .of_step fun budget conclusion => ?_
    rw [Scope.code_ahead,
      flat_closing_of_false limit budget embedded tidy isFalse,
      embedded.loopCut.index_past]
    rfl
  refine closed.after_step fun budget => ?_
  rw [Scope.code_ahead]
  exact flat_opening_of_false limit budget embedded tidy isFalse

/-- With a true top cell both brackets of a loop lead on alike. -/
theorem flat_closing_eq_opening
    (limit budget : Nat)
    (embedded : Embedded place (.loop body rest) scope)
    (tidy : state.Tidy)
    (isTrue : state.isTopTrue = true) :
    flat limit budget scope.code (place.closing body).index state =
      flat limit budget scope.code place.index state := by
  cases budget with
  | zero =>
      rfl
  | succ budget =>
      rw [flat_closing_of_true limit budget embedded tidy isTrue,
        flat_opening_of_true limit budget embedded tidy isTrue]

end

/-! ## Calls -/

section

variable {place : Place}
variable {scope : Scope}
variable {state : State}
variable {name : Char}
variable {body : Text}

/-- The flat run behind a call, once the called body has come out. -/
def afterCall
    (limit budget : Nat)
    (code : Text)
    (place : Place)
    (name : Char)
    (state : State) : Conclusion → Option Conclusion
  | ⟨none, _, inside⟩ =>
      flat limit budget code (place.index + 1) (state.leave inside)
  | ⟨some failure, _, inside⟩ =>
      some
        ⟨some (place.failure name (failure.raisedBy name)), none,
          state.leave inside⟩

/-- A greater budget does not change what follows a call. -/
theorem afterCall_eq_of_le
    {limit budget other : Nat}
    {code : Text}
    {inner conclusion : Conclusion}
    (concluded :
      afterCall limit budget code place name state inner = some conclusion)
    (greater : budget ≤ other) :
    afterCall limit other code place name state inner = some conclusion := by
  obtain ⟨_ | failure, halt, inside⟩ := inner
  · exact flat_eq_of_le concluded greater
  · exact concluded

/-- The place behind a name. -/
theorem Place.index_past_singleton :
    (place.past [name]).index = place.index + 1 := by
  simp [Place.past, Place.index]

/-- A call is the flat run of the body and what is behind it. -/
theorem flat_succ_of_call
    (limit budget : Nat)
    (located : Located place [name] scope)
    (bound : state.functions.find? name = some body)
    (shallow : state.depth < limit) :
    flat limit (budget + 1) scope.code place.index state =
      (flat limit budget body 0 state.enter).bind
        (afterCall limit budget scope.code place name state) := by
  have found :
      (state.placed scope.code place.index
          (.blank .error)).functions.find? name =
        some body :=
    bound
  have entered :
      conclusion?
          (Invocation.run limit budget
            ((state.placed scope.code place.index (.blank .error)).enter
              body)) =
        flat limit budget body 0 state.enter :=
    conclusion?_run rfl
  have within :
      ¬limit ≤
        (state.placed scope.code place.index (.blank .error)).depth :=
    Nat.not_le_of_lt shallow
  rw [flat_succ limit budget located.getElem?_index, ← entered,
    Invocation.runInstruction, found]
  simp only [Invocation.call, if_neg within]
  cases
    Invocation.run limit budget
      ((state.placed scope.code place.index (.blank .error)).enter body) with
  | done callee =>
      exact conclusion?_run rfl
  | failed failure callee =>
      rfl
  | unfinished =>
      rfl

/-- At the limit a call fails. -/
theorem leads_of_call_too_deep
    {limit : Nat}
    (located : Located place [name] scope)
    (bound : state.functions.find? name = some body)
    (deep : limit ≤ state.depth) :
    Leads limit scope place.index state
      (.failed (place.failure name (.recursionLimit limit)) state) := by
  have ran
      (runBody : Invocation → Outcome Failure Invocation) :
      Invocation.runInstruction limit runBody
          (state.placed scope.code place.index (.blank .error)) name =
        .failed (.recursionLimit limit)
          (state.placed scope.code place.index (.blank .error)) := by
    have found :
        (state.placed scope.code place.index
            (.blank .error)).functions.find? name =
          some body :=
      bound
    rw [Invocation.runInstruction, found]
    exact if_pos deep
  exact leads_of_follows located.getElem?_index ran .failed

/-- The conclusion of a whole text is that of its script's ending. -/
theorem resumes_whole_iff
    {limit : Nat}
    {code : Text}
    {ending : Ending}
    {conclusion : Conclusion} :
    (∃ budget, ending.Resumes limit budget ⟨code, [], []⟩ conclusion) ↔
      ending.conclude code.length = conclusion := by
  have output (state : State) :
      (∃ budget, flat limit budget code code.length state = some conclusion) ↔
        state.output code.length = conclusion := by
    constructor
    · rintro ⟨_ | budget, concluded⟩
      · cases concluded
      · rw [flat_end] at concluded
        exact Option.some_inj.1 concluded
    · rintro rfl
      exact ⟨1, flat_end limit 0 code state⟩
  cases ending with
  | through state =>
      exact output state
  | leaving further state =>
      simpa [Ending.Resumes, Ending.conclude] using output state
  | stopped state =>
      simp [Ending.Resumes, Ending.conclude]
  | failed failure state =>
      simp [Ending.Resumes, Ending.conclude]

end

end Structured

end StackTape
