import StackTape.Proofs.Structured.Scope

namespace StackTape

/-!
# Atoms in a text

What an atom does where it stands in a text.  Most atoms take one step; a number and a
definition take a second one over their closing bracket.  What an atom does to the
functions is followed as well, since a delimiter must never become a name.
-/

namespace Structured

/-! ## Instructions -/

section

variable {scope : Scope}
variable {place : Place}
variable {state : State}

/-- Work on the bench comes out alike, and then what goes on does. -/
theorem follows_working
    {α : Type}
    {sign : Char}
    {cursor : Nat}
    {work : Work α}
    {goOn : α → Invocation → Outcome Fault Invocation}
    {goOnAs : α → State → Ending}
    (onward :
      ∀ result after journal,
        Follows scope place sign
          (goOn result (after.placed scope.code cursor journal))
          (goOnAs result after)) :
    Follows scope place sign
      ((state.placed scope.code cursor (.blank .error)).working work goOn)
      (state.working place sign work goOnAs) := by
  cases worked : work state.bench with
  | ok result bench =>
      rw [Invocation.working_of_ok worked, State.working, worked]
      exact onward result (state.withBench bench) bench.journal
  | error fault bench =>
      have failed :
          (state.placed scope.code cursor (.blank .error)).working work goOn =
            .failed fault
              ((state.withBench bench).placed scope.code cursor
                bench.journal) :=
        Invocation.working_of_error worked
      rw [failed, State.working, worked]
      exact .failed

/-- A count that is cut off leaves as many loops as the whole count. -/
theorem min_clamped
    (count : Int)
    (loops : Nat) :
    min (Cell.clamped count).toNat loops = loopsLeft count loops := by
  simp only [loopsLeft, Cell.clamped, Cell.greatestCount]
  omega

theorem follows_leaveLoops
    (located : Located place ['$'] scope) :
    Follows scope place '$'
      (state.placed scope.code place.index (.blank .error)).leaveLoops
      (state.leaveLoops place) := by
  have whole : scope.code = (place.before ++ ['$']) ++ scope.following := by
    simp [located.shape]
  have outside (count : Nat) :
      Invocation.cursorOutside scope.code count place.index + 1 =
        scope.code.length -
          ((scope.following :: scope.exits).getD
            (min count scope.exits.length) []).length := by
    have left :=
      Invocation.cursorOutside_of_encloses located.encloses
        (place.before ++ ['$']) count place.index (by simp [Place.index])
    rwa [← whole] at left
  rcases Work.takeCount_cases state.bench with
    ⟨fault, bench, exact, clamped⟩ | ⟨count, bench, exact, clamped⟩
  · have failed :
        (state.placed scope.code place.index (.blank .error)).leaveLoops =
          .failed fault
            ((state.withBench bench).placed scope.code place.index
              bench.journal) :=
      Invocation.working_of_error clamped
    rw [failed, State.leaveLoops, State.working, exact]
    exact .failed
  · have left :
        (state.placed scope.code place.index (.blank .error)).leaveLoops =
          .done
            ((state.withBench bench).placed scope.code
              (Invocation.cursorOutside scope.code (Cell.clamped count).toNat
                place.index)
              bench.journal) :=
      Invocation.working_of_ok clamped
    have lands := outside (Cell.clamped count).toNat
    rw [min_clamped, ← located.loops] at lands
    rw [left, State.leaveLoops, State.working, exact]
    cases counted : loopsLeft count place.loops with
    | zero =>
        rw [counted] at lands
        simp only [counted]
        exact .through lands
    | succ further =>
        rw [counted] at lands
        simp only [counted]
        exact .leaving lands

theorem follows_load
    (located : Located place ['l'] scope) :
    Follows scope place 'l'
      (state.placed scope.code place.index (.blank .error)).load
      (state.load place) := by
  have lands := located.index_add_length
  have backup :
      (state.placed scope.code place.index (.blank .error)).backup =
        state.backup :=
    rfl
  unfold Invocation.load State.load
  rw [backup]
  cases state.backup with
  | empty =>
      exact .failed
  | cell kept =>
      exact .of_done lands rfl
  | column kept =>
      exact .of_done lands rfl

theorem follows_store
    (located : Located place ['s'] scope)
    (whole : Bool) :
    Follows scope place 's'
      ((state.placed scope.code place.index (.blank .error)).perform whole
        .store)
      (if whole then state.storeAll place else .through state.storeTop) := by
  have lands := located.index_add_length
  cases whole with
  | true =>
      rw [if_pos rfl, State.storeAll, Invocation.perform, if_pos rfl,
        Invocation.storeAll]
      refine follows_working fun _ _ _ => ?_
      exact .of_done lands rfl
  | false =>
      have stack :
          (state.placed scope.code place.index (.blank .error)).stack =
            state.stack :=
        rfl
      simp only [Invocation.perform, Bool.false_eq_true, if_false,
        Invocation.storeTop, State.storeTop, stack]
      cases state.stack.peek? <;> exact .of_done lands rfl

/-- What an instruction does that is no delimiter. -/
theorem follows_perform
    {c : Char}
    {opcode : Opcode}
    (located : Located place [c] scope)
    (fits : (Atom.instruction c).Fits scope.following)
    (known : Opcode.ofChar? c = some opcode) :
    Follows scope place c
      ((state.placed scope.code place.index (.blank .error)).perform
        (place.previous? == some '&') opcode)
      (state.perform place c opcode) := by
  have lands := located.index_add_length
  obtain ⟨neutral, noQuote, last⟩ := fits
  cases opcode with
  | task task =>
      exact follows_working fun _ _ _ => .of_done lands rfl
  | number | loopStart | loopEnd | define =>
      rw [Opcode.eq_of_sign? known rfl] at neutral
      cases neutral
  | string =>
      exact (noQuote (Opcode.eq_of_sign? known rfl)).elim
  | character =>
      have nothing : scope.following = [] :=
        last (Opcode.eq_of_sign? known rfl)
      have alone :
          (state.placed scope.code place.index (.blank .error)).next? =
            none := by
        simp [Invocation.next?, State.placed, located.shape, nothing,
          Place.index]
      rw [Invocation.perform, Invocation.pushCharacter, alone]
      exact .through lands
  | leaveLoops =>
      cases Opcode.eq_of_sign? known rfl
      exact follows_leaveLoops located
  | load =>
      cases Opcode.eq_of_sign? known rfl
      exact follows_load located
  | store =>
      cases Opcode.eq_of_sign? known rfl
      exact follows_store located _
  | moveLeft =>
      exact .of_done lands rfl
  | moveRight =>
      exact .of_done lands rfl
  | terminate =>
      exact .stopped

theorem behindCursor_placed
    {c : Char}
    {rest : Text}
    (located : Located place (c :: rest) scope)
    (journal : Journal) :
    (state.placed scope.code place.index journal).behindCursor =
      rest ++ scope.following := by
  have whole :
      scope.code = (place.before ++ [c]) ++ (rest ++ scope.following) := by
    simp [located.shape]
  rw [Invocation.behindCursor, State.placed, whole]
  exact List.drop_left' (by simp [Place.index])

theorem next?_placed
    {c : Char}
    {rest : Text}
    (located : Located place (c :: rest) scope)
    (journal : Journal) :
    (state.placed scope.code place.index journal).next? =
      (rest ++ scope.following).head? := by
  rw [Invocation.next?_eq_head?, behindCursor_placed located]

theorem previous?_placed
    {part : Text}
    (located : Located place part scope)
    (state : State)
    (journal : Journal) :
    (state.placed scope.code place.index journal).previous? =
      place.previous? :=
  Invocation.previous?_eq_getLast? located.shape rfl

/-- The partner of a bracket that opens the part. -/
theorem partner?_placed
    {opening closing : Char}
    (kind : Source.Pair opening closing)
    {inside : Text}
    (nested : Source.Nested inside)
    (located :
      Located place (opening :: (inside ++ [closing])) scope)
    (state : State)
    (journal : Journal) :
    (state.placed scope.code place.index journal).partner? opening closing =
      some (place.index + 1 + inside.length) := by
  have whole :
      scope.code =
        (place.before ++ [opening]) ++ inside ++
          closing :: scope.following := by
    simp [located.shape]
  have found :=
    Source.partnerAfter?_of_nested kind nested (place.before ++ [opening])
      scope.following
  rw [← whole] at found
  simp only [List.length_append, List.length_singleton] at found
  exact found

/-- What an instruction does that calls nothing and is no name. -/
theorem runInstruction_placed
    {c : Char}
    {rest : Text}
    {opcode : Opcode}
    (located : Located place (c :: rest) scope)
    (unbound : state.functions.find? c = none)
    (nameless : (rest ++ scope.following).head? ≠ some '\x7b')
    (known : Opcode.ofChar? c = some opcode)
    (limit : Nat)
    (runBody : Invocation → Outcome Failure Invocation) :
    Invocation.runInstruction limit runBody
        (state.placed scope.code place.index (.blank .error)) c =
      (state.placed scope.code place.index (.blank .error)).perform
        (place.previous? == some '&') opcode := by
  rw [← previous?_placed located state (.blank .error)]
  apply Invocation.runInstruction_of_opcode unbound _ known
  rwa [next?_placed located]

end

/-! ## Atoms -/

section

variable {scope : Scope}
variable {place : Place}
variable {state : State}

/-- An instruction that does nothing. -/
theorem leads_idle
    (limit : Nat)
    {c : Char}
    (located : Located place [c] scope)
    (ran :
      ∀ runBody,
        Invocation.runInstruction limit runBody
            (state.placed scope.code place.index (.blank .error)) c =
          .done (state.placed scope.code place.index (.blank .error))) :
    Leads limit scope place.index state (.through state) :=
  leads_of_follows located.getElem?_index ran
    (.through located.index_add_length)

theorem leads_instruction
    (limit : Nat)
    {c : Char}
    {isName : Bool}
    (located : Located place [c] scope)
    (fits : (Atom.instruction c).Fits scope.following)
    (unbound : state.functions.find? c = none)
    (named : isName = true ↔ scope.following.head? = some '\x7b') :
    Leads limit scope place.index state
      ((Atom.instruction c).perform place isName state) := by
  have following :
      (state.placed scope.code place.index (.blank .error)).next? =
        scope.following.head? :=
    next?_placed located _
  have found :
      (state.placed scope.code place.index
          (.blank .error)).functions.find? c =
        none :=
    unbound
  cases isName with
  | true =>
      refine leads_idle limit located fun runBody => ?_
      rw [Invocation.runInstruction, found]
      simp [following, named.1 rfl]
  | false =>
      have nameless : scope.following.head? ≠ some '\x7b' := by
        simpa using named
      cases known : Opcode.ofChar? c with
      | none =>
          simp only [Atom.perform, known, Bool.false_eq_true, if_false]
          refine leads_idle limit located fun runBody => ?_
          rw [Invocation.runInstruction, found]
          simp [following, nameless, known]
      | some opcode =>
          simp only [Atom.perform, known, Bool.false_eq_true, if_false]
          exact leads_of_follows located.getElem?_index
            (runInstruction_placed located unbound nameless known limit)
            (follows_perform located fits known)

theorem leads_string
    (limit : Nat)
    {content : Text}
    (located : Located place (Atom.string content).text scope)
    (fits : (Atom.string content).Fits scope.following)
    (tidy : state.Tidy) :
    Leads limit scope place.index state
      (.through (state.pushContent content)) := by
  have lands := located.index_add_length
  have nameless := located.head?_ne_brace [] rfl
  cases fits with
  | string _ stays closed =>
      have read :
          Source.readString false
              (state.placed scope.code place.index
                (.blank .error)).behindCursor =
            ((Source.decoded content).map Source.disclose,
              some content.length) := by
        rw [behindCursor_placed located, List.append_assoc,
          Source.readString_append stays closed _ (.inl rfl)]
        simp [Source.readString]
      have pushed :
          (state.placed scope.code place.index (.blank .error)).pushString =
            (state.pushContent content).placed scope.code
              (place.index + 1 + content.length) (.blank .error) := by
        rw [Invocation.pushString, read]
        rfl
      refine leads_of_follows located.getElem?_index
        (runInstruction_placed located (tidy.unbound rfl) nameless rfl limit)
        (.of_done ?_ (congrArg Outcome.done pushed))
      simp only [Atom.text, List.length_cons, List.length_append,
        List.length_nil] at lands
      omega

theorem leads_openQuote
    (limit : Nat)
    {rest : Text}
    (located : Located place (Atom.openQuote rest).text scope)
    (fits : (Atom.openQuote rest).Fits scope.following)
    (tidy : state.Tidy) :
    Leads limit scope place.index state
      (.through (state.pushContent rest)) := by
  have lands := located.index_add_length
  have nameless := located.head?_ne_brace [] rfl
  generalize same : scope.following = following at fits
  cases fits with
  | openQuote _ stays =>
      obtain ⟨last, left⟩ := Source.exists_mode_of_stringLength? stays
      have read :
          Source.readString false
              (state.placed scope.code place.index
                (.blank .error)).behindCursor =
            ((Source.decoded rest).map Source.disclose, none) := by
        have whole :=
          Source.readString_append stays left [] (.inr rfl)
        rw [behindCursor_placed located, same]
        simpa [Source.readString] using whole
      have pushed :
          (state.placed scope.code place.index (.blank .error)).pushString =
            (state.pushContent rest).placed scope.code place.index
              (.blank .error) := by
        rw [Invocation.pushString, read]
        rfl
      exact leads_of_follows located.getElem?_index
        (runInstruction_placed located (tidy.unbound rfl) nameless rfl limit)
        (.of_done lands (congrArg Outcome.done pushed))

theorem leads_character
    (limit : Nat)
    {c : Char}
    (located : Located place (Atom.character c).text scope)
    (tidy : state.Tidy) :
    Leads limit scope place.index state
      (.through
        (state.withStack
          (state.stack.push (Cell.ofChar (Source.disclose c))))) := by
  have lands := located.index_add_length
  have nameless := located.head?_ne_brace [] rfl
  have following :
      (state.placed scope.code place.index (.blank .error)).next? =
        some c := by
    rw [next?_placed located]
    rfl
  refine leads_of_follows located.getElem?_index
    (runInstruction_placed located (tidy.unbound rfl) nameless rfl limit) ?_
  have pushed :
      (state.placed scope.code place.index (.blank .error)).pushCharacter =
        (state.withStack
          (state.stack.push (Cell.ofChar (Source.disclose c)))).placed
            scope.code (place.index + 1) (.blank .error) := by
    rw [Invocation.pushCharacter, following]
    rfl
  exact .of_done lands (congrArg Outcome.done pushed)

/-- The closing bracket of a number or a definition does nothing. -/
theorem leads_closing
    (limit : Nat)
    {closing : Char}
    (located : Located place [closing] scope)
    (delimiter : Source.isDelimiter closing = true)
    (idle : Opcode.ofChar? closing = none)
    (tidy : state.Tidy) :
    Leads limit scope place.index state (.through state) := by
  have unbound :
      (state.placed scope.code place.index
          (.blank .error)).functions.find? closing =
        none :=
    tidy.unbound delimiter
  refine leads_idle limit located fun runBody => ?_
  rw [Invocation.runInstruction, unbound]
  simp [idle]

/-- An instruction that jumps to the closing bracket behind it. -/
theorem leads_to_closing
    {limit : Nat}
    {opening closing : Char}
    {inside : Text}
    {after : State}
    (located : Located place (opening :: (inside ++ [closing])) scope)
    (delimiter : Source.isDelimiter closing = true)
    (idle : Opcode.ofChar? closing = none)
    (tidy : after.Tidy)
    (ran :
      ∀ runBody,
        Invocation.runInstruction limit runBody
            (state.placed scope.code place.index (.blank .error)) opening =
          .done
            (after.placed scope.code (place.index + 1 + inside.length - 1)
              (.blank .error))) :
    Leads limit scope place.index state (.through after) := by
  have cut : Located place ((opening :: inside) ++ [closing]) scope := located
  refine (leads_closing limit cut.past delimiter idle tidy).after_step
    fun budget => ?_
  rw [flat_succ_of_done located.getElem?_index (ran _)]
  congr 1
  simp [Place.index, Place.past]
  omega

/-- The text behind an opening bracket up to its partner. -/
theorem take_behindCursor_placed
    {opening closing : Char}
    {inside : Text}
    (located : Located place (opening :: (inside ++ [closing])) scope)
    (state : State)
    (journal : Journal) :
    (state.placed scope.code place.index journal).behindCursor.take
        (place.index + 1 + inside.length - (place.index + 1)) =
      inside := by
  rw [behindCursor_placed located, List.append_assoc]
  exact List.take_left' (by omega)

theorem leads_number
    (limit : Nat)
    {inside : Text}
    (located : Located place (Atom.number inside).text scope)
    (nested : Source.Nested inside)
    (tidy : state.Tidy) :
    Leads limit scope place.index state
      (.through (state.pushSpelled (inside.filter Char.isDigit))) := by
  have nameless := located.head?_ne_brace [] rfl
  have partner :=
    partner?_placed .parentheses nested located state (.blank .error)
  have cut := take_behindCursor_placed located state (.blank .error)
  have pushed :
      (state.placed scope.code place.index (.blank .error)).pushNumber =
        (state.pushSpelled (inside.filter Char.isDigit)).placed scope.code
          (place.index + 1 + inside.length - 1) (.blank .error) := by
    rw [Invocation.pushNumber, partner]
    change
      (Invocation.pushSpelled _
        (List.filter Char.isDigit
          (List.take (place.index + 1 + inside.length - (place.index + 1))
            _))).withCursor _ = _
    rw [cut]
    unfold Invocation.pushSpelled State.pushSpelled
    split <;> rfl
  have tidyAfter :
      (state.pushSpelled (inside.filter Char.isDigit)).Tidy := by
    unfold State.pushSpelled
    split <;> exact tidy
  refine leads_to_closing located rfl rfl tidyAfter fun runBody => ?_
  rw [runInstruction_placed located (tidy.unbound rfl) nameless rfl limit,
    Invocation.perform, pushed]

/-- A definition binds a regular body to a plain name. -/
theorem tidy_define
    {body : Text}
    (located : Located place (Atom.definition body).text scope)
    (nested : Source.Nested body)
    (tidy : state.Tidy) :
    (state.define place body).state.Tidy := by
  unfold State.define
  split
  · exact tidy
  · cases named : place.previous? with
    | none =>
        exact tidy
    | some name =>
        obtain ⟨before, front⟩ := List.getLast?_eq_some_iff.1 named
        have whole :
            scope.code =
              before ++ name ::
                '\x7b' :: (body ++ '\x7d' :: scope.following) := by
          simp [located.shape, front, Atom.text]
        have regular := located.regular
        rw [whole] at regular
        have piece :
            Source.IsBody
              (before ++ name ::
                '\x7b' :: (body ++ '\x7d' :: scope.following)) body :=
          ⟨Source.isBalanced_iff_nested.2 nested, before ++ [name],
            scope.following, by simp⟩
        intro other otherBody found
        simp only [Ending.state] at found
        by_cases same : other = name
        · subst same
          rw [Bindings.find?_bind_self] at found
          cases found
          exact ⟨regular.name_plain, regular.of_isBody piece⟩
        · rw [Bindings.find?_bind_of_ne _ _ same] at found
          exact tidy other otherBody found

/-- What a definition makes of the invocation that it is in. -/
theorem define_placed
    {body : Text}
    (located : Located place (Atom.definition body).text scope)
    (nested : Source.Nested body)
    (state : State) :
    (state.placed scope.code place.index (.blank .error)).define =
      if body.contains 'i' then
        .failed .inputInFunction
          (state.placed scope.code (place.index + 1 + body.length - 1)
            (.blank .error))
      else
        match place.previous? with
        | none =>
            .done
              (state.placed scope.code (place.index + 1 + body.length - 1)
                (.blank .error))
        | some name =>
            .done
              (State.placed scope.code (place.index + 1 + body.length - 1)
                (.blank .error)
                { state with
                  functions := state.functions.bind name body }) := by
  have partner :=
    partner?_placed .braces nested located state (.blank .error)
  have cut := take_behindCursor_placed located state (.blank .error)
  have previous := previous?_placed located state (.blank .error)
  have cursor :
      (state.placed scope.code place.index (.blank .error)).cursor =
        place.index :=
    rfl
  rw [Invocation.define, partner]
  simp only [cursor, cut, previous]
  cases place.previous? <;> rfl

theorem leads_definition
    (limit : Nat)
    {body : Text}
    (located : Located place (Atom.definition body).text scope)
    (nested : Source.Nested body)
    (tidy : state.Tidy) :
    Leads limit scope place.index state (state.define place body) := by
  have nameless := located.head?_ne_brace [] rfl
  have tidyAfter := tidy_define located nested tidy
  have ran
      (runBody : Invocation → Outcome Failure Invocation) :=
    runInstruction_placed located (tidy.unbound rfl) nameless rfl limit
      runBody
  simp only [Invocation.perform, define_placed located nested] at ran
  unfold State.define at tidyAfter ⊢
  by_cases input : body.contains 'i' = true
  · simp only [if_pos input] at ran ⊢
    exact leads_of_follows located.getElem?_index ran .failed
  · simp only [if_neg input] at ran tidyAfter ⊢
    cases named : place.previous? with
    | none =>
        simp only [named] at ran ⊢
        exact leads_to_closing located rfl rfl tidy ran
    | some name =>
        simp only [named] at ran tidyAfter ⊢
        exact leads_to_closing located rfl rfl tidyAfter ran

/-- An atom that calls nothing leads to its ending. -/
theorem leads_atom
    (limit : Nat)
    {first : Atom}
    {isName : Bool}
    (located : Located place first.text scope)
    (fits : first.Fits scope.following)
    (tidy : state.Tidy)
    (own : first.callee? state.functions = none)
    (named : isName = true ↔ scope.following.head? = some '\x7b') :
    Leads limit scope place.index state
      (first.perform place isName state) := by
  cases first with
  | instruction c =>
      exact leads_instruction limit located fits own named
  | number inside =>
      cases fits with
      | number nested =>
          exact leads_number limit located nested tidy
  | definition body =>
      cases fits with
      | definition nested =>
          exact leads_definition limit located nested tidy
  | string content =>
      exact leads_string limit located fits tidy
  | openQuote rest =>
      exact leads_openQuote limit located fits tidy
  | character c =>
      exact leads_character limit located tidy

theorem functions_working
    {α : Type}
    {sign : Char}
    {work : Work α}
    {goOn : α → State → Ending}
    (kept :
      ∀ result after,
        (goOn result after).state.functions = after.functions) :
    (state.working place sign work goOn).state.functions =
      state.functions := by
  unfold State.working
  split
  · exact kept _ _
  · rfl

/-- Only a definition changes the functions. -/
theorem functions_perform
    (sign : Char)
    (opcode : Opcode) :
    (state.perform place sign opcode).state.functions = state.functions := by
  cases opcode with
  | task task =>
      exact functions_working fun _ _ => rfl
  | leaveLoops =>
      refine functions_working fun count after => ?_
      cases loopsLeft count place.loops <;> rfl
  | load =>
      rw [State.perform, State.load]
      cases state.backup <;> rfl
  | store =>
      rw [State.perform]
      split
      · exact functions_working fun _ _ => rfl
      · rfl
  | _ =>
      rfl

/-- An atom keeps the names plain and the bodies regular. -/
theorem tidy_perform
    (isName : Bool)
    {first : Atom}
    (located : Located place first.text scope)
    (fits : first.Fits scope.following)
    (tidy : state.Tidy) :
    (first.perform place isName state).state.Tidy := by
  have kept
      {after : State}
      (same : after.functions = state.functions) :
      after.Tidy := by
    intro name body found
    rw [same] at found
    exact tidy name body found
  cases first with
  | instruction c =>
      rw [Atom.perform]
      split
      · exact tidy
      · split
        · exact tidy
        · exact kept (functions_perform c _)
  | number inside =>
      rw [Atom.perform, State.pushSpelled]
      split <;> exact tidy
  | definition body =>
      cases fits with
      | definition nested =>
          exact tidy_define located nested tidy
  | string content =>
      exact tidy
  | openQuote rest =>
      exact tidy
  | character c =>
      exact tidy

end

end Structured

end StackTape
