import StackTape.Proofs.Structured.Script

namespace StackTape

/-!
# Texts as scripts

Every text that was loaded is read as exactly one script.  What preparation kept tells
the literals apart from what is run, and the balance check tells where loops, numbers
and definitions end.
-/

namespace Source

/-- Behind a character that is no bracket a well-nested text goes on. -/
theorem Nested.tail_of_plain
    {c : Char}
    {rest : Text}
    (nested : Nested (c :: rest))
    (neutral : isBracket c = false) :
    Nested rest := by
  cases nested with
  | plain _ tail =>
      exact tail
  | pair kind _ _ =>
      rw [kind.isBracket_opening] at neutral
      cases neutral

/-- So it does behind several such characters. -/
theorem Nested.tail_of_plain_append
    {front rest : Text}
    (nested : Nested (front ++ rest))
    (neutral : ∀ c ∈ front, isBracket c = false) :
    Nested rest := by
  induction front with
  | nil =>
      exact nested
  | cons c front inductionHypothesis =>
      simp only [List.mem_cons, forall_eq_or_imp] at neutral
      exact inductionHypothesis (nested.tail_of_plain neutral.1) neutral.2

end Source

namespace Structured

/-- No atom begins as a loop does. -/
theorem Atom.Fits.ne_loop
    {first : Atom}
    {following : Text}
    (fits : first.Fits following)
    (rest other : Text) :
    first.text ++ rest ≠ '[' :: other := by
  intro same
  cases fits with
  | instruction neutral _ _ =>
      cases same
      cases neutral
  | _ =>
      simp [Atom.text] at same

/-- An instruction is no other atom. -/
theorem Atom.Fits.eq_instruction
    {c : Char}
    {other : Atom}
    {rest otherRest following : Text}
    (fits : (Atom.instruction c).Fits (rest ++ following))
    (otherFits : other.Fits (otherRest ++ following))
    (same : c :: rest = other.text ++ otherRest) :
    other = .instruction c := by
  cases fits with
  | instruction neutral noQuote last =>
      cases other with
      | instruction d =>
          cases same
          rfl
      | number inside | definition body =>
          cases same
          cases neutral
      | string content | openQuote others =>
          cases same
          exact (noQuote rfl).elim
      | character d =>
          obtain ⟨rfl, rfl⟩ := List.cons.inj same
          cases last rfl

/-- A number is no atom but itself. -/
theorem Atom.Fits.eq_number
    {inside : Text}
    {other : Atom}
    {rest otherRest following : Text}
    (fits : (Atom.number inside).Fits (rest ++ following))
    (otherFits : other.Fits (otherRest ++ following))
    (same : (Atom.number inside).text ++ rest = other.text ++ otherRest) :
    other = .number inside := by
  cases fits with
  | number nested =>
      cases otherFits with
      | instruction neutral _ _ =>
          cases same
          cases neutral
      | number otherNested =>
          have sameInside :=
            Source.Nested.closing_unique .parentheses nested otherNested
              (by simpa [text] using same)
          rw [sameInside.1]
      | _ =>
          simp [text] at same

/-- A definition is no atom but itself. -/
theorem Atom.Fits.eq_definition
    {body : Text}
    {other : Atom}
    {rest otherRest following : Text}
    (fits : (Atom.definition body).Fits (rest ++ following))
    (otherFits : other.Fits (otherRest ++ following))
    (same : (Atom.definition body).text ++ rest = other.text ++ otherRest) :
    other = .definition body := by
  cases fits with
  | definition nested =>
      cases otherFits with
      | instruction neutral _ _ =>
          cases same
          cases neutral
      | definition otherNested =>
          have sameBody :=
            Source.Nested.closing_unique .braces nested otherNested
              (by simpa [text] using same)
          rw [sameBody.1]
      | _ =>
          simp [text] at same

/-- The string ends where its content does. -/
theorem Atom.Fits.stringLength?_string
    {content following : Text}
    (fits : (Atom.string content).Fits following)
    (tail : Text) :
    Source.stringLength? false (content ++ '"' :: tail) =
      some content.length := by
  cases fits with
  | string _ stays closed =>
      rw [Source.stringLength?_append stays closed,
        Source.stringLength?_cons_of_closing]
      simp

/-- A quote that opens a string with an end is not one without. -/
theorem Atom.Fits.string_ne_openQuote
    {content opened : Text}
    {rest openRest following : Text}
    (fits : (Atom.string content).Fits (rest ++ following))
    (openFits : (Atom.openQuote opened).Fits (openRest ++ following)) :
    (Atom.string content).text ++ rest ≠
      (Atom.openQuote opened).text ++ openRest := by
  intro same
  have ends := fits.stringLength?_string (rest ++ following)
  have shape : content ++ '"' :: (rest ++ following) = openRest ++ following := by
    simpa [text] using congrArg (· ++ following) same
  rw [shape] at ends
  cases openFits with
  | openQuote _ stays =>
      rw [stays] at ends
      cases ends

/-- A string is no atom but itself. -/
theorem Atom.Fits.eq_string
    {content : Text}
    {other : Atom}
    {rest otherRest following : Text}
    (fits : (Atom.string content).Fits (rest ++ following))
    (otherFits : other.Fits (otherRest ++ following))
    (same : (Atom.string content).text ++ rest = other.text ++ otherRest) :
    other = .string content := by
  cases other with
  | instruction c =>
      exact (otherFits.eq_instruction fits same.symm).symm
  | string otherContent =>
      have shape : content ++ '"' :: rest = otherContent ++ '"' :: otherRest := by
        simpa [text] using same
      have ends := fits.stringLength?_string rest
      rw [shape, otherFits.stringLength?_string] at ends
      rw [(List.append_inj shape (Option.some_inj.1 ends).symm).1]
  | openQuote opened =>
      exact (fits.string_ne_openQuote otherFits same).elim
  | _ =>
      simp [text] at same

/-- A quote without a partner is no atom but itself. -/
theorem Atom.Fits.eq_openQuote
    {opened : Text}
    {other : Atom}
    {rest otherRest following : Text}
    (fits : (Atom.openQuote opened).Fits (rest ++ following))
    (otherFits : other.Fits (otherRest ++ following))
    (same : (Atom.openQuote opened).text ++ rest = other.text ++ otherRest) :
    other = .openQuote opened := by
  cases other with
  | instruction c =>
      exact (otherFits.eq_instruction fits same.symm).symm
  | string content =>
      exact (otherFits.string_ne_openQuote fits same.symm).elim
  | openQuote otherOpened =>
      have sameRest : rest = otherRest := by
        simpa [text] using same
      subst sameRest
      cases fits
      cases otherFits
      rfl
  | _ =>
      simp [text] at same

/-- A character is no atom but itself. -/
theorem Atom.Fits.eq_character
    {c : Char}
    {other : Atom}
    {rest otherRest following : Text}
    (fits : (Atom.character c).Fits (rest ++ following))
    (otherFits : other.Fits (otherRest ++ following))
    (same : (Atom.character c).text ++ rest = other.text ++ otherRest) :
    other = .character c := by
  cases other with
  | instruction d =>
      exact (otherFits.eq_instruction fits same.symm).symm
  | character d =>
      cases same
      rfl
  | _ =>
      simp [text] at same

/-- Two atoms in front of one text are the same. -/
theorem Atom.Fits.unique
    {first second : Atom}
    {firstRest secondRest following : Text}
    (firstFits : first.Fits (firstRest ++ following))
    (secondFits : second.Fits (secondRest ++ following))
    (same : first.text ++ firstRest = second.text ++ secondRest) :
    second = first := by
  cases first with
  | instruction c =>
      exact firstFits.eq_instruction secondFits same
  | number inside =>
      exact firstFits.eq_number secondFits same
  | definition body =>
      exact firstFits.eq_definition secondFits same
  | string content =>
      exact firstFits.eq_string secondFits same
  | openQuote rest =>
      exact firstFits.eq_openQuote secondFits same
  | character c =>
      exact firstFits.eq_character secondFits same

namespace Script

/-- A text is read as one script only. -/
theorem Fits.unique
    {first second : Script}
    {following : Text}
    (firstFits : first.Fits following)
    (secondFits : second.Fits following)
    (same : first.text = second.text) :
    first = second := by
  induction firstFits generalizing second with
  | stop =>
      cases secondFits with
      | stop =>
          rfl
      | @atom other _ _ _ _ =>
          cases other <;> cases same
      | loop _ _ =>
          cases same
  | @atom atom rest following atomFits restFits inductionHypothesis =>
      cases secondFits with
      | stop =>
          cases atom <;> cases same
      | @atom other otherRest _ otherFits otherRestFits =>
          cases atomFits.unique otherFits same
          rw [inductionHypothesis otherRestFits
            (List.append_cancel_left same)]
      | loop _ _ =>
          exact (atomFits.ne_loop _ _ same).elim
  | @loop body rest following bodyFits restFits bodyHypothesis
      restHypothesis =>
      cases secondFits with
      | stop =>
          cases same
      | @atom other otherRest _ otherFits otherRestFits =>
          exact (otherFits.ne_loop _ _ same.symm).elim
      | @loop otherBody otherRest _ otherBodyFits otherRestFits =>
          obtain ⟨sameBody, sameRest⟩ :=
            Source.Nested.closing_unique .squares bodyFits.nested
              otherBodyFits.nested (List.tail_eq_of_cons_eq same)
          rw [restHypothesis otherRestFits sameRest]
          rw [← sameRest] at otherBodyFits
          rw [bodyHypothesis otherBodyFits sameBody]

end Script

/-! ## Every loaded text has a script -/

/-- A text that, in front of another one, is to be read as some script. -/
def HasScript (code following : Text) : Prop :=
  ∃ script : Script, script.text = code ∧ script.Fits following

namespace HasScript

theorem nil
    {following : Text} :
    HasScript [] following :=
  ⟨.stop, rfl, .stop⟩

theorem atom
    {first : Atom}
    {rest following : Text}
    (fits : first.Fits (rest ++ following))
    (onward : HasScript rest following) :
    HasScript (first.text ++ rest) following := by
  obtain ⟨script, rfl, restFits⟩ := onward
  exact ⟨.atom first script, rfl, .atom fits restFits⟩

theorem loop
    {body rest following : Text}
    (inside : HasScript body (']' :: (rest ++ following)))
    (onward : HasScript rest following) :
    HasScript ('[' :: (body ++ ']' :: rest)) following := by
  obtain ⟨script, rfl, bodyFits⟩ := inside
  obtain ⟨tail, rfl, restFits⟩ := onward
  exact ⟨.loop script tail, rfl, .loop bodyFits restFits⟩

/-- What is run as a single character: no bracket, no quote and no apostrophe. -/
theorem instruction
    {c : Char}
    {rest following : Text}
    (neutral : Source.isBracket c = false)
    (noQuote : c ≠ '"')
    (noApostrophe : c ≠ '\'')
    (onward : HasScript rest following) :
    HasScript (c :: rest) following := by
  have fits : (Atom.instruction c).Fits (rest ++ following) :=
    .instruction neutral noQuote fun same => (noApostrophe same).elim
  exact atom fits onward

/-- An apostrophe at the very end takes no character with it. -/
theorem apostrophe :
    HasScript ['\''] [] := by
  have fits : (Atom.instruction '\'').Fits ([] ++ []) :=
    .instruction rfl (by decide) fun _ => rfl
  exact atom fits nil

theorem character
    {c : Char}
    {rest following : Text}
    (neutral : Source.isBracket c = false)
    (onward : HasScript rest following) :
    HasScript ('\'' :: c :: rest) following := by
  have fits : (Atom.character c).Fits (rest ++ following) :=
    .character neutral
  exact atom fits onward

theorem string
    {content rest following : Text}
    (neutral : ∀ c ∈ content, Source.isBracket c = false)
    (stays : Source.stringLength? false content = none)
    (closed : Source.modeAfter (.string false) content = .string false)
    (onward : HasScript rest following) :
    HasScript ('"' :: (content ++ '"' :: rest)) following := by
  have fits : (Atom.string content).Fits (rest ++ following) :=
    .string neutral stays closed
  simpa [Atom.text] using atom fits onward

/-- A quote without a partner, and the rest of the text. -/
theorem openQuote
    {rest : Text}
    (neutral : ∀ c ∈ rest, Source.isBracket c = false)
    (stays : Source.stringLength? false rest = none)
    (onward : HasScript rest []) :
    HasScript ('"' :: rest) [] := by
  have fits : (Atom.openQuote rest).Fits (rest ++ []) := by
    rw [List.append_nil]
    exact .openQuote neutral stays
  exact atom fits onward

/-- A pair of brackets of any kind. -/
theorem pair
    {opening closing : Char}
    {inside rest following : Text}
    (kind : Source.Pair opening closing)
    (nested : Source.Nested inside)
    (within : HasScript inside (closing :: (rest ++ following)))
    (onward : HasScript rest following) :
    HasScript (opening :: (inside ++ closing :: rest)) following := by
  cases kind with
  | parentheses =>
      have fits : (Atom.number inside).Fits (rest ++ following) :=
        .number nested
      simpa [Atom.text] using atom fits onward
  | squares =>
      exact loop within onward
  | braces =>
      have fits : (Atom.definition inside).Fits (rest ++ following) :=
        .definition nested
      simpa [Atom.text] using atom fits onward

/-- What follows a quote without a partner is run, though it was read as a string. -/
theorem of_open
    {escaped : Bool}
    {rest : Text}
    (neutral : ∀ c ∈ rest, Source.isBracket c = false)
    (stays : Source.stringLength? escaped rest = none) :
    HasScript rest [] := by
  -- on the length, since an apostrophe takes the next character with it
  induction size : rest.length using Nat.strongRecOn
    generalizing escaped rest with
  | ind size inductionHypothesis =>
      subst size
      cases rest with
      | nil =>
          exact nil
      | cons c rest =>
          have notClosing : ¬(c = '"' ∧ escaped = false) := by
            rintro ⟨rfl, rfl⟩
            cases stays
          rw [Source.stringLength?_cons notClosing,
            Option.map_eq_none_iff] at stays
          simp only [List.mem_cons, forall_eq_or_imp] at neutral
          have onward : HasScript rest [] :=
            inductionHypothesis rest.length (by simp) neutral.2 stays rfl
          by_cases isQuote : c = '"'
          · subst isQuote
            exact openQuote neutral.2 stays onward
          · by_cases isApostrophe : c = '\''
            · subst isApostrophe
              cases rest with
              | nil =>
                  exact apostrophe
              | cons next rest =>
                  have notQuote : ¬(next = '"' ∧ ('\'' == '\\') = false) := by
                    rintro ⟨rfl, -⟩
                    cases stays
                  rw [Source.stringLength?_cons notQuote,
                    Option.map_eq_none_iff] at stays
                  simp only [List.mem_cons, forall_eq_or_imp] at neutral
                  refine character neutral.2.1 ?_
                  exact inductionHypothesis rest.length
                    (by simp only [List.length_cons]; omega) neutral.2.2 stays
                    rfl
            · exact instruction neutral.1 isQuote isApostrophe onward

end HasScript

/-- A kept text that starts outside every literal and ends there, or ends the code. -/
structure IsSegment (code following : Text) : Prop where
  nested : Source.Nested code
  prepared : Source.IsPrepared code
  left : following = [] ∨ Source.modeAfter .plain code = .plain

namespace IsSegment

/-- Behind a character that starts no literal another segment starts. -/
theorem behind_plain
    {c : Char}
    {rest following : Text}
    (segment : IsSegment (c :: rest) following)
    (neutral : Source.isBracket c = false)
    (noQuote : c ≠ '"')
    (noApostrophe : c ≠ '\'') :
    IsSegment rest following := by
  obtain ⟨headKept, restKept⟩ :=
    Source.prepareFrom_pieces [c] segment.prepared
  have noComment : c ≠ '#' := by
    rintro rfl
    cases headKept
  have onward : Source.Mode.plain.advance c = .plain := by
    simp [Source.Mode.advance, noComment, noQuote, noApostrophe]
  have left := segment.left
  rw [Source.modeAfter, onward] at left
  rw [Source.modeAfter, Source.modeAfter, onward] at restKept
  exact ⟨segment.nested.tail_of_plain neutral, restKept, left⟩

/-- A character behind an apostrophe is no bracket, and a segment starts behind it. -/
theorem behind_character
    {c : Char}
    {rest following : Text}
    (segment : IsSegment ('\'' :: c :: rest) following) :
    Source.isBracket c = false ∧ IsSegment rest following := by
  have restKept := (Source.prepareFrom_pieces ['\''] segment.prepared).2
  obtain ⟨characterKept, tailKept⟩ := Source.prepareFrom_pieces [c] restKept
  have concealed : Source.conceal c = c := by
    simpa [Source.modeAfter, Source.Mode.advance, Source.prepareFrom,
      Source.Mode.emit] using characterKept
  have neutral : Source.isBracket c = false := by
    rw [← concealed]
    exact Source.isBracket_conceal c
  have nested := segment.nested.tail_of_plain rfl
  exact ⟨neutral, nested.tail_of_plain neutral, tailKept, segment.left⟩

/-- A string that does not end holds no bracket. -/
theorem neutral_of_kept
    {content : Text}
    (stays : Source.stringLength? false content = none)
    (kept : Source.prepareFrom (.string false) content = content) :
    ∀ c ∈ content, Source.isBracket c = false := by
  intro c member
  rw [← kept, Source.prepareFrom_string stays, List.mem_map] at member
  obtain ⟨d, -, rfl⟩ := member
  exact Source.isBracket_conceal d

/-- A string without an end holds no bracket, and nothing follows. -/
theorem of_openQuote
    {rest following : Text}
    (segment : IsSegment ('"' :: rest) following)
    (stays : Source.stringLength? false rest = none) :
    (∀ c ∈ rest, Source.isBracket c = false) ∧ following = [] := by
  have restKept := (Source.prepareFrom_pieces ['"'] segment.prepared).2
  refine ⟨neutral_of_kept stays restKept, ?_⟩
  obtain ⟨escaped, inString⟩ := Source.exists_mode_of_stringLength? stays
  rcases segment.left with atEnd | leftPlain
  · exact atEnd
  · have left : Source.modeAfter (.string false) rest = .plain := leftPlain
    rw [inString] at left
    cases left

/-- A string with an end holds no bracket, and a segment starts behind it. -/
theorem behind_string
    {content rest following : Text}
    (segment : IsSegment ('"' :: (content ++ '"' :: rest)) following)
    (stays : Source.stringLength? false content = none)
    (closed : Source.modeAfter (.string false) content = .string false) :
    (∀ c ∈ content, Source.isBracket c = false) ∧
      IsSegment rest following := by
  have kept :
      Source.prepareFrom (.string false) (content ++ '"' :: rest) =
        content ++ '"' :: rest :=
    (Source.prepareFrom_pieces ['"'] segment.prepared).2
  obtain ⟨contentKept, quoteKept⟩ := Source.prepareFrom_pieces content kept
  have neutral := neutral_of_kept stays contentKept
  have nested :=
    (segment.nested.tail_of_plain rfl).tail_of_plain_append neutral
  rw [closed] at quoteKept
  have restKept := (Source.prepareFrom_pieces ['"'] quoteKept).2
  have left :
      following = [] ∨
        Source.modeAfter (.string false) (content ++ '"' :: rest) = .plain :=
    segment.left
  rw [Source.modeAfter_append, closed] at left
  exact ⟨neutral, nested.tail_of_plain rfl, restKept, left⟩

/-- A pair of brackets stands between segments, and another one is inside. -/
theorem of_pair
    {opening closing : Char}
    {inside rest following : Text}
    (segment : IsSegment (opening :: (inside ++ closing :: rest)) following)
    (kind : Source.Pair opening closing)
    (insideNested : Source.Nested inside)
    (restNested : Source.Nested rest) :
    IsSegment inside (closing :: (rest ++ following)) ∧
      IsSegment rest following := by
  have whole :
      Source.IsPrepared ([] ++ opening :: (inside ++ closing :: rest)) :=
    segment.prepared
  have behind := whole.after_bracket kind.isBracket_opening
  obtain ⟨insidePrepared, insideLeft⟩ :=
    behind.before_bracket kind.isBracket_closing
  have restPrepared := behind.after_bracket kind.isBracket_closing
  have left := segment.left
  rw [Source.modeAfter,
    Source.advance_plain_of_isBracket kind.isBracket_opening,
    Source.modeAfter_append, insideLeft, Source.modeAfter,
    Source.advance_plain_of_isBracket kind.isBracket_closing] at left
  exact ⟨⟨insideNested, insidePrepared, .inr insideLeft⟩,
    restNested, restPrepared, left⟩

/-- Every segment has a script. -/
theorem hasScript
    {code following : Text}
    (segment : IsSegment code following) :
    HasScript code following := by
  -- on the length: a loop's body and what follows an atom are shorter
  induction size : code.length using Nat.strongRecOn
    generalizing code following with
  | ind size inductionHypothesis =>
      subst size
      cases segment.nested with
      | nil =>
          exact .nil
      | @plain c rest neutral _ =>
          by_cases isQuote : c = '"'
          · subst isQuote
            cases ends : Source.stringLength? false rest with
            | none =>
                obtain ⟨restNeutral, rfl⟩ := segment.of_openQuote ends
                exact .openQuote restNeutral ends (.of_open restNeutral ends)
            | some length =>
                obtain ⟨content, tail, rfl, -, stays, closed⟩ :=
                  Source.exists_content_of_stringLength? ends
                obtain ⟨contentNeutral, tailSegment⟩ :=
                  segment.behind_string stays closed
                refine .string contentNeutral stays closed ?_
                exact inductionHypothesis tail.length
                  (by simp only [List.length_cons, List.length_append]; omega)
                  tailSegment rfl
          · by_cases isApostrophe : c = '\''
            · subst isApostrophe
              cases rest with
              | nil =>
                  rcases segment.left with rfl | inCharacter
                  · exact .apostrophe
                  · cases inCharacter
              | cons next rest =>
                  obtain ⟨nextNeutral, restSegment⟩ :=
                    segment.behind_character
                  refine .character nextNeutral ?_
                  exact inductionHypothesis rest.length
                    (by simp only [List.length_cons]; omega) restSegment rfl
            · refine .instruction neutral isQuote isApostrophe ?_
              exact inductionHypothesis rest.length (by simp)
                (segment.behind_plain neutral isQuote isApostrophe) rfl
      | @pair opening closing inside rest kind insideNested restNested =>
          obtain ⟨insideSegment, restSegment⟩ :=
            segment.of_pair kind insideNested restNested
          refine .pair kind insideNested ?_ ?_
          · exact inductionHypothesis inside.length
              (by simp only [List.length_cons, List.length_append]; omega)
              insideSegment rfl
          · exact inductionHypothesis rest.length
              (by simp only [List.length_cons, List.length_append]; omega)
              restSegment rfl

end IsSegment

/-- Every loaded text has exactly one script. -/
theorem Script.exists_isScriptOf
    {code : Text}
    (loaded : Source.IsLoaded code) :
    ∃ script : Script,
      script.IsScriptOf code ∧
        ∀ other : Script, other.IsScriptOf code → other = script := by
  have segment : IsSegment code [] :=
    ⟨Source.isBalanced_iff_nested.1 loaded.balanced, loaded.prepared, .inl rfl⟩
  obtain ⟨script, scriptText, fits⟩ := segment.hasScript
  refine ⟨script, ⟨scriptText, fits⟩, fun other isScript => ?_⟩
  exact isScript.fits.unique fits (by rw [isScript.text, scriptText])

end Structured

end StackTape
