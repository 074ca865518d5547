import StackTape.CommandLine.Arguments

namespace StackTape

/-!
# Asking for single steps

Among the arguments, the flag for going step by step changes nothing but its own option.
All other arguments are taken alike whether or not it came before them, as none of them
looks at that option.
-/

namespace CommandLine

namespace Draft

/-- The draft once going step by step was asked for. -/
def slowed (draft : Draft) : Draft :=
  { draft with slow := true }

/--
What does not ask for going step by step is taken alike when that was asked for before;
and no mistake is taken for a complete request.
-/
structure IgnoresSlowness (taking : Draft → Except Request Draft) : Prop where
  alike :
    ∀ {draft after : Draft},
      taking draft = .ok after →
      after.slow = false →
      draft.slow = false ∧ taking draft.slowed = .ok after.slowed
  mistaken :
    ∀ {draft : Draft} {request : Request},
      taking draft = .error request → ∀ options, request ≠ .run options

/-- Take an argument, knowing what is awaited and whether all that follow are files. -/
def takeKnowing
    (awaiting : Option ValueOption)
    (filesOnly : Bool)
    (draft : Draft)
    (argument : Text) : Except Request Draft :=
  match awaiting with
  | some option =>
      if looksLikeFlag argument then
        .error .misuse
      else
        draft.takeValue argument option
  | none =>
      if filesOnly then
        draft.takeFile argument
      else
        match argument with
        | ['-', '-'] =>
            .ok { draft with filesOnly := true }
        | '-' :: '-' :: body =>
            draft.takeLong body
        | '-' :: letter :: rest =>
            draft.takeCluster (letter :: rest)
        | path =>
            draft.takeFile path

theorem take_eq_takeKnowing
    (draft : Draft)
    (argument : Text) :
    draft.take argument =
      takeKnowing draft.awaiting draft.filesOnly draft argument :=
  rfl

namespace IgnoresSlowness

/-- Taking one thing after the other. -/
theorem andThen
    {first second : Draft → Except Request Draft}
    (firstIgnores : IgnoresSlowness first)
    (secondIgnores : IgnoresSlowness second) :
    IgnoresSlowness fun draft => first draft >>= second where
  alike := by
    intro draft after taken swift
    cases middle : first draft with
    | error request =>
        rw [middle] at taken
        cases taken
    | ok between =>
        rw [middle] at taken
        obtain ⟨fresh, later⟩ := secondIgnores.alike taken swift
        obtain ⟨before, earlier⟩ := firstIgnores.alike middle fresh
        rw [earlier]
        exact ⟨before, later⟩
  mistaken := by
    intro draft request taken
    cases middle : first draft with
    | error earlier =>
        rw [middle] at taken
        cases taken
        exact firstIgnores.mistaken middle
    | ok between =>
        rw [middle] at taken
        exact secondIgnores.mistaken taken

theorem error_misuse :
    IgnoresSlowness fun _ => .error .misuse where
  alike := nofun
  mistaken := by
    rintro draft request ⟨⟩
    exact fun _ => nofun

/-- Changing anything but the option itself. -/
theorem ok
    {change : Draft → Draft}
    (keeps : ∀ draft, (change draft).slow = draft.slow)
    (apart : ∀ draft, change draft.slowed = (change draft).slowed) :
    IgnoresSlowness fun draft => .ok (change draft) where
  alike := by
    rintro draft after ⟨⟩ swift
    exact ⟨(keeps draft).symm.trans swift, congrArg Except.ok (apart draft)⟩
  mistaken := nofun

theorem takeFlag
    (flag : Flag) :
    IgnoresSlowness (takeFlag · flag) where
  alike := by
    intro draft after taken swift
    cases flag with
    | help | version =>
        cases taken
    | debug | slow | timeit | noInput =>
        simp only [Draft.takeFlag] at taken ⊢
        split at taken <;> cases taken
        simp_all [slowed]
  mistaken := by
    intro draft request taken
    cases flag with
    | help | version =>
        cases taken
        exact fun _ => nofun
    | debug | slow | timeit | noInput =>
        simp only [Draft.takeFlag] at taken
        split at taken <;> cases taken
        exact fun _ => nofun

theorem takeValue
    (value : Text)
    (option : ValueOption) :
    IgnoresSlowness (takeValue · value option) where
  alike := by
    intro draft after taken swift
    cases option with
    | input | time =>
        simp only [Draft.takeValue] at taken ⊢
        split at taken <;> cases taken
        simp_all [slowed]
  mistaken := by
    intro draft request taken
    cases option with
    | input | time =>
        simp only [Draft.takeValue] at taken
        split at taken <;> cases taken
        exact fun _ => nofun

theorem takeFile
    (path : Text) :
    IgnoresSlowness (takeFile · path) where
  alike := by
    intro draft after taken swift
    simp only [Draft.takeFile] at taken ⊢
    split at taken <;> cases taken
    simp_all [slowed]
  mistaken := by
    intro draft request taken
    simp only [Draft.takeFile] at taken
    split at taken <;> cases taken
    exact fun _ => nofun

theorem await
    (option : ValueOption) :
    IgnoresSlowness fun draft => .ok { draft with awaiting := some option } :=
  .ok (fun _ => rfl) fun _ => rfl

theorem takeCluster
    (letters : Text) :
    IgnoresSlowness (takeCluster · letters) := by
  induction letters with
  | nil =>
      exact .ok (fun _ => rfl) fun _ => rfl
  | cons letter rest inductionHypothesis =>
      cases known : short? letter with
      | none =>
          simp only [Draft.takeCluster, known]
          exact .error_misuse
      | some kind =>
          cases kind with
          | flag flag =>
              have sequenced (draft : Draft) :
                  draft.takeCluster (letter :: rest) =
                    (draft.takeFlag flag >>= (Draft.takeCluster · rest)) := by
                simp only [Draft.takeCluster, known]
                cases draft.takeFlag flag <;> rfl
              rw [funext sequenced]
              exact (takeFlag flag).andThen inductionHypothesis
          | value option =>
              simp only [Draft.takeCluster, known]
              split
              · exact .await option
              · exact .takeValue _ option
              · exact .takeValue _ option

theorem takeLong
    (body : Text) :
    IgnoresSlowness (takeLong · body) := by
  simp only [Draft.takeLong]
  split
  · exact .error_misuse
  · split
    · exact .error_misuse
    · exact .takeFlag _
  · split
    · exact .takeValue _ _
    · exact .await _

/-- Which way an argument is taken does not depend on slowness. -/
theorem take
    (argument : Text) :
    IgnoresSlowness (take · argument) := by
  have decided
      (awaiting : Option ValueOption)
      (filesOnly : Bool) :
      IgnoresSlowness (takeKnowing awaiting filesOnly · argument) := by
    unfold takeKnowing
    split
    · split
      · exact .error_misuse
      · exact .takeValue _ _
    · split
      · exact .takeFile _
      · split
        · exact .ok (fun _ => rfl) fun _ => rfl
        · exact .takeLong _
        · exact .takeCluster _
        · exact .takeFile _
  constructor
  · intro draft after taken swift
    simp only [take_eq_takeKnowing] at taken ⊢
    exact (decided draft.awaiting draft.filesOnly).alike taken swift
  · intro draft request taken
    simp only [take_eq_takeKnowing] at taken
    exact (decided draft.awaiting draft.filesOnly).mistaken taken

/-- So all arguments are taken alike. -/
theorem foldlM
    (arguments : List Text) :
    IgnoresSlowness fun draft => arguments.foldlM Draft.take draft := by
  induction arguments with
  | nil =>
      exact .ok (fun _ => rfl) fun _ => rfl
  | cons argument rest inductionHypothesis =>
      simp only [List.foldlM_cons]
      exact (take argument).andThen inductionHypothesis

end IgnoresSlowness

/-- A draft that is complete stays so. -/
theorem request_slowed
    {draft : Draft}
    {options : Options}
    (complete : draft.request = .run options) :
    options.slow = draft.slow ∧
      draft.slowed.request = .run { options with slow := true } := by
  unfold request at complete ⊢
  split at complete <;> cases complete
  rename_i file named settled
  simp [slowed, named, settled]

end Draft

/--
The flag for going step by step, in front of arguments that do not ask for that, turns it on
and changes nothing else.
-/
theorem readArguments_slow
    {arguments : List Text}
    {options : Options}
    (plain : readArguments arguments = .run options)
    (swift : options.slow = false) :
    readArguments (['-', 's'] :: arguments) = .run { options with slow := true } := by
  unfold readArguments at plain
  split at plain
  · rename_i draft taken
    obtain ⟨same, complete⟩ := Draft.request_slowed plain
    obtain ⟨-, slowly⟩ :=
      (Draft.IgnoresSlowness.foldlM arguments).alike taken (same.symm.trans swift)
    have first : Draft.blank.take ['-', 's'] = .ok Draft.blank.slowed := rfl
    have all :
        (['-', 's'] :: arguments).foldlM Draft.take .blank = .ok draft.slowed := by
      rw [List.foldlM_cons, first]
      exact slowly
    rw [readArguments, all]
    exact complete
  · rename_i request taken
    exact absurd plain
      ((Draft.IgnoresSlowness.foldlM arguments).mistaken taken options)

end CommandLine

end StackTape
