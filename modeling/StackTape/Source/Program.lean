import StackTape.Source.Nesting
import StackTape.Source.Preparation

namespace StackTape

/-!
# Programs

A program is a prepared text whose brackets are balanced.  Loading prepares a source
text and refuses it when a bracket has no partner.
-/

/-- A text that is ready to run. -/
structure Program where
  code : Text
  isBalanced : Source.isBalanced code = true

namespace Program

/-- Load a source text. -/
def load? (source : Text) : Option Program :=
  if balanced : Source.isBalanced (Source.prepare source) = true then
    some ⟨Source.prepare source, balanced⟩
  else
    none

/-- What is said of a source text that does not load. -/
def loadFailure : String :=
  "unmatched brackets in program"

/-- How many characters there are to run. -/
def length (program : Program) : Nat :=
  program.code.length

/-- Whether there is nothing to run. -/
def isEmpty (program : Program) : Bool :=
  program.code.isEmpty

/-- A source text loads exactly when it is balanced once prepared. -/
theorem load?_eq_some_iff
    {source : Text}
    {program : Program} :
    load? source = some program ↔
      program.code = Source.prepare source := by
  unfold load?
  split
  · constructor
    · rintro ⟨⟩
      rfl
    · rintro same
      cases program
      simp_all
  · rename_i unbalanced
    constructor
    · rintro ⟨⟩
    · rintro same
      exact absurd (same ▸ program.isBalanced) unbalanced

end Program

end StackTape
