import StackTape.Proofs.Reachability

namespace StackTape

/-!
# Texts along a run

What a definition binds is cut out of the text of its invocation, and what is called was
bound.  So whatever holds of a program's text and passes on to every piece of a text, such
as that it lacks some character, holds of all texts that a run comes across.
-/

namespace Text

/-- What holds of a text holds of every piece of it. -/
def PassesOn (good : Text → Prop) : Prop :=
  ∀ whole piece : Text, piece <:+: whole → good whole → good piece

theorem passesOn_lacking
    (c : Char) :
    PassesOn fun text => c ∉ text :=
  fun _ _ within lacking member => lacking (within.subset member)

theorem PassesOn.and
    {first second : Text → Prop}
    (firstPasses : PassesOn first)
    (secondPasses : PassesOn second) :
    PassesOn fun text => first text ∧ second text :=
  fun whole piece within both =>
    ⟨firstPasses whole piece within both.1, secondPasses whole piece within both.2⟩

end Text

namespace Invocation

/-- What a definition binds is a piece of the text. -/
theorem Defines.isInfix
    {invocation : Invocation}
    {name : Char}
    {body : Text}
    (defines : Defines invocation name body) :
    body <:+: invocation.code := by
  obtain ⟨close, -, rfl⟩ := defines.delimited
  exact (List.take_prefix _ _).isInfix.trans (List.drop_suffix _ _).isInfix

/-- This holds of the text of the invocation and of every body that it knows. -/
structure TextsAre
    (good : Text → Prop)
    (invocation : Invocation) : Prop where
  code : good invocation.code
  bound :
    ∀ {name : Char} {body : Text},
      invocation.functions.find? name = some body → good body

namespace TextsAre

variable {good : Text → Prop}

/-- Before its first instruction a program knows no body. -/
theorem start
    {code : Text}
    (codeGood : good code)
    (channel : Channel)
    (journal : Journal)
    (draws : Draws) :
    TextsAre good (.start code channel journal draws) where
  code := codeGood
  bound found := by
    simp [Invocation.start] at found

/-- A step binds pieces of the text at most. -/
theorem step
    {before after : Invocation}
    (texts : TextsAre good before)
    (passes : Text.PassesOn good)
    (frame : StepFrame before after) :
    TextsAre good after where
  code := by
    rw [frame.code]
    exact texts.code
  bound {name body} found := by
    rcases frame.functions with same | ⟨-, defined, definedBody, defines, binding⟩
    · rw [same] at found
      exact texts.bound found
    · rw [binding] at found
      by_cases renamed : name = defined
      · rw [renamed, Bindings.find?_bind_self] at found
        cases found
        exact passes _ _ defines.isInfix texts.code
      · rw [Bindings.find?_bind_of_ne _ _ renamed] at found
        exact texts.bound found

/-- A called body is known to its caller. -/
theorem enter
    {caller : Invocation}
    (texts : TextsAre good caller)
    {name : Char}
    {body : Text}
    (bound : caller.functions.find? name = some body) :
    TextsAre good ((caller.announcing name).enter body) where
  code := texts.bound bound
  bound found := texts.bound found

end TextsAre

end Invocation

end StackTape
