import StackTape.Text.Basic

namespace StackTape

/-!
# Bindings

Functions have names, which are single characters, and bodies, which are texts.  The
entries are kept in the order of the names, so what is bound determines them.
-/

/-- The functions that an invocation knows. -/
structure Bindings where
  entries : List (Char × Text)
  deriving DecidableEq

namespace Bindings

/-- No function. -/
def empty : Bindings :=
  ⟨[]⟩

instance : Inhabited Bindings :=
  ⟨empty⟩

/-- The body bound to a name in a list of entries. -/
def lookup?
    (name : Char) : List (Char × Text) → Option Text
  | [] =>
      none
  | (known, body) :: rest =>
      if known = name then some body else lookup? name rest

/-- Bind a name in a list of entries that is in the order of names. -/
def insert
    (name : Char)
    (body : Text) : List (Char × Text) → List (Char × Text)
  | [] =>
      [(name, body)]
  | (known, knownBody) :: rest =>
      if known = name then
        (name, body) :: rest
      else if name < known then
        (name, body) :: (known, knownBody) :: rest
      else
        (known, knownBody) :: insert name body rest

/-- The body bound to a name. -/
def find?
    (bindings : Bindings)
    (name : Char) : Option Text :=
  lookup? name bindings.entries

/-- The bindings with a name bound to a body. -/
def bind
    (bindings : Bindings)
    (name : Char)
    (body : Text) : Bindings :=
  ⟨insert name body bindings.entries⟩

@[simp] theorem find?_empty
    (name : Char) :
    empty.find? name = none :=
  rfl

/-- A name is found with the body it was bound to last. -/
@[simp] theorem find?_bind_self
    (bindings : Bindings)
    (name : Char)
    (body : Text) :
    (bindings.bind name body).find? name = some body := by
  obtain ⟨entries⟩ := bindings
  simp only [find?, bind]
  induction entries with
  | nil =>
      simp [insert, lookup?]
  | cons entry rest inductionHypothesis =>
      obtain ⟨known, knownBody⟩ := entry
      simp only [insert]
      split
      · simp [lookup?]
      · split
        · simp [lookup?]
        · rename_i different _
          simpa [lookup?, different] using inductionHypothesis

/-- Binding a name leaves every other name alone. -/
theorem find?_bind_of_ne
    (bindings : Bindings)
    {name other : Char}
    (body : Text)
    (different : other ≠ name) :
    (bindings.bind name body).find? other = bindings.find? other := by
  obtain ⟨entries⟩ := bindings
  simp only [find?, bind]
  induction entries with
  | nil =>
      simp [insert, lookup?, Ne.symm different]
  | cons entry rest inductionHypothesis =>
      obtain ⟨known, knownBody⟩ := entry
      simp only [insert]
      split
      · rename_i same
        simp [lookup?, same, Ne.symm different]
      · split
        · simp [lookup?, Ne.symm different]
        · simp only [lookup?, inductionHypothesis]

end Bindings

end StackTape
