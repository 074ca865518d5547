import StackTape.Source.StandIn

namespace StackTape

/-!
# String literals

Behind the opening quote a string runs to the next quote that no backslash directly
precedes.  A backslash before a quote or before the letter n belongs to an escape;
every other character stands for itself, with concealed brackets disclosed.
-/

namespace Source

/-- Whether a character forms an escape with a backslash before it. -/
def isEscapable (c : Char) : Bool :=
  c == '"' || c == 'n'

/--
Read a string's characters and the number of characters before its closing quote,
when it has one.  The flag tells whether the character before was a backslash.
-/
def readString : Bool → Text → Text × Option Nat
  | _, [] =>
      ([], none)
  | escaped, c :: rest =>
      if c = '"' ∧ escaped = false then
        ([], some 0)
      else
        let (characters, closing) := readString (c == '\\') rest
        let decoded : Text :=
          if c = 'n' ∧ escaped = true then
            ['\n']
          else if c = '\\' ∧ rest.head?.any isEscapable then
            []
          else
            [disclose c]
        (decoded ++ characters, closing.map (· + 1))

/-- The character that ends a string is a quote. -/
theorem getElem?_of_readString
    {escaped : Bool}
    {text : Text}
    {offset : Nat}
    (closed : (readString escaped text).2 = some offset) :
    text[offset]? = some '"' := by
  induction text generalizing escaped offset with
  | nil =>
      simp [readString] at closed
  | cons c rest inductionHypothesis =>
      simp only [readString] at closed
      split at closed
      · rename_i closing
        cases closed
        simp [closing.1]
      · obtain ⟨inner, innerClosed, rfl⟩ := Option.map_eq_some_iff.1 closed
        simpa using inductionHypothesis innerClosed

/-- So it lies inside the text that was read. -/
theorem readString_closing_lt
    {escaped : Bool}
    {text : Text}
    {offset : Nat}
    (closed : (readString escaped text).2 = some offset) :
    offset < text.length := by
  obtain ⟨inside, -⟩ := List.getElem?_eq_some_iff.1 (getElem?_of_readString closed)
  exact inside

end Source

end StackTape
