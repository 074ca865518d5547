import StackTape.Cell.Basic

namespace StackTape

/-!
# Emissions

What an output instruction hands over: one character, one number, or a finished
text.  Each has one rendering; a number renders as its cell's text.
-/

/-- Something that an invocation outputs. -/
inductive Emission where
  | character (value : Char)
  | number (cell : Cell)
  | text (value : Text)
  deriving DecidableEq

namespace Emission

/-- The emission as a reader of the output sees it. -/
def render : Emission → Text
  | .character value =>
      [value]
  | .number cell =>
      cell.text
  | .text value =>
      value

end Emission

end StackTape
