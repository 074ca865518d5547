import StackTape.Cell.Basic

namespace StackTape

/-!
# Reading cells

An input line is an integer, with blanks around it, or no number at all.  A line
that a function hands back may also be a real.
-/

namespace Cell

/-- The integer on an input line. -/
def integerOfLine? (line : Text) : Option Int :=
  Decimal.integer? (Text.trim line)

/-- The number on a line, an integer if it can be read as one. -/
def ofLine? (line : Text) : Option Cell :=
  match integerOfLine? line with
  | some value =>
      some (.int value)
  | none =>
      (Decimal.real? (Text.trim line)).map .real

/-- The number on a line, or else its characters. -/
def ofReturnedLine (line : Text) : List Cell :=
  match ofLine? line with
  | some cell =>
      [cell]
  | none =>
      line.map ofChar

/-- The text of an integer has no blank in it. -/
theorem isBlank_of_mem_ofInteger
    {value : Int}
    {c : Char}
    (member : c ∈ Decimal.ofInteger value) :
    Text.isBlank c = false := by
  cases value with
  | ofNat n =>
      exact Text.isBlank_of_isDigit (Decimal.isDigit_of_mem_digits member)
  | negSucc n =>
      rcases List.mem_cons.1 member with rfl | inDigits
      · decide
      · exact Text.isBlank_of_isDigit (Decimal.isDigit_of_mem_digits inDigits)

/-- Every integer reads back from a line that holds its text. -/
@[simp] theorem integerOfLine?_text_int
    (value : Int) :
    integerOfLine? (text (.int value)) = some value := by
  have trimmed :
      Text.trim (Decimal.ofInteger value) = Decimal.ofInteger value :=
    Text.trim_eq_self_of_forall fun _ => isBlank_of_mem_ofInteger
  simp [integerOfLine?, text, trimmed]

end Cell

end StackTape
