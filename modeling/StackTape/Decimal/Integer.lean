import StackTape.Text.Basic

namespace StackTape

/-!
# Integers in decimal

An integer is written with the fewest decimal digits and a minus sign when it is
negative.  Reading accepts more: either sign, leading zeros, and underscores
anywhere but in front of the first digit.  What is written reads back.
-/

namespace Decimal

/-- The decimal digits of a natural number, most significant first. -/
def digits (n : Nat) : Text :=
  Nat.toDigits 10 n

/-- The number that a row of digits spells. -/
def spelled (row : Text) : Nat :=
  Nat.ofDigitChars 10 row 0

/-- The decimal text of an integer. -/
def ofInteger : Int → Text
  | .ofNat n =>
      digits n
  | .negSucc n =>
      '-' :: digits (n + 1)

/-- A digit, or the underscore that may separate digits. -/
def isDigitOrSeparator (c : Char) : Bool :=
  c.isDigit || c == '_'

/-- Read digits with optional separators behind the first one. -/
def natural? : Text → Option Nat
  | [] =>
      none
  | first :: rest =>
      if first.isDigit && rest.all isDigitOrSeparator then
        some (spelled ((first :: rest).filter Char.isDigit))
      else
        none

/-- Read an optional sign and a natural number. -/
def integer? : Text → Option Int
  | '-' :: body =>
      (natural? body).map fun n => -(n : Int)
  | '+' :: body =>
      (natural? body).map fun n => (n : Int)
  | body =>
      (natural? body).map fun n => (n : Int)

theorem digits_ne_nil
    (n : Nat) :
    digits n ≠ [] :=
  Nat.toDigits_ne_nil

theorem isDigit_of_mem_digits
    {c : Char}
    {n : Nat}
    (member : c ∈ digits n) :
    c.isDigit = true :=
  Nat.isDigit_of_mem_toDigits (by decide) (by decide) member

@[simp] theorem spelled_digits
    (n : Nat) :
    spelled (digits n) = n :=
  Nat.ofDigitChars_ten_toDigits

/-- A nonempty row of digits reads as the number it spells. -/
theorem natural?_of_digits
    {row : Text}
    (nonempty : row ≠ [])
    (allDigits : ∀ c ∈ row, c.isDigit = true) :
    natural? row = some (spelled row) := by
  cases row with
  | nil =>
      exact absurd rfl nonempty
  | cons first rest =>
      have restDigits : rest.all isDigitOrSeparator = true := by
        simp only [List.all_eq_true]
        intro c member
        simp [isDigitOrSeparator, allDigits c (List.mem_cons_of_mem _ member)]
      have kept : (first :: rest).filter Char.isDigit = first :: rest :=
        List.filter_eq_self.2 allDigits
      simp [natural?, allDigits first List.mem_cons_self, restDigits, kept]

@[simp] theorem natural?_digits
    (n : Nat) :
    natural? (digits n) = some n := by
  rw [natural?_of_digits (digits_ne_nil n) fun c => isDigit_of_mem_digits,
    spelled_digits]

/-- A text that starts with a digit carries no sign. -/
theorem integer?_of_isDigit
    {first : Char}
    {rest : Text}
    (digit : first.isDigit = true) :
    integer? (first :: rest) =
      (natural? (first :: rest)).map fun n => (n : Int) := by
  have noMinus : first ≠ '-' := by
    rintro rfl
    exact absurd digit (by decide)
  have noPlus : first ≠ '+' := by
    rintro rfl
    exact absurd digit (by decide)
  unfold integer?
  split
  · rename_i shape
    simp_all
  · rename_i shape
    simp_all
  · rfl

/-- Every integer reads back from its own decimal text. -/
@[simp] theorem integer?_ofInteger
    (i : Int) :
    integer? (ofInteger i) = some i := by
  cases i with
  | ofNat n =>
      cases shape : digits n with
      | nil =>
          exact absurd shape (digits_ne_nil n)
      | cons first rest =>
          have digit : first.isDigit = true :=
            isDigit_of_mem_digits (shape ▸ List.mem_cons_self)
          rw [ofInteger, shape, integer?_of_isDigit digit, ← shape,
            natural?_digits]
          rfl
  | negSucc n =>
      simp [ofInteger, integer?]
      omega

end Decimal

end StackTape
