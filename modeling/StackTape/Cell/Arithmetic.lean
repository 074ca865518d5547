import StackTape.Binary64.Arithmetic
import StackTape.Fault

namespace StackTape

/-!
# Arithmetic on cells

Two integers are added, subtracted and multiplied exactly; as soon as one operand is
a real both are.  Division always gives a real.  The remainder takes the sign of the
divisor.  An integer to a natural power is exact, any other power is a real.
-/

namespace Cell

/-- The cell as an operand of a real operation; an integer must not overflow. -/
def realOperand (cell : Cell) : Except Fault Binary64 :=
  match cell with
  | .int value =>
      let nearest := Binary64.ofInt value
      if nearest.isInfinite then
        .error .integerTooLarge
      else
        .ok nearest
  | .real value =>
      .ok value

/-- Combine two cells as reals; the left one is converted first. -/
def combineReals
    (operation : Binary64 → Binary64 → Binary64)
    (left right : Cell) : Except Fault Binary64 := do
  let leftReal ← left.realOperand
  let rightReal ← right.realOperand
  return operation leftReal rightReal

/-- The sum. -/
def add : Cell → Cell → Except Fault Cell
  | .int left, .int right =>
      .ok (.int (left + right))
  | left, right =>
      (combineReals Binary64.add left right).map .real

/-- The difference. -/
def sub : Cell → Cell → Except Fault Cell
  | .int left, .int right =>
      .ok (.int (left - right))
  | left, right =>
      (combineReals Binary64.sub left right).map .real

/-- The product. -/
def mul : Cell → Cell → Except Fault Cell
  | .int left, .int right =>
      .ok (.int (left * right))
  | left, right =>
      (combineReals Binary64.mul left right).map .real

/-- The quotient, always a real. -/
def div (left right : Cell) : Except Fault Cell :=
  if right.isNonzero then
    (combineReals Binary64.div left right).map .real
  else
    .error (.zeroDivision .divisor)

/--
Bring a remainder to the divisor's sign: add the divisor when the remainder is
neither zero nor of the divisor's sign.
-/
def flooredRemainder (left right : Binary64) : Binary64 :=
  let remainder := left.remainder right
  let zero := Binary64.zero false
  let isBelowZero := fun value : Binary64 => value.compare? zero == some .lt
  if remainder.isZero = false ∧
      isBelowZero remainder != isBelowZero right then
    remainder.add right
  else
    remainder

/-- The remainder of integers, of the dividend's sign at first, brought to it likewise. -/
def flooredIntegerRemainder (left right : Int) : Int :=
  let remainder := left.tmod right
  if remainder ≠ 0 ∧ decide (remainder < 0) != decide (right < 0) then
    remainder + right
  else
    remainder

/-- The remainder with the sign of the divisor. -/
def mod (left right : Cell) : Except Fault Cell :=
  if right.isNonzero then
    match left, right with
    | .int leftValue, .int rightValue =>
        .ok (.int (flooredIntegerRemainder leftValue rightValue))
    | leftCell, rightCell =>
        (combineReals flooredRemainder leftCell rightCell).map .real
  else
    .error (.zeroDivision .modulus)

/-- The greatest exponent that an exact power may have. -/
def greatestExponent : Int :=
  0xFFFFFFFF

/-- A power of reals, which must not overflow. -/
def realPower (base exponent : Cell) : Except Fault Cell := do
  if !base.isNonzero &&
      exponent.nearestReal.compare? (Binary64.zero false) == some .lt then
    .error (.zeroDivision .negativePower)
  else
    let power ← combineReals Binary64.pow base exponent
    if power.isInfinite then
      .error .powerTooLarge
    else
      .ok (.real power)

/-- The first cell raised to the power of the second. -/
def pow : Cell → Cell → Except Fault Cell
  | .int base, .int exponent =>
      if exponent < 0 then
        realPower (.int base) (.int exponent)
      else if greatestExponent < exponent then
        .error (.exponentTooLarge exponent)
      else
        .ok (.int (base.pow exponent.toNat))
  | base, exponent =>
      realPower base exponent

/-- The exact integer in the cell. -/
def integer : Cell → Except Fault Int
  | .int value =>
      .ok value
  | .real value =>
      .error (.realForInteger value)

/-- The greatest count or index that an instruction distinguishes. -/
def greatestCount : Int :=
  0x7FFFFFFFFFFFFFFF

/-- An integer as a count or an index, unless it is out of their range. -/
def count? (value : Int) : Option Int :=
  if -greatestCount - 1 ≤ value ∧ value ≤ greatestCount then
    some value
  else
    none

/-- The integer of the range of counts that is nearest to an integer. -/
def clamped (value : Int) : Int :=
  max (-greatestCount - 1) (min greatestCount value)

/-- The exact integer in the cell, brought into the range of counts. -/
def clampedInteger (cell : Cell) : Except Fault Int :=
  cell.integer.map clamped

/-- The character whose code point the cell holds. -/
def character (cell : Cell) : Except Fault Char :=
  cell.integer.bind fun code =>
    if 0 ≤ code ∧ code.toNat.isValidChar then
      .ok (Char.ofNat code.toNat)
    else
      .error (.notCharacter code)

/-- Whether the cell is a length of time that can be waited for, in seconds. -/
def isDuration (cell : Cell) : Bool :=
  let seconds := cell.nearestReal
  let isAtLeast := fun bound : Int =>
    match seconds.compare? (Binary64.ofInt bound) with
    | some .lt | none =>
        false
    | _ =>
        true
  isAtLeast 0 && !isAtLeast 0x10000000000000000

@[simp] theorem add_int
    (left right : Int) :
    (int left).add (int right) = .ok (int (left + right)) :=
  rfl

@[simp] theorem sub_int
    (left right : Int) :
    (int left).sub (int right) = .ok (int (left - right)) :=
  rfl

@[simp] theorem mul_int
    (left right : Int) :
    (int left).mul (int right) = .ok (int (left * right)) :=
  rfl

theorem mod_int_of_ne_zero
    (left : Int)
    {right : Int}
    (nonzero : right ≠ 0) :
    (int left).mod (int right) = .ok (int (flooredIntegerRemainder left right)) := by
  simp [mod, nonzero]

theorem mod_int_zero
    (left : Int) :
    (int left).mod (int 0) = .error (.zeroDivision .modulus) :=
  rfl

/-- An integer is the count or the index that it is, if it is one at all. -/
theorem count?_eq_some_iff
    {value count : Int} :
    count? value = some count ↔
      (-greatestCount - 1 ≤ value ∧ value ≤ greatestCount) ∧ value = count := by
  rw [count?, Option.ite_none_right_eq_some, Option.some.injEq]

@[simp] theorem integer_int
    (value : Int) :
    (int value).integer = .ok value :=
  rfl

/-- A character is read back from the cell that holds its code point. -/
@[simp] theorem character_ofChar
    (c : Char) :
    (ofChar c).character = .ok c := by
  have valid : 0 ≤ (c.toNat : Int) ∧ ((c.toNat : Int).toNat).isValidChar :=
    ⟨Int.natCast_nonneg _, c.valid⟩
  simp only [character, ofChar, integer, Except.bind, if_pos valid]
  exact congrArg _ (Char.ofNat_toNat c)

end Cell

end StackTape
