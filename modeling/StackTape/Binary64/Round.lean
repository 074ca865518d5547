import StackTape.Binary64.Basic

namespace StackTape

/-!
# Rounding to the nearest real

Every operation computes an exact quotient of natural numbers and rounds it once:
to the nearest representable value, a tie to the even significand, and to
infinity from half a unit above the greatest finite value on.
-/

namespace Binary64

/-- The quotient rounded to the nearest whole number, a tie to the even one. -/
def nearestQuotient
    (numerator denominator : Nat) : Nat :=
  let quotient := numerator / denominator
  let remainder := numerator % denominator
  if 2 * remainder < denominator then
    quotient
  else if 2 * remainder = denominator ∧ quotient % 2 = 0 then
    quotient
  else
    quotient + 1

/-- The numerator of `numerator / denominator / 2 ^ exponent`. -/
def scaledNumerator
    (numerator : Nat)
    (exponent : Int) : Nat :=
  numerator <<< (-exponent).toNat

/-- The denominator of `numerator / denominator / 2 ^ exponent`. -/
def scaledDenominator
    (denominator : Nat)
    (exponent : Int) : Nat :=
  denominator <<< exponent.toNat

/--
The exponent at which a positive quotient has 53 binary digits before the point.
The lengths of the two numbers determine it up to one.
-/
def leadingExponent
    (numerator denominator : Nat) : Int :=
  let guess : Int := (numerator.log2 : Int) - denominator.log2 - 52
  if scaledNumerator numerator guess <
      scaledDenominator denominator guess <<< 52 then
    guess - 1
  else
    guess

/-- The finite value with this significand and exponent, else an infinity. -/
def ofParts
    (negative : Bool)
    (significand : Nat)
    (exponent : Int) : Binary64 :=
  if canonical : Canonical significand exponent then
    .finite negative significand exponent canonical
  else
    .infinite negative

/-- The real nearest to `numerator / denominator`, with the given sign. -/
def round
    (negative : Bool)
    (numerator denominator : Nat) : Binary64 :=
  if numerator = 0 then
    zero negative
  else
    let exponent := max (leadingExponent numerator denominator) (-1074)
    let significand :=
      nearestQuotient
        (scaledNumerator numerator exponent)
        (scaledDenominator denominator exponent)
    if significand = 0x20000000000000 then
      ofParts negative 0x10000000000000 (exponent + 1)
    else
      ofParts negative significand exponent

/-- The real nearest to an integer. -/
def ofInt (i : Int) : Binary64 :=
  round (decide (i < 0)) i.natAbs 1

/-- The real nearest to a whole number of least positive units. -/
def ofUnits
    (negativeZero : Bool)
    (units : Int) : Binary64 :=
  if units = 0 then
    zero negativeZero
  else
    round (decide (units < 0)) units.natAbs one

/-- An exact quotient is left as it is. -/
theorem nearestQuotient_mul_self
    (quotient : Nat)
    {denominator : Nat}
    (positive : 0 < denominator) :
    nearestQuotient (quotient * denominator) denominator = quotient := by
  simp [nearestQuotient, Nat.mul_div_cancel _ positive, positive]

/-- The nearest whole number is within half a unit. -/
theorem nearestQuotient_bounds
    (numerator : Nat)
    {denominator : Nat}
    (positive : 0 < denominator) :
    2 * numerator ≤
        (2 * nearestQuotient numerator denominator + 1) * denominator ∧
      2 * (nearestQuotient numerator denominator * denominator) ≤
        2 * numerator + denominator := by
  have division := Nat.div_add_mod numerator denominator
  have small := Nat.mod_lt numerator positive
  rw [Nat.mul_comm] at division
  simp only [nearestQuotient]
  split
  · rw [Nat.add_mul, Nat.mul_assoc]
    omega
  · split
    · rw [Nat.add_mul, Nat.mul_assoc]
      omega
    · rw [Nat.add_mul, Nat.mul_assoc, Nat.add_mul]
      omega

end Binary64

end StackTape
