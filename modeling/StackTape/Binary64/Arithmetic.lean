import StackTape.Binary64.Round

namespace StackTape

/-!
# Arithmetic on reals

Sums, products, quotients and remainders are computed exactly, in whole numbers of
least positive units, and rounded once.  What has no value is not a number.  Powers
come from the platform's own power function.
-/

namespace Binary64

/-- The sum; a sum of zero is negative only when both operands are. -/
def add : Binary64 → Binary64 → Binary64
  | .nan, _ =>
      .nan
  | _, .nan =>
      .nan
  | .infinite left, .infinite right =>
      if left = right then .infinite left else .nan
  | .infinite left, _ =>
      .infinite left
  | _, .infinite right =>
      .infinite right
  | .finite left leftSignificand leftExponent _,
      .finite right rightSignificand rightExponent _ =>
      ofUnits (left && right)
        (signed left (magnitude leftSignificand leftExponent) +
          signed right (magnitude rightSignificand rightExponent))

/-- The difference. -/
def sub (left right : Binary64) : Binary64 :=
  left.add right.neg

/-- The product. -/
def mul : Binary64 → Binary64 → Binary64
  | .nan, _ =>
      .nan
  | _, .nan =>
      .nan
  | .finite left leftSignificand leftExponent _,
      .finite right rightSignificand rightExponent _ =>
      round (left != right)
        (magnitude leftSignificand leftExponent *
          magnitude rightSignificand rightExponent)
        (one * one)
  | left, right =>
      if left.isZero || right.isZero then
        .nan
      else
        .infinite (left.isNegative != right.isNegative)

/-- The quotient. -/
def div : Binary64 → Binary64 → Binary64
  | .nan, _ =>
      .nan
  | _, .nan =>
      .nan
  | .infinite _, .infinite _ =>
      .nan
  | .infinite left, right =>
      .infinite (left != right.isNegative)
  | left, .infinite right =>
      zero (left.isNegative != right)
  | .finite left leftSignificand leftExponent _,
      .finite right rightSignificand rightExponent _ =>
      if rightSignificand = 0 then
        if leftSignificand = 0 then
          .nan
        else
          .infinite (left != right)
      else
        round (left != right)
          (magnitude leftSignificand leftExponent)
          (magnitude rightSignificand rightExponent)

/-- The remainder of the division toward zero, with the dividend's sign. -/
def remainder : Binary64 → Binary64 → Binary64
  | .nan, _ =>
      .nan
  | _, .nan =>
      .nan
  | .infinite _, _ =>
      .nan
  | left, .infinite _ =>
      left
  | .finite left leftSignificand leftExponent _,
      .finite _ rightSignificand rightExponent _ =>
      if rightSignificand = 0 then
        .nan
      else
        ofUnits left
          (signed left
            (magnitude leftSignificand leftExponent %
              magnitude rightSignificand rightExponent))

/-- The same value in the platform's representation. -/
def toFloat (value : Binary64) : Float :=
  Float.ofBits value.toBits

/-- The value of the platform's representation. -/
def ofFloat (value : Float) : Binary64 :=
  ofBits value.toBits

/-- The first value raised to the power of the second. -/
def pow (base exponent : Binary64) : Binary64 :=
  ofFloat (Float.pow base.toFloat exponent.toFloat)

end Binary64

end StackTape
