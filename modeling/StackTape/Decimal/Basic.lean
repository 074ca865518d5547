import StackTape.Decimal.Integer

namespace StackTape

/-!
# Decimal fractions

A decimal fraction is a natural number of units of some power of ten.  It is laid
out either positionally, with at least one digit on each side of the point, or in
scientific form, with one digit before the point and no point when no digit
follows.
-/

/-- The value `units · 10 ^ exponent`. -/
structure Decimal where
  units : Nat
  exponent : Int
  deriving DecidableEq, Repr

namespace Decimal

/-- The numerator of the value as a quotient of natural numbers. -/
def numerator (value : Decimal) : Nat :=
  value.units * Nat.pow 10 value.exponent.toNat

/-- The denominator that goes with `numerator`. -/
def denominator (value : Decimal) : Nat :=
  Nat.pow 10 (-value.exponent).toNat

theorem denominator_pos
    (value : Decimal) :
    0 < value.denominator :=
  Nat.pow_pos (by decide)

/-- Digits on both sides of a point, as many zeros as it takes. -/
def positional (value : Decimal) : Text :=
  let row := digits value.units
  let whole := row ++ List.replicate value.exponent.toNat '0'
  let places := (-value.exponent).toNat
  let padded := List.replicate (places + 1 - whole.length) '0' ++ whole
  let fraction := padded.drop (padded.length - places)
  padded.take (padded.length - places) ++
    ['.'] ++
    (if fraction = [] then ['0'] else fraction)

/-- One digit, the others behind a point, and the power of ten. -/
def scientific (value : Decimal) : Text :=
  let row := digits value.units
  let power := value.exponent + (row.length - 1 : Nat)
  row.take 1 ++
    (if row.length = 1 then [] else '.' :: row.drop 1) ++
    ['e'] ++
    ofInteger power

end Decimal

end StackTape
