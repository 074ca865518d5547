import StackTape.Binary64.Round
import StackTape.Decimal.Basic

namespace StackTape

/-!
# The shortest decimal that reads back

Among the decimals that round to a given real, the shortest ones lie on the
coarsest grid of multiples of a power of ten that holds any.  On a grid only the
two neighbours of the value need a look, so the grids are tried from a coarse one
downward; of two neighbours that read back the nearer one is taken, the upper one
when they are equally near.  The finest grid, of multiples of `10 ^ -1074`, holds
the value itself.
-/

namespace Decimal

/-- The real nearest to the decimal. -/
def toBinary64
    (negative : Bool)
    (value : Decimal) : Binary64 :=
  Binary64.round negative value.numerator value.denominator

/-- The greatest grid point that is at most `size` least positive units. -/
def below
    (size : Nat)
    (exponent : Int) : Decimal :=
  ⟨size * Nat.pow 10 (-exponent).toNat /
      (Binary64.one * Nat.pow 10 exponent.toNat),
    exponent⟩

/-- The grid point after `below`. -/
def above
    (size : Nat)
    (exponent : Int) : Decimal :=
  ⟨(below size exponent).units + 1, exponent⟩

/-- Whether the value is nearer to the grid point below it. -/
def isNearerBelow
    (size : Nat)
    (exponent : Int) : Bool :=
  let unit := Binary64.one * Nat.pow 10 exponent.toNat
  2 * (size * Nat.pow 10 (-exponent).toNat % unit) < unit

/-- The grid's decimal that reads back as `target`, when there is one. -/
def onGrid?
    (target : Binary64)
    (size : Nat)
    (exponent : Int) : Option Decimal :=
  let lower := below size exponent
  let upper := above size exponent
  if lower.toBinary64 false = target then
    if upper.toBinary64 false = target ∧
        isNearerBelow size exponent = false then
      some upper
    else
      some lower
  else if upper.toBinary64 false = target then
    some upper
  else
    none

/-- The coarsest grid's decimal, counting grids up from the finest one. -/
def coarsest
    (target : Binary64)
    (size : Nat) : Nat → Decimal
  | 0 =>
      below size (-1074)
  | grid + 1 =>
      match onGrid? target size ((grid : Int) + 1 - 1074) with
      | some found =>
          found
      | none =>
          coarsest target size grid

/-- The shortest decimal that reads back as the positive finite value. -/
def shortest
    (significand : Nat)
    (exponent : Int) : Decimal :=
  let size := Binary64.magnitude significand exponent
  coarsest
    (Binary64.ofParts false significand exponent)
    size
    ((digits (size / Binary64.one)).length + 1074)

/-- A decimal found on a grid reads back. -/
theorem toBinary64_of_onGrid?
    {target : Binary64}
    {size : Nat}
    {exponent : Int}
    {found : Decimal}
    (hit : onGrid? target size exponent = some found) :
    found.toBinary64 false = target := by
  simp only [onGrid?] at hit
  split at hit
  · split at hit <;> simp_all
  · split at hit <;> simp_all

end Decimal

end StackTape
