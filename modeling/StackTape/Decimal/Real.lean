import StackTape.Decimal.Shortest
import StackTape.Text.Blank

namespace StackTape

/-!
# Reals in decimal

A finite real without a fractional part is written with all its digits and one
zero behind the point; any other finite real is written with the shortest digits
that read back.  Neither form has an exponent.  The inspected form differs from
the written one only in using scientific notation for magnitudes from `10 ^ 16` on
and below `10 ^ -4`.

A real is read from an optional sign followed by digits with at most one point and
an optional power of ten, or by one of the words for infinity and for what is not a
number, in letters of either case.
-/

namespace Decimal

/-- A minus sign in front of what is negative. -/
def withSign
    (negative : Bool)
    (text : Text) : Text :=
  if negative then '-' :: text else text

/-- Whether a magnitude in least positive units has no fractional part. -/
def isWhole (size : Nat) : Bool :=
  size % Binary64.one == 0

/-- The text of a finite magnitude. -/
def ofFinite
    (significand : Nat)
    (exponent : Int) : Text :=
  let size := Binary64.magnitude significand exponent
  if isWhole size then
    positional ⟨size / Binary64.one, 0⟩
  else
    positional (shortest significand exponent)

/-- The text of a real. -/
def ofReal : Binary64 → Text
  | .nan =>
      "NaN".toList
  | .infinite negative =>
      withSign negative "inf".toList
  | .finite negative significand exponent _ =>
      withSign negative (ofFinite significand exponent)

/-- Whether the inspected form of a finite magnitude is scientific. -/
def isInspectedScientifically
    (significand : Nat)
    (exponent : Int) : Bool :=
  let size := Binary64.magnitude significand exponent
  Nat.pow 10 16 * Binary64.one ≤ size ||
    (significand != 0 && Nat.pow 10 4 * size < Binary64.one)

/-- The inspected form of a real. -/
def inspectReal : Binary64 → Text
  | .nan =>
      "NaN".toList
  | .infinite negative =>
      withSign negative "inf".toList
  | .finite negative significand exponent _ =>
      withSign negative
        (if isInspectedScientifically significand exponent then
          scientific (shortest significand exponent)
        else
          ofFinite significand exponent)

/-- Split an optional sign off; the first part tells whether it is a minus. -/
def splitSign : Text → Bool × Text
  | '-' :: rest =>
      (true, rest)
  | '+' :: rest =>
      (false, rest)
  | text =>
      (false, text)

/-- The words for values without digits, in small letters. -/
def word? (negative : Bool) (text : Text) : Option Binary64 :=
  let small := text.map Char.toLower
  if small = "inf".toList ∨ small = "infinity".toList then
    some (.infinite negative)
  else if small = "nan".toList then
    some .nan
  else
    none

/--
Round a decimal whose power of ten may be huge.  From `10 ^ 400` on every value
overflows, and below `10 ^ -400` every value vanishes, so no such power is
computed.
-/
def toBinary64Clamped
    (negative : Bool)
    (value : Decimal) : Binary64 :=
  let length : Int := (digits value.units).length
  if value.units = 0 then
    Binary64.zero negative
  else if 400 < length + value.exponent then
    .infinite negative
  else if length + value.exponent < -400 then
    Binary64.zero negative
  else
    toBinary64 negative value

/-- Read the power of ten behind the digits, zero when there is none. -/
def power? : Text → Option Int
  | [] =>
      some 0
  | mark :: rest =>
      if mark = 'e' ∨ mark = 'E' then
        let (negative, row) := splitSign rest
        if row ≠ [] ∧ row.all Char.isDigit then
          some (Binary64.signed negative (spelled row))
        else
          none
      else
        none

/-- Read digits with at most one point and an optional power of ten. -/
def fraction? (text : Text) : Option Decimal :=
  let whole := text.takeWhile Char.isDigit
  let behindWhole := text.dropWhile Char.isDigit
  let (places, behind) :=
    match behindWhole with
    | '.' :: rest =>
        (rest.takeWhile Char.isDigit, rest.dropWhile Char.isDigit)
    | rest =>
        ([], rest)
  if whole = [] ∧ places = [] then
    none
  else
    (power? behind).map fun power =>
      ⟨spelled (whole ++ places), power - places.length⟩

/-- Read a real. -/
def real? (text : Text) : Option Binary64 :=
  let (negative, body) := splitSign text
  match word? negative body with
  | some value =>
      some value
  | none =>
      (fraction? body).map (toBinary64Clamped negative)

end Decimal

end StackTape
