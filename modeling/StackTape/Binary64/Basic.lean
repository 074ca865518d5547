namespace StackTape

/-!
# Double-precision reals

A real is not a number, infinite, or a signed whole number of units of a power of
two with a significand of at most 53 bits.  Each finite value has one significand
and exponent: the significand is at least `2 ^ 52`, or the exponent is the least.
There is one value that is not a number.  Zero has two signs.
-/

/-- The significands and exponents that finite reals have. -/
structure Canonical
    (significand : Nat)
    (exponent : Int) : Prop where
  /-- At most 53 binary digits. -/
  small : significand < 0x20000000000000
  least : -1074 ≤ exponent
  greatest : exponent ≤ 971
  /-- All 53 of them, unless the exponent is the least. -/
  leading : 0x10000000000000 ≤ significand ∨ exponent = -1074

instance
    (significand : Nat)
    (exponent : Int) :
    Decidable (Canonical significand exponent) :=
  decidable_of_iff
    (significand < 0x20000000000000 ∧
      -1074 ≤ exponent ∧
      exponent ≤ 971 ∧
      (0x10000000000000 ≤ significand ∨ exponent = -1074))
    ⟨fun ⟨small, least, greatest, leading⟩ =>
        ⟨small, least, greatest, leading⟩,
      fun canonical =>
        ⟨canonical.small, canonical.least, canonical.greatest,
          canonical.leading⟩⟩

/-- A real of double precision. -/
inductive Binary64 where
  | nan
  | infinite (negative : Bool)
  | finite
      (negative : Bool)
      (significand : Nat)
      (exponent : Int)
      (canonical : Canonical significand exponent)
  deriving DecidableEq

namespace Binary64

/-- Zero with the given sign. -/
def zero (negative : Bool) : Binary64 :=
  .finite negative 0 (-1074) (by decide)

instance : Inhabited Binary64 :=
  ⟨zero false⟩

/-- Whether the sign bit is set; a value that is not a number has none. -/
def isNegative : Binary64 → Bool
  | .nan =>
      false
  | .infinite negative =>
      negative
  | .finite negative _ _ _ =>
      negative

/-- Either infinity. -/
def isInfinite : Binary64 → Bool
  | .infinite _ =>
      true
  | _ =>
      false

/-- Either zero. -/
def isZero : Binary64 → Bool
  | .finite _ significand _ _ =>
      significand == 0
  | _ =>
      false

/--
The size of a finite value in units of the least positive one, `2 ^ -1074`.  Every
finite value is a whole number of these units.
-/
def magnitude
    (significand : Nat)
    (exponent : Int) : Nat :=
  significand <<< (exponent + 1074).toNat

/-- How many least positive units make one. -/
def one : Nat :=
  1 <<< 1074

/-- A magnitude with its sign. -/
def signed
    (negative : Bool)
    (size : Nat) : Int :=
  if negative then -(size : Int) else size

/--
The position on the line of extended reals, in least positive units: the
infinities stand just beyond the greatest finite value.
-/
def position? : Binary64 → Option Int
  | .nan =>
      none
  | .infinite negative =>
      some (signed negative (1 <<< 2098))
  | .finite negative significand exponent _ =>
      some (signed negative (magnitude significand exponent))

/-- How two values compare; nothing compares with what is not a number. -/
def compare?
    (left right : Binary64) : Option Ordering :=
  match left.position?, right.position? with
  | some leftPosition, some rightPosition =>
      some (compare leftPosition rightPosition)
  | _, _ =>
      none

/-- The value with the other sign. -/
def neg : Binary64 → Binary64
  | .nan =>
      .nan
  | .infinite negative =>
      .infinite (!negative)
  | .finite negative significand exponent canonical =>
      .finite (!negative) significand exponent canonical

/-- The value with these binary digits in the interchange format. -/
def ofBits (bits : UInt64) : Binary64 :=
  let word : Nat := bits.toNat
  let negative := decide (0x8000000000000000 ≤ word)
  let field : Nat := (word >>> 52) % 0x800
  let fraction : Nat := word % 0x10000000000000
  if field = 0x7FF then
    if fraction = 0 then .infinite negative else .nan
  else
    let significand : Nat :=
      if field = 0 then fraction else 0x10000000000000 + fraction
    let exponent : Int :=
      if field = 0 then -1074 else (field : Int) - 1075
    if canonical : Canonical significand exponent then
      .finite negative significand exponent canonical
    else
      .nan

/-- The binary digits in the interchange format. -/
def toBits : Binary64 → UInt64
  | .nan =>
      0x7FF8000000000000
  | .infinite negative =>
      (if negative then 0xFFF0000000000000 else 0x7FF0000000000000)
  | .finite negative significand exponent _ =>
      let fields : Nat :=
        if significand < 0x10000000000000 then
          significand
        else
          (exponent + 1075).toNat <<< 52 + (significand - 0x10000000000000)
      UInt64.ofNat ((if negative then 0x8000000000000000 else 0) + fields)

end Binary64

end StackTape
