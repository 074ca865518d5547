import Mathlib.Data.Int.Log
import Mathlib.Data.Rat.Floor
import Mathlib.Tactic.FieldSimp
import Mathlib.Tactic.Linarith
import Mathlib.Tactic.NormNum
import Mathlib.Tactic.Positivity
import StackTape.Binary64.Round

namespace StackTape

/-!
# What rounding does

A quotient has one exponent at which it has 53 binary digits before the point, the binary
logarithm of its value less 52.  Rounding takes the whole number next to the quotient at
that exponent, or at the least one.  The result therefore depends on the value of the
quotient alone, it never decreases when the value grows, and it is the value itself when
that is representable.
-/

namespace Binary64

/-! ## The nearest whole number -/

section

variable {numerator denominator : Nat}

/-- A common factor makes no difference to the nearest whole number. -/
theorem nearestQuotient_mul_left
    {factor : Nat}
    (positive : 0 < factor) :
    nearestQuotient (factor * numerator) (factor * denominator) =
      nearestQuotient numerator denominator := by
  simp only [nearestQuotient, Nat.mul_div_mul_left _ _ positive,
    Nat.mul_mod_mul_left, Nat.mul_left_comm 2 factor,
    Nat.mul_lt_mul_left positive, Nat.mul_left_cancel_iff positive]

/-- The nearest whole number is the one below or the one above. -/
theorem nearestQuotient_near
    (numerator denominator : Nat) :
    numerator / denominator ≤ nearestQuotient numerator denominator ∧
      nearestQuotient numerator denominator ≤ numerator / denominator + 1 := by
  simp only [nearestQuotient]
  split_ifs <;> omega

/-- The nearest whole number does not decrease when the numerator grows. -/
theorem nearestQuotient_le
    {greater : Nat}
    (isLess : numerator ≤ greater) :
    nearestQuotient numerator denominator ≤
      nearestQuotient greater denominator := by
  have quotients : numerator / denominator ≤ greater / denominator :=
    Nat.div_le_div_right isLess
  rcases quotients.lt_or_eq with below | same
  · exact ((nearestQuotient_near numerator denominator).2.trans below).trans
      (nearestQuotient_near greater denominator).1
  · -- between the same two whole numbers the remainders decide
    have division := Nat.div_add_mod numerator denominator
    have greaterDivision := Nat.div_add_mod greater denominator
    rw [← same] at greaterDivision
    simp only [nearestQuotient, ← same]
    split_ifs <;> omega

/-- The nearest whole number does not decrease when the quotient grows. -/
theorem nearestQuotient_mono
    {otherNumerator otherDenominator : Nat}
    (positive : 0 < denominator)
    (otherPositive : 0 < otherDenominator)
    (isLess : numerator * otherDenominator ≤ otherNumerator * denominator) :
    nearestQuotient numerator denominator ≤
      nearestQuotient otherNumerator otherDenominator := by
  calc nearestQuotient numerator denominator
      = nearestQuotient (otherDenominator * numerator)
          (otherDenominator * denominator) :=
        (nearestQuotient_mul_left otherPositive).symm
    _ ≤ nearestQuotient (denominator * otherNumerator)
          (otherDenominator * denominator) := by
        refine nearestQuotient_le ?_
        rwa [Nat.mul_comm, Nat.mul_comm denominator]
    _ = nearestQuotient otherNumerator otherDenominator := by
        rw [Nat.mul_comm otherDenominator, nearestQuotient_mul_left positive]

/-- A quotient of at most a whole number rounds to at most that number. -/
theorem nearestQuotient_le_of_le_mul
    {whole : Nat}
    (positive : 0 < denominator)
    (most : numerator ≤ whole * denominator) :
    nearestQuotient numerator denominator ≤ whole :=
  (nearestQuotient_le most).trans_eq
    (nearestQuotient_mul_self whole positive)

/-- A quotient of at least a whole number rounds to at least that number. -/
theorem le_nearestQuotient_of_mul_le
    {whole : Nat}
    (positive : 0 < denominator)
    (least : whole * denominator ≤ numerator) :
    whole ≤ nearestQuotient numerator denominator :=
  (nearestQuotient_mul_self whole positive).symm.trans_le
    (nearestQuotient_le least)

end

/-! ## The exponent -/

theorem scaledDenominator_pos
    {denominator : Nat}
    (positive : 0 < denominator)
    (exponent : Int) :
    0 < scaledDenominator denominator exponent := by
  rw [scaledDenominator, Nat.shiftLeft_eq]
  exact Nat.mul_pos positive (Nat.two_pow_pos _)

/-- Scaling divides the quotient by a power of two. -/
theorem scaledNumerator_div_scaledDenominator
    (numerator denominator : Nat)
    (exponent : Int) :
    (scaledNumerator numerator exponent : ℚ) /
        scaledDenominator denominator exponent =
      numerator / denominator / 2 ^ exponent := by
  cases exponent with
  | ofNat places =>
      simp [scaledNumerator, scaledDenominator, Nat.shiftLeft_eq, div_div]
  | negSucc places =>
      simp [scaledNumerator, scaledDenominator, Nat.shiftLeft_eq,
        zpow_negSucc, mul_div_right_comm]

section

variable {numerator denominator : Nat}

theorem ratio_pos
    (numeratorPositive : 0 < numerator)
    (positive : 0 < denominator) :
    (0 : ℚ) < numerator / denominator :=
  div_pos (Nat.cast_pos.2 numeratorPositive) (Nat.cast_pos.2 positive)

/-- Comparing a scaled quotient with a whole number. -/
theorem scaledNumerator_lt_iff
    (positive : 0 < denominator)
    (exponent : Int)
    (whole : Nat) :
    scaledNumerator numerator exponent <
        whole * scaledDenominator denominator exponent ↔
      (numerator : ℚ) / denominator < whole * 2 ^ exponent := by
  have scaledPositive : (0 : ℚ) < scaledDenominator denominator exponent :=
    Nat.cast_pos.2 (scaledDenominator_pos positive exponent)
  rw [← div_lt_iff₀ (zpow_pos two_pos exponent),
    ← scaledNumerator_div_scaledDenominator, div_lt_iff₀ scaledPositive]
  exact_mod_cast Iff.rfl

/-- The binary logarithm is below the powers of two above the value. -/
theorem log_two_lt_iff
    {value : ℚ}
    (positive : 0 < value)
    (power : Int) :
    Int.log 2 value < power ↔ value < 2 ^ power := by
  simpa using (Int.lt_zpow_iff_log_lt Nat.one_lt_two positive).symm

/-- The binary logarithm is at or above the powers of two up to the value. -/
theorem le_log_two_iff
    {value : ℚ}
    (positive : 0 < value)
    (power : Int) :
    power ≤ Int.log 2 value ↔ 2 ^ power ≤ value := by
  simpa using (Int.zpow_le_iff_le_log Nat.one_lt_two positive).symm

theorem two_zpow_sub_natCast
    (upper lower : Nat) :
    (2 : ℚ) ^ ((upper : Int) - lower) = (2 ^ upper : Nat) / (2 ^ lower : Nat) := by
  rw [zpow_sub₀ two_ne_zero, zpow_natCast, zpow_natCast]
  norm_num

/-- The length of a scaled quotient. -/
theorem scaledNumerator_lt_two_pow_iff
    (numeratorPositive : 0 < numerator)
    (positive : 0 < denominator)
    (exponent : Int)
    (places : Nat) :
    scaledNumerator numerator exponent <
        2 ^ places * scaledDenominator denominator exponent ↔
      Int.log 2 ((numerator : ℚ) / denominator) < places + exponent := by
  rw [scaledNumerator_lt_iff positive,
    log_two_lt_iff (ratio_pos numeratorPositive positive),
    zpow_add₀ two_ne_zero, zpow_natCast]
  norm_num

/-- The exponent is the binary logarithm of the quotient, less 52. -/
theorem leadingExponent_eq_log
    (numeratorPositive : 0 < numerator)
    (positive : 0 < denominator) :
    leadingExponent numerator denominator =
      Int.log 2 ((numerator : ℚ) / denominator) - 52 := by
  have ratioPositive := ratio_pos numeratorPositive positive
  have below :
      Int.log 2 ((numerator : ℚ) / denominator) <
        ((numerator.log2 + 1 : Nat) : Int) - denominator.log2 := by
    rw [log_two_lt_iff ratioPositive, two_zpow_sub_natCast]
    exact div_lt_div₀ (Nat.cast_lt.2 Nat.lt_log2_self)
      (Nat.cast_le.2 (Nat.log2_self_le positive.ne')) (Nat.cast_nonneg _)
      (Nat.cast_pos.2 (Nat.two_pow_pos _))
  have above :
      (numerator.log2 : Int) - (denominator.log2 + 1 : Nat) ≤
        Int.log 2 ((numerator : ℚ) / denominator) := by
    rw [le_log_two_iff ratioPositive, two_zpow_sub_natCast]
    exact div_le_div₀ (Nat.cast_nonneg _)
      (Nat.cast_le.2 (Nat.log2_self_le numeratorPositive.ne'))
      (Nat.cast_pos.2 positive) (Nat.cast_le.2 Nat.lt_log2_self.le)
  have guess (exponent : Int) :
      scaledNumerator numerator exponent <
          scaledDenominator denominator exponent <<< 52 ↔
        Int.log 2 ((numerator : ℚ) / denominator) < (52 : Nat) + exponent := by
    rw [Nat.shiftLeft_eq, Nat.mul_comm]
    exact scaledNumerator_lt_two_pow_iff numeratorPositive positive exponent 52
  simp only [leadingExponent, guess]
  split_ifs <;> omega

end

/-! ## The significand -/

/-- The exponent that a quotient is rounded at. -/
def roundingExponent (numerator denominator : Nat) : Int :=
  max (leadingExponent numerator denominator) (-1074)

/-- The nearest whole number of units of that exponent. -/
def roundedSignificand (numerator denominator : Nat) : Nat :=
  nearestQuotient
    (scaledNumerator numerator (roundingExponent numerator denominator))
    (scaledDenominator denominator (roundingExponent numerator denominator))

/-- What a quotient is rounded to, in least positive units and without any bound. -/
def roundedSize (numerator denominator : Nat) : Nat :=
  magnitude
    (roundedSignificand numerator denominator)
    (roundingExponent numerator denominator)

theorem shiftLeft_eq_mul
    (units places : Nat) :
    units <<< places = units * 1 <<< places := by
  rw [Nat.shiftLeft_eq, Nat.shiftLeft_eq, Nat.one_mul]

theorem magnitude_eq_mul
    (significand : Nat)
    (exponent : Int) :
    magnitude significand exponent = significand * 2 ^ (exponent + 1074).toNat :=
  Nat.shiftLeft_eq _ _

theorem magnitude_zero
    (exponent : Int) :
    magnitude 0 exponent = 0 := by
  rw [magnitude_eq_mul, Nat.zero_mul]

theorem magnitude_le_magnitude
    {significand otherSignificand : Nat}
    (most : significand ≤ otherSignificand)
    (exponent : Int) :
    magnitude significand exponent ≤ magnitude otherSignificand exponent := by
  rw [magnitude_eq_mul, magnitude_eq_mul]
  exact Nat.mul_le_mul_right _ most

/-- A significand doubled at an exponent stands for the same at the next one. -/
theorem magnitude_two_mul
    (significand : Nat)
    {exponent : Int}
    (least : -1074 ≤ exponent) :
    magnitude (2 * significand) exponent = magnitude significand (exponent + 1) := by
  have next : (exponent + 1 + 1074).toNat = (exponent + 1074).toNat + 1 := by
    omega
  rw [magnitude_eq_mul, magnitude_eq_mul, next, Nat.pow_succ]
  ring

/-- The least significand of 53 digits is worth more at a greater exponent. -/
theorem magnitude_two_pow_le
    {exponent otherExponent : Int}
    (least : -1074 ≤ exponent)
    (less : exponent < otherExponent) :
    magnitude (2 ^ 53) exponent ≤ magnitude (2 ^ 52) otherExponent := by
  have places : (exponent + 1 + 1074).toNat ≤ (otherExponent + 1074).toNat := by
    omega
  rw [Nat.pow_succ', magnitude_two_mul _ least, magnitude_eq_mul, magnitude_eq_mul]
  exact Nat.mul_le_mul_left _ (Nat.pow_le_pow_right Nat.two_pos places)

section

variable {numerator denominator : Nat}

theorem roundedSignificand_zero
    (positive : 0 < denominator) :
    roundedSignificand 0 denominator = 0 := by
  refine Nat.le_zero.1 ?_
  refine nearestQuotient_le_of_le_mul (scaledDenominator_pos positive _) ?_
  simp [scaledNumerator]

theorem roundedSize_zero
    (positive : 0 < denominator) :
    roundedSize 0 denominator = 0 := by
  rw [roundedSize, roundedSignificand_zero positive, magnitude_zero]

/-- The significand has at most 53 digits, or is the least number with 54 of them. -/
theorem roundedSignificand_le
    (positive : 0 < denominator) :
    roundedSignificand numerator denominator ≤ 2 ^ 53 := by
  rcases numerator.eq_zero_or_pos with rfl | numeratorPositive
  · rw [roundedSignificand_zero positive]
    exact Nat.zero_le _
  · refine nearestQuotient_le_of_le_mul (scaledDenominator_pos positive _) ?_
    refine ((scaledNumerator_lt_two_pow_iff numeratorPositive positive _ _).2 ?_).le
    rw [roundingExponent, leadingExponent_eq_log numeratorPositive positive]
    omega

/-- It has at least 53 digits, unless the exponent is the least. -/
theorem le_roundedSignificand
    (numeratorPositive : 0 < numerator)
    (positive : 0 < denominator)
    (normal : -1074 ≤ leadingExponent numerator denominator) :
    2 ^ 52 ≤ roundedSignificand numerator denominator := by
  refine le_nearestQuotient_of_mul_le (scaledDenominator_pos positive _) ?_
  rw [← not_lt, scaledNumerator_lt_two_pow_iff numeratorPositive positive,
    roundingExponent, max_eq_left normal,
    leadingExponent_eq_log numeratorPositive positive]
  omega

end

section

variable {numerator denominator otherNumerator otherDenominator : Nat}

/-- A greater quotient is not rounded at a lesser exponent. -/
theorem leadingExponent_mono
    (numeratorPositive : 0 < numerator)
    (positive : 0 < denominator)
    (otherNumeratorPositive : 0 < otherNumerator)
    (otherPositive : 0 < otherDenominator)
    (isLess : numerator * otherDenominator ≤ otherNumerator * denominator) :
    leadingExponent numerator denominator ≤
      leadingExponent otherNumerator otherDenominator := by
  rw [leadingExponent_eq_log numeratorPositive positive,
    leadingExponent_eq_log otherNumeratorPositive otherPositive]
  refine sub_le_sub_right (Int.log_mono_right
    (ratio_pos numeratorPositive positive) ?_) 52
  rw [div_le_div_iff₀ (Nat.cast_pos.2 positive) (Nat.cast_pos.2 otherPositive)]
  exact_mod_cast isLess

/-- At one exponent, a greater quotient has no lesser significand. -/
theorem nearestQuotient_scaled_mono
    (positive : 0 < denominator)
    (otherPositive : 0 < otherDenominator)
    (isLess : numerator * otherDenominator ≤ otherNumerator * denominator)
    (exponent : Int) :
    nearestQuotient
        (scaledNumerator numerator exponent)
        (scaledDenominator denominator exponent) ≤
      nearestQuotient
        (scaledNumerator otherNumerator exponent)
        (scaledDenominator otherDenominator exponent) := by
  refine nearestQuotient_mono (scaledDenominator_pos positive _)
    (scaledDenominator_pos otherPositive _) ?_
  simp only [scaledNumerator, scaledDenominator, Nat.shiftLeft_eq]
  rw [Nat.mul_mul_mul_comm, Nat.mul_mul_mul_comm otherNumerator]
  exact Nat.mul_le_mul_right _ isLess

/-- What a quotient is rounded to does not decrease when the quotient grows. -/
theorem roundedSize_mono
    (positive : 0 < denominator)
    (otherPositive : 0 < otherDenominator)
    (isLess : numerator * otherDenominator ≤ otherNumerator * denominator) :
    roundedSize numerator denominator ≤
      roundedSize otherNumerator otherDenominator := by
  rcases numerator.eq_zero_or_pos with rfl | numeratorPositive
  · rw [roundedSize_zero positive]
    exact Nat.zero_le _
  have otherNumeratorPositive : 0 < otherNumerator :=
    pos_of_mul_pos_left
      ((Nat.mul_pos numeratorPositive otherPositive).trans_le isLess)
      (Nat.zero_le _)
  have leading :=
    leadingExponent_mono numeratorPositive positive otherNumeratorPositive
      otherPositive isLess
  have ordered :
      roundingExponent numerator denominator ≤
        roundingExponent otherNumerator otherDenominator :=
    max_le_max_right _ leading
  rcases ordered.eq_or_lt with same | less
  · rw [roundedSize, roundedSize, roundedSignificand, roundedSignificand, same]
    exact magnitude_le_magnitude
      (nearestQuotient_scaled_mono positive otherPositive isLess _) _
  · -- the significand below overflows at most to the least one of the next exponent
    have normal : -1074 ≤ leadingExponent otherNumerator otherDenominator := by
      simp only [roundingExponent] at less
      omega
    calc roundedSize numerator denominator
        ≤ magnitude (2 ^ 53) (roundingExponent numerator denominator) :=
          magnitude_le_magnitude (roundedSignificand_le positive) _
      _ ≤ magnitude (2 ^ 52) (roundingExponent otherNumerator otherDenominator) :=
          magnitude_two_pow_le (le_max_right _ _) less
      _ ≤ roundedSize otherNumerator otherDenominator :=
          magnitude_le_magnitude
            (le_roundedSignificand otherNumeratorPositive otherPositive normal) _

end

/-! ## The result -/

/-- A significand and an exponent of a value that may be too great. -/
structure Normal
    (significand : Nat)
    (exponent : Int) : Prop where
  small : significand < 2 ^ 53
  least : -1074 ≤ exponent
  leading : 2 ^ 52 ≤ significand ∨ exponent = -1074

section

variable {significand otherSignificand : Nat}
variable {exponent otherExponent : Int}

theorem Normal.of_canonical
    (canonical : Canonical significand exponent) :
    Normal significand exponent :=
  ⟨canonical.small, canonical.least, canonical.leading⟩

theorem Normal.canonical
    (normal : Normal significand exponent)
    (greatest : exponent ≤ 971) :
    Canonical significand exponent :=
  ⟨normal.small, normal.least, greatest, normal.leading⟩

/-- A greater exponent makes a greater value. -/
theorem Normal.magnitude_lt
    (normal : Normal significand exponent)
    (otherNormal : Normal otherSignificand otherExponent)
    (less : exponent < otherExponent) :
    magnitude significand exponent < magnitude otherSignificand otherExponent := by
  have least := normal.least
  have digits : 2 ^ 52 ≤ otherSignificand := by
    refine otherNormal.leading.resolve_right ?_
    omega
  calc magnitude significand exponent
      < magnitude (2 ^ 53) exponent := by
        rw [magnitude_eq_mul, magnitude_eq_mul]
        exact Nat.mul_lt_mul_of_pos_right normal.small (Nat.two_pow_pos _)
    _ ≤ magnitude (2 ^ 52) otherExponent :=
        magnitude_two_pow_le least less
    _ ≤ magnitude otherSignificand otherExponent :=
        magnitude_le_magnitude digits _

/-- A value has one significand and one exponent. -/
theorem Normal.unique
    (normal : Normal significand exponent)
    (otherNormal : Normal otherSignificand otherExponent)
    (same :
      magnitude significand exponent = magnitude otherSignificand otherExponent) :
    significand = otherSignificand ∧ exponent = otherExponent := by
  rcases lt_trichotomy exponent otherExponent with less | rfl | greater
  · exact absurd same (normal.magnitude_lt otherNormal less).ne
  · rw [magnitude_eq_mul, magnitude_eq_mul] at same
    exact ⟨Nat.eq_of_mul_eq_mul_right (Nat.two_pow_pos _) same, rfl⟩
  · exact absurd same (otherNormal.magnitude_lt normal greater).ne'

/-- The exponent tells whether a value is too great. -/
theorem Normal.exponent_le_iff
    (normal : Normal significand exponent) :
    exponent ≤ 971 ↔ magnitude significand exponent < 1 <<< 2098 := by
  have limit : (1 : Nat) <<< 2098 = magnitude (2 ^ 52) 972 := by
    decide +kernel
  have limitNormal : Normal (2 ^ 52) 972 := by
    constructor <;> decide
  rw [limit]
  constructor
  · intro greatest
    exact normal.magnitude_lt limitNormal (Int.lt_add_one_of_le greatest)
  · intro less
    refine not_lt.1 fun beyond => less.not_ge ?_
    rcases (Int.add_one_le_of_lt beyond).eq_or_lt with rfl | further
    · exact magnitude_le_magnitude (normal.leading.resolve_right (by decide)) _
    · exact (limitNormal.magnitude_lt normal further).le

/-- The position of what the parts of a value give. -/
theorem position?_ofParts
    (negative : Bool)
    (normal : Normal significand exponent) :
    (ofParts negative significand exponent).position? =
      some (signed negative (min (magnitude significand exponent) (1 <<< 2098))) := by
  by_cases greatest : exponent ≤ 971
  · rw [ofParts, dif_pos (normal.canonical greatest), position?,
      min_eq_left (normal.exponent_le_iff.1 greatest).le]
  · have isGreater := not_lt.1 (normal.exponent_le_iff.not.1 greatest)
    rw [ofParts, dif_neg (fun canonical => greatest canonical.greatest), position?,
      min_eq_right isGreater]

end

section

variable {numerator denominator : Nat}

/-- Rounding gives the parts of what the quotient is rounded to. -/
theorem exists_round_eq_ofParts
    (numerator : Nat)
    {denominator : Nat}
    (positive : 0 < denominator)
    (negative : Bool) :
    ∃ significand exponent,
      round negative numerator denominator =
          ofParts negative significand exponent ∧
        Normal significand exponent ∧
        magnitude significand exponent = roundedSize numerator denominator := by
  have least : -1074 ≤ roundingExponent numerator denominator :=
    le_max_right _ _
  rcases numerator.eq_zero_or_pos with rfl | numeratorPositive
  · refine ⟨0, -1074, rfl, by constructor <;> decide, ?_⟩
    rw [roundedSize_zero positive, magnitude_zero]
  · have rounded :
        round negative numerator denominator =
          if roundedSignificand numerator denominator = 2 ^ 53 then
            ofParts negative (2 ^ 52)
              (roundingExponent numerator denominator + 1)
          else
            ofParts negative
              (roundedSignificand numerator denominator)
              (roundingExponent numerator denominator) := by
      rw [round, if_neg numeratorPositive.ne']
      rfl
    rw [rounded]
    split_ifs with carries
    · refine ⟨_, _, rfl, ⟨by decide, by omega, .inl (le_refl _)⟩, ?_⟩
      rw [roundedSize, carries, ← magnitude_two_mul _ least, ← Nat.pow_succ']
    · refine ⟨_, _, rfl, ⟨?_, least, ?_⟩, rfl⟩
      · exact lt_of_le_of_ne (roundedSignificand_le positive) carries
      · rcases le_or_gt (-1074) (leadingExponent numerator denominator) with
          normal | subnormal
        · exact .inl (le_roundedSignificand numeratorPositive positive normal)
        · exact .inr (max_eq_right subnormal.le)

/-- Where a rounded quotient stands. -/
theorem position?_round
    (positive : 0 < denominator)
    (negative : Bool) :
    (round negative numerator denominator).position? =
      some
        (signed negative
          (min (roundedSize numerator denominator) (1 <<< 2098))) := by
  obtain ⟨significand, exponent, rounded, normal, size⟩ :=
    exists_round_eq_ofParts numerator positive negative
  rw [rounded, position?_ofParts negative normal, size]

/-- A quotient that is rounded to a representable value gives that value. -/
theorem round_of_roundedSize
    {significand : Nat}
    {exponent : Int}
    (positive : 0 < denominator)
    (negative : Bool)
    (canonical : Canonical significand exponent)
    (size :
      roundedSize numerator denominator = magnitude significand exponent) :
    round negative numerator denominator =
      .finite negative significand exponent canonical := by
  obtain ⟨found, foundExponent, rounded, normal, foundSize⟩ :=
    exists_round_eq_ofParts numerator positive negative
  obtain ⟨rfl, rfl⟩ := normal.unique (.of_canonical canonical) (foundSize.trans size)
  rw [rounded, ofParts, dif_pos canonical]

/-- A quotient of at least `2 ^ 1024` is rounded to an infinity. -/
theorem round_of_overflow
    (positive : 0 < denominator)
    (negative : Bool)
    (great : (1 <<< 1024) * denominator ≤ numerator) :
    round negative numerator denominator = .infinite negative := by
  obtain ⟨significand, exponent, rounded, normal, size⟩ :=
    exists_round_eq_ofParts numerator positive negative
  have limit : (1 : Nat) <<< 2098 ≤ roundedSize (1 <<< 1024) 1 := by
    decide +kernel
  have beyond : ¬exponent ≤ 971 := by
    rw [normal.exponent_le_iff, size, not_lt]
    refine limit.trans (roundedSize_mono Nat.one_pos positive ?_)
    exact great.trans_eq (Nat.mul_one numerator).symm
  rw [rounded, ofParts, dif_neg fun canonical => beyond canonical.greatest]

/-- A quotient of at most half the least positive unit is rounded to zero. -/
theorem round_of_vanishing
    (positive : 0 < denominator)
    (negative : Bool)
    (small : numerator * (1 <<< 1075) ≤ denominator) :
    round negative numerator denominator = zero negative := by
  refine round_of_roundedSize positive negative (by decide) ?_
  have half : roundedSize 1 (1 <<< 1075) = 0 := by
    decide +kernel
  have none : roundedSize numerator denominator ≤ 0 := by
    rw [← half]
    refine roundedSize_mono positive (by decide +kernel) ?_
    exact small.trans_eq (Nat.one_mul denominator).symm
  rw [Nat.le_zero.1 none, magnitude_zero]

/-- The sign has no part in the rounding. -/
theorem round_true
    (numerator denominator : Nat) :
    round true numerator denominator = (round false numerator denominator).neg := by
  simp only [round, ofParts]
  split_ifs <;> rfl

/-- Rounding depends on the value of the quotient alone. -/
theorem round_congr
    {otherNumerator otherDenominator : Nat}
    (positive : 0 < denominator)
    (otherPositive : 0 < otherDenominator)
    (same : numerator * otherDenominator = otherNumerator * denominator)
    (negative : Bool) :
    round negative numerator denominator =
      round negative otherNumerator otherDenominator := by
  obtain ⟨_, _, rounded, normal, size⟩ :=
    exists_round_eq_ofParts numerator positive negative
  obtain ⟨_, _, otherRounded, otherNormal, otherSize⟩ :=
    exists_round_eq_ofParts otherNumerator otherPositive negative
  have sizes :
      roundedSize numerator denominator =
        roundedSize otherNumerator otherDenominator :=
    le_antisymm (roundedSize_mono positive otherPositive same.le)
      (roundedSize_mono otherPositive positive same.ge)
  obtain ⟨rfl, rfl⟩ :=
    normal.unique otherNormal (size.trans (sizes.trans otherSize.symm))
  rw [rounded, otherRounded]

/-- A quotient that has a significand at an exponent is left as it is. -/
theorem roundedSize_of_normal
    {significand : Nat}
    {exponent : Int}
    (positive : 0 < denominator)
    (normal : Normal significand exponent)
    (whole :
      scaledNumerator numerator exponent =
        significand * scaledDenominator denominator exponent) :
    roundedSize numerator denominator = magnitude significand exponent := by
  have scaledPositive := scaledDenominator_pos positive exponent
  rcases numerator.eq_zero_or_pos with rfl | numeratorPositive
  · have vanishes : significand = 0 := by
      rw [scaledNumerator, Nat.zero_shiftLeft] at whole
      exact (Nat.mul_eq_zero.1 whole.symm).resolve_right scaledPositive.ne'
    rw [roundedSize_zero positive, vanishes, magnitude_zero]
  · have length :=
      scaledNumerator_lt_two_pow_iff numeratorPositive positive exponent
    have atMost : Int.log 2 ((numerator : ℚ) / denominator) < 53 + exponent := by
      refine (length 53).1 ?_
      rw [whole]
      exact Nat.mul_lt_mul_of_pos_right normal.small scaledPositive
    have atLeast :
        52 + exponent ≤ Int.log 2 ((numerator : ℚ) / denominator) ∨
          exponent = -1074 := by
      refine normal.leading.imp_left fun digits => ?_
      refine not_lt.1 ((length 52).not.1 ?_)
      rw [whole, not_lt]
      exact Nat.mul_le_mul_right _ digits
    have atExponent : roundingExponent numerator denominator = exponent := by
      have least := normal.least
      rw [roundingExponent, leadingExponent_eq_log numeratorPositive positive]
      omega
    rw [roundedSize, roundedSignificand, atExponent, whole,
      nearestQuotient_mul_self significand scaledPositive]

/-- A finite value is left as it is. -/
theorem round_magnitude
    {significand : Nat}
    {exponent : Int}
    (canonical : Canonical significand exponent)
    (negative : Bool) :
    round negative (magnitude significand exponent) one =
      .finite negative significand exponent canonical := by
  have onePositive : 0 < one := by
    decide +kernel
  refine round_of_roundedSize onePositive negative canonical ?_
  refine roundedSize_of_normal onePositive (.of_canonical canonical) ?_
  have places :
      (exponent + 1074).toNat + (-exponent).toNat = 1074 + exponent.toNat := by
    have least := canonical.least
    omega
  simp only [scaledNumerator, scaledDenominator, magnitude, one, Nat.shiftLeft_eq,
    Nat.one_mul, Nat.mul_assoc, ← Nat.pow_add, places]

/-- Integers of up to 53 binary digits are representable. -/
theorem roundedSize_of_le
    (small : numerator ≤ 2 ^ 53) :
    roundedSize numerator 1 = numerator * one := by
  rcases numerator.eq_zero_or_pos with rfl | positive
  · rw [roundedSize_zero Nat.one_pos, Nat.zero_mul]
  rcases small.eq_or_lt with rfl | less
  · decide +kernel
  · have length : numerator.log2 ≤ 52 :=
      Nat.le_of_lt_succ ((Nat.log2_lt positive.ne').2 less)
    have normal :
        Normal (numerator <<< (52 - numerator.log2)) (numerator.log2 - 52) := by
      rw [Nat.shiftLeft_eq]
      refine ⟨?_, by omega, .inl ?_⟩
      · calc numerator * 2 ^ (52 - numerator.log2)
            < 2 ^ (numerator.log2 + 1) * 2 ^ (52 - numerator.log2) :=
              Nat.mul_lt_mul_of_pos_right Nat.lt_log2_self (Nat.two_pow_pos _)
          _ = 2 ^ 53 := by
              rw [← Nat.pow_add]
              congr 1
              omega
      · calc 2 ^ 52 = 2 ^ numerator.log2 * 2 ^ (52 - numerator.log2) := by
              rw [← Nat.pow_add]
              congr 1
              omega
          _ ≤ numerator * 2 ^ (52 - numerator.log2) :=
              Nat.mul_le_mul_right _ (Nat.log2_self_le positive.ne')
    rw [roundedSize_of_normal Nat.one_pos normal]
    · have places :
          52 - numerator.log2 + ((numerator.log2 : Int) - 52 + 1074).toNat = 1074 := by
        omega
      rw [magnitude, ← Nat.shiftLeft_add, places, one, shiftLeft_eq_mul]
    · have up : (-((numerator.log2 : Int) - 52)).toNat = 52 - numerator.log2 := by
        omega
      have down : ((numerator.log2 : Int) - 52).toNat = 0 := by
        omega
      rw [scaledNumerator, scaledDenominator, up, down]
      exact (Nat.mul_one _).symm

end

end Binary64

end StackTape
