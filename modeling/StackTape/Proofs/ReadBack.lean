import StackTape.Decimal.Real
import StackTape.Proofs.Rounding

namespace StackTape

/-!
# Written reals read back

A decimal that reads back to a real is found on some grid, at the latest on the finest one,
which holds the real itself.  What is written for a decimal reads as a decimal of the same
value, and reading rounds by the value alone.  So every real is read back from its own
text.
-/

namespace Decimal

/-! ## Values of decimals -/

/-- Two decimals have the same value. -/
def IsSameValue (first second : Decimal) : Prop :=
  first.numerator * second.denominator = second.numerator * first.denominator

/-- Decimals of the same value are rounded alike. -/
theorem IsSameValue.toBinary64
    {first second : Decimal}
    (same : first.IsSameValue second)
    (negative : Bool) :
    first.toBinary64 negative = second.toBinary64 negative :=
  Binary64.round_congr first.denominator_pos second.denominator_pos same negative

/-- A number of units behind the point is the numerator. -/
theorem numerator_of_places
    (units places : Nat) :
    numerator ⟨units, -(places : Int)⟩ = units := by
  have whole : (-(places : Int)).toNat = 0 := by
    omega
  rw [numerator, whole]
  exact Nat.mul_one _

theorem denominator_of_places
    (units places : Nat) :
    denominator ⟨units, -(places : Int)⟩ = Nat.pow 10 places := by
  have count : (-(-(places : Int))).toNat = places := by
    omega
  rw [denominator, count]

/-- The length of the digits bounds a number from above. -/
theorem lt_pow_length_digits
    (units : Nat) :
    units < 10 ^ (digits units).length :=
  (Nat.length_toDigits_le_iff (by decide)
    (List.length_pos_iff.2 (digits_ne_nil units))).1 (le_refl _)

/-- The length of the digits bounds a positive number from below. -/
theorem pow_length_digits_le
    {units : Nat}
    (positive : 0 < units) :
    10 ^ ((digits units).length - 1) ≤ units := by
  rcases Nat.eq_zero_or_pos ((digits units).length - 1) with single | several
  · rw [single]
    exact positive
  · refine not_lt.1 fun less => ?_
    have shorter : (digits units).length ≤ (digits units).length - 1 :=
      (Nat.length_toDigits_le_iff (by decide) several).2 less
    omega

/-- A power of ten that is too great or too small makes no difference. -/
theorem toBinary64Clamped_eq
    (negative : Bool)
    (value : Decimal) :
    toBinary64Clamped negative value = value.toBinary64 negative := by
  have most := lt_pow_length_digits value.units
  simp only [toBinary64Clamped]
  split_ifs with vanishes overflows underflows
  · rw [toBinary64, numerator, vanishes, Nat.zero_mul]
    rfl
  · have length :
        309 + (-value.exponent).toNat ≤
          (digits value.units).length - 1 + value.exponent.toNat := by
      omega
    refine (Binary64.round_of_overflow value.denominator_pos negative ?_).symm
    calc 1 <<< 1024 * 10 ^ (-value.exponent).toNat
        ≤ 10 ^ 309 * 10 ^ (-value.exponent).toNat :=
          Nat.mul_le_mul_right _ (by decide +kernel)
      _ = 10 ^ (309 + (-value.exponent).toNat) := by
          rw [Nat.pow_add]
      _ ≤ 10 ^ ((digits value.units).length - 1 + value.exponent.toNat) :=
          Nat.pow_le_pow_right (by decide) length
      _ = 10 ^ ((digits value.units).length - 1) * 10 ^ value.exponent.toNat :=
          Nat.pow_add _ _ _
      _ ≤ value.units * 10 ^ value.exponent.toNat :=
          Nat.mul_le_mul_right _
            (pow_length_digits_le (Nat.pos_of_ne_zero vanishes))
  · have length :
        (digits value.units).length + value.exponent.toNat + 324 ≤
          (-value.exponent).toNat := by
      omega
    refine (Binary64.round_of_vanishing value.denominator_pos negative ?_).symm
    calc value.units * 10 ^ value.exponent.toNat * 1 <<< 1075
        ≤ 10 ^ (digits value.units).length * 10 ^ value.exponent.toNat * 10 ^ 324 :=
          Nat.mul_le_mul (Nat.mul_le_mul_right _ most.le) (by decide +kernel)
      _ = 10 ^ ((digits value.units).length + value.exponent.toNat + 324) := by
          rw [Nat.pow_add, Nat.pow_add]
      _ ≤ 10 ^ (-value.exponent).toNat :=
          Nat.pow_le_pow_right (by decide) length
  · rfl

/-! ## The shortest decimal -/

section

variable {significand : Nat}
variable {exponent : Int}

/-- A grid as fine as the least positive unit holds every whole number of units. -/
theorem below_exact
    {places fives : Nat}
    (fine : Nat.pow 10 places = fives * Binary64.one)
    (size : Nat) :
    (below size (-(places : Int))).numerator * Binary64.one =
      size * (below size (-(places : Int))).denominator := by
  have onePositive : 0 < Binary64.one := by
    decide +kernel
  have up : (-(-(places : Int))).toNat = places := by
    omega
  have down : (-(places : Int)).toNat = 0 := by
    omega
  have whole :
      size * (fives * Binary64.one) / (Binary64.one * Nat.pow 10 0) =
        size * fives := by
    rw [Nat.pow_eq, Nat.pow_zero, Nat.mul_one, ← Nat.mul_assoc,
      Nat.mul_div_cancel _ onePositive]
  rw [numerator, denominator, below, up, down, fine, whole, Nat.pow_eq,
    Nat.pow_zero, Nat.mul_one, Nat.mul_assoc]

/-- The finest grid holds every finite value. -/
theorem below_finest_toBinary64
    (canonical : Canonical significand exponent) :
    (below (Binary64.magnitude significand exponent) (-1074)).toBinary64 false =
      .finite false significand exponent canonical := by
  have fine : Nat.pow 10 1074 = Nat.pow 5 1074 * Binary64.one := by
    decide +kernel
  rw [← Binary64.round_magnitude canonical false]
  exact Binary64.round_congr (denominator_pos _) (by decide +kernel)
    (below_exact fine _) false

/-- Whatever the grids are searched down from, a decimal that reads back is found. -/
theorem coarsest_toBinary64
    (canonical : Canonical significand exponent)
    (grid : Nat) :
    (coarsest (.finite false significand exponent canonical)
        (Binary64.magnitude significand exponent) grid).toBinary64 false =
      .finite false significand exponent canonical := by
  induction grid with
  | zero =>
      exact below_finest_toBinary64 canonical
  | succ grid inductionHypothesis =>
      unfold coarsest
      split
      · rename_i found hit
        exact toBinary64_of_onGrid? hit
      · exact inductionHypothesis

/-- The shortest decimal reads back. -/
theorem shortest_toBinary64
    (canonical : Canonical significand exponent) :
    (shortest significand exponent).toBinary64 false =
      .finite false significand exponent canonical := by
  have target :
      Binary64.ofParts false significand exponent =
        .finite false significand exponent canonical :=
    dif_pos canonical
  rw [shortest, target]
  exact coarsest_toBinary64 canonical _

end

/-! ## Digits around a point -/

theorem spelled_append
    (first second : Text) :
    spelled (first ++ second) =
      10 ^ second.length * spelled first + spelled second := by
  rw [spelled, Nat.ofDigitChars_append, Nat.ofDigitChars_eq_ofDigitChars_zero]
  rfl

theorem spelled_zeros
    (count : Nat) :
    spelled (List.replicate count '0') = 0 := by
  rw [spelled, Nat.ofDigitChars_replicate_zero, Nat.mul_zero]

/-- The text has digits on both sides of a point. -/
structure IsPointed
    (text whole places : Text) : Prop where
  shape : text = whole ++ '.' :: places
  nonempty : whole ≠ []
  wholeDigits : ∀ c ∈ whole, c.isDigit = true
  placesDigits : ∀ c ∈ places, c.isDigit = true

/-- Digits around a point read as what they spell together. -/
theorem IsPointed.fraction?_eq
    {text whole places : Text}
    (pointed : IsPointed text whole places) :
    fraction? text =
      some ⟨spelled (whole ++ places), -(places.length : Int)⟩ := by
  obtain ⟨rfl, nonempty, wholeDigits, placesDigits⟩ := pointed
  have point : Char.isDigit '.' = false := by
    decide
  have before :
      (whole ++ '.' :: places).takeWhile Char.isDigit = whole := by
    rw [List.takeWhile_append_of_pos wholeDigits]
    simp [point]
  have behind :
      (whole ++ '.' :: places).dropWhile Char.isDigit = '.' :: places := by
    rw [List.dropWhile_append_of_pos wholeDigits]
    simp [point]
  have allPlaces :
      places.takeWhile Char.isDigit = places ∧
        places.dropWhile Char.isDigit = [] := by
    rw [← List.append_nil places, List.takeWhile_append_of_pos placesDigits,
      List.dropWhile_append_of_pos placesDigits]
    exact ⟨rfl, rfl⟩
  simp [fraction?, before, behind, allPlaces, nonempty, power?]

/-- Enough digits for the places behind the point, and one before it. -/
def padded (value : Decimal) : Text :=
  let row := digits value.units ++ List.replicate value.exponent.toNat '0'
  List.replicate ((-value.exponent).toNat + 1 - row.length) '0' ++ row

theorem isDigit_of_mem_padded
    {value : Decimal}
    {c : Char}
    (member : c ∈ value.padded) :
    c.isDigit = true := by
  simp only [padded, List.mem_append] at member
  rcases member with zero | digit | zero
  · rw [List.eq_of_mem_replicate zero]
    decide
  · exact isDigit_of_mem_digits digit
  · rw [List.eq_of_mem_replicate zero]
    decide

theorem lt_length_padded
    (value : Decimal) :
    (-value.exponent).toNat < value.padded.length := by
  simp only [padded, List.length_append, List.length_replicate]
  omega

theorem spelled_padded
    (value : Decimal) :
    spelled value.padded = value.numerator := by
  simp only [padded, spelled_append, spelled_zeros, spelled_digits,
    List.length_replicate, Nat.mul_zero, Nat.zero_add, Nat.add_zero]
  exact Nat.mul_comm _ _

/-- The digits are cut in front of the places, and no place is written as a zero. -/
theorem exists_cut_padded
    (value : Decimal) :
    ∃ whole places,
      value.padded = whole ++ places ∧
        places.length = (-value.exponent).toNat ∧
        whole ≠ [] ∧
        value.positional =
          whole ++ '.' :: (if places = [] then ['0'] else places) := by
  have longer := value.lt_length_padded
  refine ⟨value.padded.take (value.padded.length - (-value.exponent).toNat),
    value.padded.drop (value.padded.length - (-value.exponent).toNat),
    (List.take_append_drop _ _).symm, ?_, ?_, ?_⟩
  · rw [List.length_drop]
    omega
  · refine List.length_pos_iff.1 ?_
    rw [List.length_take]
    omega
  · exact List.append_assoc _ _ _

/-- What is written for a decimal reads as a decimal of the same value. -/
theorem exists_pointed_positional
    (value : Decimal) :
    ∃ whole places,
      IsPointed value.positional whole places ∧
        IsSameValue ⟨spelled (whole ++ places), -(places.length : Int)⟩ value := by
  obtain ⟨whole, places, cut, length, nonempty, written⟩ := value.exists_cut_padded
  have allDigits : ∀ c ∈ whole ++ places, c.isDigit = true := by
    rw [← cut]
    exact fun c => isDigit_of_mem_padded
  have wholeDigits : ∀ c ∈ whole, c.isDigit = true :=
    fun c member => allDigits c (List.mem_append_left _ member)
  have units : spelled (whole ++ places) = value.numerator := by
    rw [← cut, spelled_padded]
  by_cases none : places = []
  · -- the zero behind the point makes the number ten times as great
    subst none
    refine ⟨whole, ['0'],
      ⟨written, nonempty, wholeDigits, List.forall_mem_singleton.2 rfl⟩, ?_⟩
    rw [List.append_nil] at units
    have unit : value.denominator = 1 := by
      rw [denominator, ← length]
      rfl
    have zero : spelled ['0'] = 0 := spelled_zeros 1
    rw [IsSameValue, numerator_of_places, denominator_of_places, unit,
      spelled_append, units, zero, Nat.mul_one, Nat.add_zero]
    exact Nat.mul_comm _ _
  · rw [if_neg none] at written
    refine ⟨whole, places, ⟨written, nonempty, wholeDigits,
      fun c member => allDigits c (List.mem_append_right _ member)⟩, ?_⟩
    rw [IsSameValue, numerator_of_places, denominator_of_places, units, length]
    rfl

/-! ## Texts of reals -/

/-- A finite value is written as a decimal that reads back to it. -/
theorem exists_ofFinite_eq_positional
    {significand : Nat}
    {exponent : Int}
    (canonical : Canonical significand exponent) :
    ∃ value : Decimal,
      ofFinite significand exponent = value.positional ∧
        value.toBinary64 false = .finite false significand exponent canonical := by
  simp only [ofFinite]
  split_ifs with whole
  · refine ⟨_, rfl, ?_⟩
    have divides :
        Binary64.one ∣ Binary64.magnitude significand exponent :=
      Nat.dvd_of_mod_eq_zero (beq_iff_eq.1 whole)
    rw [← Binary64.round_magnitude canonical false]
    refine Binary64.round_congr (denominator_pos _) (by decide +kernel) ?_ false
    have units (units : Nat) : numerator ⟨units, 0⟩ = units :=
      numerator_of_places units 0
    have unit (units : Nat) : denominator ⟨units, 0⟩ = 1 :=
      denominator_of_places units 0
    rw [units, unit, Nat.div_mul_cancel divides, Nat.mul_one]
  · exact ⟨_, rfl, shortest_toBinary64 canonical⟩

/-- A text that starts with a digit is no word for a value. -/
theorem word?_of_isDigit
    {first : Char}
    (digit : first.isDigit = true)
    (negative : Bool)
    (rest : Text) :
    word? negative (first :: rest) = none := by
  have lower : first.toLower = first := by
    simp only [Char.isDigit, Bool.and_eq_true, decide_eq_true_eq] at digit
    exact dif_neg fun upper =>
      absurd (UInt32.le_trans upper.1 digit.2) (by decide)
  have noWord
      {initial : Char}
      {letters : Text}
      (letter : initial.isDigit = false) :
      (first :: rest).map Char.toLower ≠ initial :: letters := by
    rintro same
    rw [List.map_cons, lower, List.cons.injEq] at same
    rw [← same.1, digit] at letter
    cases letter
  simp only [word?]
  rw [if_neg, if_neg]
  · exact noWord (by decide)
  · rintro (shortWord | longWord)
    · exact noWord (by decide) shortWord
    · exact noWord (by decide) longWord

/-- A sign in front of a digit is split off. -/
theorem splitSign_withSign
    {first : Char}
    (digit : first.isDigit = true)
    (negative : Bool)
    (rest : Text) :
    splitSign (withSign negative (first :: rest)) = (negative, first :: rest) := by
  cases negative with
  | true =>
      rfl
  | false =>
      unfold withSign splitSign
      split
      · rename_i shape
        cases shape
        exact absurd digit (by decide)
      · rename_i shape
        cases shape
        exact absurd digit (by decide)
      · rfl

/-- A text with a point between digits reads as a signed value. -/
theorem IsPointed.real?_withSign
    {text whole places : Text}
    (pointed : IsPointed text whole places)
    (negative : Bool) :
    real? (withSign negative text) =
      some
        (toBinary64 negative
          ⟨spelled (whole ++ places), -(places.length : Int)⟩) := by
  have read := pointed.fraction?_eq
  obtain ⟨rfl, nonempty, wholeDigits, placesDigits⟩ := pointed
  cases whole with
  | nil =>
      exact absurd rfl nonempty
  | cons first rest =>
      have digit : first.isDigit = true := wholeDigits first List.mem_cons_self
      simp only [List.cons_append] at read ⊢
      simp only [real?, splitSign_withSign digit, word?_of_isDigit digit, read,
        Option.map_some, toBinary64Clamped_eq]

/-- Every real reads back from its own text. -/
theorem real?_ofReal
    (value : Binary64) :
    real? (ofReal value) = some value := by
  cases value with
  | nan =>
      decide
  | infinite negative =>
      cases negative <;> decide
  | finite negative significand exponent canonical =>
      obtain ⟨decimal, written, readsBack⟩ :=
        exists_ofFinite_eq_positional canonical
      obtain ⟨whole, places, pointed, same⟩ := decimal.exists_pointed_positional
      rw [ofReal, written, pointed.real?_withSign, same.toBinary64]
      cases negative with
      | false =>
          rw [readsBack]
      | true =>
          rw [toBinary64, Binary64.round_true, ← toBinary64, readsBack]
          rfl

end Decimal

end StackTape
