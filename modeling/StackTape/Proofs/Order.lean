import StackTape.Cell.Basic
import StackTape.Proofs.Rounding
import StackTape.Stack

namespace StackTape

/-!
# How cells compare

Every cell that is a number has a position, that of the real nearest to it.  Cells at
different positions compare as their positions do, because rounding keeps the order of
integers.  At one position all cells are equal, except that two integers are compared
exactly.  Integers of up to 53 binary digits have positions of their own; where two
greater integers share one, a real that stands there is equal to both.
-/

namespace Binary64

/-- Where the real nearest to an integer stands. -/
def positionOfInt (i : Int) : Int :=
  signed (decide (i < 0)) (min (roundedSize i.natAbs 1) (1 <<< 2098))

theorem position?_ofInt
    (i : Int) :
    (ofInt i).position? = some (positionOfInt i) :=
  position?_round Nat.one_pos _

/-- Rounding keeps the order of integers. -/
theorem positionOfInt_mono
    {left right : Int}
    (ordered : left ≤ right) :
    positionOfInt left ≤ positionOfInt right := by
  have sizes
      {less greater : Nat}
      (isLess : less ≤ greater) :
      min (roundedSize less 1) (1 <<< 2098) ≤
        min (roundedSize greater 1) (1 <<< 2098) :=
    min_le_min_right _
      (roundedSize_mono Nat.one_pos Nat.one_pos (Nat.mul_le_mul_right 1 isLess))
  simp only [positionOfInt]
  generalize (1 : Nat) <<< 2098 = limit at sizes
  rcases lt_or_ge left 0 with leftNegative | leftNonnegative
  · rcases lt_or_ge right 0 with rightNegative | rightNonnegative
    · have reversed := sizes (by omega : right.natAbs ≤ left.natAbs)
      simp only [signed, leftNegative, rightNegative, decide_true, if_true]
      omega
    · simp only [signed, leftNegative, not_lt.2 rightNonnegative, decide_true,
        decide_false, if_true, Bool.false_eq_true, if_false]
      omega
  · have kept := sizes (by omega : left.natAbs ≤ right.natAbs)
    simp only [signed, not_lt.2 leftNonnegative,
      not_lt.2 (leftNonnegative.trans ordered), decide_false, Bool.false_eq_true,
      if_false]
    omega

/-- Integers of up to 53 binary digits have positions of their own. -/
theorem positionOfInt_of_small
    {i : Int}
    (small : i.natAbs ≤ 0x20000000000000) :
    positionOfInt i = i * one := by
  have finite : i.natAbs * one ≤ 1 <<< 2098 :=
    (Nat.mul_le_mul_right one small).trans (by decide +kernel)
  rw [positionOfInt, roundedSize_of_le small, min_eq_left finite]
  generalize one = unit
  rcases lt_or_ge i 0 with negative | nonnegative
  · have size : (i.natAbs : Int) = -i := by
      omega
    simp [signed, negative, size]
  · have size : (i.natAbs : Int) = i := by
      omega
    simp [signed, not_lt.2 nonnegative, size]

end Binary64

namespace Cell

/-- What is a number compares with every other number. -/
def IsNumber (cell : Cell) : Prop :=
  cell ≠ .real .nan

instance
    (cell : Cell) :
    Decidable cell.IsNumber :=
  inferInstanceAs (Decidable (cell ≠ .real .nan))

/-- Different integers whose nearest reals are equal. -/
structure Merged (left right : Int) : Prop where
  apart : left ≠ right
  equal :
    (Binary64.ofInt left).compare? (Binary64.ofInt right) = some .eq

/-- How cells at one position compare. -/
def compareExactly : Cell → Cell → Ordering
  | .int left, .int right =>
      compare left right
  | _, _ =>
      .eq

theorem compareExactly_eq_lt
    {left right : Cell} :
    left.compareExactly right = .lt ↔
      ∃ i j, left = .int i ∧ right = .int j ∧ i < j := by
  cases left <;> cases right <;> simp [compareExactly, compare_lt_iff_lt]

theorem compareExactly_eq_eq
    {left right : Cell} :
    left.compareExactly right = .eq ↔
      ∀ i j, left = .int i → right = .int j → i = j := by
  cases left <;> cases right <;> simp [compareExactly]

theorem exists_position
    {cell : Cell}
    (number : cell.IsNumber) :
    ∃ position, cell.nearestReal.position? = some position := by
  cases cell with
  | int i =>
      exact ⟨_, Binary64.position?_ofInt i⟩
  | real value =>
      cases value with
      | nan =>
          exact absurd rfl number
      | infinite negative =>
          exact ⟨_, rfl⟩
      | finite negative significand exponent canonical =>
          exact ⟨_, rfl⟩

/-- Integers that share a position are merged. -/
theorem Merged.of_positions
    {left right position : Int}
    (apart : left ≠ right)
    (leftAt : (int left).nearestReal.position? = some position)
    (rightAt : (int right).nearestReal.position? = some position) :
    Merged left right := by
  refine ⟨apart, ?_⟩
  rw [nearestReal] at leftAt rightAt
  simp [Binary64.compare?, leftAt, rightAt]

/-- One of two merged integers has more than 53 binary digits. -/
theorem Merged.exists_large
    {left right : Int}
    (merged : Merged left right) :
    0x20000000000000 < left.natAbs ∨ 0x20000000000000 < right.natAbs := by
  by_contra! small
  have same : Binary64.positionOfInt left = Binary64.positionOfInt right := by
    simpa [Binary64.compare?, Binary64.position?_ofInt] using merged.equal
  rw [Binary64.positionOfInt_of_small small.1,
    Binary64.positionOfInt_of_small small.2] at same
  have unit : (Binary64.one : Int) ≠ 0 := by
    decide +kernel
  exact merged.apart (mul_right_cancel₀ unit same)

section

variable {left right : Cell}
variable {leftPosition rightPosition : Int}

/-- Positions come first, and the integers at one position are compared exactly. -/
theorem compare?_eq_then
    (leftAt : left.nearestReal.position? = some leftPosition)
    (rightAt : right.nearestReal.position? = some rightPosition) :
    left.compare? right =
      some
        ((compare leftPosition rightPosition).then (left.compareExactly right)) := by
  cases left with
  | real value =>
      simp [compare?, Binary64.compare?, leftAt, rightAt, compareExactly]
  | int i =>
      cases right with
      | real value =>
          simp [compare?, Binary64.compare?, leftAt, rightAt, compareExactly]
      | int j =>
          obtain rfl : Binary64.positionOfInt i = leftPosition :=
            Option.some.inj ((Binary64.position?_ofInt i).symm.trans leftAt)
          obtain rfl : Binary64.positionOfInt j = rightPosition :=
            Option.some.inj ((Binary64.position?_ofInt j).symm.trans rightAt)
          rcases lt_trichotomy i j with less | rfl | greater
          · have ordered := Binary64.positionOfInt_mono less.le
            rcases ordered.lt_or_eq with before | same
            · simp [compare?, compareExactly, compare_lt_iff_lt.2 less,
                compare_lt_iff_lt.2 before]
            · simp [compare?, compareExactly, same]
          · simp [compare?, compareExactly]
          · have ordered := Binary64.positionOfInt_mono greater.le
            rcases ordered.lt_or_eq with before | same
            · simp [compare?, compareExactly, compare_gt_iff_gt.2 greater,
                compare_gt_iff_gt.2 before]
            · simp [compare?, compareExactly, same]

theorem isLess_iff
    (leftAt : left.nearestReal.position? = some leftPosition)
    (rightAt : right.nearestReal.position? = some rightPosition) :
    left.isLess right = true ↔
      leftPosition < rightPosition ∨
        leftPosition = rightPosition ∧ left.compareExactly right = .lt := by
  simp [isLess, compare?_eq_then leftAt rightAt, Ordering.then_eq_lt,
    compare_lt_iff_lt]

theorem equals_iff
    (leftAt : left.nearestReal.position? = some leftPosition)
    (rightAt : right.nearestReal.position? = some rightPosition) :
    left.equals right = true ↔
      leftPosition = rightPosition ∧ left.compareExactly right = .eq := by
  simp [equals, compare?_eq_then leftAt rightAt, Ordering.then_eq_eq]

/-- Two numbers compare in exactly one way. -/
theorem isLess_add_equals_add_isGreater
    (leftNumber : left.IsNumber)
    (rightNumber : right.IsNumber) :
    (left.isLess right).toNat + (left.equals right).toNat +
        (left.isGreater right).toNat = 1 := by
  obtain ⟨leftPosition, leftAt⟩ := exists_position leftNumber
  obtain ⟨rightPosition, rightAt⟩ := exists_position rightNumber
  rw [isLess, equals, isGreater, compare?_eq_then leftAt rightAt]
  cases (compare leftPosition rightPosition).then (left.compareExactly right) <;>
    rfl

theorem equals_comm
    (leftNumber : left.IsNumber)
    (rightNumber : right.IsNumber) :
    left.equals right = right.equals left := by
  obtain ⟨leftPosition, leftAt⟩ := exists_position leftNumber
  obtain ⟨rightPosition, rightAt⟩ := exists_position rightNumber
  rw [Bool.eq_iff_iff, equals_iff leftAt rightAt, equals_iff rightAt leftAt,
    compareExactly_eq_eq, compareExactly_eq_eq]
  constructor
  · rintro ⟨same, exactly⟩
    exact ⟨same.symm, fun j i atRight atLeft => (exactly i j atLeft atRight).symm⟩
  · rintro ⟨same, exactly⟩
    exact ⟨same.symm, fun i j atLeft atRight => (exactly j i atRight atLeft).symm⟩

end

section

variable {first second third : Cell}

theorem isLess_trans
    (firstNumber : first.IsNumber)
    (secondNumber : second.IsNumber)
    (thirdNumber : third.IsNumber)
    (less : first.isLess second = true)
    (nextLess : second.isLess third = true) :
    first.isLess third = true := by
  obtain ⟨p, firstAt⟩ := exists_position firstNumber
  obtain ⟨q, secondAt⟩ := exists_position secondNumber
  obtain ⟨r, thirdAt⟩ := exists_position thirdNumber
  rw [isLess_iff firstAt secondAt] at less
  rw [isLess_iff secondAt thirdAt] at nextLess
  rw [isLess_iff firstAt thirdAt]
  rcases less with before | ⟨rfl, exactly⟩
  · refine .inl ?_
    rcases nextLess with nextBefore | ⟨rfl, -⟩
    · exact before.trans nextBefore
    · exact before
  · rcases nextLess with nextBefore | ⟨rfl, nextExactly⟩
    · exact .inl nextBefore
    · obtain ⟨i, j, rfl, rfl, lesser⟩ := compareExactly_eq_lt.1 exactly
      obtain ⟨_, k, same, rfl, nextLesser⟩ := compareExactly_eq_lt.1 nextExactly
      cases same
      exact .inr
        ⟨rfl, compareExactly_eq_lt.2 ⟨i, k, rfl, rfl, lesser.trans nextLesser⟩⟩

/-- Equality is transitive but for a real between two merged integers. -/
theorem equals_trans_or_merged
    (firstNumber : first.IsNumber)
    (secondNumber : second.IsNumber)
    (thirdNumber : third.IsNumber)
    (equal : first.equals second = true)
    (nextEqual : second.equals third = true) :
    first.equals third = true ∨
      ∃ i value k,
        first = .int i ∧ second = .real value ∧ third = .int k ∧ Merged i k := by
  obtain ⟨p, firstAt⟩ := exists_position firstNumber
  obtain ⟨q, secondAt⟩ := exists_position secondNumber
  obtain ⟨r, thirdAt⟩ := exists_position thirdNumber
  rw [equals_iff firstAt secondAt, compareExactly_eq_eq] at equal
  rw [equals_iff secondAt thirdAt, compareExactly_eq_eq] at nextEqual
  rw [equals_iff firstAt thirdAt, compareExactly_eq_eq]
  obtain ⟨rfl, exactly⟩ := equal
  obtain ⟨rfl, nextExactly⟩ := nextEqual
  by_cases integers : ∀ i k, first = .int i → third = .int k → i = k
  · exact .inl ⟨rfl, integers⟩
  · push Not at integers
    obtain ⟨i, k, rfl, rfl, apart⟩ := integers
    cases second with
    | int j =>
        exact absurd ((exactly i j rfl rfl).trans (nextExactly j k rfl rfl)) apart
    | real value =>
        exact .inr ⟨i, value, k, rfl, rfl, rfl, .of_positions apart firstAt thirdAt⟩

/-- What is equal to a smaller cell is smaller, but for a real at merged integers. -/
theorem isLess_of_equals_or_merged
    (firstNumber : first.IsNumber)
    (secondNumber : second.IsNumber)
    (thirdNumber : third.IsNumber)
    (equal : first.equals second = true)
    (less : second.isLess third = true) :
    first.isLess third = true ∨
      first.equals third = true ∧
        ∃ value j k,
          first = .real value ∧ second = .int j ∧ third = .int k ∧ Merged j k := by
  obtain ⟨p, firstAt⟩ := exists_position firstNumber
  obtain ⟨q, secondAt⟩ := exists_position secondNumber
  obtain ⟨r, thirdAt⟩ := exists_position thirdNumber
  rw [equals_iff firstAt secondAt, compareExactly_eq_eq] at equal
  rw [isLess_iff secondAt thirdAt] at less
  rw [isLess_iff firstAt thirdAt, equals_iff firstAt thirdAt]
  obtain ⟨rfl, exactly⟩ := equal
  rcases less with before | ⟨rfl, lesser⟩
  · exact .inl (.inl before)
  · obtain ⟨j, k, rfl, rfl, smaller⟩ := compareExactly_eq_lt.1 lesser
    cases first with
    | int i =>
        obtain rfl := exactly i j rfl rfl
        exact .inl (.inr ⟨rfl, lesser⟩)
    | real value =>
        exact .inr ⟨⟨rfl, rfl⟩, value, j, k, rfl, rfl, rfl,
          .of_positions smaller.ne secondAt thirdAt⟩

/-- What is smaller than an equal cell is smaller, but for a real at merged integers. -/
theorem isLess_of_isLess_of_equals_or_merged
    (firstNumber : first.IsNumber)
    (secondNumber : second.IsNumber)
    (thirdNumber : third.IsNumber)
    (less : first.isLess second = true)
    (equal : second.equals third = true) :
    first.isLess third = true ∨
      first.equals third = true ∧
        ∃ i j value,
          first = .int i ∧ second = .int j ∧ third = .real value ∧ Merged i j := by
  obtain ⟨p, firstAt⟩ := exists_position firstNumber
  obtain ⟨q, secondAt⟩ := exists_position secondNumber
  obtain ⟨r, thirdAt⟩ := exists_position thirdNumber
  rw [isLess_iff firstAt secondAt] at less
  rw [equals_iff secondAt thirdAt, compareExactly_eq_eq] at equal
  rw [isLess_iff firstAt thirdAt, equals_iff firstAt thirdAt]
  obtain ⟨rfl, exactly⟩ := equal
  rcases less with before | ⟨rfl, lesser⟩
  · exact .inl (.inl before)
  · obtain ⟨i, j, rfl, rfl, smaller⟩ := compareExactly_eq_lt.1 lesser
    cases third with
    | int k =>
        obtain rfl := exactly j k rfl rfl
        exact .inl (.inr ⟨rfl, lesser⟩)
    | real value =>
        exact .inr ⟨⟨rfl, rfl⟩, i, j, value, rfl, rfl, rfl,
          .of_positions smaller.ne firstAt secondAt⟩

end

/-- A real is equal to all the integers that it is the nearest real of. -/
theorem Merged.equals_real
    {left right : Int}
    (merged : Merged left right) :
    (real (.ofInt left)).equals (.int left) = true ∧
      (real (.ofInt left)).equals (.int right) = true := by
  constructor
  · simp [equals, compare?, nearestReal, Binary64.compare?,
      Binary64.position?_ofInt]
  · simp [equals, compare?, nearestReal, merged.equal]

/--
Two numbers compare in exactly one way, equality is symmetric and the order is
transitive.  Equality is transitive, and goes together with the order, but for one shape:
a real and two different integers that are rounded to the same real.  Such integers have
more than 53 binary digits, and wherever there are any, the real is equal to both
although one is smaller than the other.
-/
theorem consistent_but_for_merged
    {first second third : Cell}
    (firstNumber : first.IsNumber)
    (secondNumber : second.IsNumber)
    (thirdNumber : third.IsNumber) :
    (first.isLess second).toNat + (first.equals second).toNat +
          (first.isGreater second).toNat = 1 ∧
      first.equals second = second.equals first ∧
      (first.isLess second = true →
        second.isLess third = true →
        first.isLess third = true) ∧
      (first.equals second = true →
        second.equals third = true →
        first.equals third = true ∨
          ∃ i value k,
            first = .int i ∧ second = .real value ∧ third = .int k ∧
              Merged i k) ∧
      (first.equals second = true →
        second.isLess third = true →
        first.isLess third = true ∨
          first.equals third = true ∧
            ∃ value j k,
              first = .real value ∧ second = .int j ∧ third = .int k ∧
                Merged j k) ∧
      (first.isLess second = true →
        second.equals third = true →
        first.isLess third = true ∨
          first.equals third = true ∧
            ∃ i j value,
              first = .int i ∧ second = .int j ∧ third = .real value ∧
                Merged i j) ∧
      ∀ i j,
        Merged i j →
          (0x20000000000000 < i.natAbs ∨ 0x20000000000000 < j.natAbs) ∧
            (real (.ofInt i)).equals (.int i) = true ∧
            (real (.ofInt i)).equals (.int j) = true ∧
            (int i).equals (.int j) = false := by
  refine ⟨isLess_add_equals_add_isGreater firstNumber secondNumber,
    equals_comm firstNumber secondNumber,
    isLess_trans firstNumber secondNumber thirdNumber,
    equals_trans_or_merged firstNumber secondNumber thirdNumber,
    isLess_of_equals_or_merged firstNumber secondNumber thirdNumber,
    isLess_of_isLess_of_equals_or_merged firstNumber secondNumber thirdNumber, ?_⟩
  intro i j merged
  refine ⟨merged.exists_large, merged.equals_real.1, merged.equals_real.2, ?_⟩
  rw [Bool.eq_false_iff, ne_eq, equals_int]
  exact merged.apart

/-- The least positive integers that are merged are found by comparing with a real. -/
theorem consistent_but_for_merged_beyond_digits :
    let value := Binary64.ofInt 0x20000000000000
    Cell.IsNumber (.real value) ∧
      Cell.IsNumber (.int 0x20000000000000) ∧
      Cell.IsNumber (.int 0x20000000000001) ∧
      (real value).equals (.int 0x20000000000001) = true ∧
      Merged 0x20000000000000 0x20000000000001 := by
  intro value
  have valueNumber : Cell.IsNumber (.real value) := by
    decide +kernel
  have evenNumber : Cell.IsNumber (.int 0x20000000000000) := nofun
  have oddNumber : Cell.IsNumber (.int 0x20000000000001) := nofun
  have equal : (real value).equals (.int 0x20000000000000) = true := by
    decide +kernel
  have less : (int 0x20000000000000).isLess (.int 0x20000000000001) = true := by
    decide +kernel
  have notLess : ¬(real value).isLess (.int 0x20000000000001) = true := by
    decide +kernel
  obtain ⟨-, -, -, -, exchange, -⟩ :=
    consistent_but_for_merged valueNumber evenNumber oddNumber
  obtain ⟨alsoEqual, _, _, _, -, isEven, isOdd, merged⟩ :=
    (exchange equal less).resolve_left notLess
  obtain rfl := Cell.int.inj isEven
  obtain rfl := Cell.int.inj isOdd
  exact ⟨valueNumber, evenNumber, oddNumber, alsoEqual, merged⟩

/-- A real is equal to the smaller one of two integers, but not smaller than the other. -/
theorem equals_smaller_but_not_less :
    let real := Cell.real (.ofInt 0x20000000000000)
    let even := Cell.int 0x20000000000000
    let odd := Cell.int 0x20000000000001
    real.equals even = true ∧
      even.isLess odd = true ∧
      real.isLess odd = false ∧
      real.equals odd = true ∧
      even.equals odd = false ∧
      (Stack.ofList [odd, real, even]).sort.toList = [odd, real, even] := by
  decide +kernel

end Cell

end StackTape
