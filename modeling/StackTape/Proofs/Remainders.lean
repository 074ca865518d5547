import StackTape.Machine.Bench.Lemmas
import StackTape.Proofs.Steps

namespace StackTape

/-!
# Remainders

The remainder of integers is first taken with the dividend's sign and then brought to the
divisor's.  What comes out is the one number between zero and the divisor, the divisor
excluded, from which the dividend differs by a multiple of the divisor; so multiples of
the divisor that are added to the dividend do not matter.
-/

namespace Cell

/-- What a floored division of the one integer by the other leaves. -/
structure IsFlooredRemainder (left right remainder : Int) : Prop where
  divides : right ∣ left - remainder
  between :
    0 ≤ remainder ∧ remainder < right ∨ right < remainder ∧ remainder ≤ 0

namespace IsFlooredRemainder

variable {left right remainder other : Int}

/-- Nothing lies between zero and itself. -/
theorem divisor_ne_zero
    (floored : IsFlooredRemainder left right remainder) :
    right ≠ 0 := by
  have between := floored.between
  omega

theorem natAbs_sub_lt
    (floored : IsFlooredRemainder left right remainder)
    (otherFloored : IsFlooredRemainder left right other) :
    (remainder - other).natAbs < right.natAbs := by
  have between := floored.between
  have otherBetween := otherFloored.between
  omega

/-- Two remainders differ by a multiple of the divisor that is smaller than it. -/
theorem unique
    (floored : IsFlooredRemainder left right remainder)
    (otherFloored : IsFlooredRemainder left right other) :
    remainder = other := by
  have divides : right ∣ remainder - other := by
    have both := Int.dvd_sub otherFloored.divides floored.divides
    have difference : left - other - (left - remainder) = remainder - other := by
      omega
    rwa [difference] at both
  exact Int.eq_of_sub_eq_zero
    (Int.eq_zero_of_dvd_of_natAbs_lt_natAbs divides (natAbs_sub_lt floored otherFloored))

/-- A multiple of the divisor that is added to the dividend leaves the remainder. -/
theorem add_mul
    (floored : IsFlooredRemainder left right remainder)
    (factor : Int) :
    IsFlooredRemainder (left + factor * right) right remainder where
  divides := by
    have both := Int.dvd_add floored.divides (Int.dvd_mul_left factor right)
    have sum : left - remainder + factor * right = left + factor * right - remainder := by
      omega
    rwa [sum] at both
  between := floored.between

end IsFlooredRemainder

/-- What is left when the fraction is dropped is smaller than the divisor. -/
theorem natAbs_tmod_lt
    (left : Int)
    {right : Int}
    (nonzero : right ≠ 0) :
    (left.tmod right).natAbs < right.natAbs := by
  rw [Int.natAbs_tmod]
  exact Nat.mod_lt _ (Int.natAbs_pos.2 nonzero)

/-- The sign test brings the remainder between zero and the divisor. -/
theorem isFlooredRemainder_flooredIntegerRemainder
    (left : Int)
    {right : Int}
    (nonzero : right ≠ 0) :
    IsFlooredRemainder left right (flooredIntegerRemainder left right) := by
  have small := natAbs_tmod_lt left nonzero
  have divides : right ∣ left - left.tmod right := Int.dvd_self_sub_tmod
  simp only [flooredIntegerRemainder, bne_iff_ne]
  generalize left.tmod right = remainder at small divides ⊢
  split
  · -- neither zero nor of the divisor's sign, so that the divisor moves it across zero
    rename_i unlike
    obtain ⟨someLeft, signs⟩ := unlike
    have opposite : (remainder < 0 ∧ 0 < right) ∨ (0 < remainder ∧ right < 0) := by
      rw [ne_eq, decide_eq_decide] at signs
      omega
    refine ⟨?_, by omega⟩
    rw [← Int.sub_sub]
    exact Int.dvd_sub divides (Int.dvd_refl right)
  · rename_i unlike
    have alike : remainder = 0 ∨ (remainder < 0 ↔ right < 0) := by
      simp only [ne_eq, decide_eq_decide] at unlike
      omega
    exact ⟨divides, by omega⟩

/-- The remainder of two integers is the floored one. -/
theorem mod_int_eq_ok_iff
    {left right : Int}
    {cell : Cell} :
    (int left).mod (int right) = .ok cell ↔
      ∃ remainder, cell = .int remainder ∧ IsFlooredRemainder left right remainder := by
  by_cases zero : right = 0
  · subst zero
    rw [mod_int_zero]
    constructor
    · exact nofun
    · rintro ⟨remainder, -, floored⟩
      exact absurd rfl floored.divisor_ne_zero
  · have floored := isFlooredRemainder_flooredIntegerRemainder left zero
    rw [mod_int_of_ne_zero left zero, Except.ok.injEq]
    constructor
    · rintro rfl
      exact ⟨_, rfl, floored⟩
    · rintro ⟨remainder, rfl, otherFloored⟩
      rw [floored.unique otherFloored]

/-- There is none only for the divisor zero. -/
theorem mod_int_eq_error_iff
    {left right : Int}
    {fault : Fault} :
    (int left).mod (int right) = .error fault ↔
      right = 0 ∧ fault = .zeroDivision .modulus := by
  by_cases zero : right = 0
  · subst zero
    rw [mod_int_zero, Except.error.injEq]
    exact ⟨fun same => ⟨rfl, same.symm⟩, fun both => both.2.symm⟩
  · rw [mod_int_of_ne_zero left zero]
    exact ⟨nofun, fun both => absurd both.1 zero⟩

/-- Adding multiples of the divisor to the dividend changes nothing. -/
theorem mod_int_add_mul
    (left right factor : Int) :
    (int (left + factor * right)).mod (int right) = (int left).mod (int right) := by
  by_cases zero : right = 0
  · rw [zero, mod_int_zero, mod_int_zero]
  · have floored := isFlooredRemainder_flooredIntegerRemainder left zero
    rw [mod_int_eq_ok_iff.2 ⟨_, rfl, floored⟩,
      mod_int_eq_ok_iff.2 ⟨_, rfl, floored.add_mul factor⟩]

end Cell

namespace Work

/-- On two cells the remainder of the lower one is taken, and no line. -/
theorem modulo_apply_of_push
    {bench : Bench}
    {rest : Stack}
    {left right : Cell}
    (top : bench.stack = (rest.push left).push right) :
    modulo bench =
      (do push (← ofExcept (left.mod right))) { bench with stack := rest } := by
  have second :
      operand { bench with stack := rest.push left } =
        .ok ⟨left, false⟩ { bench with stack := rest } :=
    operand_apply_of_push rfl
  simp [modulo, takeOperand, operand_apply_of_push top, second]

end Work

namespace Invocation

section

variable {invocation : Invocation}
variable {whole : Bool}
variable {rest : Stack}
variable {left right : Int}
variable (atTask : invocation.AtTask whole .modulo)
variable (top : invocation.stack = (rest.push (.int left)).push (.int right))

include atTask top

theorem stepLands_modulo
    {remainder : Int}
    (floored : Cell.IsFlooredRemainder left right remainder) :
    invocation.StepLands (rest.push (.int remainder)) (invocation.cursor + 1) := by
  refine atTask.stepLands fun journal => ?_
  have onBench : invocation.bench.stack = (rest.push (.int left)).push (.int right) := top
  have divided := Cell.mod_int_eq_ok_iff.2 ⟨remainder, rfl, floored⟩
  rw [Task.perform, Work.modulo_apply_of_push (by exact onBench), divided]
  rfl

theorem stepFails_modulo
    (zero : right = 0) :
    invocation.StepFails "ZeroDivisionError" (.zeroDivision .modulus) rest := by
  refine atTask.stepFails fun journal => ?_
  have onBench : invocation.bench.stack = (rest.push (.int left)).push (.int right) := top
  have refused : (Cell.int left).mod (.int right) = .error (.zeroDivision .modulus) :=
    Cell.mod_int_eq_error_iff.2 ⟨zero, rfl⟩
  rw [Task.perform, Work.modulo_apply_of_push (by exact onBench), refused]
  rfl

end

/--
The remainder of integers of any size is floored.  There is none for the divisor zero
alone; for any other it is an integer, the only one that lies between zero and the divisor,
the divisor excluded, and differs from the dividend by a multiple of the divisor.  Adding
multiples of the divisor to the dividend changes nothing.  The instruction leaves this
remainder in the place of two integers, or fails at zero.
-/
theorem remainders_floored
    (left right : Int) :
    (∀ fault,
        (Cell.int left).mod (.int right) = .error fault ↔
          right = 0 ∧ fault = .zeroDivision .modulus) ∧
      (right ≠ 0 →
        ∃ remainder,
          (Cell.int left).mod (.int right) = .ok (.int remainder) ∧
            ∀ other,
              Cell.IsFlooredRemainder left right other ↔ other = remainder) ∧
      (∀ factor,
        (Cell.int (left + factor * right)).mod (.int right) =
          (Cell.int left).mod (.int right)) ∧
      ∀ (invocation : Invocation) (whole : Bool) (rest : Stack),
        invocation.AtTask whole .modulo →
          invocation.stack = (rest.push (.int left)).push (.int right) →
            (right = 0 →
              invocation.StepFails "ZeroDivisionError" (.zeroDivision .modulus) rest) ∧
            ∀ remainder,
              Cell.IsFlooredRemainder left right remainder →
                invocation.StepLands (rest.push (.int remainder))
                  (invocation.cursor + 1) := by
  refine ⟨fun fault => Cell.mod_int_eq_error_iff, ?remainder,
    Cell.mod_int_add_mul left right, ?performed⟩
  case remainder =>
    intro nonzero
    have floored := Cell.isFlooredRemainder_flooredIntegerRemainder left nonzero
    refine ⟨_, Cell.mod_int_eq_ok_iff.2 ⟨_, rfl, floored⟩, fun other => ?_⟩
    constructor
    · exact fun otherFloored => otherFloored.unique floored
    · rintro rfl
      exact floored
  case performed =>
    intro invocation whole rest atTask top
    exact ⟨stepFails_modulo atTask top, fun remainder => stepLands_modulo atTask top⟩

/-- Unlike signs beyond the range of words, an exact multiple, and the divisor zero. -/
theorem remainders_floored_of_unlike_signs :
    let far : Int := 0x10000000000000000
    let program (left right : Int) :=
      (start ['%'] (.console .exhausted (.text [])) (.blank .error) default).withStack
        (Stack.ofList [.int 5, .int left, .int right])
    (Cell.int (-far)).mod (.int 3) = .ok (.int 2) ∧
      (program far (-3)).StepLands (Stack.ofList [.int 5, .int (-2)]) 1 ∧
      (program (-6) (-3)).StepLands (Stack.ofList [.int 5, .int 0]) 1 ∧
      (program 7 0).StepFails "ZeroDivisionError" (.zeroDivision .modulus)
        (Stack.ofList [.int 5]) := by
  intro far program
  have atTask (left right : Int) : (program left right).AtTask false .modulo :=
    ⟨rfl, rfl, rfl⟩
  refine ⟨?far, ?negative, ?exact, ?zero⟩
  case far =>
    obtain ⟨-, exists_remainder, -, -⟩ := remainders_floored (-far) 3
    obtain ⟨remainder, taken, only⟩ := exists_remainder (by decide)
    rw [taken, ← (only 2).1 ⟨by decide, by decide⟩]
  case negative =>
    obtain ⟨-, -, -, performed⟩ := remainders_floored far (-3)
    exact (performed (program far (-3)) false (.ofList [.int 5]) (atTask _ _) rfl).2 (-2)
      ⟨by decide, by decide⟩
  case exact =>
    obtain ⟨-, -, -, performed⟩ := remainders_floored (-6) (-3)
    exact (performed (program (-6) (-3)) false (.ofList [.int 5]) (atTask _ _) rfl).2 0
      ⟨by decide, by decide⟩
  case zero =>
    obtain ⟨-, -, -, performed⟩ := remainders_floored 7 0
    exact (performed (program 7 0) false (.ofList [.int 5]) (atTask _ _) rfl).1 rfl

end Invocation

end StackTape
