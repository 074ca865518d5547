namespace StackTape

/-!
# Random draws

Random choices come from a stream of natural numbers that is fixed before a run, so
a run is determined by its program, its input and its draws.
-/

/-- A stream of natural numbers and how many of them were used. -/
structure Draws where
  stream : Nat → Nat
  used : Nat

namespace Draws

/-- The stream before its first use. -/
def ofStream (stream : Nat → Nat) : Draws :=
  ⟨stream, 0⟩

instance : Inhabited Draws :=
  ⟨ofStream fun _ => 0⟩

/-- Spread the bits of a 64-bit number over all of its positions. -/
def scramble (bits : UInt64) : UInt64 :=
  let first := (bits ^^^ (bits >>> 30)) * 0xBF58476D1CE4E5B9
  let second := (first ^^^ (first >>> 27)) * 0x94D049BB133111EB
  second ^^^ (second >>> 31)

/-- Draws that a seed determines; each is a number below `2 ^ 256`. -/
def ofSeed (seed : UInt64) : Draws :=
  ofStream fun index =>
    [0, 1, 2, 3].foldl
      (fun wide (lane : Nat) =>
        let position := UInt64.ofNat (4 * index + lane + 1)
        wide <<< 64 +
          (scramble (seed + position * 0x9E3779B97F4A7C15)).toNat)
      0

/-- The next number, and the draws after it. -/
def next (draws : Draws) : Nat × Draws :=
  (draws.stream draws.used, { draws with used := draws.used + 1 })

/-- A number between two bounds, both included, and the draws after it. -/
def choose
    (draws : Draws)
    (low high : Int) : Int × Draws :=
  let (raw, rest) := draws.next
  (low + (raw : Int) % (high - low + 1), rest)

/-- A choice lies between its bounds. -/
theorem choose_bounds
    (draws : Draws)
    {low high : Int}
    (ordered : low ≤ high) :
    low ≤ (draws.choose low high).1 ∧ (draws.choose low high).1 ≤ high := by
  have positive : 0 < high - low + 1 := by
    omega
  have lower :=
    Int.emod_nonneg (draws.stream draws.used : Int) (Int.ne_of_gt positive)
  have upper := Int.emod_lt_of_pos (draws.stream draws.used : Int) positive
  simp only [choose, next]
  omega

/-- Every number between the bounds is the choice of some draws. -/
theorem exists_choose_eq
    {low high value : Int}
    (lower : low ≤ value)
    (upper : value ≤ high) :
    ∃ draws : Draws, (draws.choose low high).1 = value := by
  refine ⟨ofStream fun _ => (value - low).toNat, ?_⟩
  have cast : ((value - low).toNat : Int) = value - low := by
    omega
  have kept : (value - low) % (high - low + 1) = value - low :=
    Int.emod_eq_of_lt (by omega) (by omega)
  simp only [choose, next, ofStream, cast, kept]
  omega

end Draws

end StackTape
