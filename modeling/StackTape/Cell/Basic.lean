import StackTape.Decimal.Real

namespace StackTape

/-!
# Cells

A stack holds cells.  A cell is an integer of any size or a real.  Cells compare by
value: two integers exactly, any other pair as reals, where an integer stands for
the real nearest to it.
-/

/-- One entry of a stack. -/
inductive Cell where
  | int (value : Int)
  | real (value : Binary64)
  deriving DecidableEq

namespace Cell

instance : Inhabited Cell :=
  ⟨.int 0⟩

/-- The cell that holds a character's code point. -/
def ofChar (c : Char) : Cell :=
  .int c.toNat

/-- One for truth, zero for falsity. -/
def ofBool (truth : Bool) : Cell :=
  .int (if truth then 1 else 0)

/-- The text that an output or a later reader sees. -/
def text : Cell → Text
  | .int value =>
      Decimal.ofInteger value
  | .real value =>
      Decimal.ofReal value

instance : ToString Cell where
  toString cell :=
    String.ofList cell.text

/-- The text that names the representation as well. -/
def inspect : Cell → String
  | .int value =>
      s!"Int({value})"
  | .real value =>
      let shown := String.ofList (Decimal.inspectReal value)
      s!"Real({shown})"

/-- The real nearest to the cell. -/
def nearestReal : Cell → Binary64
  | .int value =>
      Binary64.ofInt value
  | .real value =>
      value

/-- Neither zero; what is not a number counts as true. -/
def isNonzero : Cell → Bool
  | .int value =>
      value != 0
  | .real value =>
      !value.isZero

/-- How two cells compare; nothing compares with what is not a number. -/
def compare? : Cell → Cell → Option Ordering
  | .int left, .int right =>
      some (compare left right)
  | left, right =>
      left.nearestReal.compare? right.nearestReal

/-- Whether two cells have the same value. -/
def equals (left right : Cell) : Bool :=
  left.compare? right == some .eq

/-- Whether the first cell is smaller. -/
def isLess (left right : Cell) : Bool :=
  left.compare? right == some .lt

/-- Whether the first cell is greater. -/
def isGreater (left right : Cell) : Bool :=
  left.compare? right == some .gt

/-- The negated value. -/
def neg : Cell → Cell
  | .int value =>
      .int (-value)
  | .real value =>
      .real value.neg

@[simp] theorem isNonzero_int
    (value : Int) :
    (int value).isNonzero = true ↔ value ≠ 0 := by
  simp [isNonzero]

@[simp] theorem equals_int
    (left right : Int) :
    (int left).equals (int right) = true ↔ left = right := by
  simp [equals, compare?]

end Cell

end StackTape
