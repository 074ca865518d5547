import StackTape.Cell.Arithmetic

namespace StackTape

/-!
# Stacks

A stack is a column of cells.  It is kept with its top first and seen, through
`toList`, with its bottom first.  Indices count from the bottom, negative ones from
the top.
-/

/-- One column of cells. -/
structure Stack where
  topFirst : List Cell
  deriving DecidableEq

namespace Stack

/-- The stack without cells. -/
def empty : Stack :=
  ⟨[]⟩

instance : Inhabited Stack :=
  ⟨empty⟩

/-- The cells, bottom first. -/
def toList (stack : Stack) : List Cell :=
  stack.topFirst.reverse

/-- The stack of these cells, bottom first. -/
def ofList (cells : List Cell) : Stack :=
  ⟨cells.reverse⟩

/-- How many cells there are. -/
def length (stack : Stack) : Nat :=
  stack.topFirst.length

/-- Whether there is no cell. -/
def isEmpty (stack : Stack) : Bool :=
  stack.topFirst.isEmpty

/-- The top cell. -/
def peek? (stack : Stack) : Option Cell :=
  stack.topFirst.head?

/-- Put a cell on top. -/
def push
    (stack : Stack)
    (cell : Cell) : Stack :=
  ⟨cell :: stack.topFirst⟩

/-- Put cells on top one after the other; the last one ends on top. -/
def append
    (stack : Stack)
    (cells : List Cell) : Stack :=
  ⟨cells.reverse ++ stack.topFirst⟩

/-- Take the top cell off. -/
def pop? (stack : Stack) : Option (Cell × Stack) :=
  match stack.topFirst with
  | [] =>
      none
  | top :: rest =>
      some (top, ⟨rest⟩)

/-- Turn the column upside down. -/
def reverse (stack : Stack) : Stack :=
  ⟨stack.topFirst.reverse⟩

/--
Put a cell beneath every greater cell at the top of an ascending column, given and
returned top first.
-/
def settle
    (cell : Cell) : List Cell → List Cell
  | [] =>
      [cell]
  | top :: rest =>
      if cell.isLess top then
        top :: settle cell rest
      else
        cell :: top :: rest

/-- The cells in ascending order; equal cells keep their order. -/
def sort (stack : Stack) : Stack :=
  ⟨stack.toList.foldl (fun sorted cell => settle cell sorted) []⟩

/-- Whether some cell has this value. -/
def contains
    (stack : Stack)
    (cell : Cell) : Bool :=
  stack.topFirst.any fun entry => entry.equals cell

/-- Whether two stacks have equal values from bottom to top. -/
def equals (left right : Stack) : Bool :=
  left.length == right.length &&
    (left.topFirst.zip right.topFirst).all fun (leftCell, rightCell) =>
      leftCell.equals rightCell

/--
An index counted from the bottom.  If it is counted from the top, the number of cells and
the sum must be in the range of counts.
-/
def fromBottom?
    (stack : Stack)
    (index : Int) : Option Int :=
  if index < 0 then do
    let length ← Cell.count? stack.length
    Cell.count? (length + index)
  else
    some index

/-- The position from the bottom that an index stands for. -/
def position
    (stack : Stack)
    (index : Int) : Except Fault Nat :=
  match ((stack.fromBottom? index).bind Int.toNat?).filter (· < stack.length) with
  | some place =>
      .ok place
  | none =>
      .error (.indexOutOfRange index stack.length)

/-- The cell at an index. -/
def get
    (stack : Stack)
    (index : Int) : Except Fault Cell := do
  let place ← stack.position index
  match stack.toList[place]? with
  | some cell =>
      return cell
  | none =>
      .error (.indexOutOfRange index stack.length)

/-- Exchange two entries of a list. -/
def exchange
    (cells : List Cell)
    (first second : Nat) : List Cell :=
  match cells[first]?, cells[second]? with
  | some firstCell, some secondCell =>
      (cells.set first secondCell).set second firstCell
  | _, _ =>
      cells

/-- Exchange the cells at two indices; the first index is resolved first. -/
def swap
    (stack : Stack)
    (first second : Int) : Except Fault Stack := do
  let firstPlace ← stack.position first
  let secondPlace ← stack.position second
  return ofList (exchange stack.toList firstPlace secondPlace)

/-- The cells' texts from bottom to top, between brackets. -/
def text (stack : Stack) : Text :=
  ['['] ++
    List.intercalate [',', ' '] (stack.toList.map Cell.text) ++
    [']']

@[simp] theorem toList_empty :
    empty.toList = [] :=
  rfl

@[simp] theorem toList_ofList
    (cells : List Cell) :
    (ofList cells).toList = cells := by
  simp [toList, ofList]

@[simp] theorem ofList_toList
    (stack : Stack) :
    ofList stack.toList = stack := by
  simp [toList, ofList]

@[simp] theorem length_toList
    (stack : Stack) :
    stack.toList.length = stack.length := by
  simp [toList, length]

theorem length_eq_zero_iff
    {stack : Stack} :
    stack.length = 0 ↔ stack.toList = [] := by
  simp [length, toList]

@[simp] theorem toList_push
    (stack : Stack)
    (cell : Cell) :
    (stack.push cell).toList = stack.toList ++ [cell] := by
  simp [toList, push]

@[simp] theorem toList_append
    (stack : Stack)
    (cells : List Cell) :
    (stack.append cells).toList = stack.toList ++ cells := by
  simp [toList, append]

/-- Putting cells on in two goes. -/
theorem append_append
    (stack : Stack)
    (first second : List Cell) :
    (stack.append first).append second = stack.append (first ++ second) := by
  simp [append]

/-- Cells that are put on a stack without cells are that stack. -/
theorem empty_append
    (cells : List Cell) :
    empty.append cells = ofList cells :=
  congrArg mk (List.append_nil _)

/-- The last one of the cells that are put on ends on top. -/
theorem append_concat
    (stack : Stack)
    (cells : List Cell)
    (cell : Cell) :
    stack.append (cells ++ [cell]) = (stack.append cells).push cell := by
  simp [append, push]

/-- The first one of the cells that are put on ends beneath the others. -/
theorem push_append
    (stack : Stack)
    (cell : Cell)
    (cells : List Cell) :
    (stack.push cell).append cells = stack.append (cell :: cells) := by
  simp [append, push]

theorem ofList_concat
    (cells : List Cell)
    (cell : Cell) :
    ofList (cells ++ [cell]) = (ofList cells).push cell := by
  simp [ofList, push]

@[simp] theorem toList_reverse
    (stack : Stack) :
    stack.reverse.toList = stack.toList.reverse := by
  simp [toList, reverse]

theorem peek?_eq_getLast?
    (stack : Stack) :
    stack.peek? = stack.toList.getLast? := by
  simp [toList, peek?]

@[simp] theorem isEmpty_iff
    (stack : Stack) :
    stack.isEmpty = true ↔ stack.toList = [] := by
  simp [isEmpty, toList]

/-- Taking the top cell off undoes putting it on, and only that. -/
theorem pop?_eq_some_iff
    {stack rest : Stack}
    {cell : Cell} :
    stack.pop? = some (cell, rest) ↔ stack = rest.push cell := by
  cases stack with
  | mk cells =>
      cases cells <;> simp [pop?, push, eq_comm]
      rename_i top others
      cases rest
      simp [eq_comm]

theorem pop?_eq_none_iff
    {stack : Stack} :
    stack.pop? = none ↔ stack.toList = [] := by
  cases stack with
  | mk cells =>
      cases cells <;> simp [pop?, toList]

@[simp] theorem pop?_push
    (stack : Stack)
    (cell : Cell) :
    (stack.push cell).pop? = some (cell, stack) :=
  rfl

/-- A resolved index is a position of the stack. -/
theorem position_lt
    {stack : Stack}
    {index : Int}
    {place : Nat}
    (resolved : stack.position index = .ok place) :
    place < stack.length := by
  simp only [position] at resolved
  split at resolved
  · rename_i found
    cases resolved
    simpa using (Option.filter_eq_some_iff.1 found).2
  · cases resolved

/-- An index counted from the bottom, however many cells there are. -/
def fromBottom
    (stack : Stack)
    (index : Int) : Int :=
  if index < 0 then stack.length + index else index

/-- Within the range of counts it is counted in the same way. -/
theorem eq_fromBottom_of_fromBottom?
    {stack : Stack}
    {index counted : Int}
    (found : stack.fromBottom? index = some counted) :
    counted = stack.fromBottom index := by
  unfold fromBottom? at found
  unfold fromBottom
  split at found
  · rename_i fromTop
    obtain ⟨length, lengthFound, sumFound⟩ := Option.bind_eq_some_iff.1 found
    obtain ⟨-, rfl⟩ := Cell.count?_eq_some_iff.1 lengthFound
    obtain ⟨-, rfl⟩ := Cell.count?_eq_some_iff.1 sumFound
    rw [if_pos fromTop]
  · rename_i notFromTop
    cases found
    rw [if_neg notFromTop]

/--
Unless there are more cells than counts, an index that is not beneath the bottom is not out
of the range either.
-/
theorem fromBottom?_of_few
    {stack : Stack}
    {index : Int}
    (few : stack.length ≤ Cell.greatestCount)
    (notBeneath : 0 ≤ stack.fromBottom index) :
    stack.fromBottom? index = some (stack.fromBottom index) := by
  have least : -Cell.greatestCount - 1 ≤ 0 := by
    decide
  unfold fromBottom at *
  unfold fromBottom?
  split
  · rename_i fromTop
    rw [if_pos fromTop] at notBeneath
    exact Option.bind_eq_some_iff.2
      ⟨stack.length,
        Cell.count?_eq_some_iff.2 ⟨⟨by omega, few⟩, rfl⟩,
        Cell.count?_eq_some_iff.2 ⟨⟨by omega, by omega⟩, rfl⟩⟩
  · rfl

/--
So, of no more cells than there are counts, an index is refused only if it stands for none
of them.
-/
theorem position_of_few
    {stack : Stack}
    (few : stack.length ≤ Cell.greatestCount)
    (index : Int) :
    stack.position index =
      if 0 ≤ stack.fromBottom index ∧ stack.fromBottom index < stack.length then
        .ok (stack.fromBottom index).toNat
      else
        .error (.indexOutOfRange index stack.length) := by
  unfold position
  split
  · rename_i place found
    obtain ⟨resolved, inside⟩ := Option.filter_eq_some_iff.1 found
    obtain ⟨counted, countedFound, natural⟩ := Option.bind_eq_some_iff.1 resolved
    have same : stack.fromBottom index = place :=
      (eq_fromBottom_of_fromBottom? countedFound).symm.trans (Int.mem_toNat?.1 natural)
    rw [decide_eq_true_iff] at inside
    rw [same, if_pos ⟨by omega, by omega⟩, Int.toNat_natCast]
  · rename_i nothing
    rw [if_neg]
    rintro ⟨notBeneath, inside⟩
    have natural :
        (stack.fromBottom index).toNat? = some (stack.fromBottom index).toNat :=
      Int.mem_toNat?.2 (Int.toNat_of_nonneg notBeneath).symm
    rw [fromBottom?_of_few few notBeneath, Option.bind_some, natural,
      Option.filter_some, if_pos (decide_eq_true (by omega))] at nothing
    cases nothing

end Stack

end StackTape
