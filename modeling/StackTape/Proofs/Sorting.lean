import StackTape.Proofs.Exactness
import StackTape.Proofs.Order
import StackTape.Proofs.Steps
import StackTape.Proofs.WholeInput

namespace StackTape

/-!
# Sorting

Where the cells of a stack can all be compared, and consistently so, sorting arranges them
in the one way that is ascending and keeps the order of equal cells.  Cells can be compared
so but for what is not a number, and for a real at integers that are rounded to it.  An
empty stack is filled with all numbers of the input first.
-/

namespace Cell

/-- How two cells compare the other way around. -/
theorem compare?_swap
    (left right : Cell) :
    right.compare? left = (left.compare? right).map Ordering.swap := by
  have ofReals
      (leftValue rightValue : Binary64) :
      rightValue.compare? leftValue =
        (leftValue.compare? rightValue).map Ordering.swap := by
    unfold Binary64.compare?
    cases leftValue.position? with
    | none =>
        cases rightValue.position? <;> rfl
    | some leftPosition =>
        cases rightValue.position? with
        | none =>
            rfl
        | some rightPosition =>
            exact congrArg some Std.OrientedOrd.eq_swap
  cases left with
  | real leftValue =>
      cases right <;> exact ofReals _ _
  | int i =>
      cases right with
      | real rightValue =>
          exact ofReals _ _
      | int j =>
          exact congrArg some Std.OrientedOrd.eq_swap

/-- The first cell is smaller, or they are equal. -/
def IsAtMost (left right : Cell) : Prop :=
  left.isLess right = true ∨ left.equals right = true

section

variable {left right : Cell}

theorem isAtMost_iff :
    left.IsAtMost right ↔
      left.compare? right = some .lt ∨ left.compare? right = some .eq := by
  simp [IsAtMost, isLess, equals]

theorem equals_iff_isAtMost :
    left.equals right = true ↔ left.IsAtMost right ∧ right.IsAtMost left := by
  rw [isAtMost_iff, isAtMost_iff, equals, compare?_swap left right]
  cases left.compare? right with
  | none =>
      simp
  | some ordering =>
      cases ordering <;> simp

/-- Of two cells that can be compared, one is not smaller just if the other is at most it. -/
theorem isLess_eq_false_iff
    (comparable : left.IsAtMost right ∨ right.IsAtMost left) :
    right.isLess left = false ↔ left.IsAtMost right := by
  rw [isAtMost_iff, isAtMost_iff, compare?_swap left right] at comparable
  rw [isAtMost_iff, isLess, compare?_swap left right]
  cases compared : left.compare? right with
  | none =>
      simp [compared] at comparable
  | some ordering =>
      cases ordering <;> simp

end

/-! ## Cells that are ordered -/

/-- How these cells compare is a total preorder. -/
structure IsPreordered (cells : List Cell) : Prop where
  total :
    ∀ first ∈ cells, ∀ second ∈ cells,
      first.IsAtMost second ∨ second.IsAtMost first
  trans :
    ∀ first ∈ cells, ∀ second ∈ cells, ∀ third ∈ cells,
      first.IsAtMost second → second.IsAtMost third → first.IsAtMost third

namespace IsPreordered

variable {cells others : List Cell}

theorem of_subset
    (preordered : IsPreordered cells)
    (within : others ⊆ cells) :
    IsPreordered others where
  total first isFirst second isSecond :=
    preordered.total first (within isFirst) second (within isSecond)
  trans first isFirst second isSecond third isThird :=
    preordered.trans first (within isFirst) second (within isSecond) third
      (within isThird)

theorem of_integers
    (integers : ∀ cell ∈ cells, ∃ value, cell = .int value) :
    IsPreordered cells := by
  have isAtMost_int
      (i j : Int) :
      (int i).IsAtMost (.int j) ↔ i ≤ j := by
    rw [le_iff_lt_or_eq, IsAtMost, equals_int]
    simp [isLess, compare?, compare_lt_iff_lt]
  constructor
  · intro first isFirst second isSecond
    obtain ⟨i, rfl⟩ := integers first isFirst
    obtain ⟨j, rfl⟩ := integers second isSecond
    rw [isAtMost_int, isAtMost_int]
    exact le_total i j
  · intro first isFirst second isSecond third isThird
    obtain ⟨i, rfl⟩ := integers first isFirst
    obtain ⟨j, rfl⟩ := integers second isSecond
    obtain ⟨k, rfl⟩ := integers third isThird
    rw [isAtMost_int, isAtMost_int, isAtMost_int]
    exact le_trans

end IsPreordered

/--
Numbers can be ordered unless there are a real and two different integers that are rounded
to it: then the real is equal to both although one is smaller than the other.
-/
theorem isPreordered_iff
    {cells : List Cell} :
    IsPreordered cells ↔
      (∀ cell ∈ cells, cell.IsNumber) ∧
        ∀ i value k,
          int i ∈ cells →
            real value ∈ cells →
              int k ∈ cells →
                Merged i k →
                  (int i).equals (.real value) = false := by
  constructor
  · intro preordered
    have numbers : ∀ cell ∈ cells, cell.IsNumber := by
      rintro cell member rfl
      have reflexive := (preordered.total _ member _ member).elim id id
      simp [isAtMost_iff, compare?, nearestReal, Binary64.compare?,
        Binary64.position?] at reflexive
    refine ⟨numbers, fun i value k isLeft isReal isRight merged => ?_⟩
    rw [Bool.eq_false_iff]
    intro equal
    obtain ⟨position, realAt⟩ := exists_position (numbers _ isReal)
    -- at one position the real is equal to either integer, which would make them equal
    have same : Binary64.positionOfInt i = Binary64.positionOfInt k := by
      simpa [Binary64.compare?, Binary64.position?_ofInt] using merged.equal
    have leftAt : (int i).nearestReal.position? = some (Binary64.positionOfInt i) :=
      Binary64.position?_ofInt i
    have rightAt : (int k).nearestReal.position? = some (Binary64.positionOfInt k) :=
      Binary64.position?_ofInt k
    have alsoEqual : (int k).equals (.real value) = true := by
      rw [equals_iff rightAt realAt, ← same]
      exact ⟨((equals_iff leftAt realAt).1 equal).1, rfl⟩
    rw [equals_iff_isAtMost] at equal alsoEqual
    refine merged.apart ((equals_int i k).1 (equals_iff_isAtMost.2 ⟨?_, ?_⟩))
    · exact preordered.trans _ isLeft _ isReal _ isRight equal.1 alsoEqual.2
    · exact preordered.trans _ isRight _ isReal _ isLeft alsoEqual.1 equal.2
  · rintro ⟨numbers, unmerged⟩
    constructor
    · intro first isFirst second isSecond
      obtain ⟨firstPosition, firstAt⟩ := exists_position (numbers first isFirst)
      obtain ⟨secondPosition, secondAt⟩ := exists_position (numbers second isSecond)
      rw [isAtMost_iff, isAtMost_iff, compare?_swap first second,
        compare?_eq_then firstAt secondAt]
      cases (compare firstPosition secondPosition).then
          (first.compareExactly second) <;>
        simp
    · intro first isFirst second isSecond third isThird
      have firstNumber := numbers first isFirst
      have secondNumber := numbers second isSecond
      have thirdNumber := numbers third isThird
      rintro (less | equal) (nextLess | nextEqual)
      · exact .inl (isLess_trans firstNumber secondNumber thirdNumber less nextLess)
      · exact (isLess_of_isLess_of_equals_or_merged firstNumber secondNumber thirdNumber
          less nextEqual).imp_right And.left
      · exact (isLess_of_equals_or_merged firstNumber secondNumber thirdNumber
          equal nextLess).imp_right And.left
      · rcases equals_trans_or_merged firstNumber secondNumber thirdNumber equal
          nextEqual with alsoEqual | ⟨i, value, k, rfl, rfl, rfl, merged⟩
        · exact .inr alsoEqual
        · have apart := unmerged i value k isFirst isSecond isThird merged
          rw [equal] at apart
          cases apart

/-- An arrangement of cells that is ascending and keeps the order of equal ones. -/
structure IsArrangement (cells arranged : List Cell) : Prop where
  perm : arranged.Perm cells
  ascending : arranged.Pairwise fun earlier later => later.isLess earlier = false
  stable : ∀ cell ∈ cells, arranged.filter cell.equals = cells.filter cell.equals

/-- Ascending lists with the same cells, equal ones in the same order, are the same. -/
theorem IsPreordered.eq_of_ascending
    {left right : List Cell}
    (preordered : IsPreordered left)
    (perm : left.Perm right)
    (leftAscending : left.Pairwise fun earlier later => later.isLess earlier = false)
    (rightAscending : right.Pairwise fun earlier later => later.isLess earlier = false)
    (alike :
      ∀ cell ∈ left, left.filter cell.equals = right.filter cell.equals) :
    left = right := by
  induction left generalizing right with
  | nil =>
      exact perm.nil_eq
  | cons first rest inductionHypothesis =>
      cases right with
      | nil =>
          exact perm.eq_nil
      | cons head tail =>
          have isFirst : first ∈ first :: rest := List.mem_cons_self
          have isHead : head ∈ first :: rest :=
            perm.mem_iff.2 List.mem_cons_self
          rw [List.pairwise_cons] at leftAscending rightAscending
          have leastOf
              {least cell : Cell}
              {others : List Cell}
              (isLeast : least ∈ first :: rest)
              (isCell : cell ∈ first :: rest)
              (ascends : ∀ later ∈ others, later.isLess least = false)
              (member : cell ∈ least :: others) :
              least.IsAtMost cell := by
            rcases List.mem_cons.1 member with rfl | behind
            · exact (preordered.total _ isLeast _ isLeast).elim id id
            · exact (isLess_eq_false_iff
                (preordered.total _ isLeast _ isCell)).1 (ascends cell behind)
          -- either head is least, so they are equal and each the first of its kind
          have equal : first.equals head = true :=
            equals_iff_isAtMost.2
              ⟨leastOf isFirst isHead leftAscending.1 isHead,
                leastOf isHead isFirst rightAscending.1 (perm.mem_iff.1 isFirst)⟩
          have itself : first.equals first = true :=
            equals_iff_isAtMost.2
              ⟨leastOf isFirst isFirst leftAscending.1 isFirst,
                leastOf isFirst isFirst leftAscending.1 isFirst⟩
          obtain rfl : first = head := by
            have heads := alike first isFirst
            rw [List.filter_cons_of_pos itself, List.filter_cons_of_pos equal] at heads
            exact (List.cons.inj heads).1
          refine congrArg (first :: ·) (inductionHypothesis
            (preordered.of_subset (List.subset_cons_self _ _))
            (List.perm_cons first |>.1 perm) leftAscending.2 rightAscending.2
            fun cell member => ?_)
          have filtered := alike cell (List.mem_cons_of_mem _ member)
          by_cases equalCell : cell.equals first = true
          · rw [List.filter_cons_of_pos equalCell, List.filter_cons_of_pos equalCell]
              at filtered
            exact (List.cons.inj filtered).2
          · rwa [List.filter_cons_of_neg equalCell, List.filter_cons_of_neg equalCell]
              at filtered

/-- There is one such arrangement at most. -/
theorem IsArrangement.unique
    {cells first second : List Cell}
    (preordered : IsPreordered cells)
    (isFirst : IsArrangement cells first)
    (isSecond : IsArrangement cells second) :
    first = second := by
  refine (preordered.of_subset isFirst.perm.subset).eq_of_ascending
    (isFirst.perm.trans isSecond.perm.symm) isFirst.ascending isSecond.ascending
    fun cell member => ?_
  have isCell := isFirst.perm.subset member
  rw [isFirst.stable cell isCell, isSecond.stable cell isCell]

end Cell

/-! ## Sorted stacks -/

namespace Stack

section

variable {cells : List Cell}
variable (preordered : Cell.IsPreordered cells)
variable {cell : Cell}
variable (isCell : cell ∈ cells)
variable {column : List Cell}
variable (within : column ⊆ cells)

include preordered isCell within

/-- A cell settles where the column stays ascending, the greatest cell on top. -/
theorem settle_ascends
    (ascends : column.Pairwise fun upper lower => lower.IsAtMost upper) :
    (settle cell column).Pairwise fun upper lower => lower.IsAtMost upper := by
  induction column with
  | nil =>
      exact List.pairwise_singleton _ _
  | cons top rest inductionHypothesis =>
      rw [List.pairwise_cons] at ascends
      obtain ⟨isTop, restWithin⟩ := List.cons_subset.1 within
      by_cases less : cell.isLess top = true
      · rw [settle, if_pos less, List.pairwise_cons]
        refine ⟨fun lower member => ?_, inductionHypothesis restWithin ascends.2⟩
        rcases List.mem_cons.1 ((settle_perm cell rest).mem_iff.1 member) with
          rfl | inRest
        · exact .inl less
        · exact ascends.1 lower inRest
      · rw [settle, if_neg less, List.pairwise_cons, List.pairwise_cons]
        have topFirst : top.IsAtMost cell :=
          (Cell.isLess_eq_false_iff (preordered.total _ isTop _ isCell)).1
            (Bool.eq_false_iff.2 less)
        refine ⟨fun lower member => ?_, ascends⟩
        rcases List.mem_cons.1 member with rfl | inRest
        · exact topFirst
        · exact preordered.trans _ (restWithin inRest) _ isTop _ isCell
            (ascends.1 lower inRest) topFirst

/-- It settles above all cells that are equal to it. -/
theorem filter_settle
    {other : Cell}
    (isOther : other ∈ cells) :
    (settle cell column).filter other.equals =
      (cell :: column).filter other.equals := by
  induction column with
  | nil =>
      rfl
  | cons top rest inductionHypothesis =>
      obtain ⟨isTop, restWithin⟩ := List.cons_subset.1 within
      by_cases less : cell.isLess top = true
      · rw [settle, if_pos less, List.filter_cons, inductionHypothesis restWithin]
        -- the cells above it are greater, so none of them is equal to what it is equal to
        by_cases equalTop : other.equals top = true
        · have notEqual : ¬ other.equals cell = true := by
            intro equal
            have notLess : cell.isLess top = false :=
              (Cell.isLess_eq_false_iff (preordered.total _ isTop _ isCell)).2
                (preordered.trans _ isTop _ isOther _ isCell
                  (Cell.equals_iff_isAtMost.1 equalTop).2
                  (Cell.equals_iff_isAtMost.1 equal).1)
            rw [less] at notLess
            cases notLess
          rw [if_pos equalTop, List.filter_cons_of_neg notEqual,
            List.filter_cons_of_neg notEqual, List.filter_cons_of_pos equalTop]
        · rw [if_neg equalTop, List.filter_cons, List.filter_cons,
            List.filter_cons_of_neg equalTop]
      · rw [settle, if_neg less]

end

/-- Settling one cell after the other leaves an ascending column, equal cells in order. -/
theorem foldl_settle
    {cells rest column : List Cell}
    (preordered : Cell.IsPreordered cells)
    (restWithin : rest ⊆ cells)
    (within : column ⊆ cells)
    (ascends : column.Pairwise fun upper lower => lower.IsAtMost upper) :
    (rest.foldl (fun sorted cell => settle cell sorted) column).Pairwise
        (fun upper lower => lower.IsAtMost upper) ∧
      ∀ other ∈ cells,
        (rest.foldl (fun sorted cell => settle cell sorted) column).filter other.equals =
          (rest.reverse ++ column).filter other.equals := by
  induction rest generalizing column with
  | nil =>
      exact ⟨ascends, fun _ _ => rfl⟩
  | cons cell rest inductionHypothesis =>
      obtain ⟨isCell, restWithin⟩ := List.cons_subset.1 restWithin
      have settledWithin : settle cell column ⊆ cells :=
        List.Subset.trans (settle_perm cell column).subset
          (List.cons_subset.2 ⟨isCell, within⟩)
      obtain ⟨ascending, kept⟩ :=
        inductionHypothesis restWithin settledWithin
          (settle_ascends preordered isCell within ascends)
      refine ⟨ascending, fun other isOther => ?_⟩
      rw [List.foldl_cons, kept other isOther, List.filter_append,
        filter_settle preordered isCell within isOther, ← List.filter_append,
        List.reverse_cons, List.append_assoc]
      rfl

section

variable {stack : Stack}
variable (preordered : Cell.IsPreordered stack.toList)

include preordered

/-- Sorting arranges cells that are ordered. -/
theorem isArrangement_sort :
    Cell.IsArrangement stack.toList stack.sort.toList := by
  obtain ⟨ascending, kept⟩ :=
    foldl_settle preordered (List.Subset.refl _) (List.nil_subset _) .nil
  refine ⟨sort_perm stack, ?_, fun cell member => ?_⟩
  · rw [toList, List.pairwise_reverse]
    exact ascending.imp fun atMost => (Cell.isLess_eq_false_iff (.inl atMost)).2 atMost
  · rw [toList, List.filter_reverse]
    exact (congrArg List.reverse (kept cell member)).trans (by simp [List.filter_reverse])

/-- A sorted stack stays as it is. -/
theorem sort_sort :
    stack.sort.sort = stack.sort := by
  have again : Cell.IsPreordered stack.sort.toList :=
    preordered.of_subset (sort_perm stack).subset
  have arranged := isArrangement_sort preordered
  have itself : Cell.IsArrangement stack.sort.toList stack.sort.toList :=
    ⟨.refl _, arranged.ascending, fun _ _ => rfl⟩
  have same := (isArrangement_sort again).unique again itself
  rw [← ofList_toList stack.sort.sort, same, ofList_toList]

end

/-- Integers are put in ascending order. -/
theorem exists_sort_integers
    (values : List Int) :
    ∃ ascending : List Int,
      (ofList (values.map .int)).sort = ofList (ascending.map .int) ∧
        ascending.Perm values ∧
        ascending.Pairwise (· ≤ ·) := by
  have cells : (ofList (values.map .int)).toList = values.map .int :=
    toList_ofList _
  have integers : ∀ cell ∈ values.map Cell.int, ∃ value, cell = .int value := by
    simp
  have preordered : Cell.IsPreordered (ofList (values.map .int)).toList := by
    rw [cells]
    exact .of_integers integers
  have arranged := isArrangement_sort preordered
  rw [cells] at arranged
  obtain ⟨ascending, sorted⟩ :
      ∃ ascending : List Int,
        ascending.map .int = (ofList (values.map .int)).sort.toList := by
    refine Set.mem_range.1 ?_
    rw [Set.range_list_map]
    intro cell member
    obtain ⟨value, rfl⟩ := integers cell (arranged.perm.subset member)
    exact ⟨value, rfl⟩
  rw [← sorted] at arranged
  refine ⟨ascending, ?_, ?_, ?_⟩
  · rw [sorted, ofList_toList]
  · exact (List.map_perm_map_iff fun _ _ => Cell.int.inj).1 arranged.perm
  · refine (List.pairwise_map.1 arranged.ascending).imp fun {i j} notLess => ?_
    simpa [Cell.isLess, Cell.compare?, compare_lt_iff_lt] using notLess

end Stack

/-! ## The instruction -/

namespace Work

/-- A stack that is not empty, or is filled, is sorted. -/
theorem sort_of_filled
    {bench filled : Bench}
    (fills : readIfEmpty bench = .ok () filled)
    (whole : Bool) :
    Task.perform whole .sort bench =
      .ok () { filled with stack := filled.stack.sort } := by
  simp [Task.perform, bind_apply, fills]

theorem sort_of_refused
    {bench left : Bench}
    {fault : Fault}
    (refused : readIfEmpty bench = .error fault left)
    (whole : Bool) :
    Task.perform whole .sort bench = .error fault left := by
  simp [Task.perform, bind_apply, refused]

end Work

namespace Invocation

/--
The step arranges the stack in the one ascending way that keeps the order of equal cells;
the arrangement stays as it is at any later step of this kind.
-/
def Sorts (invocation : Invocation) : Prop :=
  ∃ arranged : Stack,
    invocation.StepLands arranged (invocation.cursor + 1) ∧
      Cell.IsArrangement invocation.stack.toList arranged.toList ∧
      (∀ other,
        Cell.IsArrangement invocation.stack.toList other → other = arranged.toList) ∧
      ∀ (later : Invocation) (whole : Bool),
        later.AtTask whole .sort →
          later.stack = arranged →
            later.StepLands arranged (later.cursor + 1)

/--
The step reads integers, up to the first line that is empty or missing, and leaves them in
ascending order; or it fails at the first line that is none, with those before it in the
order in which they were read.
-/
def SortsInput (invocation : Invocation) : Prop :=
  ∃ values middle,
    invocation.channel.GivesIntegers values middle ∧
      ((middle.read.1.fill = .ok none ∧
          ∃ ascending : List Int,
            ascending.Perm values ∧
              ascending.Pairwise (· ≤ ·) ∧
              ∀ limit budget,
                ∃ after,
                  invocation.step limit budget = .done after ∧
                    after.cursor = invocation.cursor + 1 ∧
                    after.stack = .ofList (ascending.map .int) ∧
                    after.channel = middle.read.2) ∨
        ∃ line,
          middle.read.1.fill = .error line ∧
            ∀ limit budget,
              ∃ failure after,
                invocation.step limit budget = .failed failure after ∧
                  failure.fault = .notInteger line ∧
                  failure.fault.category.name = "InputError" ∧
                  after.stack = .ofList (values.map .int) ∧
                  after.channel = middle.read.2)

section

variable {invocation : Invocation}
variable {whole : Bool}
variable (atTask : invocation.AtTask whole .sort)

include atTask

theorem stepLands_sort
    (nonempty : invocation.stack.toList ≠ []) :
    invocation.StepLands invocation.stack.sort (invocation.cursor + 1) :=
  atTask.stepLands fun _ =>
    Work.sort_of_filled (Work.readIfEmpty_of_nonempty (by exact nonempty)) whole

theorem sorts_of_preordered
    (nonempty : invocation.stack.toList ≠ [])
    (preordered : Cell.IsPreordered invocation.stack.toList) :
    invocation.Sorts := by
  have arranged := Stack.isArrangement_sort preordered
  refine ⟨invocation.stack.sort, stepLands_sort atTask nonempty, arranged,
    fun other isOther => isOther.unique preordered arranged,
    fun later modified again sorted => ?_⟩
  have stillNonempty : later.stack.toList ≠ [] := by
    rw [sorted]
    intro empty
    rw [empty] at arranged
    exact nonempty arranged.perm.nil_eq.symm
  have lands := stepLands_sort again stillNonempty
  rwa [sorted, Stack.sort_sort preordered] at lands

theorem sortsInput_of_empty
    (empty : invocation.stack = .empty) :
    invocation.SortsInput := by
  obtain ⟨instruction, present⟩ := atTask.exists_instruction
  obtain ⟨values, middle, gives, ending⟩ := Channel.exists_gives invocation.channel
  refine ⟨values, middle, gives, ?_⟩
  have onBench :
      (invocation.announcing instruction).bench.channel.GivesIntegers values middle :=
    gives
  have noCell : (invocation.announcing instruction).bench.stack = .empty := empty
  have reads := Work.readIfEmpty_of_empty noCell
  have filled :
      (invocation.announcing instruction).bench.stack.append (values.map .int) =
        .ofList (values.map .int) := by
    rw [noCell, Stack.empty_append]
  rcases ending with ended | ⟨line, refused⟩
  · obtain ⟨journal, worked⟩ := Work.readIntegers_of_gives_nothing onBench ended
    rw [← reads, filled] at worked
    obtain ⟨ascending, sorted, same, ordered⟩ := Stack.exists_sort_integers values
    refine .inl ⟨ended, ascending, same, ordered, fun limit budget => ?_⟩
    exact ⟨_, atTask.step_of_ok present (Work.sort_of_filled worked whole) limit budget,
      rfl, sorted, rfl⟩
  · have worked := Work.readIntegers_of_gives_refused onBench refused
    rw [← reads, filled] at worked
    refine .inr ⟨line, refused, fun limit budget => ?_⟩
    exact ⟨_, _,
      atTask.step_of_error present (Work.sort_of_refused worked whole) limit budget,
      rfl, rfl, rfl, rfl⟩

end

/--
Sorting leaves the one ascending arrangement that keeps the order of equal cells, and does
nothing more when it is repeated, if how the cells compare is a total preorder; so it is for
integers.  An empty stack is filled with the integers of the input, which end up ascending,
or in the order of reading before a line that is none.
-/
theorem sorting_arranges
    {invocation : Invocation}
    {whole : Bool}
    (atTask : invocation.AtTask whole .sort) :
    (invocation.stack.toList ≠ [] →
      Cell.IsPreordered invocation.stack.toList →
        invocation.Sorts) ∧
      ((∀ cell ∈ invocation.stack.toList, ∃ value, cell = .int value) →
        Cell.IsPreordered invocation.stack.toList) ∧
      (invocation.stack = .empty → invocation.SortsInput) :=
  ⟨sorts_of_preordered atTask, .of_integers, sortsInput_of_empty atTask⟩

/-- An integer and a real that are equal keep their order; two lines of input are sorted. -/
theorem sorting_arranges_equal_cells_and_lines :
    let two := Cell.real (.ofInt 2)
    let program (stack : Stack) :=
      (start ['a'] (.console (.lines [['3'], ['-', '5']]) (.text [])) (.blank .error)
        default).withStack stack
    (∃ arranged : Stack,
        (program (.ofList [.int 3, two, .int 2, .int (-1)])).StepLands arranged 1 ∧
          arranged.toList = [.int (-1), two, .int 2, .int 3]) ∧
      ∃ after,
        (program .empty).step 0 0 = .done after ∧
          after.stack.toList = [.int (-5), .int 3] := by
  intro two program
  constructor
  · let cells : List Cell := [.int 3, two, .int 2, .int (-1)]
    have preordered : Cell.IsPreordered cells := by
      refine Cell.isPreordered_iff.2 ⟨by decide +kernel, fun i value k => ?_⟩
      intro isLeft isReal isRight merged
      have large := merged.exists_large
      simp only [cells, two, List.mem_cons, Cell.int.injEq, reduceCtorEq, List.not_mem_nil,
        false_or, or_false] at isLeft isRight
      omega
    have arrangement : Cell.IsArrangement cells [.int (-1), two, .int 2, .int 3] :=
      ⟨by decide +kernel, by decide +kernel, by decide +kernel⟩
    have atTask : (program (.ofList cells)).AtTask false .sort := ⟨rfl, rfl, rfl⟩
    obtain ⟨sorts, -, -⟩ := sorting_arranges atTask
    obtain ⟨arranged, lands, -, unique, -⟩ := sorts (List.cons_ne_nil _ _) preordered
    exact ⟨arranged, lands, (unique _ arrangement).symm⟩
  · let channel := Channel.console (.lines [['3'], ['-', '5']]) (.text [])
    have gives : channel.GivesIntegers [3, -5] (.console (.lines []) (.text [])) :=
      .next (by rfl) (.next (by rfl) .nothing)
    have atTask : (program .empty).AtTask false .sort := ⟨rfl, rfl, rfl⟩
    obtain ⟨-, -, sortsInput⟩ := sorting_arranges atTask
    obtain ⟨values, middle, isRead, ending⟩ := sortsInput rfl
    have ended : ∀ value, middle.read.1.fill ≠ .ok (some value) := by
      intro value filled
      rcases ending with ⟨nothing, -⟩ | ⟨line, refused, -⟩
      · rw [filled] at nothing
        cases nothing
      · rw [filled] at refused
        cases refused
    obtain ⟨rfl, rfl⟩ := isRead.unique ended gives nofun
    rcases ending with ⟨-, ascending, same, ordered, steps⟩ | ⟨line, refused, -⟩
    · obtain ⟨after, stepped, -, stack, -⟩ := steps 0 0
      have sorted : ascending = [-5, 3] :=
        (same.trans (.swap _ _ _)).eq_of_pairwise (by omega) ordered (by decide)
      exact ⟨after, stepped, by rw [stack, sorted]; rfl⟩
    · cases refused

end Invocation

end StackTape
