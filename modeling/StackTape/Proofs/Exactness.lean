import StackTape.Proofs.Returns

namespace StackTape

/-!
# Integers stay integers

Reals come from division and from powers.  A stack of integers gives integers back to
every other operation, also through the text that a function outputs, for the texts of
integers read back as these integers.  `Work.StaysExact` says so of a piece of work, and
that it fails over no real; work in sequence stays exact when its parts do.
-/

namespace Cell

/-- The cell is an integer, and no real. -/
def IsInteger (cell : Cell) : Prop :=
  ∃ value, cell = .int value

theorem isInteger_int
    (value : Int) :
    IsInteger (.int value) :=
  ⟨value, rfl⟩

theorem isInteger_of_mem_map_ofChar
    {text : Text}
    {cell : Cell}
    (member : cell ∈ text.map ofChar) :
    cell.IsInteger := by
  obtain ⟨c, -, rfl⟩ := List.mem_map.1 member
  exact isInteger_int _

theorem isInteger_of_mem_map_int
    {values : List Int}
    {cell : Cell}
    (member : cell ∈ values.map .int) :
    cell.IsInteger := by
  obtain ⟨value, -, rfl⟩ := List.mem_map.1 member
  exact isInteger_int value

end Cell

namespace Stack

/-- All cells are integers. -/
def IsExact (stack : Stack) : Prop :=
  ∀ cell ∈ stack.toList, cell.IsInteger

theorem isExact_empty :
    IsExact .empty := by
  simp [IsExact]

theorem isExact_ofList
    {cells : List Cell}
    (integers : ∀ cell ∈ cells, cell.IsInteger) :
    IsExact (ofList cells) := by
  simpa [IsExact] using integers

theorem isExact_push
    {stack : Stack}
    {cell : Cell} :
    IsExact (stack.push cell) ↔ stack.IsExact ∧ cell.IsInteger := by
  simp [IsExact, or_imp, forall_and]

theorem isExact_append
    {stack : Stack}
    {cells : List Cell} :
    IsExact (stack.append cells) ↔
      stack.IsExact ∧ ∀ cell ∈ cells, cell.IsInteger := by
  simp [IsExact, or_imp, forall_and]

theorem isExact_reverse
    {stack : Stack} :
    IsExact stack.reverse ↔ stack.IsExact := by
  simp [IsExact]

/-- Settling a cell adds it to the column. -/
theorem settle_perm
    (cell : Cell)
    (column : List Cell) :
    (settle cell column).Perm (cell :: column) := by
  induction column with
  | nil =>
      exact .refl _
  | cons top rest inductionHypothesis =>
      simp only [settle]
      split
      · exact (inductionHypothesis.cons top).trans (.swap cell top rest)
      · exact .refl _

/-- Sorting only changes the order. -/
theorem sort_perm
    (stack : Stack) :
    stack.sort.toList.Perm stack.toList := by
  have settled (cells sorted : List Cell) :
      (cells.foldl (fun sorted cell => settle cell sorted) sorted).Perm
        (cells ++ sorted) := by
    induction cells generalizing sorted with
    | nil =>
        exact .refl _
    | cons cell rest inductionHypothesis =>
        exact (inductionHypothesis _).trans
          (((settle_perm cell sorted).append_left rest).trans
            List.perm_middle)
  simpa [sort, toList] using
    (List.reverse_perm _).trans (settled stack.toList [])

theorem isExact_sort
    {stack : Stack} :
    IsExact stack.sort ↔ stack.IsExact := by
  simp only [IsExact, (sort_perm stack).mem_iff]

end Stack

/-- Whether such a mistake takes a real. -/
def Category.isOverReals : Category → Bool
  | .type | .overflow =>
      true
  | _ =>
      false

namespace Fault

/-- The faults of all calls that the fault passed through, its own cause last. -/
def levels : Fault → List Fault
  | .inFunction name index instruction cause =>
      .inFunction name index instruction cause :: cause.levels
  | fault =>
      [fault]

/-- At no level a real stands where an integer is needed, or overflows. -/
def SparesReals (fault : Fault) : Prop :=
  ∀ level ∈ fault.levels, level.category ≠ .type ∧ level.category ≠ .overflow

/-- A result is as said, and a fault spares reals. -/
def YieldsExact
    {α : Type}
    (good : α → Prop) : Except Fault α → Prop
  | .ok result =>
      good result
  | .error fault =>
      fault.SparesReals

/-- A fault that was not raised inside a call is its only level. -/
theorem sparesReals_of_category
    {fault : Fault}
    (raised : fault.levels = [fault])
    (spares : fault.category.isOverReals = false) :
    fault.SparesReals := by
  intro level member
  rw [raised] at member
  rw [List.mem_singleton.1 member]
  constructor <;> intro same <;> rw [same] at spares <;> cases spares

theorem YieldsExact.bind
    {α β : Type}
    {good : α → Prop}
    {better : β → Prop}
    {first : Except Fault α}
    {next : α → Except Fault β}
    (firstYields : YieldsExact good first)
    (nextYields : ∀ result, good result → YieldsExact better (next result)) :
    YieldsExact better (first >>= next) := by
  cases first with
  | ok result =>
      exact nextYields result firstYields
  | error fault =>
      exact firstYields

theorem sparesReals_inFunction
    {fault : Fault}
    (spares : fault.SparesReals)
    (name : Char)
    (index : Nat)
    (instruction : Option Char) :
    SparesReals (.inFunction name index instruction fault) := by
  simpa [SparesReals, levels, category] using spares

end Fault

/-! ## Computations with integers -/

namespace Cell

open Fault

theorem yieldsExact_mod
    (left right : Int) :
    YieldsExact IsInteger (mod (.int left) (.int right)) := by
  unfold mod
  split
  · exact isInteger_int _
  · exact sparesReals_of_category rfl rfl

theorem yieldsExact_character
    (value : Int) :
    YieldsExact (fun _ => True) (character (.int value)) := by
  simp only [character, integer_int, Except.bind]
  split
  · trivial
  · exact sparesReals_of_category rfl rfl

end Cell

namespace Stack

open Fault

theorem yieldsExact_position
    (stack : Stack)
    (index : Int) :
    YieldsExact (fun _ => True) (stack.position index) := by
  unfold position
  split
  · trivial
  · exact sparesReals_of_category rfl rfl

theorem IsExact.yieldsExact_get
    {stack : Stack}
    (isExact : stack.IsExact)
    (index : Int) :
    YieldsExact Cell.IsInteger (stack.get index) := by
  refine (yieldsExact_position stack index).bind fun place _ => ?_
  cases present : stack.toList[place]? with
  | some cell =>
      exact isExact cell (List.mem_of_getElem? present)
  | none =>
      exact sparesReals_of_category rfl rfl

/-- Exchanging two entries brings no other ones in. -/
theorem mem_of_mem_exchange
    {cells : List Cell}
    {first second : Nat}
    {cell : Cell}
    (member : cell ∈ exchange cells first second) :
    cell ∈ cells := by
  unfold exchange at member
  split at member
  · rename_i firstPresent secondPresent
    rcases List.mem_or_eq_of_mem_set member with among | rfl
    · rcases List.mem_or_eq_of_mem_set among with original | rfl
      · exact original
      · exact List.mem_of_getElem? secondPresent
    · exact List.mem_of_getElem? firstPresent
  · exact member

theorem IsExact.yieldsExact_swap
    {stack : Stack}
    (isExact : stack.IsExact)
    (first second : Int) :
    YieldsExact IsExact (stack.swap first second) :=
  (yieldsExact_position stack first).bind fun _ _ =>
    (yieldsExact_position stack second).bind fun _ _ =>
      isExact_ofList fun cell member => isExact cell (mem_of_mem_exchange member)

end Stack

namespace Work

open Fault

/-- The sum of integers is an integer. -/
theorem yieldsExact_sumOf
    {cells : List Cell}
    (integers : ∀ cell ∈ cells, cell.IsInteger) :
    YieldsExact Cell.IsInteger (sumOf cells) := by
  have added (start : Int) :
      YieldsExact Cell.IsInteger (cells.foldlM Cell.add (.int start)) := by
    induction cells generalizing start with
    | nil =>
        exact Cell.isInteger_int start
    | cons cell rest inductionHypothesis =>
        obtain ⟨value, rfl⟩ := integers cell List.mem_cons_self
        exact inductionHypothesis
          (fun other member => integers other (List.mem_cons_of_mem _ member))
          (start + value)
  exact added 0

theorem yieldsExact_digitsOf
    (cell : Cell) :
    YieldsExact (fun digits => ∀ digit ∈ digits, digit.IsInteger)
      (digitsOf cell) := by
  unfold digitsOf
  split
  · intro digit member
    obtain ⟨c, -, rfl⟩ := List.mem_map.1 member
    exact Cell.isInteger_int _
  · exact sparesReals_of_category rfl rfl

theorem yieldsExact_joined
    (cells : List Cell) :
    YieldsExact (fun _ => True) (joined cells) := by
  unfold joined
  dsimp only
  split
  · trivial
  · exact sparesReals_of_category rfl rfl

end Work

/-! ## What a function gives back -/

namespace Channel

/-- A caller's stack holds integers. -/
def IsExact : Channel → Prop
  | .console _ _ =>
      True
  | .caller stack =>
      stack.IsExact

theorem isExact_read
    {channel : Channel}
    (isExact : channel.IsExact) :
    channel.read.2.IsExact := by
  cases channel with
  | console source sink =>
      trivial
  | caller stack =>
      simp only [read]
      split
      · rename_i top rest popped
        rw [IsExact, Stack.pop?_eq_some_iff.1 popped, Stack.isExact_push] at isExact
        exact isExact.1
      · exact isExact

theorem isExact_readIntegers
    {channel : Channel}
    (isExact : channel.IsExact) :
    channel.readIntegers.2.2.IsExact := by
  fun_induction readIntegers channel with
  | case1 channel rest given | case2 channel rest given
  | case3 channel rest given =>
      simpa [given] using isExact_read isExact
  | case4 channel line rest given =>
      simpa [given] using isExact_read isExact
  | case5 channel line rest given nonempty value spelled _ others ending final
      readOthers inductionHypothesis =>
      rw [readOthers] at inductionHypothesis
      exact inductionHypothesis (by simpa [given] using isExact_read isExact)

end Channel

/-! ## Work that stays exact -/

/-- The integers of a bench: those of its stack, and of the caller's if it has one. -/
structure Bench.IsExact (bench : Bench) : Prop where
  stack : bench.stack.IsExact
  channel : bench.channel.IsExact

namespace Work

open Fault

variable {α β : Type}
variable {good : α → Prop} {better : β → Prop}

/-- Work ended with integers; its result is as said, and its fault is over no real. -/
def EndsExact (good : α → Prop) : EStateM.Result Fault Bench α → Prop
  | .ok result after =>
      good result ∧ after.IsExact
  | .error fault after =>
      fault.SparesReals ∧ after.IsExact

/-- Where all cells are integers the work ends with integers. -/
def StaysExact
    (good : α → Prop)
    (work : Work α) : Prop :=
  ∀ bench : Bench, bench.IsExact → EndsExact good (work bench)

theorem StaysExact.bind
    {first : Work α}
    {next : α → Work β}
    (firstStays : StaysExact good first)
    (nextStays : ∀ result, good result → StaysExact better (next result)) :
    StaysExact better (first >>= next) := by
  intro bench isExact
  have firstEnds := firstStays bench isExact
  rw [bind_apply]
  cases firstWorked : first bench with
  | ok result after =>
      rw [firstWorked] at firstEnds
      exact nextStays result firstEnds.1 after firstEnds.2
  | error fault after =>
      rw [firstWorked] at firstEnds
      exact firstEnds

theorem staysExact_ite
    {condition : Prop}
    [Decidable condition]
    {positive negative : Work α}
    (positiveStays : condition → StaysExact good positive)
    (negativeStays : ¬ condition → StaysExact good negative) :
    StaysExact good (if condition then positive else negative) := by
  split
  · exact positiveStays ‹_›
  · exact negativeStays ‹_›

theorem staysExact_pure
    {result : α}
    (isGood : good result) :
    StaysExact good (pure result) :=
  fun _ isExact => ⟨isGood, isExact⟩

theorem staysExact_fail
    {fault : Fault}
    (spares : fault.SparesReals) :
    StaysExact good (fail fault) :=
  fun _ isExact => ⟨spares, isExact⟩

theorem staysExact_ofExcept
    {computed : Except Fault α}
    (yields : YieldsExact good computed) :
    StaysExact good (ofExcept computed) := by
  cases computed with
  | ok result =>
      exact staysExact_pure yields
  | error fault =>
      exact staysExact_fail yields

theorem staysExact_note
    (event : Journal.Event) :
    StaysExact (fun _ => True) (note event) :=
  fun _ isExact => ⟨trivial, isExact.stack, isExact.channel⟩

theorem staysExact_stack :
    StaysExact Stack.IsExact stack :=
  fun _ isExact => ⟨isExact.stack, isExact⟩

theorem staysExact_setStack
    {replacement : Stack}
    (replacementExact : replacement.IsExact) :
    StaysExact (fun _ => True) (setStack replacement) :=
  fun _ isExact => ⟨trivial, replacementExact, isExact.channel⟩

theorem staysExact_push
    {cell : Cell}
    (integer : cell.IsInteger) :
    StaysExact (fun _ => True) (push cell) :=
  fun _ isExact =>
    ⟨trivial, Stack.isExact_push.2 ⟨isExact.stack, integer⟩, isExact.channel⟩

theorem staysExact_append
    {cells : List Cell}
    (integers : ∀ cell ∈ cells, cell.IsInteger) :
    StaysExact (fun _ => True) (append cells) :=
  fun _ isExact =>
    ⟨trivial, Stack.isExact_append.2 ⟨isExact.stack, integers⟩, isExact.channel⟩

theorem staysExact_takeAll :
    StaysExact (fun cells => ∀ cell ∈ cells, cell.IsInteger) takeAll :=
  fun _ isExact => ⟨isExact.stack, Stack.isExact_empty, isExact.channel⟩

theorem staysExact_pop? :
    StaysExact (fun taken => ∀ cell, taken = some cell → cell.IsInteger) pop? := by
  intro bench isExact
  rw [pop?_apply]
  cases popped : bench.stack.pop? with
  | none =>
      exact ⟨by simp, isExact⟩
  | some taken =>
      obtain ⟨top, rest⟩ := taken
      have shape := isExact.stack
      rw [Stack.pop?_eq_some_iff.1 popped, Stack.isExact_push] at shape
      refine ⟨fun cell same => ?_, shape.1, isExact.channel⟩
      cases same
      exact shape.2

theorem staysExact_takeTop :
    StaysExact Cell.IsInteger takeTop := by
  refine staysExact_pop?.bind fun taken integer => ?_
  cases taken with
  | none =>
      exact staysExact_fail (sparesReals_of_category rfl rfl)
  | some top =>
      exact staysExact_pure (integer top rfl)

theorem staysExact_readLine :
    StaysExact (fun _ => True) readLine := by
  intro bench isExact
  rw [readLine_apply]
  exact ⟨trivial, isExact.stack, Channel.isExact_read isExact.channel⟩

theorem staysExact_readIntegers :
    StaysExact (fun _ => True) readIntegers := by
  intro bench isExact
  have channel := Channel.isExact_readIntegers isExact.channel
  have stack :
      (bench.stack.append (bench.channel.readIntegers.1.map .int)).IsExact :=
    Stack.isExact_append.2
      ⟨isExact.stack, fun _ => Cell.isInteger_of_mem_map_int⟩
  rw [readIntegers_apply]
  cases bench.channel.readIntegers.2.1 with
  | complete | unreadable =>
      exact ⟨trivial, stack, channel⟩
  | notInteger line =>
      exact ⟨sparesReals_of_category rfl rfl, stack, channel⟩

/-- An emission stays exact when a caller would get integers for it. -/
theorem staysExact_emit
    {emission : Emission}
    (integers : ∀ cell ∈ Channel.returned emission, cell.IsInteger) :
    StaysExact (fun _ => True) (emit emission) := by
  intro bench isExact
  rw [emit_apply]
  cases lent : bench.channel with
  | caller stack =>
      have lentExact := isExact.channel
      rw [lent] at lentExact
      exact ⟨trivial, isExact.stack, Stack.isExact_append.2 ⟨lentExact, integers⟩⟩
  | console source sink =>
      simp only [Channel.emit]
      cases sink.emit emission with
      | ok after =>
          exact ⟨trivial, isExact.stack, trivial⟩
      | error after =>
          exact ⟨sparesReals_of_category rfl rfl, isExact.stack, trivial⟩

end Work

end StackTape
