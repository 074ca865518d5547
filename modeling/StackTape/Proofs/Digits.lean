import Mathlib.Data.Nat.Digits.Defs
import Mathlib.Data.Set.List
import StackTape.Proofs.Returns
import StackTape.Proofs.Sequences

namespace StackTape

/-!
# Splitting numbers and joining them

A natural number is split into the digits of its text, and cells are joined to the integer
that their texts spell one after the other.  What is spelled is tied to the numbers
themselves: a row of digits reads as the number that the place values give, and any row of
digits is the text of that number behind some zeros.  No text of a real and no text of a
negative integer can stand behind another text there, so joining is refused exactly where
such a cell is.
-/

namespace Decimal

/-! ## Digits of a number -/

/-- The digits of a number, the most significant one first; zero has one. -/
def digitValues (n : Nat) : List Nat :=
  if n = 0 then [0] else (Nat.digits 10 n).reverse

/-- The number whose digits are those of the numbers, one number after the other. -/
def concatenated (numbers : List Nat) : Nat :=
  numbers.foldl (fun before n => before * Nat.pow 10 (digitValues n).length + n) 0

theorem digitValues_of_lt
    {n : Nat}
    (small : n < 10) :
    digitValues n = [n] := by
  by_cases zero : n = 0
  · rw [zero]
    rfl
  · rw [digitValues, if_neg zero, Nat.digits_of_lt 10 n zero small]
    rfl

/-- The last digit is the remainder, the others are those of the quotient. -/
theorem digitValues_of_le
    {n : Nat}
    (large : 10 ≤ n) :
    digitValues n = digitValues (n / 10) ++ [n % 10] := by
  have nonzero : n ≠ 0 := by
    omega
  have quotient : n / 10 ≠ 0 := by
    omega
  rw [digitValues, if_neg nonzero, digitValues, if_neg quotient,
    Nat.digits_def' (by decide) (Nat.pos_of_ne_zero nonzero), List.reverse_cons]

theorem digitValues_ne_nil
    (n : Nat) :
    digitValues n ≠ [] := by
  rcases Nat.lt_or_ge n 10 with small | large
  · simp [digitValues_of_lt small]
  · simp [digitValues_of_le large]

theorem lt_ten_of_mem_digitValues
    {n digit : Nat}
    (member : digit ∈ digitValues n) :
    digit < 10 := by
  rw [digitValues] at member
  split_ifs at member with zero
  · rw [List.mem_singleton.1 member]
    decide
  · exact Nat.digits_lt_base (by decide) (List.mem_reverse.1 member)

/-- The text of a number writes its digits. -/
theorem digits_eq_map
    (n : Nat) :
    digits n = (digitValues n).map Nat.digitChar := by
  induction n using Nat.strongRecOn with
  | ind n inductionHypothesis =>
      rcases Nat.lt_or_ge n 10 with small | large
      · rw [digitValues_of_lt small]
        exact Nat.toDigits_of_lt_base small
      · have quotient : digits (n / 10) = (digitValues (n / 10)).map Nat.digitChar :=
          inductionHypothesis (n / 10) (by omega)
        rw [digitValues_of_le large, List.map_append, ← quotient]
        exact Nat.toDigits_of_base_le (by decide) large

@[simp] theorem length_digits
    (n : Nat) :
    (digits n).length = (digitValues n).length := by
  rw [digits_eq_map, List.length_map]

/-! ## Rows of digits -/

theorem digitChar_of_isDigit
    {c : Char}
    (digit : c.isDigit = true) :
    ∃ value < 10, c = Nat.digitChar value := by
  have range : 48 ≤ c.toNat ∧ c.toNat ≤ 57 := by
    simpa [Char.isDigit, UInt32.le_iff_toNat_le] using digit
  refine ⟨c.toNat - 48, by omega, Char.toNat_inj.1 ?_⟩
  rw [Nat.toNat_digitChar_of_lt_ten (by omega)]
  omega

/-- A row of digits behind the text of a positive number goes on spelling its text. -/
theorem digits_append_of_pos
    {start : Nat}
    (positive : 0 < start)
    {row : Text}
    (allDigits : ∀ c ∈ row, c.isDigit = true) :
    digits start ++ row = digits (Nat.ofDigitChars 10 row start) := by
  -- on the row, for any number in front: its first digit joins that number
  induction row generalizing start with
  | nil =>
      exact List.append_nil _
  | cons c rest inductionHypothesis =>
      obtain ⟨value, small, rfl⟩ :=
        digitChar_of_isDigit (allDigits c List.mem_cons_self)
      have next : digits start ++ [Nat.digitChar value] = digits (10 * start + value) := by
        rw [← Nat.toDigits_of_lt_base small]
        exact Nat.toDigits_append_toDigits (by decide) positive small
      rw [List.append_cons, next, Nat.ofDigitChars_cons_digitChar_of_lt_ten small]
      exact inductionHypothesis (by omega) fun d member =>
        allDigits d (List.mem_cons_of_mem _ member)

/-- A row of digits that starts with no zero is the text of what it spells. -/
theorem eq_digits_spelled
    {c : Char}
    {rest : Text}
    (allDigits : ∀ d ∈ c :: rest, d.isDigit = true)
    (nonzero : c ≠ '0') :
    c :: rest = digits (spelled (c :: rest)) := by
  obtain ⟨value, small, rfl⟩ := digitChar_of_isDigit (allDigits c List.mem_cons_self)
  have positive : 0 < value :=
    Nat.pos_of_ne_zero fun zero => nonzero (by rw [zero]; rfl)
  rw [spelled, Nat.ofDigitChars_cons_digitChar_of_lt_ten small, Nat.mul_zero,
    Nat.zero_add,
    ← digits_append_of_pos positive fun d member =>
      allDigits d (List.mem_cons_of_mem _ member),
    digits, Nat.toDigits_of_lt_base small]
  rfl

/-- A row of digits is the text of what it spells behind zeros. -/
theorem exists_zeros_append_digits
    {row : Text}
    (nonempty : row ≠ [])
    (allDigits : ∀ c ∈ row, c.isDigit = true) :
    ∃ zeros, row = List.replicate zeros '0' ++ digits (spelled row) := by
  induction row with
  | nil =>
      exact absurd rfl nonempty
  | cons c rest inductionHypothesis =>
      by_cases zero : c = '0'
      · subst zero
        cases rest with
        | nil =>
            exact ⟨0, rfl⟩
        | cons d others =>
            obtain ⟨zeros, split⟩ :=
              inductionHypothesis (List.cons_ne_nil d others) fun e member =>
                allDigits e (List.mem_cons_of_mem _ member)
            have same : spelled ('0' :: d :: others) = spelled (d :: others) := rfl
            refine ⟨zeros + 1, ?_⟩
            rw [same, List.replicate_succ, List.cons_append, ← split]
      · exact ⟨0, eq_digits_spelled allDigits zero⟩

/-- Texts of numbers one after the other spell what their place values give. -/
theorem spelled_flatMap_digits
    (numbers : List Nat) :
    spelled (numbers.flatMap digits) = concatenated numbers := by
  have spelledFrom (start : Nat) :
      Nat.ofDigitChars 10 (numbers.flatMap digits) start =
        numbers.foldl
          (fun before n => before * Nat.pow 10 (digitValues n).length + n) start := by
    induction numbers generalizing start with
    | nil =>
        rfl
    | cons n rest inductionHypothesis =>
        have single :
            Nat.ofDigitChars 10 (digits n) start =
              start * Nat.pow 10 (digitValues n).length + n := by
          rw [Nat.ofDigitChars_eq_ofDigitChars_zero, length_digits, Nat.mul_comm]
          exact congrArg _ (spelled_digits n)
        rw [List.flatMap_cons, Nat.ofDigitChars_append, single, inductionHypothesis,
          List.foldl_cons]
  exact spelledFrom 0

/-- The digits of a number spell the number. -/
theorem concatenated_digitValues
    (n : Nat) :
    concatenated (digitValues n) = n := by
  have single : (digitValues n).flatMap digits = digits n := by
    rw [digits_eq_map, List.map_eq_flatMap]
    refine List.flatMap_congr fun digit member => ?_
    exact Nat.toDigits_of_lt_base (lt_ten_of_mem_digitValues member)
  rw [← spelled_flatMap_digits, single, spelled_digits]

/-! ## Signed rows -/

/-- The text of an integer is the text of its size, behind a sign if it is negative. -/
theorem ofInteger_eq_withSign
    (value : Int) :
    ofInteger value = withSign (decide (value < 0)) (digits value.natAbs) := by
  cases value with
  | ofNat n =>
      rfl
  | negSucc n =>
      rw [decide_eq_true (Int.negSucc_lt_zero n)]
      rfl

/-- Digits behind a sign or none read as the integer of that sign. -/
theorem integer?_withSign
    (negative : Bool)
    {row : Text}
    (nonempty : row ≠ [])
    (allDigits : ∀ c ∈ row, c.isDigit = true) :
    integer? (withSign negative row) = some (Binary64.signed negative (spelled row)) := by
  have natural := natural?_of_digits nonempty allDigits
  cases negative with
  | false =>
      cases row with
      | nil =>
          exact absurd rfl nonempty
      | cons first rest =>
          have digit := allDigits first List.mem_cons_self
          simp [withSign, integer?_of_isDigit digit, natural, Binary64.signed]
  | true =>
      simp [withSign, integer?, natural, Binary64.signed]

end Decimal

namespace Cell

/-- The cell that holds a natural number. -/
def ofNat (n : Nat) : Cell :=
  .int n

theorem text_ofNat
    (n : Nat) :
    (ofNat n).text = Decimal.digits n :=
  rfl

/-- A cell whose text has nothing but digits holds a natural number. -/
theorem exists_eq_ofNat
    {cell : Cell}
    (plain : ∀ c ∈ cell.text, Decimal.isDigitOrSeparator c = true) :
    ∃ n, cell = ofNat n := by
  cases cell with
  | int value =>
      cases value with
      | ofNat n =>
          exact ⟨n, rfl⟩
      | negSucc n =>
          exact absurd (plain '-' List.mem_cons_self) (by decide)
  | real value =>
      obtain ⟨c, member, foreign, -⟩ := Decimal.exists_foreign_ofReal value
      rw [plain c member] at foreign
      cases foreign

/-- Cells whose texts have nothing but digits hold natural numbers. -/
theorem exists_eq_map_ofNat
    {cells : List Cell}
    (plain : ∀ c ∈ (cells.map text).flatten, Decimal.isDigitOrSeparator c = true) :
    ∃ numbers : List Nat, cells = numbers.map ofNat := by
  have naturals : cells ∈ Set.range (List.map ofNat) := by
    rw [Set.range_list_map]
    intro cell member
    obtain ⟨n, rfl⟩ : ∃ n, cell = ofNat n :=
      exists_eq_ofNat fun c inText =>
        plain c (List.mem_flatten_of_mem (List.mem_map_of_mem member) inText)
    exact Set.mem_range_self n
  obtain ⟨numbers, rfl⟩ := naturals
  exact ⟨numbers, rfl⟩

/-- All cells are integers, and none but the bottom one is negative. -/
def AreJoinable (cells : List Cell) : Prop :=
  ∃ (bottom : Int) (above : List Nat), cells = .int bottom :: above.map ofNat

end Cell

namespace Work

/-- An operand on top of the stack is taken off, and nothing is read. -/
@[simp] theorem takeOperand_mk_push
    (rest : Stack)
    (cell : Cell)
    (channel : Channel)
    (journal : Journal)
    (draws : Draws)
    (waits : List Binary64) :
    takeOperand ⟨rest.push cell, channel, journal, draws, waits⟩ =
      .ok cell ⟨rest, channel, journal, draws, waits⟩ := by
  simp [takeOperand, operand, pop?_apply]

/-! ## Digits of cells -/

theorem digitsOf_ofNat
    (n : Nat) :
    digitsOf (.ofNat n) = .ok ((Decimal.digitValues n).map .ofNat) := by
  have allDigits : (Cell.ofNat n).text.all Char.isDigit = true :=
    List.all_eq_true.2 fun c => Decimal.isDigit_of_mem_digits
  have values :
      ((Decimal.digitValues n).map Nat.digitChar).map
          (fun c => Cell.int (c.toNat - '0'.toNat : Nat)) =
        (Decimal.digitValues n).map .ofNat := by
    rw [List.map_map]
    refine List.map_congr_left fun digit member => ?_
    have small := Decimal.lt_ten_of_mem_digitValues member
    exact congrArg Cell.ofNat (Nat.toNat_digitChar_sub_48_of_lt_ten small)
  rw [digitsOf, if_pos allDigits, Cell.text_ofNat, Decimal.digits_eq_map, values]

/-- Nothing but natural numbers is split. -/
theorem digitsOf_of_ne_ofNat
    {cell : Cell}
    (other : ∀ n, cell ≠ .ofNat n) :
    digitsOf cell = .error (.notDigits cell) := by
  refine if_neg fun allDigits => ?_
  obtain ⟨n, same⟩ : ∃ n, cell = .ofNat n :=
    Cell.exists_eq_ofNat fun c member => by
      simp [Decimal.isDigitOrSeparator, List.all_eq_true.1 allDigits c member]
  exact other n same

/-! ## Joined cells -/

section

variable (bottom : Int)
variable (above : List Nat)

/-- The texts of joinable cells, one after the other. -/
theorem flatten_texts_of_joinable :
    ((Cell.int bottom :: above.map .ofNat).map Cell.text).flatten =
      Decimal.withSign (decide (bottom < 0))
        ((bottom.natAbs :: above).flatMap Decimal.digits) := by
  have texts : ((above.map .ofNat).map Cell.text).flatten = above.flatMap Decimal.digits := by
    rw [List.map_map]
    rfl
  rw [List.map_cons, List.flatten_cons, texts, Cell.text,
    Decimal.ofInteger_eq_withSign, List.flatMap_cons]
  cases decide (bottom < 0) <;> rfl

/-- What joinable cells are joined to. -/
def joinedValue : Int :=
  Binary64.signed (decide (bottom < 0)) (Decimal.concatenated (bottom.natAbs :: above))

theorem isDigit_of_mem_flatMap_digits
    {numbers : List Nat}
    {c : Char}
    (member : c ∈ numbers.flatMap Decimal.digits) :
    c.isDigit = true := by
  obtain ⟨n, -, inDigits⟩ := List.mem_flatMap.1 member
  exact Decimal.isDigit_of_mem_digits inDigits

theorem flatMap_digits_cons_ne_nil
    (n : Nat) :
    (n :: above).flatMap Decimal.digits ≠ [] := by
  rw [List.flatMap_cons]
  exact List.append_ne_nil_of_left_ne_nil (Decimal.digits_ne_nil n) _

theorem joinedValue_natCast
    (n : Nat) :
    joinedValue n above = Decimal.concatenated (n :: above) := by
  simp [joinedValue, Binary64.signed]

theorem concatenated_pos
    {n : Nat}
    (positive : 0 < n) :
    0 < Decimal.concatenated (n :: above) := by
  rw [← Decimal.spelled_flatMap_digits, List.flatMap_cons, Decimal.spelled_append,
    Decimal.spelled_digits]
  positivity

theorem text_joinedValue :
    (Cell.int (joinedValue bottom above)).text =
      Decimal.withSign (decide (bottom < 0))
        (Decimal.digits (Decimal.concatenated (bottom.natAbs :: above))) := by
  by_cases negative : bottom < 0
  · have positive :=
      concatenated_pos above (Int.natAbs_pos.2 (Int.ne_of_lt negative))
    rw [Cell.text, Decimal.ofInteger_eq_withSign, joinedValue, decide_eq_true negative]
    simp [Binary64.signed, positive]
  · rw [Cell.text, Decimal.ofInteger_eq_withSign, joinedValue, decide_eq_false negative]
    simp [Binary64.signed, Decimal.withSign]

/-- The texts of joinable cells are the text of what they are joined to, behind zeros. -/
theorem exists_zeros_flatten_texts :
    ∃ zeros,
      ((Cell.int bottom :: above.map .ofNat).map Cell.text).flatten =
          List.replicate zeros '0' ++ (Cell.int (joinedValue bottom above)).text ∧
        (bottom ≠ 0 → zeros = 0) := by
  rw [flatten_texts_of_joinable, text_joinedValue]
  have allDigits :
      ∀ c ∈ (bottom.natAbs :: above).flatMap Decimal.digits, c.isDigit = true :=
    fun c => isDigit_of_mem_flatMap_digits
  by_cases zero : bottom = 0
  · obtain ⟨zeros, split⟩ :=
      Decimal.exists_zeros_append_digits
        (flatMap_digits_cons_ne_nil above bottom.natAbs) allDigits
    rw [Decimal.spelled_flatMap_digits] at split
    refine ⟨zeros, ?_, fun nonzero => absurd zero nonzero⟩
    rw [split, zero]
    rfl
  · refine ⟨0, ?_, fun _ => rfl⟩
    have positive : 0 < bottom.natAbs := Int.natAbs_pos.2 zero
    have aboveDigits : ∀ c ∈ above.flatMap Decimal.digits, c.isDigit = true :=
      fun c => isDigit_of_mem_flatMap_digits
    have text := Decimal.digits_append_of_pos positive aboveDigits
    have size := congrArg Decimal.spelled text
    rw [← List.flatMap_cons] at text size
    rw [Decimal.spelled_flatMap_digits, Decimal.spelled_digits] at size
    rw [text, size]
    rfl

theorem joined_of_joinable :
    joined (.int bottom :: above.map .ofNat) = .ok (joinedValue bottom above) := by
  have read :=
    Decimal.integer?_withSign (decide (bottom < 0))
      (flatMap_digits_cons_ne_nil above bottom.natAbs)
      fun c => isDigit_of_mem_flatMap_digits
  rw [← flatten_texts_of_joinable, Decimal.spelled_flatMap_digits] at read
  simp only [joined, read]
  rfl

end

/-- Cells that are joined are joinable. -/
theorem areJoinable_of_joined
    {cells : List Cell}
    {value : Int}
    (nonempty : cells ≠ [])
    (read : Decimal.integer? (cells.map Cell.text).flatten = some value) :
    Cell.AreJoinable cells := by
  cases cells with
  | nil =>
      exact absurd rfl nonempty
  | cons bottom above =>
      rw [List.map_cons, List.flatten_cons] at read
      cases bottom with
      | real value =>
          obtain ⟨c, member, foreign, noMinus, noPlus⟩ :=
            Decimal.exists_foreign_ofReal value
          have inTexts : c ∈ (Cell.real value).text ++ (above.map Cell.text).flatten :=
            List.mem_append_left _ member
          rw [Decimal.integer?_of_foreign inTexts foreign noMinus noPlus] at read
          cases read
      | int value =>
          obtain ⟨first, rest, shape⟩ :=
            List.exists_cons_of_ne_nil (Cell.isPlainLine_text (.int value)).nonempty
          rw [shape, List.cons_append] at read
          obtain ⟨numbers, rfl⟩ : ∃ numbers : List Nat, above = numbers.map .ofNat :=
            Cell.exists_eq_map_ofNat fun c member =>
              (Decimal.integer?_shape read).2 c (List.mem_append_right _ member)
          exact ⟨value, numbers, rfl⟩

end Work

namespace Invocation

section

variable (whole : Bool)
variable (backup : Backup)
variable (channel : Channel)
variable (rest : Stack)

/-! ## The instructions -/

theorem executes_splitDigits
    (n : Nat) :
    Executes (command whole 'S') ⟨rest.push (.ofNat n), backup, channel⟩
      ⟨rest.append ((Decimal.digitValues n).map .ofNat), backup, channel⟩ := by
  refine executes_task rfl (fun journal draws waits => ?_) backup
  refine ⟨⟨rest.append _, channel, journal, draws, waits⟩, ?_, rfl, rfl⟩
  simp [Task.perform, Work.splitDigits, Work.digitsOf_ofNat]

theorem failsIn_splitDigits
    {cell : Cell}
    (other : ∀ n, cell ≠ .ofNat n) :
    FailsIn (command whole 'S') ⟨rest.push cell, backup, channel⟩ (.notDigits cell)
      ⟨rest, backup, channel⟩ := by
  have known : Opcode.ofChar? 'S' = some (.task .splitDigits) := rfl
  refine failsIn_task known (fun journal draws waits => ?_) backup
  refine ⟨⟨rest, channel, journal, draws, waits⟩, ?_, rfl, rfl⟩
  simp [Task.perform, Work.splitDigits, Work.digitsOf_of_ne_ofNat other]

theorem executes_countCharacters
    (cell : Cell) :
    Executes (command whole 'c') ⟨rest.push cell, backup, channel⟩
      ⟨rest.push (.ofNat cell.text.length), backup, channel⟩ := by
  refine executes_task rfl (fun journal draws waits => ?_) backup
  refine ⟨⟨rest.push _, channel, journal, draws, waits⟩, ?_, rfl, rfl⟩
  simp [Task.perform, Work.unary, Cell.ofNat]

theorem executes_joinDigits
    (bottom : Int)
    (above : List Nat) :
    Executes (command whole 'J')
      ⟨.ofList (.int bottom :: above.map .ofNat), backup, channel⟩
      ⟨.ofList [.int (Work.joinedValue bottom above)], backup, channel⟩ := by
  refine executes_task rfl (fun journal draws waits => ?_) backup
  refine ⟨⟨.ofList _, channel, journal, draws, waits⟩, ?_, rfl, rfl⟩
  simp [Task.perform, Work.joinDigits, Work.readIfEmpty, Work.joined_of_joinable]

theorem failsIn_joinDigits
    {cells : List Cell}
    (nonempty : cells ≠ [])
    (unjoinable : ¬ Cell.AreJoinable cells) :
    FailsIn (command whole 'J') ⟨.ofList cells, backup, channel⟩
      (.notJoinable (cells.map Cell.text).flatten) ⟨.ofList cells, backup, channel⟩ := by
  have unspelled : Decimal.integer? (cells.map Cell.text).flatten = none :=
    Option.eq_none_iff_forall_ne_some.2 fun _ read =>
      unjoinable (Work.areJoinable_of_joined nonempty read)
  have refused :
      Work.joined cells = .error (.notJoinable (cells.map Cell.text).flatten) := by
    simp only [Work.joined, unspelled]
  have known : Opcode.ofChar? 'J' = some (.task .joinDigits) := rfl
  refine failsIn_task known (fun journal draws waits => ?_) backup
  refine ⟨⟨.ofList cells, channel, journal, draws, waits⟩, ?_, rfl, rfl⟩
  simp [Task.perform, Work.joinDigits, Work.readIfEmpty, nonempty, refused]

end

/-! ## Both ways -/

section

variable (backup : Backup)
variable (channel : Channel)
variable (n : Nat)

/-- The digits of a number are joined to the number. -/
theorem executes_joinDigits_of_digits
    (whole : Bool) :
    Executes (command whole 'J')
      ⟨.ofList ((Decimal.digitValues n).map .ofNat), backup, channel⟩
      ⟨.ofList [.ofNat n], backup, channel⟩ := by
  obtain ⟨first, others, shape⟩ :=
    List.exists_cons_of_ne_nil (Decimal.digitValues_ne_nil n)
  have value : Work.joinedValue first others = n := by
    rw [Work.joinedValue_natCast, ← shape, Decimal.concatenated_digitValues]
  have joins := executes_joinDigits whole backup channel first others
  rw [value] at joins
  rw [shape]
  exact joins

theorem executes_split_and_join
    (whole : Bool) :
    Executes (command whole 'S' ++ ['J']) ⟨.ofList [.ofNat n], backup, channel⟩
      ⟨.ofList [.ofNat n], backup, channel⟩ := by
  have splits := executes_splitDigits whole backup channel .empty n
  rw [Stack.empty_append] at splits
  exact splits.append (executes_joinDigits_of_digits backup channel n false)

theorem executes_join_and_split
    (whole : Bool) :
    let digits := Stack.ofList ((Decimal.digitValues n).map .ofNat)
    Executes (command whole 'J' ++ ['S']) ⟨digits, backup, channel⟩
      ⟨digits, backup, channel⟩ := by
  have splits := executes_splitDigits false backup channel .empty n
  rw [Stack.empty_append] at splits
  exact (executes_joinDigits_of_digits backup channel n whole).append splits

end

/--
Splitting and joining are exact, behind an ampersand or not, and nothing is read.  A
natural number on top of any stack is split into its digits, the most significant one
first, as many as counting its characters gives; splitting is undone by joining, and
joining digits by splitting.  Any other cell is refused.  Joinable cells are joined to the
integer whose digits are theirs, negative if the bottom one is; its text is the cells'
texts one after the other, without the zeros in front if the bottom cell is zero.  Where
cells are not joinable, the stack stays as it is.
-/
theorem split_and_joined_exactly
    (whole : Bool)
    (backup : Backup)
    (channel : Channel) :
    let held (stack : Stack) : Holding := ⟨stack, backup, channel⟩
    let digits (n : Nat) : List Cell := (Decimal.digitValues n).map .ofNat
    (∀ (n : Nat) (rest : Stack),
        Executes (command whole 'S') (held (rest.push (.ofNat n)))
            (held (rest.append (digits n))) ∧
          Executes (command whole 'c') (held (rest.push (.ofNat n)))
            (held (rest.push (.ofNat (digits n).length)))) ∧
      (∀ n : Nat,
        Executes (command whole 'S' ++ ['J']) (held (.ofList [.ofNat n]))
            (held (.ofList [.ofNat n])) ∧
          Executes (command whole 'J' ++ ['S']) (held (.ofList (digits n)))
            (held (.ofList (digits n)))) ∧
      (∀ (cell : Cell) (rest : Stack),
        (∀ n, cell ≠ .ofNat n) →
        ∃ fault,
          fault.category.name = "ValueError" ∧
            fault.message =
              "cannot split " ++ String.ofList cell.text ++ " into digits" ∧
            FailsIn (command whole 'S') (held (rest.push cell)) fault (held rest)) ∧
      (∀ (bottom : Int) (above : List Nat),
        let cells := Cell.int bottom :: above.map .ofNat
        let value := Work.joinedValue bottom above
        (∃ zeros,
            (cells.map Cell.text).flatten =
                List.replicate zeros '0' ++ (Cell.int value).text ∧
              (bottom ≠ 0 → zeros = 0)) ∧
          Executes (command whole 'J') (held (.ofList cells))
            (held (.ofList [.int value]))) ∧
      (∀ cells : List Cell,
        cells ≠ [] →
        ¬ Cell.AreJoinable cells →
        ∃ fault,
          fault.category.name = "ValueError" ∧
            fault.message =
              "cannot join " ++ String.ofList (cells.map Cell.text).flatten ++
                " into an integer" ∧
            FailsIn (command whole 'J') (held (.ofList cells)) fault
              (held (.ofList cells))) := by
  intro held digits
  refine ⟨?split, ?undone, ?refused, ?joined, ?unjoinable⟩
  case split =>
    intro n rest
    have counts := executes_countCharacters whole backup channel rest (.ofNat n)
    have length : (Cell.ofNat n).text.length = (digits n).length := by
      rw [Cell.text_ofNat, Decimal.length_digits, List.length_map]
    rw [length] at counts
    exact ⟨executes_splitDigits whole backup channel rest n, counts⟩
  case undone =>
    intro n
    exact ⟨executes_split_and_join backup channel n whole,
      executes_join_and_split backup channel n whole⟩
  case refused =>
    intro cell rest other
    exact ⟨.notDigits cell, rfl, rfl,
      failsIn_splitDigits whole backup channel rest other⟩
  case joined =>
    intro bottom above
    exact ⟨Work.exists_zeros_flatten_texts bottom above,
      executes_joinDigits whole backup channel bottom above⟩
  case unjoinable =>
    intro cells nonempty unjoinable
    exact ⟨_, rfl, rfl, failsIn_joinDigits whole backup channel nonempty unjoinable⟩

/-- A number with a zero in it, cells with a sign and zeros, and a real. -/
theorem split_and_joined_exactly_amid_zeros :
    let channel := Channel.console .exhausted (.emissions [])
    let facing (code : Text) (cells : List Cell) :=
      (start code channel (.blank .error) default).withStack (.ofList cells)
    let half := Cell.real (.finite false 0x10000000000000 (-53) (by decide))
    (∃ count final,
        Walks count (facing ['S'] [half, .int 405]) final ∧
          final.stack = .ofList [half, .int 4, .int 0, .int 5]) ∧
      (∃ count final,
        Walks count (facing ['S', 'J'] [.int 405]) final ∧
          final.stack = .ofList [.int 405]) ∧
      (∃ count final,
        Walks count (facing ['J'] [.int (-7), .int 0, .int 12]) final ∧
          final.stack = .ofList [.int (-7012)]) ∧
      ∃ failure final,
        failure.fault.message = "cannot join 70.5 into an integer" ∧
          (facing ['J'] [.int 7, half]).step 0 0 = .failed failure final ∧
          final.stack = .ofList [.int 7, half] := by
  intro channel facing half
  have exactly := split_and_joined_exactly false .empty channel
  have faces
      (code : Text)
      (cells : List Cell)
      (braceless : '\x7b' ∉ code) :
      (facing code cells).Faces false (code ++ []) [] :=
    .of_beginning rfl rfl rfl rfl braceless
  refine ⟨?split, ?undone, ?joined, ?unjoinable⟩
  case split =>
    obtain ⟨count, final, -, walks, -, holds⟩ :=
      (exactly.1 405 (.ofList [half])).1 _ _ _
        (faces _ [half, .int 405] (by decide)) rfl
    exact ⟨count, final, walks, (congrArg Holding.stack holds).trans (by decide)⟩
  case undone =>
    obtain ⟨count, final, -, walks, -, holds⟩ :=
      (exactly.2.1 405).1 _ _ _ (faces _ [.int 405] (by decide)) rfl
    exact ⟨count, final, walks, congrArg Holding.stack holds⟩
  case joined =>
    obtain ⟨count, final, -, walks, -, holds⟩ :=
      (exactly.2.2.2.1 (-7) [0, 12]).2 _ _ _
        (faces _ [.int (-7), .int 0, .int 12] (by decide)) rfl
    exact ⟨count, final, walks, (congrArg Holding.stack holds).trans (by decide)⟩
  case unjoinable =>
    have unjoinable : ¬ Cell.AreJoinable [.int 7, half] := by
      rintro ⟨bottom, above, shape⟩
      cases above with
      | nil =>
          cases shape
      | cons n others =>
          injection shape with _ same
          injection same with same
          nomatch same
    obtain ⟨fault, -, message, fails⟩ :=
      exactly.2.2.2.2 [.int 7, half] (List.cons_ne_nil _ _) unjoinable
    obtain ⟨count, last, instruction, final, once, walks, failed, holds⟩ :=
      fails _ _ _ (faces _ [.int 7, half] (by decide)) rfl
    obtain rfl : count = 0 := Nat.lt_one_iff.1 once
    cases walks
    refine ⟨_, final, message.trans (by decide +kernel), failed 0 (run 0 0), ?_⟩
    exact congrArg Holding.stack holds

end Invocation

end StackTape
