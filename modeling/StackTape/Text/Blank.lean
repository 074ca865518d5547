import StackTape.Text.Basic

namespace StackTape

/-!
# Blank characters

White space is Unicode's `White_Space` property.  Numbers in input lines may be
surrounded by it.
-/

namespace Text

/-- A character with the Unicode property `White_Space`. -/
def isBlank (c : Char) : Bool :=
  let code := c.toNat
  (0x9 ≤ code && code ≤ 0xD) ||
    code == 0x20 ||
    code == 0x85 ||
    code == 0xA0 ||
    code == 0x1680 ||
    (0x2000 ≤ code && code ≤ 0x200A) ||
    code == 0x2028 ||
    code == 0x2029 ||
    code == 0x202F ||
    code == 0x205F ||
    code == 0x3000

/-- A digit is not blank. -/
theorem isBlank_of_isDigit
    {c : Char}
    (digit : c.isDigit = true) :
    isBlank c = false := by
  simp only [Char.isDigit, Bool.and_eq_true, decide_eq_true_eq,
    UInt32.le_iff_toNat_le] at digit
  have lower : 48 ≤ c.toNat := digit.1
  have upper : c.toNat ≤ 57 := digit.2
  simp only [isBlank, Bool.or_eq_false_iff, Bool.and_eq_false_iff,
    decide_eq_false_iff_not, beq_eq_false_iff_ne, ne_eq]
  omega

/-- The text without the blanks at its start. -/
def trimStart (text : Text) : Text :=
  text.dropWhile isBlank

/-- The text without the blanks at its end. -/
def trimEnd (text : Text) : Text :=
  (trimStart text.reverse).reverse

/-- The text without the blanks at both ends. -/
def trim (text : Text) : Text :=
  trimEnd (trimStart text)

/-- Nothing is trimmed at the start of a text that starts with no blank. -/
theorem trimStart_eq_self
    {text : Text}
    (solid : ∀ first ∈ text.head?, isBlank first = false) :
    trimStart text = text := by
  cases text with
  | nil =>
      rfl
  | cons first rest =>
      simp [trimStart, solid first rfl]

/-- A text that starts and ends with no blank is its own trimmed form. -/
theorem trim_eq_self
    {text : Text}
    (solidStart : ∀ first ∈ text.head?, isBlank first = false)
    (solidEnd : ∀ last ∈ text.getLast?, isBlank last = false) :
    trim text = text := by
  have reversed : trimStart text.reverse = text.reverse := by
    apply trimStart_eq_self
    simpa [List.head?_reverse] using solidEnd
  simp [trim, trimStart_eq_self solidStart, trimEnd, reversed]

/-- A text without blanks is its own trimmed form. -/
theorem trim_eq_self_of_forall
    {text : Text}
    (solid : ∀ c ∈ text, isBlank c = false) :
    trim text = text :=
  trim_eq_self
    (fun first member => solid first (List.mem_of_mem_head? member))
    (fun last member => solid last (List.mem_of_mem_getLast? member))

end Text

end StackTape
