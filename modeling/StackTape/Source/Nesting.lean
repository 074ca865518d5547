import StackTape.Source.StandIn

namespace StackTape

/-!
# Nesting of brackets

A text is balanced when every opening bracket is closed by its own kind and the
pairs nest.  The check keeps the brackets that are still open, innermost first.  The
partner of a single bracket is found by counting its own kind alone.
-/

namespace Source

/-- The opening bracket that a closing one belongs to. -/
def opener? : Char → Option Char
  | ')' =>
      some '('
  | ']' =>
      some '['
  | '\x7d' =>
      some '\x7b'
  | _ =>
      none

/-- Whether a character opens a bracket pair. -/
def isOpener (c : Char) : Bool :=
  c == '(' || c == '[' || c == '\x7b'

/-- Whether the rest of a text closes the brackets that are still open. -/
def isBalancedFrom : List Char → Text → Bool
  | opened, [] =>
      opened.isEmpty
  | opened, c :: rest =>
      if isOpener c then
        isBalancedFrom (c :: opened) rest
      else
        match opener? c with
        | none =>
            isBalancedFrom opened rest
        | some expected =>
            match opened with
            | [] =>
                false
            | innermost :: others =>
                innermost == expected && isBalancedFrom others rest

/-- Whether every bracket of the text has its partner. -/
def isBalanced (text : Text) : Bool :=
  isBalancedFrom [] text

/--
How many characters precede the partner of an already opened bracket, counting
brackets of its own kind alone; `depth` of them are open besides.
-/
def partnerOffset?
    (opening closing : Char) : Nat → Text → Option Nat
  | _, [] =>
      none
  | depth, c :: rest =>
      if c = opening then
        (partnerOffset? opening closing (depth + 1) rest).map (· + 1)
      else if c = closing then
        match depth with
        | 0 =>
            some 0
        | outer + 1 =>
            (partnerOffset? opening closing outer rest).map (· + 1)
      else
        (partnerOffset? opening closing depth rest).map (· + 1)

/-- The position from `start` on of the partner of a bracket opened before. -/
def partnerAfter?
    (opening closing : Char)
    (code : Text)
    (start : Nat) : Option Nat :=
  (partnerOffset? opening closing 0 (code.drop start)).map (start + ·)

/-- The position before `finish` of the partner of a bracket closed there. -/
def partnerBefore?
    (opening closing : Char)
    (code : Text)
    (finish : Nat) : Option Nat :=
  (partnerOffset? closing opening 0 (code.take finish).reverse).map
    fun offset => finish - 1 - offset

/-- The closing bracket that a search stops at is a closing bracket. -/
theorem getElem?_of_partnerOffset?
    {opening closing : Char}
    {depth offset : Nat}
    {text : Text}
    (found : partnerOffset? opening closing depth text = some offset) :
    text[offset]? = some closing := by
  induction text generalizing depth offset with
  | nil =>
      simp [partnerOffset?] at found
  | cons c rest inductionHypothesis =>
      simp only [partnerOffset?] at found
      split at found
      · obtain ⟨inner, innerFound, rfl⟩ := Option.map_eq_some_iff.1 found
        simpa using inductionHypothesis innerFound
      · split at found
        · rename_i isClosing
          cases depth with
          | zero =>
              cases found
              simp [isClosing]
          | succ outer =>
              obtain ⟨inner, innerFound, rfl⟩ := Option.map_eq_some_iff.1 found
              simpa using inductionHypothesis innerFound
        · obtain ⟨inner, innerFound, rfl⟩ := Option.map_eq_some_iff.1 found
          simpa using inductionHypothesis innerFound

/-- So it lies inside the text that was searched. -/
theorem partnerOffset?_lt
    {opening closing : Char}
    {depth offset : Nat}
    {text : Text}
    (found : partnerOffset? opening closing depth text = some offset) :
    offset < text.length := by
  obtain ⟨inside, -⟩ := List.getElem?_eq_some_iff.1 (getElem?_of_partnerOffset? found)
  exact inside

/-- A partner found from `start` on lies between `start` and the end. -/
theorem partnerAfter?_bounds
    {opening closing : Char}
    {code : Text}
    {start position : Nat}
    (found : partnerAfter? opening closing code start = some position) :
    start ≤ position ∧ position < code.length := by
  obtain ⟨offset, offsetFound, rfl⟩ := Option.map_eq_some_iff.1 found
  have inside := partnerOffset?_lt offsetFound
  simp only [List.length_drop] at inside
  omega

/-- A partner found before `finish` lies before it. -/
theorem partnerBefore?_lt
    {opening closing : Char}
    {code : Text}
    {finish position : Nat}
    (found : partnerBefore? opening closing code finish = some position) :
    position < finish := by
  obtain ⟨offset, offsetFound, rfl⟩ := Option.map_eq_some_iff.1 found
  have inside := partnerOffset?_lt offsetFound
  simp only [List.length_reverse, List.length_take] at inside
  omega

/-- A partner found from `start` on is a closing bracket. -/
theorem getElem?_of_partnerAfter?
    {opening closing : Char}
    {code : Text}
    {start position : Nat}
    (found : partnerAfter? opening closing code start = some position) :
    code[position]? = some closing := by
  obtain ⟨offset, offsetFound, rfl⟩ := Option.map_eq_some_iff.1 found
  have present := getElem?_of_partnerOffset? offsetFound
  rwa [List.getElem?_drop] at present

/-- A partner found before `finish` is an opening bracket. -/
theorem getElem?_of_partnerBefore?
    {code : Text}
    {opening closing : Char}
    {finish position : Nat}
    (inside : finish ≤ code.length)
    (found : partnerBefore? opening closing code finish = some position) :
    code[position]? = some opening := by
  have earlier := partnerBefore?_lt found
  obtain ⟨offset, offsetFound, rfl⟩ := Option.map_eq_some_iff.1 found
  have present := getElem?_of_partnerOffset? offsetFound
  have short := partnerOffset?_lt offsetFound
  rw [List.length_reverse] at short
  have size : (code.take finish).length = finish :=
    List.length_take_of_le inside
  rw [List.getElem?_reverse short, size, List.getElem?_take] at present
  rwa [if_pos earlier] at present

end Source

end StackTape
