import StackTape.Proofs.Nesting

namespace StackTape

/-!
# The brackets of a balanced text

The balance check looks at the brackets of a text alone.  It accepts the text exactly
when they are a word of the grammar `S → ε | ( S ) S | [ S ] S | { S } S`, whatever
stands between them.  A word of the grammar has an even number of brackets, so a single
bracket more, anywhere, makes a balanced text unbalanced.
-/

namespace Source

/--
The words that the grammar `S → ε | ( S ) S | [ S ] S | { S } S` derives; the second
rule is one for each kind of bracket.
-/
inductive Derived : Text → Prop where
  | empty :
      Derived []
  | pair
      {opening closing : Char}
      {inside rest : Text}
      (kind : Pair opening closing)
      (inner : Derived inside)
      (tail : Derived rest) :
      Derived (opening :: (inside ++ closing :: rest))

/-- The brackets of a text, in their order. -/
def brackets (text : Text) : Text :=
  text.filter isBracket

theorem brackets_append
    (first second : Text) :
    brackets (first ++ second) = brackets first ++ brackets second :=
  List.filter_append first second

theorem brackets_cons_of_isBracket
    {c : Char}
    (bracket : isBracket c = true)
    (rest : Text) :
    brackets (c :: rest) = c :: brackets rest :=
  List.filter_cons_of_pos bracket

theorem brackets_cons_of_not_isBracket
    {c : Char}
    (neutral : isBracket c = false)
    (rest : Text) :
    brackets (c :: rest) = brackets rest :=
  List.filter_cons_of_neg (by simp [neutral])

/-- Whatever stands between the brackets makes no difference to the check. -/
theorem isBalancedFrom_brackets
    (opened : List Char)
    (text : Text) :
    isBalancedFrom opened (brackets text) = isBalancedFrom opened text := by
  induction text generalizing opened with
  | nil =>
      rfl
  | cons c rest inductionHypothesis =>
      cases bracket : isBracket c with
      | true =>
          rw [brackets_cons_of_isBracket bracket]
          simp only [isBalancedFrom, inductionHypothesis]
      | false =>
          rw [brackets_cons_of_not_isBracket bracket, inductionHypothesis]
          simp [isBalancedFrom, isOpener_of_not_isBracket bracket,
            opener?_of_not_isBracket bracket]

/-- A word of the grammar is a well-nested text. -/
theorem Derived.nested
    {word : Text}
    (derived : Derived word) :
    Nested word := by
  induction derived with
  | empty =>
      exact .nil
  | pair kind _ _ insideNested restNested =>
      exact .pair kind insideNested restNested

/-- The brackets of a well-nested text are a word of the grammar. -/
theorem Nested.derived
    {text : Text}
    (nested : Nested text) :
    Derived (brackets text) := by
  induction nested with
  | nil =>
      exact .empty
  | plain neutral _ restDerived =>
      rwa [brackets_cons_of_not_isBracket neutral]
  | pair kind _ _ insideDerived restDerived =>
      rw [brackets_cons_of_isBracket kind.isBracket_opening, brackets_append,
        brackets_cons_of_isBracket kind.isBracket_closing]
      exact .pair kind insideDerived restDerived

/-- Every rule of the grammar adds its brackets in pairs. -/
theorem Derived.length_mod_two
    {word : Text}
    (derived : Derived word) :
    word.length % 2 = 0 := by
  induction derived with
  | empty =>
      rfl
  | pair kind _ _ insideEven restEven =>
      simp only [List.length_cons, List.length_append]
      omega

/--
A text is balanced exactly when its brackets are a word of the grammar.  A balanced text
does not bear a single bracket more, at any position, but it can be followed by another
balanced text and put between brackets of either kind.
-/
theorem isBalanced_iff_derived
    (text : Text) :
    (isBalanced text = true ↔ Derived (brackets text)) ∧
      (isBalanced text = true →
        (∀ before behind bracket,
            text = before ++ behind →
            isBracket bracket = true →
            isBalanced (before ++ bracket :: behind) = false) ∧
          (∀ other,
            isBalanced other = true →
            isBalanced (text ++ other) = true) ∧
          ∀ opening closing,
            Pair opening closing →
            isBalanced (opening :: (text ++ [closing])) = true) := by
  have derivable (any : Text) :
      isBalanced any = true ↔ Derived (brackets any) := by
    constructor
    · intro balanced
      exact (nested_of_isBalanced balanced).derived
    · intro derived
      have checked := isBalanced_iff_nested.2 derived.nested
      rwa [isBalanced, isBalancedFrom_brackets] at checked
  refine ⟨derivable text, fun balanced => ⟨?_, ?_, ?_⟩⟩
  · rintro before behind bracket rfl isBracket
    refine Bool.eq_false_iff.2 fun stillBalanced => ?_
    have even := ((derivable _).1 balanced).length_mod_two
    have odd := ((derivable _).1 stillBalanced).length_mod_two
    rw [brackets_append, List.length_append] at even
    rw [brackets_append, brackets_cons_of_isBracket isBracket,
      List.length_append, List.length_cons] at odd
    omega
  · intro other otherBalanced
    exact isBalanced_iff_nested.2
      ((nested_of_isBalanced balanced).append
        (nested_of_isBalanced otherBalanced))
  · intro opening closing kind
    exact isBalanced_iff_nested.2
      (.pair kind (nested_of_isBalanced balanced) .nil)

/-- Brackets of all kinds with characters between them, and one brace more. -/
theorem isBalanced_iff_derived_amid_names :
    let text : Text := "a\x7b1[2(3)]\x7db".toList
    isBalanced text = true ∧
      Derived ['\x7b', '[', '(', ')', ']', '\x7d'] ∧
      isBalanced "a\x7b1[2(3\x7d)]\x7db".toList = false ∧
      isBalanced ("(".toList ++ text ++ ")".toList) = true := by
  intro text
  have balanced : isBalanced text = true := by
    decide
  obtain ⟨derivable, closed⟩ := isBalanced_iff_derived text
  obtain ⟨injected, -, wrapped⟩ := closed balanced
  have between : text = "a\x7b1[2(3".toList ++ ")]\x7db".toList := by
    decide
  exact ⟨balanced, derivable.1 balanced, injected _ _ '\x7d' between rfl,
    wrapped _ _ .parentheses⟩

end Source

end StackTape
