import StackTape.Source.Nesting

namespace StackTape

/-!
# Well-nested texts

The balance check keeps a row of open brackets, while the search for a partner counts
one kind of bracket alone.  Both are explained by the grammar of well-nested texts: a
text is empty, or starts with a character that is no bracket, or starts with a pair
around a well-nested text.  A search passes over a well-nested text as if it held
nothing but plain characters, in either direction.
-/

namespace Source

/-- An opening bracket and the closing bracket of its kind. -/
inductive Pair : Char → Char → Prop where
  | parentheses : Pair '(' ')'
  | squares : Pair '[' ']'
  | braces : Pair '\x7b' '\x7d'

/-- The grammar of well-nested texts. -/
inductive Nested : Text → Prop where
  | nil :
      Nested []
  | plain
      {c : Char}
      {rest : Text}
      (neutral : isBracket c = false)
      (tail : Nested rest) :
      Nested (c :: rest)
  | pair
      {opening closing : Char}
      {inside rest : Text}
      (kind : Pair opening closing)
      (inner : Nested inside)
      (tail : Nested rest) :
      Nested (opening :: (inside ++ closing :: rest))

namespace Pair

theorem isOpener_opening
    {opening closing : Char}
    (kind : Pair opening closing) :
    isOpener opening = true := by
  cases kind <;> rfl

theorem isOpener_closing
    {opening closing : Char}
    (kind : Pair opening closing) :
    isOpener closing = false := by
  cases kind <;> rfl

theorem opener?_closing
    {opening closing : Char}
    (kind : Pair opening closing) :
    opener? closing = some opening := by
  cases kind <;> rfl

theorem isBracket_opening
    {opening closing : Char}
    (kind : Pair opening closing) :
    isBracket opening = true := by
  cases kind <;> rfl

theorem isBracket_closing
    {opening closing : Char}
    (kind : Pair opening closing) :
    isBracket closing = true := by
  cases kind <;> rfl

/-- No bracket both opens and closes. -/
theorem opening_ne_closing
    {opening closing otherOpening otherClosing : Char}
    (kind : Pair opening closing)
    (other : Pair otherOpening otherClosing) :
    opening ≠ otherClosing := by
  cases kind <;> cases other <;> decide

/-- Two pairs agree on one side exactly when they agree on the other. -/
theorem opening_eq_iff
    {opening closing otherOpening otherClosing : Char}
    (kind : Pair opening closing)
    (other : Pair otherOpening otherClosing) :
    opening = otherOpening ↔ closing = otherClosing := by
  cases kind <;> cases other <;> decide

/-- A character that is no bracket is neither of a pair. -/
theorem ne_of_not_isBracket
    {opening closing c : Char}
    (kind : Pair opening closing)
    (neutral : isBracket c = false) :
    c ≠ opening ∧ c ≠ closing := by
  constructor
  · rintro rfl
    rw [kind.isBracket_opening] at neutral
    cases neutral
  · rintro rfl
    rw [kind.isBracket_closing] at neutral
    cases neutral

end Pair

/-- Every closing bracket belongs to a pair. -/
theorem pair_of_opener?
    {c expected : Char}
    (closes : opener? c = some expected) :
    Pair expected c := by
  unfold opener? at closes
  split at closes <;> cases closes
  · exact .parentheses
  · exact .squares
  · exact .braces

/-- What neither opens nor closes is no bracket. -/
theorem isBracket_eq_false
    {c : Char}
    (opensNot : isOpener c = false)
    (closesNot : opener? c = none) :
    isBracket c = false := by
  unfold opener? at closesNot
  split at closesNot <;> simp_all [isOpener, isBracket]

/-- A character that is no bracket does not open. -/
theorem isOpener_of_not_isBracket
    {c : Char}
    (neutral : isBracket c = false) :
    isOpener c = false := by
  simp_all [isOpener, isBracket]

/-- A character that is no bracket does not close. -/
theorem opener?_of_not_isBracket
    {c : Char}
    (neutral : isBracket c = false) :
    opener? c = none := by
  unfold opener?
  split <;> simp_all [isBracket]

/-- A text around the character at a position. -/
theorem eq_append_of_getElem?
    {text : Text}
    {position : Nat}
    {c : Char}
    (present : text[position]? = some c) :
    text = text.take position ++ c :: text.drop (position + 1) := by
  obtain ⟨inside, here⟩ := List.getElem?_eq_some_iff.1 present
  rw [← here, ← List.drop_eq_getElem_cons inside, List.take_append_drop]

/-! ## The balance check -/

/-- The check passes over a well-nested text. -/
theorem isBalancedFrom_append_of_nested
    {text : Text}
    (nested : Nested text)
    (opened : List Char)
    (rest : Text) :
    isBalancedFrom opened (text ++ rest) = isBalancedFrom opened rest := by
  induction nested generalizing opened rest with
  | nil =>
      rfl
  | plain neutral _ inductionHypothesis =>
      simp [isBalancedFrom, isOpener_of_not_isBracket neutral,
        opener?_of_not_isBracket neutral, inductionHypothesis]
  | pair kind _ _ insideHypothesis tailHypothesis =>
      simp [isBalancedFrom, kind.isOpener_opening, kind.isOpener_closing,
        kind.opener?_closing, insideHypothesis, tailHypothesis]

/-- A balanced rest can be cut at the bracket that closes a given open one. -/
theorem exists_closing_of_isBalancedFrom
    (inner : List Char)
    {outer : List Char}
    {opening : Char}
    {text : Text}
    (balanced : isBalancedFrom (inner ++ opening :: outer) text = true) :
    ∃ inside closing rest,
      text = inside ++ closing :: rest ∧
        Pair opening closing ∧
        isBalancedFrom inner inside = true ∧
        isBalancedFrom outer rest = true := by
  induction text generalizing inner with
  | nil =>
      simp [isBalancedFrom] at balanced
  | cons c text inductionHypothesis =>
      simp only [isBalancedFrom] at balanced
      split at balanced
      · rename_i opens
        obtain ⟨inside, closing, rest, rfl, kind, insideBalanced, restBalanced⟩ :=
          inductionHypothesis (c :: inner) balanced
        refine ⟨c :: inside, closing, rest, rfl, kind, ?_, restBalanced⟩
        simpa [isBalancedFrom, opens] using insideBalanced
      · rename_i opensNot
        split at balanced
        · rename_i closesNot
          obtain ⟨inside, closing, rest, rfl, kind, insideBalanced,
              restBalanced⟩ := inductionHypothesis inner balanced
          refine ⟨c :: inside, closing, rest, rfl, kind, ?_, restBalanced⟩
          simpa [isBalancedFrom, opensNot, closesNot] using insideBalanced
        · rename_i expected closes
          cases inner with
          | nil =>
              simp only [List.nil_append, Bool.and_eq_true, beq_iff_eq]
                at balanced
              obtain ⟨rfl, restBalanced⟩ := balanced
              exact ⟨[], c, text, rfl, pair_of_opener? closes, rfl,
                restBalanced⟩
          | cons innermost others =>
              simp only [List.cons_append, Bool.and_eq_true, beq_iff_eq]
                at balanced
              obtain ⟨rfl, othersBalanced⟩ := balanced
              obtain ⟨inside, closing, rest, rfl, kind, insideBalanced,
                  restBalanced⟩ := inductionHypothesis others othersBalanced
              refine ⟨c :: inside, closing, rest, rfl, kind, ?_, restBalanced⟩
              simpa [isBalancedFrom, opensNot, closes] using insideBalanced

/-- A text that passes the check is well nested. -/
theorem nested_of_isBalanced
    {text : Text}
    (balanced : isBalanced text = true) :
    Nested text := by
  -- on the length: what is inside the first pair and what follows it are shorter
  induction size : text.length using Nat.strongRecOn generalizing text with
  | ind size inductionHypothesis =>
      subst size
      cases text with
      | nil =>
          exact .nil
      | cons c rest =>
          simp only [isBalanced, isBalancedFrom] at balanced
          split at balanced
          · obtain ⟨inside, closing, after, rfl, kind, insideBalanced,
                afterBalanced⟩ :=
              exists_closing_of_isBalancedFrom [] balanced
            refine .pair kind ?_ ?_
            · exact inductionHypothesis inside.length
                (by simp only [List.length_cons, List.length_append]; omega)
                insideBalanced rfl
            · exact inductionHypothesis after.length
                (by simp only [List.length_cons, List.length_append]; omega)
                afterBalanced rfl
          · rename_i opensNot
            split at balanced
            · rename_i closesNot
              have neutral : isBracket c = false :=
                isBracket_eq_false (by simpa using opensNot) closesNot
              exact .plain neutral
                (inductionHypothesis rest.length (by simp) balanced rfl)
            · simp at balanced

/-- The check accepts exactly the well-nested texts. -/
theorem isBalanced_iff_nested
    {text : Text} :
    isBalanced text = true ↔ Nested text := by
  constructor
  · exact nested_of_isBalanced
  · intro nested
    simpa [isBalanced, isBalancedFrom] using
      isBalancedFrom_append_of_nested nested [] []

/-- Well-nested texts one after the other are well nested. -/
theorem Nested.append
    {first second : Text}
    (firstNested : Nested first)
    (secondNested : Nested second) :
    Nested (first ++ second) := by
  rw [← isBalanced_iff_nested] at secondNested ⊢
  rwa [isBalanced, isBalancedFrom_append_of_nested firstNested]

/-- A text without brackets is well nested. -/
theorem nested_of_plain
    {text : Text}
    (neutral : ∀ c ∈ text, isBracket c = false) :
    Nested text := by
  induction text with
  | nil =>
      exact .nil
  | cons c rest inductionHypothesis =>
      simp only [List.mem_cons, forall_eq_or_imp] at neutral
      exact .plain neutral.1 (inductionHypothesis neutral.2)

/-! ## Partners -/

/-- An opening bracket of a well-nested text is closed there. -/
theorem Nested.exists_closing
    {before rest : Text}
    {opening closing : Char}
    (nested : Nested (before ++ opening :: rest))
    (kind : Pair opening closing) :
    ∃ inside after,
      rest = inside ++ closing :: after ∧ Nested inside := by
  have balanced := isBalanced_iff_nested.2 nested
  suffices general :
      ∀ opened : List Char,
        isBalancedFrom opened (before ++ opening :: rest) = true →
        ∃ inside after,
          rest = inside ++ closing :: after ∧ Nested inside from
    general [] balanced
  clear balanced nested
  induction before with
  | nil =>
      intro opened balanced
      simp only [List.nil_append, isBalancedFrom, kind.isOpener_opening,
        if_true] at balanced
      obtain ⟨inside, other, after, rfl, otherKind, insideBalanced, _⟩ :=
        exists_closing_of_isBalancedFrom [] balanced
      have same : closing = other := (kind.opening_eq_iff otherKind).1 rfl
      subst same
      exact ⟨inside, after, rfl, nested_of_isBalanced insideBalanced⟩
  | cons c before inductionHypothesis =>
      intro opened balanced
      simp only [List.cons_append, isBalancedFrom] at balanced
      split at balanced
      · exact inductionHypothesis _ balanced
      · split at balanced
        · exact inductionHypothesis _ balanced
        · split at balanced
          · simp at balanced
          · simp only [Bool.and_eq_true] at balanced
            exact inductionHypothesis _ balanced.2

/-- A closing bracket of a well-nested text was opened there. -/
theorem Nested.exists_opening
    {text front after : Text}
    {opening closing : Char}
    (nested : Nested text)
    (shape : text = front ++ closing :: after)
    (kind : Pair opening closing) :
    ∃ before inside,
      front = before ++ opening :: inside ∧ Nested inside := by
  induction nested generalizing front after with
  | nil =>
      simp at shape
  | @plain c rest neutral _ inductionHypothesis =>
      cases front with
      | nil =>
          simp only [List.nil_append, List.cons.injEq] at shape
          rw [shape.1, kind.isBracket_closing] at neutral
          cases neutral
      | cons first front =>
          simp only [List.cons_append, List.cons.injEq] at shape
          obtain ⟨before, inside, rfl, insideNested⟩ :=
            inductionHypothesis shape.2
          exact ⟨first :: before, inside, rfl, insideNested⟩
  | @pair otherOpening otherClosing inner rest otherKind innerNested _
      innerHypothesis restHypothesis =>
      cases front with
      | nil =>
          simp only [List.nil_append, List.cons.injEq] at shape
          exact (otherKind.opening_ne_closing kind shape.1).elim
      | cons first front =>
          simp only [List.cons_append, List.cons.injEq] at shape
          rcases List.append_eq_append_iff.1 shape.2 with
            ⟨middle, frontShape, afterShape⟩ | ⟨middle, innerShape, afterShape⟩
          · -- the bracket is the pair's own or lies behind it
            cases middle with
            | nil =>
                simp only [List.nil_append, List.cons.injEq] at afterShape
                have same : otherOpening = opening :=
                  (otherKind.opening_eq_iff kind).2 afterShape.1
                refine ⟨[], inner, ?_, innerNested⟩
                simp_all
            | cons head middle =>
                simp only [List.cons_append, List.cons.injEq] at afterShape
                obtain ⟨before, inside, rfl, insideNested⟩ :=
                  restHypothesis afterShape.2
                refine
                  ⟨first :: (inner ++ head :: before), inside, ?_, insideNested⟩
                simp [frontShape]
          · -- the bracket lies inside the pair, or is the pair's own
            cases middle with
            | nil =>
                simp only [List.nil_append, List.cons.injEq] at afterShape
                have same : otherOpening = opening :=
                  (otherKind.opening_eq_iff kind).2 afterShape.1.symm
                refine ⟨[], inner, ?_, innerNested⟩
                simp_all
            | cons head middle =>
                simp only [List.cons_append, List.cons.injEq] at afterShape
                obtain ⟨before, inside, rfl, insideNested⟩ :=
                  innerHypothesis (afterShape.1 ▸ innerShape)
                exact ⟨first :: before, inside, rfl, insideNested⟩

/-- A search passes over a text, whatever is open before it and whatever follows. -/
def Passes (own partner : Char) (text : Text) : Prop :=
  ∀ depth rest,
    partnerOffset? own partner depth (text ++ rest) =
      (partnerOffset? own partner depth rest).map (· + text.length)

namespace Passes

variable {own partner : Char}

theorem nil :
    Passes own partner [] := by
  intro depth rest
  simp

theorem append
    {front back : Text}
    (first : Passes own partner front)
    (second : Passes own partner back) :
    Passes own partner (front ++ back) := by
  intro depth rest
  rw [List.append_assoc, first, second, Option.map_map]
  congr 1
  funext offset
  rw [Function.comp_apply, List.length_append, Nat.add_assoc,
    Nat.add_comm back.length]

theorem singleton
    {c : Char}
    (notOwn : c ≠ own)
    (notPartner : c ≠ partner) :
    Passes own partner [c] := by
  intro depth rest
  simp only [List.singleton_append, partnerOffset?, if_neg notOwn,
    if_neg notPartner, List.length_singleton]

/-- A pair of its own kind counts up and down again. -/
theorem own_pair
    {inside : Text}
    (different : partner ≠ own)
    (inner : Passes own partner inside) :
    Passes own partner (own :: (inside ++ [partner])) := by
  intro depth rest
  have shape :
      own :: (inside ++ [partner]) ++ rest =
        own :: (inside ++ partner :: rest) := by
    simp
  simp only [shape, partnerOffset?, if_true, inner (depth + 1),
    if_neg different, Option.map_map]
  congr 1
  funext offset
  simp only [Function.comp_apply, List.length_cons, List.length_append,
    List.length_nil]
  omega

/-- Two brackets that are a pair of its own kind or have nothing to do with it. -/
theorem pair
    {first last : Char}
    {inside : Text}
    (agree : first = own ↔ last = partner)
    (firstApart : first ≠ partner)
    (lastApart : last ≠ own)
    (inner : Passes own partner inside) :
    Passes own partner (first :: (inside ++ [last])) := by
  by_cases same : first = own
  · have sameLast := agree.1 same
    subst same sameLast
    exact own_pair lastApart inner
  · have apart : last ≠ partner := fun sameLast => same (agree.2 sameLast)
    exact (singleton same firstApart).append
      (inner.append (singleton lastApart apart))

end Passes

/-- The forward search passes over a well-nested text. -/
theorem Nested.passes
    {opening closing : Char}
    {text : Text}
    (nested : Nested text)
    (kind : Pair opening closing) :
    Passes opening closing text := by
  induction nested with
  | nil =>
      exact .nil
  | @plain c rest neutral _ restPasses =>
      obtain ⟨notOpening, notClosing⟩ := kind.ne_of_not_isBracket neutral
      exact (Passes.singleton notOpening notClosing).append restPasses
  | @pair first last inside rest otherKind _ _ insidePasses restPasses =>
      have pairPasses : Passes opening closing (first :: (inside ++ [last])) :=
        .pair (otherKind.opening_eq_iff kind)
          (otherKind.opening_ne_closing kind)
          (kind.opening_ne_closing otherKind).symm insidePasses
      simpa using pairPasses.append restPasses

/-- So does the backward search, for which the roles of the brackets are exchanged. -/
theorem Nested.passes_reverse
    {opening closing : Char}
    {text : Text}
    (nested : Nested text)
    (kind : Pair opening closing) :
    Passes closing opening text.reverse := by
  induction nested with
  | nil =>
      exact .nil
  | @plain c rest neutral _ restPasses =>
      obtain ⟨notOpening, notClosing⟩ := kind.ne_of_not_isBracket neutral
      rw [List.reverse_cons]
      exact restPasses.append (.singleton notClosing notOpening)
  | @pair first last inside rest otherKind _ _ insidePasses restPasses =>
      have pairPasses :
          Passes closing opening (last :: (inside.reverse ++ [first])) :=
        .pair (otherKind.opening_eq_iff kind).symm
          (kind.opening_ne_closing otherKind).symm
          (otherKind.opening_ne_closing kind) insidePasses
      simpa using restPasses.append pairPasses

/-- The partner behind an opening bracket stands behind the well-nested text. -/
theorem partnerAfter?_of_nested
    {opening closing : Char}
    (kind : Pair opening closing)
    {inside : Text}
    (nested : Nested inside)
    (before after : Text) :
    partnerAfter? opening closing (before ++ inside ++ closing :: after)
        before.length =
      some (before.length + inside.length) := by
  have different : closing ≠ opening := (kind.opening_ne_closing kind).symm
  simp [partnerAfter?, nested.passes kind 0 (closing :: after),
    partnerOffset?, different]

/-- Without a closing bracket behind it a well-nested rest has no partner. -/
theorem partnerAfter?_eq_none_of_nested
    {opening closing : Char}
    (kind : Pair opening closing)
    {inside : Text}
    (nested : Nested inside)
    (before : Text) :
    partnerAfter? opening closing (before ++ inside) before.length = none := by
  have passed := nested.passes kind 0 []
  simp only [List.append_nil, partnerOffset?, Option.map_none] at passed
  simp [partnerAfter?, passed]

/-- The partner before a closing bracket stands before the well-nested text. -/
theorem partnerBefore?_of_nested
    {opening closing : Char}
    (kind : Pair opening closing)
    {inside : Text}
    (nested : Nested inside)
    (before after : Text) :
    partnerBefore? opening closing (before ++ opening :: (inside ++ after))
        (before.length + 1 + inside.length) =
      some before.length := by
  have different : opening ≠ closing := kind.opening_ne_closing kind
  have front :
      (before ++ opening :: (inside ++ after)).take
          (before.length + 1 + inside.length) =
        before ++ opening :: inside := by
    have shape :
        before ++ opening :: (inside ++ after) =
          (before ++ opening :: inside) ++ after := by
      simp
    rw [shape]
    exact List.take_left' (by simp; omega)
  rw [partnerBefore?, front]
  have passed := nested.passes_reverse kind 0 (opening :: before.reverse)
  simp only [List.reverse_append, List.reverse_cons, List.append_assoc,
    List.singleton_append, passed, partnerOffset?, if_neg different, if_true,
    Option.map_some, List.length_reverse]
  congr 1
  omega

/-- The closing bracket behind a well-nested text is found in one way. -/
theorem Nested.closing_unique
    {first second firstRest secondRest : Text}
    {opening closing : Char}
    (kind : Pair opening closing)
    (firstNested : Nested first)
    (secondNested : Nested second)
    (same : first ++ closing :: firstRest = second ++ closing :: secondRest) :
    first = second ∧ firstRest = secondRest := by
  have different : closing ≠ opening := (kind.opening_ne_closing kind).symm
  have lengths : first.length = second.length := by
    have found := firstNested.passes kind 0 (closing :: firstRest)
    rw [same, secondNested.passes kind] at found
    simpa [partnerOffset?, different] using found.symm
  obtain ⟨sameText, sameTail⟩ := List.append_inj same lengths
  exact ⟨sameText, List.tail_eq_of_cons_eq sameTail⟩

end Source

end StackTape
