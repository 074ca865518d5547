import Mathlib.Logic.Equiv.Defs
import Mathlib.Tactic.Choose
import StackTape.Proofs.Closings

namespace StackTape

/-!
# Partners

The balance check keeps the open brackets of all kinds and pops one at each closing
bracket; an invocation looks for the partner of one bracket and counts its kind alone,
forward or backward.  In a balanced text all of them take the same brackets for partners,
and each search is the inverse of the other.
-/

namespace Source

/--
The positions of the brackets that the balance check takes for partners, given the
brackets that are still open, innermost first, with their positions, and the position at
which the rest of the text starts; none if the check fails.
-/
def pairsFrom? : List (Char × Nat) → Nat → Text → Option (List (Nat × Nat))
  | opened, _, [] =>
      if opened.isEmpty then some [] else none
  | opened, position, c :: rest =>
      if isOpener c then
        pairsFrom? ((c, position) :: opened) (position + 1) rest
      else
        match opener? c with
        | none =>
            pairsFrom? opened (position + 1) rest
        | some expected =>
            match opened with
            | [] =>
                none
            | (innermost, place) :: others =>
                if innermost = expected then
                  (pairsFrom? others (position + 1) rest).map
                    ((place, position) :: ·)
                else
                  none

/-- The positions of the brackets that the balance check of a text takes for partners. -/
def pairs? (text : Text) : Option (List (Nat × Nat)) :=
  pairsFrom? [] 0 text

/-- Keeping the positions makes no difference to the check. -/
theorem isSome_pairsFrom?
    (opened : List (Char × Nat))
    (position : Nat)
    (text : Text) :
    (pairsFrom? opened position text).isSome =
      isBalancedFrom (opened.map Prod.fst) text := by
  induction text generalizing opened position with
  | nil =>
      cases opened <;> rfl
  | cons c rest inductionHypothesis =>
      simp only [pairsFrom?, isBalancedFrom]
      by_cases opens : isOpener c = true
      · rw [if_pos opens, if_pos opens]
        exact inductionHypothesis ((c, position) :: opened) (position + 1)
      · rw [if_neg opens, if_neg opens]
        cases opener? c with
        | none =>
            exact inductionHypothesis opened (position + 1)
        | some expected =>
            cases opened with
            | nil =>
                rfl
            | cons innermost others =>
                by_cases same : innermost.1 = expected
                · simp [same, inductionHypothesis]
                · simp [same]

/-- A balanced text has its pairs. -/
theorem exists_pairs?
    {text : Text}
    (balanced : isBalanced text = true) :
    ∃ pairs, pairs? text = some pairs := by
  rw [← Option.isSome_iff_exists, pairs?, isSome_pairsFrom?]
  exact balanced

/-! ## The brackets that the check pairs are partners -/

/-- The text up to a position, with its open brackets and where they stand. -/
inductive Opened : List (Char × Nat) → Text → Prop where
  | nested
      {text : Text}
      (nested : Nested text) :
      Opened [] text
  | opener
      {opened : List (Char × Nat)}
      {front gap : Text}
      {c : Char}
      (before : Opened opened front)
      (nested : Nested gap) :
      Opened ((c, front.length) :: opened) (front ++ c :: gap)

/-- A well-nested text leaves the same brackets open. -/
theorem Opened.append
    {opened : List (Char × Nat)}
    {front gap : Text}
    (before : Opened opened front)
    (nested : Nested gap) :
    Opened opened (front ++ gap) := by
  cases before with
  | nested frontNested =>
      exact .nested (frontNested.append nested)
  | opener outside gapNested =>
      rw [List.append_assoc]
      exact .opener outside (gapNested.append nested)

/-- Two brackets of a text that every search takes for partners. -/
structure ArePartners
    (text : Text)
    (opening closing : Char)
    (p q : Nat) : Prop where
  kind : Pair opening closing
  opens : text[p]? = some opening
  closes : text[q]? = some closing
  ordered : p < q
  forward : partnerAfter? opening closing text (p + 1) = some q
  backward : partnerBefore? opening closing text q = some p
  between : isBalanced ((text.take q).drop (p + 1)) = true

/-- Brackets around a well-nested text are partners. -/
theorem arePartners_of_nested
    {opening closing : Char}
    (kind : Pair opening closing)
    {inside : Text}
    (nested : Nested inside)
    (before after : Text) :
    ArePartners (before ++ opening :: (inside ++ closing :: after))
      opening closing before.length (before.length + 1 + inside.length) := by
  have shape :
      before ++ opening :: (inside ++ closing :: after) =
        (before ++ [opening] ++ inside) ++ closing :: after := by
    simp
  have place :
      before.length + 1 + inside.length =
        (before ++ [opening] ++ inside).length := by
    simp only [List.length_append, List.length_singleton]
  constructor
  case kind =>
    exact kind
  case opens =>
    simp
  case closes =>
    rw [shape, place]
    simp
  case ordered =>
    omega
  case forward =>
    simpa using
      partnerAfter?_of_nested kind nested (before ++ [opening]) after
  case backward =>
    exact partnerBefore?_of_nested kind nested before (closing :: after)
  case between =>
    have front :
        (before ++ [opening] ++ inside).drop (before.length + 1) = inside :=
      List.drop_left' (by simp)
    rw [shape, place, List.take_left, front]
    exact isBalanced_iff_nested.2 nested

/-- Whatever the check pops, it pops for a partner. -/
theorem arePartners_of_mem_pairsFrom?
    {opened : List (Char × Nat)}
    {front rest : Text}
    {pairs : List (Nat × Nat)}
    (before : Opened opened front)
    (found : pairsFrom? opened front.length rest = some pairs)
    {p q : Nat}
    (member : (p, q) ∈ pairs) :
    ∃ opening closing, ArePartners (front ++ rest) opening closing p q := by
  induction rest generalizing opened front pairs with
  | nil =>
      simp only [pairsFrom?, Option.ite_none_right_eq_some,
        Option.some.injEq] at found
      obtain ⟨-, rfl⟩ := found
      cases member
  | cons c rest inductionHypothesis =>
      have shape : front ++ c :: rest = (front ++ [c]) ++ rest := by
        simp
      have onward : front.length + 1 = (front ++ [c]).length := by
        simp
      rw [shape]
      simp only [pairsFrom?, onward] at found
      split at found
      · rename_i opens
        exact inductionHypothesis (.opener before .nil) found member
      · rename_i opensNot
        split at found
        · rename_i closesNot
          have neutral := isBracket_eq_false (by simpa using opensNot) closesNot
          exact inductionHypothesis (before.append (.plain neutral .nil)) found
            member
        · rename_i expected closes
          cases before with
          | nested =>
              cases found
          | @opener others outside gap innermost outsideOpened gapNested =>
              simp only [Option.ite_none_right_eq_some] at found
              obtain ⟨same, found⟩ := found
              obtain ⟨later, laterFound, rfl⟩ := Option.map_eq_some_iff.1 found
              have kind : Pair innermost c := same ▸ pair_of_opener? closes
              rcases List.mem_cons.1 member with here | inLater
              · cases here
                have partners :=
                  arePartners_of_nested kind gapNested outside rest
                refine ⟨innermost, c, ?_⟩
                simpa [Nat.add_assoc, Nat.add_comm 1] using partners
              · have closed : Nested (innermost :: (gap ++ [c])) :=
                  .pair kind gapNested .nil
                have still := outsideOpened.append closed
                refine inductionHypothesis ?_ laterFound inLater
                simpa using still

/-- It pops every bracket that is open or is still to be opened. -/
theorem exists_mem_pairsFrom?
    {opened : List (Char × Nat)}
    {position : Nat}
    {text : Text}
    {pairs : List (Nat × Nat)}
    (found : pairsFrom? opened position text = some pairs) :
    (∀ entry ∈ opened, ∃ q, (entry.2, q) ∈ pairs) ∧
      ∀ offset c,
        text[offset]? = some c →
        isOpener c = true →
        ∃ q, (position + offset, q) ∈ pairs := by
  induction text generalizing opened position pairs with
  | nil =>
      simp only [pairsFrom?, Option.ite_none_right_eq_some,
        List.isEmpty_iff] at found
      obtain ⟨rfl, -⟩ := found
      exact ⟨nofun, nofun⟩
  | cons c rest inductionHypothesis =>
      -- a later bracket is found by the same search, one character further on
      have further
          {later : List (Nat × Nat)}
          (included : ∀ pair ∈ later, pair ∈ pairs)
          (laterFound :
            ∀ offset d,
              rest[offset]? = some d →
              isOpener d = true →
              ∃ q, (position + 1 + offset, q) ∈ later)
          (first : isOpener c = true → ∃ q, (position, q) ∈ pairs) :
          ∀ offset d,
            (c :: rest)[offset]? = some d →
            isOpener d = true →
            ∃ q, (position + offset, q) ∈ pairs := by
        intro offset d present opens
        cases offset with
        | zero =>
            cases present
            exact first opens
        | succ offset =>
            obtain ⟨q, member⟩ := laterFound offset d present opens
            exact ⟨q, included _ (by rwa [Nat.add_right_comm] at member)⟩
      simp only [pairsFrom?] at found
      split at found
      · obtain ⟨popped, laterPopped⟩ := inductionHypothesis found
        simp only [List.mem_cons, forall_eq_or_imp] at popped
        exact ⟨popped.2, further (fun _ => id) laterPopped fun _ => popped.1⟩
      · rename_i opensNot
        split at found
        · obtain ⟨popped, laterPopped⟩ := inductionHypothesis found
          exact ⟨popped, further (fun _ => id) laterPopped fun opens =>
            (opensNot opens).elim⟩
        · split at found
          · cases found
          · simp only [Option.ite_none_right_eq_some] at found
            obtain ⟨later, laterFound, rfl⟩ := Option.map_eq_some_iff.1 found.2
            obtain ⟨popped, laterPopped⟩ := inductionHypothesis laterFound
            refine ⟨?_, further (fun _ => List.mem_cons_of_mem _) laterPopped
              fun opens => (opensNot opens).elim⟩
            intro entry member
            rcases List.mem_cons.1 member with rfl | inOthers
            · exact ⟨position, List.mem_cons_self⟩
            · obtain ⟨q, inLater⟩ := popped entry inOthers
              exact ⟨q, List.mem_cons_of_mem _ inLater⟩

section

variable {text : Text}
variable {pairs : List (Nat × Nat)}
variable {opening closing : Char}

/-- What the check pairs in a text are partners. -/
theorem arePartners_of_mem_pairs?
    (found : pairs? text = some pairs)
    {p q : Nat}
    (member : (p, q) ∈ pairs) :
    ∃ opening closing, ArePartners text opening closing p q :=
  arePartners_of_mem_pairsFrom? (.nested .nil) found member

/-- The check pairs every opening bracket. -/
theorem exists_partner_of_opening
    (found : pairs? text = some pairs)
    (kind : Pair opening closing)
    {p : Nat}
    (opens : text[p]? = some opening) :
    ∃ q, (p, q) ∈ pairs ∧ ArePartners text opening closing p q := by
  obtain ⟨q, member⟩ :=
    (exists_mem_pairsFrom? found).2 p opening opens kind.isOpener_opening
  rw [Nat.zero_add] at member
  obtain ⟨first, last, partners⟩ := arePartners_of_mem_pairs? found member
  have same : first = opening := Option.some.inj (partners.opens.symm.trans opens)
  have sameLast : last = closing := (partners.kind.opening_eq_iff kind).1 same
  subst same sameLast
  exact ⟨q, member, partners⟩

/-- The check pairs every closing bracket. -/
theorem exists_partner_of_closing
    (balanced : isBalanced text = true)
    (found : pairs? text = some pairs)
    (kind : Pair opening closing)
    {q : Nat}
    (closes : text[q]? = some closing) :
    ∃ p, (p, q) ∈ pairs ∧ ArePartners text opening closing p q := by
  have shape := eq_append_of_getElem? closes
  obtain ⟨before, content, front, nested⟩ :=
    (isBalanced_iff_nested.1 balanced).exists_opening shape kind
  have place : q = before.length + 1 + content.length := by
    have inside : q < text.length := (List.getElem?_eq_some_iff.1 closes).1
    have lengths := congrArg List.length front
    simp only [List.length_take, List.length_append, List.length_cons] at lengths
    omega
  have partners :
      ArePartners text opening closing before.length q := by
    have around := arePartners_of_nested kind nested before (text.drop (q + 1))
    rw [front] at shape
    rwa [← place, ← List.cons_append, ← List.append_assoc, ← shape] at around
  obtain ⟨other, member, otherPartners⟩ :=
    exists_partner_of_opening found kind partners.opens
  have same : other = q :=
    Option.some.inj (otherPartners.forward.symm.trans partners.forward)
  subst same
  exact ⟨before.length, member, partners⟩

/--
Searching forward takes the opening brackets of a kind to the closing ones, one to one,
searching backward takes them back, and the check pairs the same.
-/
theorem exists_equiv_of_balanced
    (balanced : isBalanced text = true)
    (found : pairs? text = some pairs)
    (kind : Pair opening closing) :
    ∃ partner :
        { p // text[p]? = some opening } ≃ { q // text[q]? = some closing },
      (∀ p, (p.1, (partner p).1) ∈ pairs) ∧
        (∀ p,
          partnerAfter? opening closing text (p.1 + 1) =
            some (partner p).1) ∧
        ∀ q,
          partnerBefore? opening closing text q.1 =
            some (partner.symm q).1 := by
  have onward (p : { p // text[p]? = some opening }) :
      ∃ q : { q // text[q]? = some closing },
        (p.1, q.1) ∈ pairs ∧ ArePartners text opening closing p.1 q.1 := by
    obtain ⟨q, member, partners⟩ := exists_partner_of_opening found kind p.2
    exact ⟨⟨q, partners.closes⟩, member, partners⟩
  have back (q : { q // text[q]? = some closing }) :
      ∃ p : { p // text[p]? = some opening },
        ArePartners text opening closing p.1 q.1 := by
    obtain ⟨p, -, partners⟩ :=
      exists_partner_of_closing balanced found kind q.2
    exact ⟨⟨p, partners.opens⟩, partners⟩
  choose closer members closers using onward
  choose opener openers using back
  refine ⟨⟨closer, opener, fun p => ?_, fun q => ?_⟩, members,
    fun p => (closers p).forward, fun q => (openers q).backward⟩
  · exact Subtype.ext
      (Option.some.inj
        ((openers (closer p)).backward.symm.trans (closers p).backward))
  · exact Subtype.ext
      (Option.some.inj
        ((closers (opener q)).forward.symm.trans (openers q).forward))

end

end Source

namespace Invocation

/-! ## What an invocation does at partners -/

/-- Where an invocation goes from a bracket whose partner it looks for. -/
structure GoesBetween
    (invocation : Invocation)
    (opening closing : Char)
    (p q : Nat) : Prop where
  /-- A number literal stops one short, so that the next step is at its closing bracket. -/
  number :
    opening = '(' →
    invocation.cursor = p →
    invocation.pushNumber.cursor = q - 1 ∧
      (invocation.halt = none →
        invocation.dispatched? = some .number →
        ∀ limit runBody,
          ∃ after,
            stepWith limit runBody invocation = .done after ∧ after.cursor = q)
  /-- A loop that is repeated goes back to its opening bracket. -/
  loopEnd :
    closing = ']' →
    invocation.cursor = q →
    invocation.isTopTrue = true →
    invocation.repeatLoop = invocation.withCursor p

/-- Where partners are, the invocation goes from one to the other. -/
theorem goesBetween_of_arePartners
    {invocation : Invocation}
    {opening closing : Char}
    {p q : Nat}
    (partners : Source.ArePartners invocation.code opening closing p q) :
    invocation.GoesBetween opening closing p q where
  number := by
    rintro rfl rfl
    have closes : closing = ')' :=
      (partners.kind.opening_eq_iff .parentheses).1 rfl
    subst closes
    have found : invocation.partner? '(' ')' = some q := partners.forward
    constructor
    · rw [pushNumber, found]
      rfl
    · intro running dispatched limit runBody
      have jumps : Jumps invocation q '(' ')' _ := .number dispatched
      exact ⟨_, jumps.stepWith_eq running found limit runBody, rfl⟩
  loopEnd := by
    rintro rfl rfl repeated
    have opens : opening = '[' := (partners.kind.opening_eq_iff .squares).2 rfl
    subst opens
    rw [repeatLoop, if_pos repeated, partners.backward]

/--
In a balanced text every search for a partner finds the bracket that the check pairs with
the one at hand.  The brackets that the check pairs are partners for the search forward
and the search backward, have a balanced text between them, and lead an invocation from
one to the other.  For each kind of bracket the two searches are inverse to each other
and take all opening brackets to all closing ones.
-/
theorem searches_find_checked_partners
    {text : Text}
    (balanced : Source.isBalanced text = true) :
    ∃ pairs,
      Source.pairs? text = some pairs ∧
        (∀ p q,
          (p, q) ∈ pairs →
          ∃ opening closing,
            Source.ArePartners text opening closing p q ∧
              ∀ invocation : Invocation,
                invocation.code = text →
                invocation.GoesBetween opening closing p q) ∧
        ∀ opening closing,
          Source.Pair opening closing →
          ∃ partner :
              { p // text[p]? = some opening } ≃
                { q // text[q]? = some closing },
            (∀ p, (p.1, (partner p).1) ∈ pairs) ∧
              (∀ p,
                Source.partnerAfter? opening closing text (p.1 + 1) =
                  some (partner p).1) ∧
              ∀ q,
                Source.partnerBefore? opening closing text q.1 =
                  some (partner.symm q).1 := by
  obtain ⟨pairs, found⟩ := Source.exists_pairs? balanced
  refine ⟨pairs, found, ?_, ?_⟩
  · intro p q member
    obtain ⟨opening, closing, partners⟩ :=
      Source.arePartners_of_mem_pairs? found member
    refine ⟨opening, closing, partners, ?_⟩
    rintro invocation rfl
    exact goesBetween_of_arePartners partners
  · intro opening closing kind
    exact Source.exists_equiv_of_balanced balanced found kind

/-- A loop around a number literal and a definition. -/
theorem searches_find_checked_partners_around_kinds :
    let text : Text := ['[', '(', '1', ')', 'a', '\x7b', '\x7d', ']']
    Source.isBalanced text = true ∧
      Source.pairs? text = some [(1, 3), (5, 6), (0, 7)] ∧
      Source.ArePartners text '[' ']' 0 7 ∧
      ∀ invocation : Invocation,
        invocation.code = text →
        invocation.GoesBetween '[' ']' 0 7 := by
  intro text
  have balanced : Source.isBalanced text = true := by
    decide
  have checked : Source.pairs? text = some [(1, 3), (5, 6), (0, 7)] := by
    decide
  obtain ⟨pairs, found, partnered, -⟩ := searches_find_checked_partners balanced
  obtain rfl : pairs = [(1, 3), (5, 6), (0, 7)] :=
    Option.some.inj (found.symm.trans checked)
  obtain ⟨opening, closing, partners, goes⟩ := partnered 0 7 (by decide)
  obtain rfl : '[' = opening := Option.some.inj partners.opens
  obtain rfl : ']' = closing := Option.some.inj partners.closes
  exact ⟨balanced, checked, partners, goes⟩

end Invocation

end StackTape
