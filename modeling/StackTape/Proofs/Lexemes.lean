import Mathlib.Data.List.Forall2
import StackTape.Proofs.Literals

namespace StackTape

/-!
# Lexemes

A source text falls into lexemes: strings, characters behind an apostrophe, comments, and
the single characters of the program proper.  Preparation, which knows no lexemes and
reads one character after the other, keeps every character that is outside comments, in
order, and conceals exactly the brackets that are inside literals.
-/

namespace Source

/-- A piece of a source text. -/
inductive Lexeme where
  /-- A character of the program proper. -/
  | plain (c : Char)
  /-- What stands behind an opening quote, and whether a closing quote ends it. -/
  | string (content : Text) (isClosed : Bool)
  /-- The character behind an apostrophe. -/
  | character (c : Char)
  /-- What stands behind a number sign, up to the end of its line. -/
  | comment (content : Text)
  deriving DecidableEq, Repr

/-- The part of a source text that a character belongs to. -/
inductive Part where
  | program
  | literal
  | comment
  deriving DecidableEq, Repr

/--
Cut a text at the next quote that no backslash directly precedes, given the character
before the text; there is nothing behind the cut when no such quote comes.
-/
def cutAtQuote : Char → Text → Text × Option Text
  | _, [] =>
      ([], none)
  | before, c :: rest =>
      if c = '"' ∧ before ≠ '\\' then
        ([], some rest)
      else
        (c :: (cutAtQuote c rest).1, (cutAtQuote c rest).2)

/-- What is cut off and what is left, with the quote between, are the text. -/
theorem cutAtQuote_append
    (before : Char)
    (text : Text) :
    (cutAtQuote before text).1 ++
        ((cutAtQuote before text).2.map ('"' :: ·)).getD [] =
      text := by
  induction text generalizing before with
  | nil =>
      rfl
  | cons c rest inductionHypothesis =>
      by_cases closing : c = '"' ∧ before ≠ '\\'
      · simp [cutAtQuote, closing]
      · simp [cutAtQuote, closing, inductionHypothesis]

/-- The lexemes of a source text, read from left to right. -/
def lexemes : Text → List Lexeme
  | [] =>
      []
  | '"' :: rest =>
      match _cut : cutAtQuote '"' rest with
      | (content, none) =>
          [.string content false]
      | (content, some after) =>
          .string content true :: lexemes after
  | '\'' :: c :: rest =>
      .character c :: lexemes rest
  | '#' :: rest =>
      .comment (rest.takeWhile (· != '\n')) ::
        lexemes (rest.dropWhile (· != '\n'))
  | c :: rest =>
      .plain c :: lexemes rest
termination_by text => text.length
decreasing_by
  · have whole := congrArg List.length (cutAtQuote_append '"' rest)
    simp only [_cut, Option.map_some, Option.getD_some, List.length_append,
      List.length_cons] at whole
    simp only [List.length_cons]
    omega
  · simp only [List.length_cons]
    omega
  · have shorter := (List.dropWhile_suffix (l := rest) (· != '\n')).length_le
    simp only [List.length_cons]
    omega
  · simp

namespace Lexeme

/-- The characters of a lexeme. -/
def text : Lexeme → Text
  | .plain c =>
      [c]
  | .string content isClosed =>
      '"' :: (content ++ if isClosed then ['"'] else [])
  | .character c =>
      ['\'', c]
  | .comment content =>
      '#' :: content

/-- The part that its characters belong to. -/
def part : Lexeme → Part
  | .plain _ =>
      .program
  | .string _ _ | .character _ =>
      .literal
  | .comment _ =>
      .comment

/-- The characters of a lexeme, each with its part. -/
def characters (lexeme : Lexeme) : List (Char × Part) :=
  lexeme.text.map (·, lexeme.part)

/-- What preparation makes of a lexeme, unless it is a comment. -/
def prepared (lexeme : Lexeme) : Text :=
  if lexeme.part = .literal then lexeme.text.map conceal else lexeme.text

end Lexeme

/-- The lexemes of a source text, comments apart. -/
def kept (source : Text) : List Lexeme :=
  (lexemes source).filter (·.part ≠ .comment)

/-- The lexemes of a source text are, one after the other, the text. -/
theorem flatMap_text_lexemes
    (source : Text) :
    (lexemes source).flatMap Lexeme.text = source := by
  fun_induction lexemes source with
  | case1 =>
      rfl
  | case2 rest content cut =>
      have whole := cutAtQuote_append '"' rest
      simp only [cut, Option.map_none, Option.getD_none] at whole
      simpa [Lexeme.text] using whole
  | case3 rest content after cut inductionHypothesis =>
      have whole := cutAtQuote_append '"' rest
      simp only [cut, Option.map_some, Option.getD_some] at whole
      simpa [Lexeme.text, inductionHypothesis] using whole
  | case4 c rest inductionHypothesis =>
      simp [Lexeme.text, inductionHypothesis]
  | case5 rest inductionHypothesis =>
      simp [Lexeme.text, inductionHypothesis]
  | case6 c rest _ _ _ inductionHypothesis =>
      simp [Lexeme.text, inductionHypothesis]

/-- Preparation goes on behind a comment at the end of its line. -/
theorem prepareFrom_comment
    (text : Text) :
    prepareFrom .comment text = prepare (text.dropWhile (· != '\n')) := by
  induction text with
  | nil =>
      rfl
  | cons c rest inductionHypothesis =>
      by_cases isFeed : c = '\n'
      · subst isFeed
        rfl
      · simp [prepareFrom, Mode.emit, Mode.advance, isFeed, inductionHypothesis]

/-- Preparation conceals a string up to the quote that cuts it off, and goes on there. -/
theorem prepareFrom_cutAtQuote
    (before : Char)
    (text : Text) :
    prepareFrom (.string (before == '\\')) text =
      (cutAtQuote before text).1.map conceal ++
        ((cutAtQuote before text).2.map ('"' :: prepare ·)).getD [] := by
  induction text generalizing before with
  | nil =>
      rfl
  | cons c rest inductionHypothesis =>
      have sameEnd :
          (c = '"' ∧ (before == '\\') = false) = (c = '"' ∧ before ≠ '\\') := by
        simp
      by_cases closing : c = '"' ∧ before ≠ '\\'
      · simp [prepareFrom, Mode.emit, Mode.advance, cutAtQuote, closing, prepare]
      · simp only [prepareFrom, Mode.emit, Mode.advance, cutAtQuote, sameEnd,
          if_neg closing, inductionHypothesis]
        rfl

/-- A character of the program proper is kept as it is. -/
theorem prepare_cons_of_plain
    {c : Char}
    {rest : Text}
    (noQuote : c ≠ '"')
    (noSign : c ≠ '#')
    (noLiteral : c = '\'' → rest = []) :
    prepare (c :: rest) = c :: prepare rest := by
  by_cases isApostrophe : c = '\''
  · subst isApostrophe
    rw [noLiteral rfl]
    rfl
  · simp [prepare, prepareFrom, Mode.emit, Mode.advance, noQuote, noSign,
      isApostrophe]

@[simp] theorem conceal_quote :
    conceal '"' = '"' :=
  rfl

@[simp] theorem conceal_apostrophe :
    conceal '\'' = '\'' :=
  rfl

/-- The prepared text is what preparation makes of the lexemes, comments apart. -/
theorem prepare_eq_flatMap_prepared
    (source : Text) :
    prepare source = (kept source).flatMap Lexeme.prepared := by
  unfold kept
  fun_induction lexemes source with
  | case1 =>
      rfl
  | case2 rest content cut =>
      have opened :
          prepare ('"' :: rest) = '"' :: prepareFrom (.string ('"' == '\\')) rest :=
        rfl
      rw [opened, prepareFrom_cutAtQuote, cut]
      simp [Lexeme.part, Lexeme.text, Lexeme.prepared]
  | case3 rest content after cut inductionHypothesis =>
      have opened :
          prepare ('"' :: rest) = '"' :: prepareFrom (.string ('"' == '\\')) rest :=
        rfl
      rw [opened, prepareFrom_cutAtQuote, cut]
      simp [Lexeme.part, Lexeme.text, Lexeme.prepared, inductionHypothesis]
  | case4 c rest inductionHypothesis =>
      have taken : prepare ('\'' :: c :: rest) = '\'' :: conceal c :: prepare rest :=
        rfl
      rw [taken, inductionHypothesis]
      simp [Lexeme.part, Lexeme.text, Lexeme.prepared]
  | case5 rest inductionHypothesis =>
      have dropped : prepare ('#' :: rest) = prepareFrom .comment rest :=
        rfl
      rw [dropped, prepareFrom_comment, inductionHypothesis]
      simp [Lexeme.part]
  | case6 c rest noQuote noPair noSign inductionHypothesis =>
      have noLiteral : c = '\'' → rest = [] := by
        intro isApostrophe
        cases rest with
        | nil =>
            rfl
        | cons d rest =>
            exact (noPair d rest isApostrophe rfl).elim
      rw [prepare_cons_of_plain noQuote noSign noLiteral, inductionHypothesis]
      simp [Lexeme.part, Lexeme.text, Lexeme.prepared]

/-! ## Where the characters of a prepared text come from -/

/--
A character of a prepared text, and the character of the source that it comes from.  It
discloses that character, it is a bracket exactly if that is a bracket of the program
proper, and it is a stand-in exactly if that is a bracket in a literal.
-/
structure ComesFrom (c : Char) (origin : Char × Part) : Prop where
  disclosed : disclose c = origin.1
  bracket :
    isBracket c = true ↔ isBracket origin.1 = true ∧ origin.2 = .program
  standIn :
    isStandIn c = true ↔ isBracket origin.1 = true ∧ origin.2 = .literal

/-- Concealing makes a stand-in of a bracket, and of nothing else. -/
theorem isStandIn_conceal
    {c : Char}
    (ordinary : isStandIn c = false) :
    isStandIn (conceal c) = isBracket c := by
  cases bracket : isBracket c with
  | true =>
      simp only [isBracket, Bool.or_eq_true, beq_iff_eq] at bracket
      rcases bracket with (((((rfl | rfl) | rfl) | rfl) | rfl) | rfl) <;> rfl
  | false =>
      rw [conceal_of_not_isBracket bracket, ordinary]

theorem comesFrom_program
    {c : Char}
    (ordinary : isStandIn c = false) :
    ComesFrom c (c, .program) where
  disclosed := disclose_of_not_isStandIn ordinary
  bracket := by simp
  standIn := by simp [ordinary]

theorem comesFrom_literal
    {c : Char}
    (ordinary : isStandIn c = false) :
    ComesFrom (conceal c) (c, .literal) where
  disclosed := disclose_conceal ordinary
  bracket := by simp
  standIn := by simp [isStandIn_conceal ordinary]

/-- What preparation makes of a lexeme comes from the lexeme, character by character. -/
theorem Lexeme.comesFrom_prepared
    {lexeme : Lexeme}
    (ordinary : ∀ c ∈ lexeme.text, isStandIn c = false)
    (stays : lexeme.part ≠ .comment) :
    List.Forall₂ ComesFrom lexeme.prepared lexeme.characters := by
  unfold prepared characters
  cases part : lexeme.part with
  | program =>
      rw [if_neg nofun, List.forall₂_map_right_iff, List.forall₂_same]
      exact fun c member => comesFrom_program (ordinary c member)
  | literal =>
      rw [if_pos rfl, List.forall₂_map_left_iff, List.forall₂_map_right_iff,
        List.forall₂_same]
      exact fun c member => comesFrom_literal (ordinary c member)
  | comment =>
      exact (stays part).elim

/-- So does what it makes of lexemes one after the other. -/
theorem comesFrom_flatMap_prepared
    {pieces : List Lexeme}
    (ordinary : ∀ lexeme ∈ pieces, ∀ c ∈ lexeme.text, isStandIn c = false)
    (stay : ∀ lexeme ∈ pieces, lexeme.part ≠ .comment) :
    List.Forall₂ ComesFrom (pieces.flatMap Lexeme.prepared)
      (pieces.flatMap Lexeme.characters) := by
  induction pieces with
  | nil =>
      exact .nil
  | cons lexeme rest inductionHypothesis =>
      simp only [List.mem_cons, forall_eq_or_imp] at ordinary stay
      exact List.rel_append
        (Lexeme.comesFrom_prepared ordinary.1 stay.1)
        (inductionHypothesis ordinary.2 stay.2)

/--
The lexemes of a source text without stand-ins are, one after the other, that text.
Disclosing its prepared text gives the lexemes back, but for the comments; and each
character of it comes from the corresponding character of these lexemes, as a bracket
from a bracket of the program proper and as a stand-in from a bracket in a literal.
-/
theorem prepare_keeps_and_conceals
    {source : Text}
    (ordinary : ∀ c ∈ source, isStandIn c = false) :
    (lexemes source).flatMap Lexeme.text = source ∧
      (prepare source).map disclose = (kept source).flatMap Lexeme.text ∧
      List.Forall₂ ComesFrom (prepare source)
        ((kept source).flatMap Lexeme.characters) := by
  have whole := flatMap_text_lexemes source
  have origins :
      List.Forall₂ ComesFrom (prepare source)
        ((kept source).flatMap Lexeme.characters) := by
    rw [prepare_eq_flatMap_prepared]
    refine comesFrom_flatMap_prepared ?_ ?_
    · intro lexeme member c inside
      refine ordinary c ?_
      rw [← whole]
      exact List.mem_flatMap.2 ⟨lexeme, List.mem_of_mem_filter member, inside⟩
    · intro lexeme member
      simpa using (List.mem_filter.1 member).2
  refine ⟨whole, ?_, origins⟩
  have disclosed :
      (prepare source).map disclose =
        ((kept source).flatMap Lexeme.characters).map Prod.fst := by
    rw [← List.forall₂_eq_eq_eq, List.forall₂_map_left_iff,
      List.forall₂_map_right_iff]
    exact origins.imp fun _ _ comesFrom => comesFrom.disclosed
  rw [disclosed, List.map_flatMap]
  simp [Lexeme.characters, Function.comp_def]

/-- A string with an escaped quote, a bracket behind an apostrophe, and a comment. -/
theorem prepare_keeps_and_conceals_amid_quotes :
    let source : Text :=
      ['(', '"', '[', '\\', '"', '#', '"', '\'', '\x7b', '#', '\'', '\n', ')']
    (∀ c ∈ source, isStandIn c = false) ∧
      lexemes source =
        [.plain '(', .string ['[', '\\', '"', '#'] true, .character '\x7b',
          .comment ['\''], .plain '\n', .plain ')'] ∧
      (prepare source).map disclose =
        ['(', '"', '[', '\\', '"', '#', '"', '\'', '\x7b', '\n', ')'] ∧
      List.Forall₂ ComesFrom (prepare source)
        ((kept source).flatMap Lexeme.characters) := by
  intro source
  have noStandIn : source.all (fun c => !isStandIn c) = true := rfl
  have ordinary : ∀ c ∈ source, isStandIn c = false := by
    intro c member
    simpa using List.all_eq_true.1 noStandIn c member
  have cut :
      lexemes source =
        [.plain '(', .string ['[', '\\', '"', '#'] true, .character '\x7b',
          .comment ['\''], .plain '\n', .plain ')'] := by
    decide +kernel
  obtain ⟨-, disclosed, origins⟩ := prepare_keeps_and_conceals ordinary
  refine ⟨ordinary, cut, ?_, origins⟩
  rw [disclosed, kept, cut]
  rfl

end Source

end StackTape
