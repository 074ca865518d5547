import StackTape.Proofs.Bodies
import StackTape.Proofs.Literals

namespace StackTape

/-!
# Scripts

A script is the tree behind a text: instructions, literals and definitions in sequence,
with loops around further scripts.  The text inside a number or a definition is not
part of the tree, since an invocation does not run it there.  Every text that was
loaded has a script.
-/

namespace Source

/-- Whether a character delimits a loop, a definition or a literal. -/
def isDelimiter (c : Char) : Bool :=
  isBracket c || c == '"' || c == '\''

/-- Whether no definition has a delimiter for its name. -/
def hasPlainNames : Text → Bool
  | name :: next :: rest =>
      !(next == '\x7b' && isDelimiter name) && hasPlainNames (next :: rest)
  | _ =>
      true

/-- The names are plain when every single one is. -/
theorem hasPlainNames_iff
    {text : Text} :
    hasPlainNames text = true ↔
      ∀ before name after,
        text = before ++ name :: '\x7b' :: after →
        isDelimiter name = false := by
  fun_induction hasPlainNames text with
  | case1 first next rest inductionHypothesis =>
      rw [Bool.and_eq_true, inductionHypothesis]
      constructor
      · rintro ⟨firstPlain, restPlain⟩ before name after shape
        cases before with
        | nil =>
            simp only [List.nil_append, List.cons.injEq] at shape
            obtain ⟨rfl, rfl, -⟩ := shape
            simpa using firstPlain
        | cons _ before =>
            simp only [List.cons_append, List.cons.injEq] at shape
            exact restPlain before name after shape.2
      · intro plain
        constructor
        · by_cases brace : next = '\x7b'
          · have firstPlain := plain [] first rest (by rw [brace]; rfl)
            simp [firstPlain]
          · simp [brace]
        · intro before name after shape
          exact plain (first :: before) name after (by rw [shape]; rfl)
  | case2 text short =>
      refine ⟨fun _ before name after shape => ?_, fun _ => rfl⟩
      cases before with
      | nil =>
          exact (short _ _ _ shape).elim
      | cons first before =>
          cases before with
          | nil =>
              exact (short _ _ _ shape).elim
          | cons second before =>
              exact (short _ _ _ shape).elim

/-- A text that was loaded and has plain names only. -/
structure IsRegular (text : Text) : Prop where
  loaded : IsLoaded text
  names : hasPlainNames text = true

namespace IsRegular

/-- The name right before an opening brace is no delimiter. -/
theorem name_plain
    {before after : Text}
    {name : Char}
    (regular : IsRegular (before ++ name :: '\x7b' :: after)) :
    isDelimiter name = false :=
  hasPlainNames_iff.1 regular.names before name after rfl

/-- A body of a regular text is regular. -/
theorem of_isBody
    {code body : Text}
    (regular : IsRegular code)
    (piece : IsBody code body) :
    IsRegular body where
  loaded := regular.loaded.of_isBody piece
  names := by
    obtain ⟨before, after, rfl⟩ := piece.delimited
    refine hasPlainNames_iff.2 ?_
    rintro front name rest rfl
    exact hasPlainNames_iff.1 regular.names (before ++ '\x7b' :: front) name
      (rest ++ '\x7d' :: after) (by simp)

end IsRegular

end Source

namespace Structured

/-- A part of a text that an invocation runs as a whole. -/
inductive Atom where
  | instruction (c : Char)
  /-- A number between parentheses. -/
  | number (inside : Text)
  /-- A body between braces, for the name before it. -/
  | definition (body : Text)
  /-- A string between quotes. -/
  | string (content : Text)
  /-- A quote that opens a string without an end; the rest is run as well. -/
  | openQuote (rest : Text)
  /-- A character behind an apostrophe. -/
  | character (c : Char)
  deriving DecidableEq

/-- The tree behind a text. -/
inductive Script where
  | stop
  | atom (first : Atom) (rest : Script)
  | loop (body rest : Script)
  deriving DecidableEq

namespace Atom

/-- The text of an atom. -/
def text : Atom → Text
  | .instruction c =>
      [c]
  | .number inside =>
      '(' :: (inside ++ [')'])
  | .definition body =>
      '\x7b' :: (body ++ ['\x7d'])
  | .string content =>
      '"' :: (content ++ ['"'])
  | .openQuote _ =>
      ['"']
  | .character c =>
      ['\'', c]

/-- When a text in front of another one is to be read as the atom. -/
inductive Fits : Atom → Text → Prop where
  | instruction
      {c : Char}
      {following : Text}
      (neutral : Source.isBracket c = false)
      (noQuote : c ≠ '"')
      (last : c = '\'' → following = []) :
      Fits (.instruction c) following
  | number
      {inside following : Text}
      (nested : Source.Nested inside) :
      Fits (.number inside) following
  | definition
      {body following : Text}
      (nested : Source.Nested body) :
      Fits (.definition body) following
  | string
      {content following : Text}
      (neutral : ∀ c ∈ content, Source.isBracket c = false)
      (stays : Source.stringLength? false content = none)
      (closed : Source.modeAfter (.string false) content = .string false) :
      Fits (.string content) following
  | openQuote
      {rest : Text}
      (neutral : ∀ c ∈ rest, Source.isBracket c = false)
      (stays : Source.stringLength? false rest = none) :
      Fits (.openQuote rest) rest
  | character
      {c : Char}
      {following : Text}
      (neutral : Source.isBracket c = false) :
      Fits (.character c) following

/-- The text of an atom is well nested. -/
theorem Fits.nested
    {atom : Atom}
    {following : Text}
    (fits : atom.Fits following) :
    Source.Nested atom.text := by
  cases fits with
  | instruction neutral _ _ =>
      exact .plain neutral .nil
  | number nested =>
      exact .pair .parentheses nested .nil
  | definition nested =>
      exact .pair .braces nested .nil
  | string neutral _ _ =>
      refine .plain rfl (Source.nested_of_plain fun c member => ?_)
      rcases List.mem_append.1 member with inside | closing
      · exact neutral c inside
      · rw [List.mem_singleton.1 closing]
        rfl
  | openQuote _ _ =>
      exact .plain rfl .nil
  | character neutral =>
      exact .plain rfl (.plain neutral .nil)

end Atom

namespace Script

/-- The text of a script. -/
def text : Script → Text
  | .stop =>
      []
  | .atom first rest =>
      first.text ++ rest.text
  | .loop body rest =>
      '[' :: (body.text ++ ']' :: rest.text)

/-- Whether the script starts with a definition. -/
def isDefinition : Script → Bool
  | .atom (.definition _) _ =>
      true
  | _ =>
      false

/-- When a text in front of another one is to be read as the script. -/
inductive Fits : Script → Text → Prop where
  | stop
      {following : Text} :
      Fits .stop following
  | atom
      {first : Atom}
      {rest : Script}
      {following : Text}
      (firstFits : first.Fits (rest.text ++ following))
      (restFits : rest.Fits following) :
      Fits (.atom first rest) following
  | loop
      {body rest : Script}
      {following : Text}
      (bodyFits : body.Fits (']' :: (rest.text ++ following)))
      (restFits : rest.Fits following) :
      Fits (.loop body rest) following

/-- The text of a script is well nested. -/
theorem Fits.nested
    {script : Script}
    {following : Text}
    (fits : script.Fits following) :
    Source.Nested script.text := by
  induction fits with
  | stop =>
      exact .nil
  | atom firstFits _ restNested =>
      exact firstFits.nested.append restNested
  | loop _ _ bodyNested restNested =>
      exact .pair .squares bodyNested restNested

/-- A script starts with a definition exactly when its text starts with a brace. -/
theorem Fits.isDefinition_iff
    {script : Script}
    {following : Text}
    (fits : script.Fits following)
    (apart : following.head? ≠ some '\x7b') :
    script.isDefinition = true ↔
      (script.text ++ following).head? = some '\x7b' := by
  cases fits with
  | stop =>
      simpa [isDefinition, text] using apart
  | atom firstFits _ =>
      cases firstFits with
      | instruction neutral _ _ =>
          simp only [isDefinition, text, Atom.text]
          constructor
          · intro impossible
            cases impossible
          · intro brace
            cases brace
            cases neutral
      | _ =>
          simp [isDefinition, text, Atom.text]
  | loop _ _ =>
      simp [isDefinition, text]

/-- What a text as a whole is to be read as. -/
structure IsScriptOf
    (script : Script)
    (code : Text) : Prop where
  text : script.text = code
  fits : script.Fits []

end Script

end Structured

end StackTape
