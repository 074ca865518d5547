import StackTape.Source.StandIn

namespace StackTape

/-!
# Preparing a source text

Preparation deletes the comments and conceals the brackets inside literals.  It reads
the text once, in one of four modes.  A comment runs from a number sign to the next
line feed, which stays.  A string runs from a quote to the next quote that no
backslash directly precedes.  An apostrophe makes the character after it a literal.
-/

namespace Source

/-- What the next character of a source text belongs to. -/
inductive Mode where
  /-- The program proper. -/
  | plain
  /-- A comment. -/
  | comment
  /-- A string, and whether the character before was a backslash. -/
  | string (escaped : Bool)
  /-- The character after an apostrophe. -/
  | character
  deriving DecidableEq, Repr

namespace Mode

/-- The mode after a character. -/
def advance : Mode → Char → Mode
  | .plain, c =>
      if c = '#' then
        .comment
      else if c = '"' then
        .string false
      else if c = '\'' then
        .character
      else
        .plain
  | .comment, c =>
      if c = '\n' then .plain else .comment
  | .string escaped, c =>
      if c = '"' ∧ escaped = false then
        .plain
      else
        .string (c == '\\')
  | .character, _ =>
      .plain

/-- What preparation keeps of a character. -/
def emit : Mode → Char → Text
  | .plain, c =>
      if c = '#' then [] else [c]
  | .comment, c =>
      if c = '\n' then [c] else []
  | .string _, c =>
      [conceal c]
  | .character, c =>
      [conceal c]

end Mode

/-- Prepare the rest of a text from a given mode. -/
def prepareFrom : Mode → Text → Text
  | _, [] =>
      []
  | mode, c :: rest =>
      mode.emit c ++ prepareFrom (mode.advance c) rest

/-- The text without comments and with the brackets in literals concealed. -/
def prepare (source : Text) : Text :=
  prepareFrom .plain source

/-- The mode in which a text leaves the reader. -/
def modeAfter : Mode → Text → Mode
  | mode, [] =>
      mode
  | mode, c :: rest =>
      modeAfter (mode.advance c) rest

/-- The second of two texts is prepared in the mode the first one leaves. -/
theorem prepareFrom_append
    (mode : Mode)
    (first second : Text) :
    prepareFrom mode (first ++ second) =
      prepareFrom mode first ++
        prepareFrom (modeAfter mode first) second := by
  induction first generalizing mode with
  | nil =>
      rfl
  | cons c rest inductionHypothesis =>
      simp [prepareFrom, modeAfter, inductionHypothesis]

/-- Preparation never lengthens a text. -/
theorem length_prepareFrom_le
    (mode : Mode)
    (text : Text) :
    (prepareFrom mode text).length ≤ text.length := by
  induction text generalizing mode with
  | nil =>
      simp [prepareFrom]
  | cons c rest inductionHypothesis =>
      have kept : (mode.emit c).length ≤ 1 := by
        cases mode <;> simp only [Mode.emit] <;> (try split) <;> simp
      have := inductionHypothesis (mode.advance c)
      simp only [prepareFrom, List.length_append, List.length_cons]
      omega

end Source

end StackTape
