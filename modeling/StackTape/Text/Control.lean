import StackTape.Text.Basic

namespace StackTape

/-!
# Texts without controls

A log that no terminal shows holds neither control characters nor the sequences that
steer a terminal.  Such a sequence starts with the escape character.  A bracket behind
it opens parameters that a final character ends; other characters open a control
string, which a further escape sequence ends; everything else is a final character,
perhaps after intermediate ones.  The control characters that lay out a text stay, and
so does every character beyond ASCII outside of a sequence.
-/

namespace Text

/-- The control characters that lay out a text. -/
def isLayout (c : Char) : Bool :=
  c = '\t' || c = '\n' || c = '\x0c' || c = '\r'

/-- A layout character, or any character that is no ASCII control. -/
def isVisible (c : Char) : Bool :=
  isLayout c || (0x20 ≤ c.toNat && c.toNat != 0x7F)

/-- The place of a character in a sequence that steers a terminal. -/
inductive Control where
  /-- No sequence is open. -/
  | outside
  /-- Behind the escape character. -/
  | opened
  /-- Behind an intermediate character. -/
  | intermediate
  /-- Among the parameters behind a bracket. -/
  | parameters
  /-- In a control string, and whether the bell ends it. -/
  | string (endsAtBell : Bool)
  deriving DecidableEq, Repr

namespace Control

/-- The characters that may stand between the escape character and the final one. -/
def isIntermediate (c : Char) : Bool :=
  0x20 ≤ c.toNat && c.toNat ≤ 0x2F

/-- The characters that end a sequence, from a given one on. -/
def isFinalFrom (least : Nat) (c : Char) : Bool :=
  least ≤ c.toNat && c.toNat ≤ 0x7E

/-- The place behind the first character after the escape character. -/
def open? (c : Char) : Option Control :=
  if isIntermediate c then
    some .intermediate
  else if c = '[' then
    some .parameters
  else if c = ']' then
    some (.string true)
  else if c = 'P' ∨ c = 'X' ∨ c = '^' ∨ c = '_' then
    some (.string false)
  else if isFinalFrom 0x30 c then
    some .outside
  else
    none

/-- The place behind a character that neither opens nor cancels a sequence. -/
def proceed (c : Char) : Control → Control
  | .outside =>
      .outside
  | .opened =>
      if isLayout c then .outside else (open? c).getD .opened
  | .intermediate =>
      if isLayout c || isFinalFrom 0x30 c then .outside else .intermediate
  | .parameters =>
      if isLayout c || isFinalFrom 0x40 c then .outside else .parameters
  | .string endsAtBell =>
      if c = '\x07' ∧ endsAtBell then .outside else .string endsAtBell

/-- The place behind a character. -/
def advance (place : Control) (c : Char) : Control :=
  if c = '\x1b' then
    .opened
  else if c = '\x18' ∨ c = '\x1a' then
    .outside
  else
    place.proceed c

/-- Whether a character at this place stays. -/
def keeps (c : Char) : Control → Bool
  | .outside =>
      isVisible c
  | .string _ =>
      false
  | _ =>
      isLayout c

end Control

/-- What stays of a text that starts at this place. -/
def withoutControlsFrom : Control → Text → Text
  | _, [] =>
      []
  | place, c :: rest =>
      if place.keeps c then
        c :: withoutControlsFrom (place.advance c) rest
      else
        withoutControlsFrom (place.advance c) rest

/-- The text without control characters and the sequences that they open. -/
def withoutControls (text : Text) : Text :=
  withoutControlsFrom .outside text

/-- A visible character opens no sequence. -/
theorem advance_outside_of_isVisible
    {c : Char}
    (visible : isVisible c = true) :
    Control.outside.advance c = .outside := by
  have noEscape : c ≠ '\x1b' := by
    rintro rfl
    exact absurd visible (by decide)
  simp [Control.advance, Control.proceed, noEscape]

/-- A visible text stays as it is. -/
theorem withoutControls_eq_self
    {text : Text}
    (visible : ∀ c ∈ text, isVisible c = true) :
    withoutControls text = text := by
  unfold withoutControls
  induction text with
  | nil =>
      rfl
  | cons c rest inductionHypothesis =>
      have first := visible c (by simp)
      have others :=
        inductionHypothesis fun later member => visible later (by simp [member])
      simp [withoutControlsFrom, Control.keeps, first,
        advance_outside_of_isVisible first, others]

/-- Only visible characters stay. -/
theorem isVisible_of_mem_withoutControlsFrom
    {place : Control}
    {text : Text}
    {c : Char}
    (member : c ∈ withoutControlsFrom place text) :
    isVisible c = true := by
  induction text generalizing place with
  | nil =>
      simp [withoutControlsFrom] at member
  | cons first rest inductionHypothesis =>
      unfold withoutControlsFrom at member
      split at member
      · rename_i kept
        rcases List.mem_cons.mp member with isFirst | inRest
        · subst isFirst
          cases place <;> simp_all [Control.keeps, isVisible]
        · exact inductionHypothesis inRest
      · exact inductionHypothesis member

end Text

end StackTape
