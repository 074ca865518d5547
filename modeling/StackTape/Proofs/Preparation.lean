import StackTape.Proofs.Nesting
import StackTape.Source.Program

namespace StackTape

/-!
# Prepared texts

Reading a prepared text again changes nothing: what preparation kept of a literal is
read as the same literal, and no comment is left.  A bracket that stays a bracket was
read in the plain mode, so a prepared text can be cut at any of its brackets, and the
pieces are prepared texts themselves.
-/

namespace Source

@[simp] theorem conceal_eq_quote_iff
    {c : Char} :
    conceal c = '"' ↔ c = '"' := by
  unfold conceal standIn?
  split <;> simp

@[simp] theorem conceal_eq_backslash_iff
    {c : Char} :
    conceal c = '\\' ↔ c = '\\' := by
  unfold conceal standIn?
  split <;> simp

@[simp] theorem conceal_eq_letter_iff
    {c : Char} :
    conceal c = 'n' ↔ c = 'n' := by
  unfold conceal standIn?
  split <;> simp

@[simp] theorem conceal_beq_backslash
    (c : Char) :
    (conceal c == '\\') = (c == '\\') := by
  rw [Bool.eq_iff_iff]
  simp

/-- Concealing the brackets of a string does not change where it ends. -/
@[simp] theorem advance_string_conceal
    (escaped : Bool)
    (c : Char) :
    (Mode.string escaped).advance (conceal c) =
      (Mode.string escaped).advance c := by
  simp [Mode.advance]

/-- The mode in which what is kept of a text is read again. -/
def Mode.afterPreparation : Mode → Mode
  | .comment =>
      .plain
  | mode =>
      mode

/-- What preparation kept is kept when it is read again. -/
theorem prepareFrom_prepareFrom
    (mode : Mode)
    (text : Text) :
    prepareFrom mode.afterPreparation (prepareFrom mode text) =
      prepareFrom mode text := by
  induction text generalizing mode with
  | nil =>
      simp [prepareFrom]
  | cons c rest inductionHypothesis =>
      have onward := inductionHypothesis (mode.advance c)
      cases mode with
      | plain =>
          by_cases isComment : c = '#'
          · simpa [prepareFrom, Mode.emit, Mode.advance, isComment,
              Mode.afterPreparation] using onward
          · have kept :
                (Mode.plain.advance c).afterPreparation =
                  Mode.plain.advance c := by
              simp only [Mode.advance, if_neg isComment]
              split
              · rfl
              · split <;> rfl
            rw [kept] at onward
            simpa [prepareFrom, Mode.emit, isComment, Mode.afterPreparation]
              using onward
      | comment =>
          by_cases isFeed : c = '\n'
          · subst isFeed
            simpa [prepareFrom, Mode.emit, Mode.advance,
              Mode.afterPreparation] using onward
          · simpa [prepareFrom, Mode.emit, Mode.advance, isFeed,
              Mode.afterPreparation] using onward
      | string escaped =>
          have kept :
              ((Mode.string escaped).advance c).afterPreparation =
                (Mode.string escaped).advance c := by
            simp only [Mode.advance]
            split <;> rfl
          rw [kept] at onward
          simpa [prepareFrom, Mode.emit, Mode.afterPreparation] using onward
      | character =>
          simpa [prepareFrom, Mode.emit, Mode.advance, Mode.afterPreparation]
            using onward

/-- Preparing a prepared text changes nothing. -/
theorem prepare_prepare
    (source : Text) :
    prepare (prepare source) = prepare source :=
  prepareFrom_prepareFrom .plain source

/-- A prepared text loads exactly if the text it was made of does, as the same program. -/
theorem load?_prepare
    (source : Text) :
    Program.load? (prepare source) = Program.load? source := by
  simp only [Program.load?, prepare_prepare]

/--
Preparing and loading a text again changes nothing: a prepared text is prepared as it is
and loads if and only if its source does, and a program's code loads as that program.
-/
theorem prepare_and_load_idempotent
    (source : Text) :
    prepare (prepare source) = prepare source ∧
      Program.load? (prepare source) = Program.load? source ∧
      ∀ program,
        Program.load? source = some program →
        Program.load? program.code = some program := by
  refine ⟨prepare_prepare source, load?_prepare source, ?_⟩
  intro program loaded
  rw [Program.load?_eq_some_iff.1 loaded, load?_prepare, loaded]

/-- A concealed bracket, a comment, and a string that stays open. -/
theorem prepare_and_load_idempotent_amid_quotes :
    let source : Text :=
      ['(', '\'', '[', '#', '"', '\n', ')', '"', '\\', '"', '\x7b', '\'']
    ∃ program,
      Program.load? source = some program ∧
        program.code =
          ['(', '\'', '\uFDD2', '\n', ')', '"', '\\', '"', '\uFDD4', '\''] ∧
        Program.load? program.code = some program := by
  intro source
  let program : Program := ⟨prepare source, by decide⟩
  have loaded : Program.load? source = some program :=
    Program.load?_eq_some_iff.2 rfl
  obtain ⟨-, -, again⟩ := prepare_and_load_idempotent source
  exact ⟨program, loaded, rfl, again program loaded⟩

/-- The second of two texts starts in the mode the first one leaves. -/
theorem modeAfter_append
    (mode : Mode)
    (first second : Text) :
    modeAfter mode (first ++ second) =
      modeAfter (modeAfter mode first) second := by
  induction first generalizing mode with
  | nil =>
      rfl
  | cons c rest inductionHypothesis =>
      exact inductionHypothesis (mode.advance c)

/-- A text that is kept whole is kept piece by piece. -/
theorem prepareFrom_pieces
    {mode : Mode}
    (first : Text)
    {second : Text}
    (kept : prepareFrom mode (first ++ second) = first ++ second) :
    prepareFrom mode first = first ∧
      prepareFrom (modeAfter mode first) second = second := by
  rw [prepareFrom_append] at kept
  -- neither piece can become longer, so both keep their lengths
  have firstBound := length_prepareFrom_le mode first
  have secondBound := length_prepareFrom_le (modeAfter mode first) second
  have total := congrArg List.length kept
  simp only [List.length_append] at total
  exact List.append_inj kept (by omega)

/-- A bracket is kept as it is in the plain mode alone. -/
theorem eq_plain_of_kept_bracket
    {mode : Mode}
    {c : Char}
    {rest : Text}
    (bracket : isBracket c = true)
    (kept : prepareFrom mode (c :: rest) = c :: rest) :
    mode = .plain := by
  have head : prepareFrom mode [c] = [c] :=
    (prepareFrom_pieces [c] kept).1
  have unlike : conceal c ≠ c := by
    intro same
    rw [← same, isBracket_conceal] at bracket
    cases bracket
  cases mode with
  | plain =>
      rfl
  | comment =>
      simp only [prepareFrom, Mode.emit, List.append_nil] at head
      split at head
      · rename_i isFeed
        subst isFeed
        cases bracket
      · cases head
  | string escaped =>
      simp [prepareFrom, Mode.emit, unlike] at head
  | character =>
      simp [prepareFrom, Mode.emit, unlike] at head

/-- The mode after a bracket that was kept as it is. -/
theorem advance_plain_of_isBracket
    {c : Char}
    (bracket : isBracket c = true) :
    Mode.plain.advance c = .plain := by
  have notComment : c ≠ '#' := by
    rintro rfl
    cases bracket
  have notQuote : c ≠ '"' := by
    rintro rfl
    cases bracket
  have notApostrophe : c ≠ '\'' := by
    rintro rfl
    cases bracket
  simp [Mode.advance, notComment, notQuote, notApostrophe]

/-- A text that preparation does not change. -/
def IsPrepared (text : Text) : Prop :=
  prepare text = text

namespace IsPrepared

/-- Up to a bracket a prepared text is prepared and leaves the plain mode. -/
theorem before_bracket
    {before rest : Text}
    {bracket : Char}
    (prepared : IsPrepared (before ++ bracket :: rest))
    (isBracket : isBracket bracket = true) :
    IsPrepared before ∧ modeAfter .plain before = .plain := by
  obtain ⟨beforeKept, restKept⟩ := prepareFrom_pieces before prepared
  exact ⟨beforeKept, eq_plain_of_kept_bracket isBracket restKept⟩

/-- Behind a bracket a prepared text is prepared. -/
theorem after_bracket
    {before rest : Text}
    {bracket : Char}
    (prepared : IsPrepared (before ++ bracket :: rest))
    (isBracket : Source.isBracket bracket = true) :
    IsPrepared rest := by
  have restKept := (prepareFrom_pieces before prepared).2
  rw [(prepared.before_bracket isBracket).2] at restKept
  have behind := (prepareFrom_pieces [bracket] restKept).2
  rwa [modeAfter, modeAfter, advance_plain_of_isBracket isBracket] at behind

/-- What stands between a pair of brackets of a prepared text is prepared. -/
theorem between_brackets
    {before inside after : Text}
    {opening closing : Char}
    (kind : Pair opening closing)
    (prepared :
      IsPrepared (before ++ opening :: (inside ++ closing :: after))) :
    IsPrepared inside :=
  ((prepared.after_bracket kind.isBracket_opening).before_bracket
    kind.isBracket_closing).1

end IsPrepared

end Source

end StackTape
