import StackTape.Machine.Run
import StackTape.Proofs.Preparation

namespace StackTape

/-!
# Literals

Preparation decides where a string ends while it conceals the brackets; an invocation
decides it once more on the prepared text, with a look at the character before and
the character after.  This module shows that the two agree, and that an invocation
pushes the characters that the source text spells.
-/

namespace Source

/--
How many characters preparation reads in a string before the quote at which it
leaves it; none when it reads to the end of the text.
-/
def stringLength? : Bool → Text → Option Nat
  | _, [] =>
      none
  | escaped, c :: rest =>
      match (Mode.string escaped).advance c with
      | .string next =>
          (stringLength? next rest).map (· + 1)
      | _ =>
          some 0

/--
The characters that the text of a string spells, from left to right: a backslash with
a quote or the letter n behind it is an escape, every other character stands for
itself.
-/
def decoded : Text → Text
  | [] =>
      []
  | '\\' :: '"' :: rest =>
      '"' :: decoded rest
  | '\\' :: 'n' :: rest =>
      '\n' :: decoded rest
  | c :: rest =>
      c :: decoded rest

/-- Whether a character is one of the six stand-ins. -/
def isStandIn (c : Char) : Bool :=
  0xFDD0 ≤ c.toNat && c.toNat ≤ 0xFDD5

/-- A character that is no stand-in stands for itself. -/
theorem disclose_of_not_isStandIn
    {c : Char}
    (ordinary : isStandIn c = false) :
    disclose c = c := by
  unfold disclose
  split <;> first | rfl | cases ordinary

/-- Disclosing gives back whatever was concealed, stand-ins apart. -/
theorem disclose_conceal
    {c : Char}
    (ordinary : isStandIn c = false) :
    disclose (conceal c) = c := by
  cases bracket : isBracket c with
  | true =>
      exact disclose_conceal_of_isBracket bracket
  | false =>
      rw [conceal_of_not_isBracket bracket]
      exact disclose_of_not_isStandIn ordinary

/-! ## Where a string ends -/

theorem stringLength?_cons_of_closing
    (rest : Text) :
    stringLength? false ('"' :: rest) = some 0 :=
  rfl

theorem stringLength?_cons
    {escaped : Bool}
    {c : Char}
    (open_ : ¬(c = '"' ∧ escaped = false))
    (rest : Text) :
    stringLength? escaped (c :: rest) =
      (stringLength? (c == '\\') rest).map (· + 1) := by
  simp [stringLength?, Mode.advance, open_]

/-- A string that does not end does not end at its first character, nor behind that. -/
theorem stringLength?_cons_eq_none_iff
    {escaped : Bool}
    {c : Char}
    {rest : Text} :
    stringLength? escaped (c :: rest) = none ↔
      ¬(c = '"' ∧ escaped = false) ∧ stringLength? (c == '\\') rest = none := by
  by_cases closing : c = '"' ∧ escaped = false
  · obtain ⟨rfl, rfl⟩ := closing
    simp [stringLength?_cons_of_closing]
  · simp [stringLength?_cons closing, closing]

/-- A string that ends can be cut at its closing quote. -/
theorem exists_content_of_stringLength?
    {escaped : Bool}
    {text : Text}
    {length : Nat}
    (ends : stringLength? escaped text = some length) :
    ∃ content rest,
      text = content ++ '"' :: rest ∧
        content.length = length ∧
        stringLength? escaped content = none ∧
        modeAfter (.string escaped) content = .string false := by
  induction text generalizing escaped length with
  | nil =>
      simp [stringLength?] at ends
  | cons c text inductionHypothesis =>
      by_cases closing : c = '"' ∧ escaped = false
      · obtain ⟨rfl, rfl⟩ := closing
        rw [stringLength?_cons_of_closing] at ends
        cases ends
        exact ⟨[], text, rfl, rfl, rfl, rfl⟩
      · rw [stringLength?_cons closing] at ends
        obtain ⟨inner, innerEnds, rfl⟩ := Option.map_eq_some_iff.1 ends
        obtain ⟨content, rest, rfl, rfl, stays, left⟩ :=
          inductionHypothesis innerEnds
        refine ⟨c :: content, rest, rfl, rfl, ?_, ?_⟩
        · simp [stringLength?_cons closing, stays]
        · simpa [modeAfter, Mode.advance, closing] using left

/-- A text without an end of the string leaves the reader in the string. -/
theorem exists_mode_of_stringLength?
    {escaped : Bool}
    {content : Text}
    (stays : stringLength? escaped content = none) :
    ∃ last, modeAfter (.string escaped) content = .string last := by
  induction content generalizing escaped with
  | nil =>
      exact ⟨escaped, rfl⟩
  | cons c content inductionHypothesis =>
      obtain ⟨open_, staysBehind⟩ := stringLength?_cons_eq_none_iff.1 stays
      simpa [modeAfter, Mode.advance, open_] using inductionHypothesis staysBehind

/-- A string ends where the rest of it does. -/
theorem stringLength?_append
    {escaped last : Bool}
    {content : Text}
    (stays : stringLength? escaped content = none)
    (left : modeAfter (.string escaped) content = .string last)
    (tail : Text) :
    stringLength? escaped (content ++ tail) =
      (stringLength? last tail).map (· + content.length) := by
  induction content generalizing escaped with
  | nil =>
      cases left
      simp
  | cons c content inductionHypothesis =>
      obtain ⟨open_, staysBehind⟩ := stringLength?_cons_eq_none_iff.1 stays
      simp only [modeAfter, Mode.advance, if_neg open_] at left
      rw [List.cons_append, stringLength?_cons open_,
        inductionHypothesis staysBehind left, Option.map_map]
      congr 1

/-- Concealing the brackets of a string keeps its end where it is. -/
theorem stringLength?_map_conceal
    (escaped : Bool)
    (content : Text) :
    stringLength? escaped (content.map conceal) =
      stringLength? escaped content := by
  induction content generalizing escaped with
  | nil =>
      rfl
  | cons c content inductionHypothesis =>
      simp only [List.map_cons, stringLength?, advance_string_conceal]
      split
      · rw [inductionHypothesis]
      · rfl

/-- Inside a string preparation conceals every bracket and keeps the rest. -/
theorem prepareFrom_string
    {escaped : Bool}
    {content : Text}
    (stays : stringLength? escaped content = none) :
    prepareFrom (.string escaped) content = content.map conceal := by
  induction content generalizing escaped with
  | nil =>
      rfl
  | cons c content inductionHypothesis =>
      obtain ⟨open_, staysBehind⟩ := stringLength?_cons_eq_none_iff.1 stays
      simp [prepareFrom, Mode.emit, Mode.advance, open_,
        inductionHypothesis staysBehind]

/-- Concealing the brackets does not change the mode that a string leaves. -/
theorem modeAfter_string_map_conceal
    {escaped : Bool}
    {content : Text}
    (stays : stringLength? escaped content = none) :
    modeAfter (.string escaped) (content.map conceal) =
      modeAfter (.string escaped) content := by
  induction content generalizing escaped with
  | nil =>
      rfl
  | cons c content inductionHypothesis =>
      obtain ⟨open_, staysBehind⟩ := stringLength?_cons_eq_none_iff.1 stays
      simpa [modeAfter, Mode.advance, open_] using inductionHypothesis staysBehind

/-! ## What a string spells -/

/-- Only a quote and the letter n are read differently behind a backslash. -/
theorem readString_true
    {text : Text}
    (ordinary : text.head?.any isEscapable = false) :
    readString true text = readString false text := by
  cases text with
  | nil =>
      rfl
  | cons c rest =>
      simp only [List.head?_cons, Option.any_some, isEscapable,
        Bool.or_eq_false_iff, beq_eq_false_iff_ne] at ordinary
      simp [readString, ordinary.1, ordinary.2]

/-- A character outside an escape is read as itself. -/
theorem readString_cons
    {c : Char}
    {rest : Text}
    (inside : c ≠ '"')
    (ordinary : c = '\\' → rest.head?.any isEscapable = false) :
    readString false (c :: rest) =
      (disclose c :: (readString false rest).1,
        (readString false rest).2.map (· + 1)) := by
  by_cases isBackslash : c = '\\'
  · simp [readString, isBackslash, ordinary isBackslash,
      readString_true (ordinary isBackslash)]
  · have flag : (c == '\\') = false := by
      simpa using isBackslash
    simp [readString, inside, isBackslash, flag]

/-- A backslash does not matter to a character that is no quote. -/
theorem string_true_cons
    {c : Char}
    (inside : c ≠ '"')
    (rest : Text) :
    stringLength? true (c :: rest) = stringLength? false (c :: rest) ∧
      modeAfter (.string true) (c :: rest) =
        modeAfter (.string false) (c :: rest) := by
  simp [stringLength?, modeAfter, Mode.advance, inside]

/--
An invocation reads the content of a string as its decoded characters and goes on
behind it.  Behind a backslash at the end of the content nothing may follow.
-/
theorem readString_append
    {content : Text}
    (stays : stringLength? false content = none)
    {escaped : Bool}
    (left : modeAfter (.string false) content = .string escaped)
    (tail : Text)
    (apart : escaped = false ∨ tail = []) :
    readString false (content ++ tail) =
      ((decoded content).map disclose ++ (readString escaped tail).1,
        (readString escaped tail).2.map (· + content.length)) := by
  fun_induction decoded content with
  | case1 =>
      cases left
      simp
  | case2 rest inductionHypothesis =>
      simp only [stringLength?, Mode.advance] at stays
      simp only [modeAfter, Mode.advance] at left
      have onward := inductionHypothesis (by simpa using stays) left
      cases closing : (readString escaped tail).2 <;>
        simp [readString, onward, isEscapable, disclose, closing,
          Nat.add_assoc]
  | case3 rest inductionHypothesis =>
      simp only [stringLength?, Mode.advance] at stays
      simp only [modeAfter, Mode.advance] at left
      have onward := inductionHypothesis (by simpa using stays) left
      cases closing : (readString escaped tail).2 <;>
        simp [readString, onward, isEscapable, disclose, closing,
          Nat.add_assoc]
  | case4 c rest noQuote noLetter inductionHypothesis =>
      have inside : c ≠ '"' := by
        rintro rfl
        cases stays
      rw [stringLength?_cons (by simp [inside]), Option.map_eq_none_iff] at stays
      simp only [modeAfter, Mode.advance, inside, false_and, if_false] at left
      by_cases isBackslash : c = '\\'
      · subst isBackslash
        cases rest with
        | nil =>
            -- the backslash ends the text
            cases left
            rcases apart with impossible | rfl
            · cases impossible
            · rfl
        | cons second rest =>
            have notQuote : second ≠ '"' := fun same =>
              noQuote rest rfl (same ▸ rfl)
            have notLetter : second ≠ 'n' := fun same =>
              noLetter rest rfl (same ▸ rfl)
            obtain ⟨sameLength, sameMode⟩ := string_true_cons notQuote rest
            have onward :=
              inductionHypothesis (sameLength ▸ stays) (sameMode ▸ left)
            have ordinary :
                ((second :: rest) ++ tail).head?.any isEscapable = false := by
              simp [isEscapable, notQuote, notLetter]
            rw [List.cons_append, readString_cons inside fun _ => ordinary,
              onward, Option.map_map]
            rfl
      · have flag : (c == '\\') = false := by
          simpa using isBackslash
        rw [flag] at stays left
        have onward := inductionHypothesis stays left
        rw [List.cons_append,
          readString_cons inside fun same => (isBackslash same).elim, onward,
          Option.map_map]
        rfl

/-- The prepared content spells what the content of the source text spells. -/
theorem decoded_map_conceal
    {content : Text}
    (ordinary : ∀ c ∈ content, isStandIn c = false) :
    (decoded (content.map conceal)).map disclose = decoded content := by
  fun_induction decoded content with
  | case1 =>
      rfl
  | case2 rest inductionHypothesis =>
      have onward := inductionHypothesis fun c member =>
        ordinary c (by simp [member])
      simpa [conceal, standIn?, decoded, disclose] using onward
  | case3 rest inductionHypothesis =>
      have onward := inductionHypothesis fun c member =>
        ordinary c (by simp [member])
      simpa [conceal, standIn?, decoded, disclose] using onward
  | case4 c rest noQuote noLetter inductionHypothesis =>
      have onward := inductionHypothesis fun d member =>
        ordinary d (by simp [member])
      have noConcealedQuote :
          ∀ others, conceal c = '\\' → rest.map conceal = '"' :: others → False := by
        intro others isBackslash shape
        cases rest with
        | nil =>
            cases shape
        | cons second rest =>
            simp only [List.map_cons, List.cons.injEq, conceal_eq_quote_iff]
              at shape
            exact noQuote rest (conceal_eq_backslash_iff.1 isBackslash)
              (by rw [shape.1])
      have noConcealedLetter :
          ∀ others, conceal c = '\\' → rest.map conceal = 'n' :: others → False := by
        intro others isBackslash shape
        cases rest with
        | nil =>
            cases shape
        | cons second rest =>
            simp only [List.map_cons, List.cons.injEq, conceal_eq_letter_iff]
              at shape
            exact noLetter rest (conceal_eq_backslash_iff.1 isBackslash)
              (by rw [shape.1])
      rw [List.map_cons, decoded.eq_4 _ _ noConcealedQuote noConcealedLetter,
        List.map_cons, onward, disclose_conceal (ordinary c (by simp))]

end Source

namespace Invocation

/-! ## Literals at work -/

/-- The text behind the cursor starts with the next character. -/
theorem next?_eq_head?
    (invocation : Invocation) :
    invocation.next? = invocation.behindCursor.head? := by
  simp [next?, behindCursor]

/-- The place of a literal in a prepared text. -/
theorem prepare_append_cons
    {before : Text}
    (plain : Source.modeAfter .plain before = .plain)
    (c : Char)
    (after : Text) :
    Source.prepare (before ++ c :: after) =
      Source.prepare before ++
        (Source.Mode.plain.emit c ++
          Source.prepareFrom (Source.Mode.plain.advance c) after) := by
  rw [Source.prepare, Source.prepareFrom_append, plain]
  rfl

/-- What follows a quote or an apostrophe in a prepared text is no bracket. -/
theorem next?_ne_brace
    {invocation : Invocation}
    {mode : Source.Mode}
    {after : Text}
    (concealing : ∀ c, mode.emit c = [Source.conceal c])
    (behind : invocation.behindCursor = Source.prepareFrom mode after) :
    invocation.next? ≠ some '\x7b' := by
  rw [next?_eq_head?, behind]
  cases after with
  | nil =>
      simp [Source.prepareFrom]
  | cons c rest =>
      have neutral := Source.isBracket_conceal c
      intro brace
      simp only [Source.prepareFrom, concealing, List.cons_append,
        List.nil_append, List.head?_cons, Option.some.injEq] at brace
      rw [brace] at neutral
      cases neutral

/-- An instruction that is no name and names nothing does what its opcode does. -/
theorem runInstruction_of_opcode
    {invocation : Invocation}
    {instruction : Char}
    {opcode : Opcode}
    (unbound : invocation.functions.find? instruction = none)
    (nameless : invocation.next? ≠ some '\x7b')
    (known : Opcode.ofChar? instruction = some opcode)
    (limit : Nat)
    (runBody : Invocation → Outcome Failure Invocation) :
    runInstruction limit runBody invocation instruction =
      invocation.perform (invocation.previous? == some '&') opcode := by
  simp [runInstruction, unbound, nameless, known]

/-- The characters that an invocation reads where preparation kept a string. -/
theorem readString_prepared
    {after : Text}
    (ordinary : ∀ c ∈ after, Source.isStandIn c = false) :
    Source.readString false (Source.prepareFrom (.string false) after) =
      match Source.stringLength? false after with
      | some length =>
          (Source.decoded (after.take length), some length)
      | none =>
          (Source.decoded after, none) := by
  cases ends : Source.stringLength? false after with
  | some length =>
      obtain ⟨content, rest, rfl, rfl, stays, left⟩ :=
        Source.exists_content_of_stringLength? ends
      have shape :
          Source.prepareFrom (.string false) (content ++ '"' :: rest) =
            content.map Source.conceal ++
              '"' :: Source.prepareFrom .plain rest := by
        rw [Source.prepareFrom_append, Source.prepareFrom_string stays, left]
        rfl
      have read :=
        Source.readString_append
          (by rwa [Source.stringLength?_map_conceal])
          (by rwa [Source.modeAfter_string_map_conceal stays])
          ('"' :: Source.prepareFrom .plain rest)
          (.inl rfl)
      rw [shape, read, Source.decoded_map_conceal
        fun c member => ordinary c (by simp [member])]
      simp [Source.readString]
  | none =>
      obtain ⟨last, left⟩ := Source.exists_mode_of_stringLength? ends
      have read :=
        Source.readString_append
          (by rwa [Source.stringLength?_map_conceal])
          (by rwa [Source.modeAfter_string_map_conceal ends])
          []
          (.inr rfl)
      rw [List.append_nil] at read
      rw [Source.prepareFrom_string ends, read,
        Source.decoded_map_conceal ordinary]
      simp [Source.readString]

/-- What a string instruction does where preparation kept a string. -/
theorem pushString_prepared
    {invocation : Invocation}
    {after : Text}
    (ordinary : ∀ c ∈ after, Source.isStandIn c = false)
    (behind :
      invocation.behindCursor = Source.prepareFrom (.string false) after) :
    invocation.pushString =
      match Source.stringLength? false after with
      | some length =>
          (invocation.withStack
            (invocation.stack.append
              ((Source.decoded (after.take length)).map
                Cell.ofChar))).withCursor (invocation.cursor + 1 + length)
      | none =>
          invocation.withStack
            (invocation.stack.append
              ((Source.decoded after).map Cell.ofChar)) := by
  rw [pushString, behind, readString_prepared ordinary]
  cases Source.stringLength? false after <;> rfl

/-- The place of the closing quote in the prepared text. -/
theorem length_prepare_closing
    {before after : Text}
    {length : Nat}
    (plain : Source.modeAfter .plain before = .plain)
    (ends : Source.stringLength? false after = some length) :
    (Source.prepare (before ++ '"' :: after.take length)).length =
      (Source.prepare before).length + 1 + length := by
  obtain ⟨content, rest, rfl, rfl, stays, _⟩ :=
    Source.exists_content_of_stringLength? ends
  have kept :
      Source.prepareFrom (Source.Mode.plain.advance '"') content =
        content.map Source.conceal :=
    Source.prepareFrom_string stays
  rw [List.take_left, prepare_append_cons plain, kept]
  simp [Source.Mode.emit]
  omega

/--
Preparation and invocation agree on every literal.  At a quote that preparation reads
in the plain mode, an invocation pushes the characters that the source text spells and
moves to the quote at which preparation leaves the string; when it never does, the
rest of the source text is pushed and the cursor stays.  At an apostrophe before a
character it pushes that character and steps over it.
-/
theorem runInstruction_of_literal
    {source : Text}
    (ordinary : ∀ c ∈ source, Source.isStandIn c = false)
    {invocation : Invocation}
    (prepared : invocation.code = Source.prepare source)
    (limit : Nat)
    (runBody : Invocation → Outcome Failure Invocation) :
    (∀ before after,
      source = before ++ '"' :: after →
      Source.modeAfter .plain before = .plain →
      invocation.cursor = (Source.prepare before).length →
      invocation.functions.find? '"' = none →
      invocation.instruction? = some '"' ∧
        runInstruction limit runBody invocation '"' =
          match Source.stringLength? false after with
          | some length =>
              let closing :=
                (Source.prepare (before ++ '"' :: after.take length)).length
              let characters := Source.decoded (after.take length)
              .done
                ((invocation.withStack
                  (invocation.stack.append
                    (characters.map Cell.ofChar))).withCursor closing)
          | none =>
              .done
                (invocation.withStack
                  (invocation.stack.append
                    ((Source.decoded after).map Cell.ofChar)))) ∧
    (∀ before c after,
      source = before ++ '\'' :: c :: after →
      Source.modeAfter .plain before = .plain →
      invocation.cursor = (Source.prepare before).length →
      invocation.functions.find? '\'' = none →
      invocation.instruction? = some '\'' ∧
        runInstruction limit runBody invocation '\'' =
          .done
            ((invocation.withStack
              (invocation.stack.push (Cell.ofChar c))).withCursor
                (invocation.cursor + 1))) := by
  constructor
  · rintro before after rfl plain atQuote unbound
    have shape := prepared
    rw [prepare_append_cons plain] at shape
    have present : invocation.instruction? = some '"' := by
      simp [instruction?, shape, atQuote, Source.Mode.emit]
    have behind :
        invocation.behindCursor = Source.prepareFrom (.string false) after := by
      rw [behindCursor, shape, atQuote]
      simp [Source.Mode.emit, Source.Mode.advance]
    have nameless := next?_ne_brace (fun _ => rfl) behind
    refine ⟨present, ?_⟩
    rw [runInstruction_of_opcode unbound nameless rfl, perform,
      pushString_prepared (fun c member => ordinary c (by simp [member])) behind]
    cases ends : Source.stringLength? false after with
    | some length =>
        simp only [length_prepare_closing plain ends, atQuote]
    | none =>
        rfl
  · rintro before c after rfl plain atApostrophe unbound
    have shape := prepared
    rw [prepare_append_cons plain] at shape
    have present : invocation.instruction? = some '\'' := by
      simp [instruction?, shape, atApostrophe, Source.Mode.emit]
    have behind :
        invocation.behindCursor =
          Source.prepareFrom .character (c :: after) := by
      rw [behindCursor, shape, atApostrophe]
      simp [Source.Mode.emit, Source.Mode.advance]
    have nameless := next?_ne_brace (fun _ => rfl) behind
    have following : invocation.next? = some (Source.conceal c) := by
      rw [next?_eq_head?, behind]
      rfl
    have raw : Source.disclose (Source.conceal c) = c :=
      Source.disclose_conceal (ordinary c (by simp))
    refine ⟨present, ?_⟩
    rw [runInstruction_of_opcode unbound nameless rfl, perform, pushCharacter,
      following]
    simp only [raw]

/-- Behind a comment: a string with both escapes and a bracket, then a character. -/
theorem runInstruction_of_literal_behind_comment :
    let source : Text := "#[\n\"a\\\"[\\n\"'(".toList
    let invocation :=
      start (Source.prepare source) (.console .exhausted (.emissions []))
        (.blank .error) default
    (∀ c ∈ source, Source.isStandIn c = false) ∧
      runInstruction 200 (run 200 0) (invocation.withCursor 1) '"' =
        .done
          ((invocation.withStack
            (.ofList [.int 97, .int 34, .int 91, .int 10])).withCursor 8) ∧
      runInstruction 200 (run 200 0) (invocation.withCursor 9) '\'' =
        .done
          ((invocation.withStack (.ofList [.int 40])).withCursor 10) := by
  intro source invocation
  have noStandIn : source.all (fun c => !Source.isStandIn c) = true := rfl
  have ordinary : ∀ c ∈ source, Source.isStandIn c = false := by
    intro c member
    simpa using List.all_eq_true.1 noStandIn c member
  have atQuote :=
    (runInstruction_of_literal ordinary
      (rfl : (invocation.withCursor 1).code = Source.prepare source) 200
        (run 200 0)).1 ['#', '[', '\n'] _ rfl rfl rfl rfl
  have atApostrophe :=
    (runInstruction_of_literal ordinary
      (rfl : (invocation.withCursor 9).code = Source.prepare source) 200
        (run 200 0)).2 "#[\n\"a\\\"[\\n\"".toList '(' [] rfl rfl rfl rfl
  exact ⟨ordinary, atQuote.2, atApostrophe.2⟩

end Invocation

end StackTape
