import StackTape.Interpreter
import StackTape.Machine.Bench.Lemmas
import StackTape.Proofs.Literals
import StackTape.Proofs.Steps

namespace StackTape

/-!
# Printing a string

A program that holds one string and outputs its stack as characters prints the string.
The way leads through every layer: preparation keeps the literal and conceals its
brackets, so that the program loads; the invocation finds the closing quote, pushes the
characters, and hands them over one by one.
-/

namespace Source

/--
A literal's content that spells a text: with every quote behind a backslash, and every
line feed either as it is or as an escape.
-/
inductive Spells : Text → Text → Prop where
  | nil :
      Spells [] []
  | quote
      {content text : Text}
      (tail : Spells content text) :
      Spells ('\\' :: '"' :: content) ('"' :: text)
  | feed
      {content text : Text}
      (tail : Spells content text) :
      Spells ('\\' :: 'n' :: content) ('\n' :: text)
  | plain
      {c : Char}
      {content text : Text}
      (noQuote : c ≠ '"')
      (tail : Spells content text) :
      Spells (c :: content) (c :: text)

/-- Every text can be spelled. -/
theorem exists_spells
    (text : Text) :
    ∃ content, Spells content text := by
  induction text with
  | nil =>
      exact ⟨[], .nil⟩
  | cons c text inductionHypothesis =>
      obtain ⟨content, tail⟩ := inductionHypothesis
      by_cases isQuote : c = '"'
      · subst isQuote
        exact ⟨_, tail.quote⟩
      · exact ⟨_, tail.plain isQuote⟩

namespace Spells

variable {content text : Text}

/-- What is decoded is what was spelled. -/
theorem decoded_eq
    (spells : Spells content text)
    (noBackslash : '\\' ∉ text) :
    decoded content = text := by
  induction spells with
  | nil =>
      rfl
  | quote _ inductionHypothesis | feed _ inductionHypothesis =>
      rw [decoded, inductionHypothesis (List.not_mem_of_not_mem_cons noBackslash)]
  | @plain c content text _ _ inductionHypothesis =>
      have unlike : c ≠ '\\' := fun same => noBackslash (by simp [same])
      rw [decoded.eq_4 c content (fun _ same => absurd same unlike)
          fun _ same => absurd same unlike,
        inductionHypothesis (List.not_mem_of_not_mem_cons noBackslash)]

/-- The content holds no quote that ends the literal, and no escape at its end. -/
theorem staysOpen
    (spells : Spells content text)
    (noBackslash : '\\' ∉ text) :
    stringLength? false content = none ∧
      modeAfter (.string false) content = .string false := by
  induction spells with
  | nil =>
      exact ⟨rfl, rfl⟩
  | quote _ inductionHypothesis | feed _ inductionHypothesis =>
      obtain ⟨stays, left⟩ :=
        inductionHypothesis (List.not_mem_of_not_mem_cons noBackslash)
      exact ⟨by simpa [stringLength?, Mode.advance] using stays, left⟩
  | @plain c content text noQuote _ inductionHypothesis =>
      obtain ⟨stays, left⟩ :=
        inductionHypothesis (List.not_mem_of_not_mem_cons noBackslash)
      have unlike : (c == '\\') = false := by
        simpa using fun same : c = '\\' => noBackslash (by simp [same])
      constructor
      · rw [stringLength?_cons (by simp [noQuote]), unlike, stays]
        rfl
      · simpa [modeAfter, Mode.advance, noQuote, unlike] using left

/-- Spelling brings in no stand-in. -/
theorem ordinary
    (spells : Spells content text)
    (ordinary : ∀ c ∈ text, isStandIn c = false) :
    ∀ c ∈ content, isStandIn c = false := by
  induction spells with
  | nil =>
      exact ordinary
  | quote _ inductionHypothesis | feed _ inductionHypothesis =>
      simp only [List.forall_mem_cons] at ordinary ⊢
      exact ⟨rfl, rfl, inductionHypothesis ordinary.2⟩
  | plain _ _ inductionHypothesis =>
      simp only [List.forall_mem_cons] at ordinary ⊢
      exact ⟨ordinary.1, inductionHypothesis ordinary.2⟩

/-- The literal ends behind its content. -/
theorem stringLength?_closing
    (spells : Spells content text)
    (noBackslash : '\\' ∉ text)
    (rest : Text) :
    stringLength? false (content ++ '"' :: rest) = some content.length := by
  obtain ⟨stays, left⟩ := spells.staysOpen noBackslash
  rw [stringLength?_append stays left, stringLength?_cons_of_closing]
  simp

/-- Preparation keeps the literal and conceals its brackets. -/
theorem prepare_literal
    (spells : Spells content text)
    (noBackslash : '\\' ∉ text)
    (rest : Text) :
    prepare ('"' :: (content ++ '"' :: rest)) =
      '"' :: (content.map conceal ++ '"' :: prepare rest) := by
  obtain ⟨stays, left⟩ := spells.staysOpen noBackslash
  have inside :
      prepareFrom (.string false) (content ++ '"' :: rest) =
        content.map conceal ++ '"' :: prepare rest := by
    rw [prepareFrom_append, prepareFrom_string stays, left]
    rfl
  rw [← inside]
  rfl

end Spells

/-- The source text of a program that prints the string with this content. -/
def printing (content : Text) : Text :=
  '"' :: (content ++ ['"', '&', 'o', ';'])

/-- The prepared text of a program that prints a string. -/
theorem prepare_printing
    {content text : Text}
    (spells : Spells content text)
    (noBackslash : '\\' ∉ text) :
    prepare (printing content) =
      '"' :: (content.map conceal ++ ['"', '&', 'o', ';']) :=
  spells.prepare_literal noBackslash ['&', 'o', ';']

/-- A program that prints a string loads, as no bracket of the string is left in it. -/
theorem exists_load?_printing
    {content text : Text}
    (spells : Spells content text)
    (noBackslash : '\\' ∉ text) :
    ∃ program, Program.load? (printing content) = some program := by
  have neutral : ∀ c ∈ prepare (printing content), isBracket c = false := by
    rw [prepare_printing spells noBackslash]
    intro c member
    simp only [List.mem_cons, List.mem_append, List.mem_map, List.not_mem_nil,
      or_false] at member
    rcases member with rfl | ⟨inner, -, rfl⟩ | rfl | rfl | rfl | rfl
    · rfl
    · exact isBracket_conceal inner
    all_goals rfl
  exact ⟨⟨prepare (printing content),
      isBalanced_iff_nested.2 (nested_of_plain neutral)⟩,
    Program.load?_eq_some_iff.2 rfl⟩

end Source

/-! ## Writing a text -/

namespace Work

/-- Cells that hold characters are handed over one by one. -/
theorem writeCells_apply
    (text : Text)
    {bench : Bench}
    {source : LineSource}
    {shown : List Text}
    (channel : bench.channel = .console source (.text shown)) :
    writeCells (text.map Cell.ofChar) bench =
      .ok ()
        { bench with
          channel :=
            .console source (.text ((text.map fun c => [c]).reverse ++ shown)) } := by
  induction text generalizing bench shown with
  | nil =>
      obtain ⟨stack, before, journal, draws, waits⟩ := bench
      cases channel
      rfl
  | cons c text inductionHypothesis =>
      have taken :
          emit (.character c) bench =
            .ok ()
              { bench with channel := .console source (.text ([c] :: shown)) } := by
        rw [emit_apply, channel]
        rfl
      rw [List.map_cons, writeCells]
      simp only [Cell.character_ofChar, ofExcept_ok, bind_apply, pure_apply, taken]
      rw [inductionHypothesis rfl]
      simp

/-- A stack that holds a text is written as that text, and nothing is read. -/
theorem writeCharacters_apply
    {text : Text}
    (nonempty : text ≠ [])
    {bench : Bench}
    {source : LineSource}
    {shown : List Text}
    (stack : bench.stack.toList = text.map Cell.ofChar)
    (channel : bench.channel = .console source (.text shown)) :
    writeCharacters bench =
      .ok ()
        { bench with
          stack := .empty
          channel :=
            .console source (.text ((text.map fun c => [c]).reverse ++ shown)) } := by
  have written :
      writeCells (text.map Cell.ofChar) { bench with stack := .empty } = _ :=
    writeCells_apply text channel
  simp [writeCharacters, stack, nonempty, written]

end Work

namespace Invocation

/-! ## Step by step -/

/-- What a program that knows no function stands at, holds and has shown. -/
structure Standing
    (code : Text)
    (cursor : Nat)
    (held : Text)
    (channel : Channel)
    (invocation : Invocation) : Prop where
  code : invocation.code = code
  cursor : invocation.cursor = cursor
  running : invocation.halt = none
  functions : invocation.functions = .empty
  stack : invocation.stack.toList = held.map Cell.ofChar
  channel : invocation.channel = channel

namespace Standing

variable {code held : Text}
variable {cursor : Nat}
variable {channel : Channel}
variable {invocation : Invocation}

/-- The character at the cursor. -/
theorem instruction?_eq
    (standing : Standing code cursor held channel invocation) :
    invocation.instruction? = code[cursor]? := by
  rw [instruction?, standing.code, standing.cursor]

/-- The character behind the cursor. -/
theorem next?_eq
    (standing : Standing code cursor held channel invocation) :
    invocation.next? = code[cursor + 1]? := by
  rw [next?, standing.code, standing.cursor]

/-- No name is bound. -/
theorem unbound
    (standing : Standing code cursor held channel invocation)
    (name : Char) :
    invocation.functions.find? name = none := by
  rw [standing.functions]
  rfl

/-- A character that no brace follows dispatches its opcode. -/
theorem dispatched?_eq
    (standing : Standing code cursor held channel invocation)
    {c : Char}
    (present : code[cursor]? = some c)
    (nameless : code[cursor + 1]? ≠ some '\x7b') :
    invocation.dispatched? = Opcode.ofChar? c := by
  simp [dispatched?, standing.instruction?_eq, standing.next?_eq, present, nameless,
    standing.unbound c]

/-- Moving on changes nothing but the place. -/
theorem advance
    (standing : Standing code cursor held channel invocation) :
    Standing code (cursor + 1) held channel invocation.advance := by
  rw [advance_of_running standing.running]
  exact { standing with cursor := congrArg (· + 1) standing.cursor }

variable (limit : Nat)
variable (runBody : Invocation → Outcome Failure Invocation)

/-- At a literal that spells a text a step pushes it and moves behind the literal. -/
theorem step_spelled
    {content text rest : Text}
    (spells : Source.Spells content text)
    (noBackslash : '\\' ∉ text)
    (ordinary : ∀ c ∈ text ++ rest, Source.isStandIn c = false)
    (standing : Standing code cursor [] channel invocation)
    (present : code[cursor]? = some '"')
    (behind :
      code.drop (cursor + 1) =
        Source.prepareFrom (.string false) (content ++ '"' :: rest)) :
    ∃ after,
      stepWith limit runBody invocation = .done after ∧
        Standing code (cursor + 1 + content.length + 1) text channel after := by
  have behindCursor :
      invocation.behindCursor =
        Source.prepareFrom (.string false) (content ++ '"' :: rest) := by
    rw [Invocation.behindCursor, standing.code, standing.cursor, behind]
  have nameless : code[cursor + 1]? ≠ some '\x7b' := by
    rw [← standing.next?_eq]
    exact next?_ne_brace (fun _ => rfl) behindCursor
  have ordinaryBehind :
      ∀ c ∈ content ++ '"' :: rest, Source.isStandIn c = false := by
    simp only [List.forall_mem_append, List.forall_mem_cons] at ordinary ⊢
    exact ⟨spells.ordinary ordinary.1, rfl, ordinary.2⟩
  have pushed :
      (invocation.announcing '"').pushString =
        ((invocation.announcing '"').withStack
          (invocation.stack.append (text.map Cell.ofChar))).withCursor
            (invocation.cursor + 1 + content.length) := by
    have behindStill :
        (invocation.announcing '"').behindCursor =
          Source.prepareFrom (.string false) (content ++ '"' :: rest) :=
      behindCursor
    rw [pushString_prepared ordinaryBehind behindStill,
      spells.stringLength?_closing noBackslash]
    simp only [List.take_left, spells.decoded_eq noBackslash]
    rfl
  rw [stepWith_of_performed limit runBody standing.running
    (standing.instruction?_eq.trans present)
    (standing.dispatched?_eq present nameless), perform, pushed]
  refine ⟨_, rfl, advance ?_⟩
  exact {
    standing with
    cursor := congrArg (· + 1 + content.length) standing.cursor
    stack := by
      change (invocation.stack.append (text.map Cell.ofChar)).toList = _
      rw [Stack.toList_append, standing.stack]
      rfl }

/-- A character that is no instruction is stepped over. -/
theorem step_idle
    {c : Char}
    (idle : Opcode.ofChar? c = none)
    (standing : Standing code cursor held channel invocation)
    (present : code[cursor]? = some c)
    (nameless : code[cursor + 1]? ≠ some '\x7b') :
    ∃ after,
      stepWith limit runBody invocation = .done after ∧
        Standing code (cursor + 1) held channel after := by
  have nothing : invocation.dispatched? = none := by
    rw [standing.dispatched?_eq present nameless, idle]
  rw [stepWith_of_idle limit runBody standing.running
    (standing.instruction?_eq.trans present) (standing.unbound c) nothing]
  exact ⟨_, rfl, advance { standing with }⟩

/-- Behind an ampersand a step writes a stack of characters as their text. -/
theorem step_written
    (nonempty : held ≠ [])
    {source : LineSource}
    {shown : List Text}
    (standing :
      Standing code (cursor + 1) held (.console source (.text shown)) invocation)
    (whole : code[cursor]? = some '&')
    (present : code[cursor + 1]? = some 'o')
    (nameless : code[cursor + 2]? ≠ some '\x7b') :
    ∃ after,
      stepWith limit runBody invocation = .done after ∧
        Standing code (cursor + 2) []
          (.console source (.text ((held.map fun c => [c]).reverse ++ shown)))
          after := by
  have ampersand : invocation.previous? = some '&' := by
    rw [previous?, standing.cursor, standing.code]
    exact whole
  have written :
      Work.writeCharacters (invocation.announcing 'o').bench = _ :=
    Work.writeCharacters_apply nonempty standing.stack standing.channel
  rw [stepWith_of_performed limit runBody standing.running
    (standing.instruction?_eq.trans present)
    (standing.dispatched?_eq present nameless), ampersand, perform, doing]
  simp only [beq_self_eq_true, Task.perform, if_true]
  rw [working_of_ok written]
  exact ⟨_, rfl, advance { standing with stack := rfl, channel := rfl }⟩

/-- A step that terminates leaves what was shown. -/
theorem step_terminate
    (standing : Standing code cursor held channel invocation)
    (present : code[cursor]? = some ';')
    (nameless : code[cursor + 1]? ≠ some '\x7b') :
    ∃ after,
      stepWith limit runBody invocation = .done after ∧
        after.halt.isSome = true ∧
        after.channel = channel := by
  rw [stepWith_of_performed limit runBody standing.running
    (standing.instruction?_eq.trans present)
    (standing.dispatched?_eq present nameless)]
  exact ⟨_, rfl, rfl, standing.channel⟩

end Standing

/-- A step that is done leaves the rest of the run to its successor. -/
theorem run_succ_of_done
    {limit budget : Nat}
    {invocation after : Invocation}
    (running : invocation.halt = none)
    (stepped : stepWith limit (run limit budget) invocation = .done after) :
    invocation.run limit (budget + 1) = after.run limit budget := by
  simp [run, running, stepped]

/-- A program that prints a string, run from its start on. -/
theorem run_start_printing
    {content text : Text}
    (spells : Source.Spells content text)
    (nonempty : text ≠ [])
    (noBackslash : '\\' ∉ text)
    (ordinary : ∀ c ∈ text, Source.isStandIn c = false)
    (limit budget : Nat)
    (source : LineSource)
    (journal : Journal)
    (draws : Draws) :
    ∃ final,
      (start (Source.prepare (Source.printing content))
          (.console source (.text [])) journal draws).run limit (budget + 4) =
        .done final ∧
        final.channel = .console source (.text (text.map fun c => [c]).reverse) := by
  have shape := Source.prepare_printing spells noBackslash
  -- what stands behind the content
  have place (offset : Nat) :
      (Source.prepare (Source.printing content))[content.length + 1 + offset]? =
        ['"', '&', 'o', ';'][offset]? := by
    have cut :
        Source.prepare (Source.printing content) =
          ('"' :: content.map Source.conceal) ++ ['"', '&', 'o', ';'] :=
      shape
    rw [cut, List.getElem?_append_right (by simp)]
    simp
  have closing := place 0
  have ampersand := place 1
  have write := place 2
  have terminator := place 3
  have finish := place 4
  simp only [Nat.add_zero] at closing
  have ordinaryLiteral : ∀ c ∈ text ++ ['&', 'o', ';'], Source.isStandIn c = false := by
    simp only [List.forall_mem_append, List.forall_mem_cons]
    exact ⟨ordinary, rfl, rfl, rfl, by simp⟩
  have atQuote :
      Standing (Source.prepare (Source.printing content)) 0 []
        (.console source (.text []))
        (start (Source.prepare (Source.printing content))
          (.console source (.text [])) journal draws) :=
    ⟨rfl, rfl, rfl, rfl, rfl, rfl⟩
  obtain ⟨first, firstStep, atAmpersand⟩ :=
    atQuote.step_spelled limit (run limit (budget + 3)) spells noBackslash
      ordinaryLiteral rfl rfl
  rw [Nat.zero_add, Nat.add_comm 1] at atAmpersand
  obtain ⟨second, secondStep, atWrite⟩ :=
    atAmpersand.step_idle limit (run limit (budget + 2)) rfl ampersand
      (by simp [write])
  obtain ⟨third, thirdStep, atTerminator⟩ :=
    atWrite.step_written limit (run limit (budget + 1)) nonempty ampersand write
      (by simp [terminator])
  obtain ⟨final, finalStep, halted, shown⟩ :=
    atTerminator.step_terminate limit (run limit budget) terminator
      (by simp [finish])
  refine ⟨final, ?_, by simpa using shown⟩
  rw [run_succ_of_done atQuote.running firstStep,
    run_succ_of_done atAmpersand.running secondStep,
    run_succ_of_done atWrite.running thirdStep,
    run_succ_of_done atTerminator.running finalStep,
    run_of_halted limit budget halted]

end Invocation

namespace Interpreter

/-- The interpretation completed, read no line and left this output. -/
def Result.Prints
    (result : Result)
    (source : LineSource)
    (text : Text) : Prop :=
  result.verdict = .completed ∧
    ∃ shown,
      result.channel = .console source (.text shown) ∧
        (Sink.text shown).output = text

/-- A completed interpretation reports nothing, so the noting one is the same. -/
theorem evaluateNoting_of_completed
    {budget : Nat}
    {source : Text}
    {channel : Channel}
    {journal : Journal}
    {draws : Draws}
    (completed :
      (evaluate usualLimit budget source channel journal draws).verdict = .completed) :
    evaluateNoting budget source channel journal draws =
      evaluate usualLimit budget source channel journal draws := by
  simp [evaluateNoting, completed, Verdict.report?]

/--
Printing a string reproduces it.  Let a text be spelled as the content of a literal, with
its quotes escaped and its line feeds escaped or not.  Unless the text is empty or holds
a backslash or a stand-in, the program that outputs this literal loads and completes
within four steps, whatever the input is, and its output is exactly the text.
-/
theorem evaluate_printing
    {content text : Text}
    (spells : Source.Spells content text)
    (nonempty : text ≠ [])
    (noBackslash : '\\' ∉ text)
    (ordinary : ∀ c ∈ text, Source.isStandIn c = false)
    {budget : Nat}
    (enough : 4 ≤ budget)
    (source : LineSource)
    (journal : Journal)
    (draws : Draws) :
    let channel := Channel.console source (.text [])
    (∀ limit,
        (evaluate limit budget (Source.printing content) channel journal draws).Prints
          source text) ∧
      (evaluateNoting budget (Source.printing content) channel journal draws).Prints
        source text := by
  intro channel
  obtain ⟨program, loaded⟩ := Source.exists_load?_printing spells noBackslash
  have code : program.code = Source.prepare (Source.printing content) :=
    Program.load?_eq_some_iff.1 loaded
  have printed (limit : Nat) :
      (evaluate limit budget (Source.printing content) channel journal draws).Prints
        source text := by
    obtain ⟨spare, rfl⟩ := Nat.exists_eq_add_of_le' enough
    obtain ⟨final, ran, shown⟩ :=
      Invocation.run_start_printing spells nonempty noBackslash ordinary limit spare
        source journal draws
    simp only [evaluate, loaded, code, ran, channel]
    exact ⟨rfl, _, shown, by simp [Sink.output, ← List.flatMap_def]⟩
  refine ⟨printed, ?_⟩
  rw [evaluateNoting_of_completed (printed usualLimit).1]
  exact printed usualLimit

/-- A string with a quote, a number sign, a bracket and both kinds of line feed. -/
theorem evaluate_printing_of_mixed_string :
    let text : Text := ['"', '#', '[', '\n', '\'', '\n']
    let content : Text := ['\\', '"', '#', '[', '\\', 'n', '\'', '\n']
    Source.Spells content text ∧
      '\\' ∉ text ∧
      (∀ c ∈ text, Source.isStandIn c = false) ∧
      (evaluateNoting 4 (Source.printing content)
          (.console (.lines [['5']]) (.text [])) (.blank .error) default).Prints
        (.lines [['5']]) text := by
  intro text content
  have spells : Source.Spells content text :=
    .quote (.plain (by decide) (.plain (by decide) (.feed (.plain (by decide)
      (.plain (by decide) .nil)))))
  have noBackslash : '\\' ∉ text := by decide
  have noStandIn : text.all (fun c => !Source.isStandIn c) = true := rfl
  have ordinary : ∀ c ∈ text, Source.isStandIn c = false := by
    intro c member
    simpa using List.all_eq_true.1 noStandIn c member
  exact ⟨spells, noBackslash, ordinary,
    (evaluate_printing spells (by decide) noBackslash ordinary (Nat.le_refl 4) _ _ _).2⟩

end Interpreter

end StackTape
