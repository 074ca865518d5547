import Mathlib.Data.Nat.Factorial.Basic
import StackTape.Proofs.CallerNumbers
import StackTape.Proofs.Printing
import StackTape.Proofs.Structured.Countdown

namespace StackTape

/-!
# A program for factorials

The program reads a positive number and prints its factorial.  Its first loop counts down
to zero and leaves the number and all lower ones on the stack.  Its second loop multiplies
the two topmost numbers as long as there are two, and finds that in the length of the
stack.  Both loops count down, so each has an invariant that is indexed by its counter.
-/

namespace Source

/-- The source text of the program. -/
def factorial : Text :=
  "# reads n (at least 1) and prints n!\n".toList ++
  "n[:,]      # n n-1 ... 1 0\n".toList ++
  "p          # drop the 0\n".toList ++
  "y,[p*y,]p  # multiply until one value is left\n".toList ++
  "u;\n".toList

end Source

namespace Structured

open Nat (factorial)

/-- The script of the program, without its comments. -/
def factorialScript : Script :=
  .sequence "\nn".toList
    (.loop (.sequence ":,".toList .stop)
      (.sequence "      \np          \ny,".toList
        (.loop (.sequence "p*y,".toList .stop)
          (.sequence "p  \nu".toList
            (.atom (.instruction ';') (.sequence "\n".toList .stop))))))

theorem isScriptOf_factorialScript :
    factorialScript.IsScriptOf (Source.prepare Source.factorial) where
  text := by decide +kernel
  fits := by
    have last : (Script.atom (.instruction ';') (.sequence "\n".toList .stop)).Fits [] :=
      .atom (.instruction rfl (by decide) (by decide)) (.sequence (by decide) .stop)
    have multiplies :
        (Script.loop (.sequence "p*y,".toList .stop)
          (.sequence "p  \nu".toList
            (.atom (.instruction ';') (.sequence "\n".toList .stop)))).Fits [] :=
      .loop (.sequence (by decide) .stop) (.sequence (by decide) last)
    exact .sequence (by decide)
      (.loop (.sequence (by decide) .stop) (.sequence (by decide) multiplies))

/-! ## Single instructions -/

section

variable (limit : Nat)
variable {state : State}
variable (noFunctions : state.functions = .empty)
variable (stack : Stack)
variable (channel : Channel)

include noFunctions

theorem unbound_of_holding
    (c : Char) :
    (state.holding stack channel).functions.find? c = none := by
  change state.functions.find? c = none
  rw [noFunctions]
  rfl

/-- What a task makes of the stack and the channel is what its instruction makes of them. -/
theorem carries_task
    {c : Char}
    {task : Task}
    (known : Opcode.ofChar? c = some (.task task))
    {after : Stack}
    {taken : Channel}
    (worked :
      task.perform false ⟨stack, channel, .blank .error, state.draws, state.waits⟩ =
        .ok () ⟨after, taken, .blank .error, state.draws, state.waits⟩) :
    Carries limit [c] (state.holding stack channel) (state.holding after taken) :=
  .of_task known (unbound_of_holding noFunctions stack channel c) worked

theorem carries_idle
    {text : Text}
    (noAmpersand : '&' ∉ text)
    (idle : text.all (fun c => (Opcode.ofChar? c).isNone) = true) :
    Carries limit text (state.holding stack channel) (state.holding stack channel) :=
  .of_idle noAmpersand
    (fun c member => Option.isNone_iff_eq_none.1 (List.all_eq_true.1 idle c member))
    fun c _ => unbound_of_holding noFunctions stack channel c

theorem carries_readNumber
    {source rest : LineSource}
    {sink : Sink}
    {value : Int}
    (given : source.read = (.line (Cell.text (.int value)), rest)) :
    Carries limit ['n'] (state.holding stack (.console source sink))
      (state.holding (stack.push (.int value)) (.console rest sink)) := by
  have known : Opcode.ofChar? 'n' = some (.task .readNumber) := rfl
  refine carries_task limit noFunctions stack _ known ?_
  have filled : (Channel.console source sink).read.1.fill = .ok (some value) := by
    rw [Channel.read, given]
    exact Reading.fill_text_int value
  have behind : (Channel.console source sink).read.2 = .console rest sink := by
    rw [Channel.read, given]
  let bench : Bench :=
    ⟨stack, .console source sink, .blank .error, state.draws, state.waits⟩
  have read : Work.readNumber bench = _ := Invocation.readNumber_apply filled
  rw [Task.perform, if_neg (by decide), ← behind]
  exact read

theorem carries_duplicate
    (cell : Cell) :
    Carries limit [':'] (state.holding (stack.push cell) channel)
      (state.holding ((stack.push cell).push cell) channel) :=
  carries_task limit noFunctions _ _ rfl rfl

theorem carries_pop
    (cell : Cell) :
    Carries limit ['p'] (state.holding (stack.push cell) channel)
      (state.holding stack channel) :=
  carries_task limit noFunctions _ _ rfl rfl

theorem carries_length :
    Carries limit ['y'] (state.holding stack channel)
      (state.holding (stack.push (.int stack.length)) channel) :=
  carries_task limit noFunctions _ _ rfl rfl

theorem carries_decrement
    (value : Int) :
    Carries limit [','] (state.holding (stack.push (.int value)) channel)
      (state.holding (stack.push (.int (value - 1))) channel) :=
  carries_task limit noFunctions _ _ rfl rfl

/-- Without its top cell a stack has as many cells as are counted. -/
theorem carries_measure
    {counter : Nat}
    (length : stack.length = counter + 1) :
    Carries limit "y,".toList (state.holding stack channel)
      (state.holding (stack.push (.int counter)) channel) := by
  have measured := carries_length limit noFunctions stack channel
  rw [length] at measured
  have lowered := carries_decrement limit noFunctions stack channel (counter + 1 : Nat)
  rw [Nat.cast_succ, Int.add_sub_cancel] at lowered
  exact measured.append lowered

theorem carries_multiply
    (left right : Int) :
    Carries limit ['*'] (state.holding ((stack.push (.int left)).push (.int right)) channel)
      (state.holding (stack.push (.int (left * right))) channel) :=
  carries_task limit noFunctions _ _ rfl rfl

theorem carries_writeNumber
    (cell : Cell)
    (source : LineSource)
    (shown : List Text) :
    Carries limit ['u'] (state.holding (stack.push cell) (.console source (.text shown)))
      (state.holding stack (.console source (.text (cell.text :: shown)))) :=
  carries_task limit noFunctions _ _ rfl rfl

end

/-! ## The invariants of the loops -/

/-- A number and the next lower ones, so many in all, the lowest one on top. -/
def descending (n : Nat) : Nat → Stack
  | 0 =>
      .empty
  | count + 1 =>
      (descending n count).push (.int (n - count : Nat))

/-- What the first loop works on: the numbers above the counter, and the counter. -/
def counting (n counter : Nat) : Stack :=
  (descending n (n - counter)).push (.int counter)

/--
What the second loop works on: as many numbers as the counter says, the product of all
others, and the counter.
-/
def multiplying (n counter : Nat) : Stack :=
  ((descending n counter).push (.int (factorial (n - counter)))).push (.int counter)

theorem length_descending
    (n count : Nat) :
    (descending n count).length = count := by
  induction count with
  | zero =>
      rfl
  | succ count inductionHypothesis =>
      exact congrArg (· + 1) inductionHypothesis

/-- Counting down one further leaves one more number. -/
theorem descending_sub
    {n counter : Nat}
    (below : counter < n) :
    descending n (n - counter) =
      (descending n (n - (counter + 1))).push (.int (counter + 1 : Nat)) := by
  have count : n - counter = n - (counter + 1) + 1 := by omega
  have lowest : n - (n - (counter + 1)) = counter + 1 := by omega
  rw [count, descending, lowest]

section

variable (limit : Nat)
variable {state : State}
variable (noFunctions : state.functions = .empty)
variable (channel : Channel)
variable {n counter : Nat}
variable (below : counter < n)

include noFunctions below

/-- The first loop leaves its counter and goes on with the next lower one. -/
theorem carries_counting :
    Carries limit ":,".toList (state.holding (counting n (counter + 1)) channel)
      (state.holding (counting n counter) channel) := by
  have twice :
      Carries limit [':'] (state.holding (counting n (counter + 1)) channel)
        (state.holding ((descending n (n - counter)).push (.int (counter + 1 : Nat)))
          channel) := by
    rw [descending_sub below]
    exact carries_duplicate limit noFunctions _ channel _
  have lowered :=
    carries_decrement limit noFunctions (descending n (n - counter)) channel
      (counter + 1 : Nat)
  rw [Nat.cast_succ, Int.add_sub_cancel] at lowered
  exact twice.append lowered

/-- The second loop multiplies once, and counts what is left below the product. -/
theorem carries_multiplying :
    Carries limit "p*y,".toList (state.holding (multiplying n (counter + 1)) channel)
      (state.holding (multiplying n counter) channel) := by
  let product := (descending n counter).push (.int (factorial (n - counter)))
  have dropped :=
    carries_pop limit noFunctions
      ((descending n (counter + 1)).push (.int (factorial (n - (counter + 1))))) channel
      (.int (counter + 1 : Nat))
  have multiplied :=
    carries_multiply limit noFunctions (descending n counter) channel
      (n - counter : Nat) (factorial (n - (counter + 1)))
  have oneMore : n - counter = n - (counter + 1) + 1 := by omega
  have next :
      ((n - counter : Nat) : Int) * factorial (n - (counter + 1)) =
        factorial (n - counter) := by
    rw [oneMore, Nat.factorial_succ, Nat.cast_mul]
  rw [next] at multiplied
  have length : product.length = counter + 1 :=
    congrArg (· + 1) (length_descending n counter)
  exact (dropped.append multiplied).append
    (carries_measure limit noFunctions product channel length)

end

/-! ## The run of the program -/

section

variable (limit : Nat)
variable {state : State}
variable (noFunctions : state.functions = .empty)
variable {n : Nat}
variable {source rest : LineSource}
variable (sink : Sink)
variable (shown : List Text)

include noFunctions

/-- The number is read, and the first loop counts down from it. -/
theorem carries_entry
    (given : source.read = (.line (Decimal.digits n), rest)) :
    Carries limit "\nn".toList (state.holding .empty (.console source sink))
      (state.holding (counting n n) (.console rest sink)) := by
  have blank :
      Carries limit ['\n'] (state.holding .empty (.console source sink)) _ :=
    carries_idle limit noFunctions _ _ (by decide) (by decide)
  have read :
      Carries limit ['n'] (state.holding .empty (.console source sink))
        (state.holding (Stack.empty.push (.int n)) (.console rest sink)) :=
    carries_readNumber limit noFunctions .empty given
  have first : counting n n = Stack.empty.push (.int n) := by
    rw [counting, Nat.sub_self]
    rfl
  rw [first]
  exact blank.append read

/-- Between the loops zero is dropped, and all numbers but the lowest one are counted. -/
theorem carries_between
    (channel : Channel)
    (positive : 0 < n) :
    Carries limit "      \np          \ny,".toList
      (state.holding (counting n 0) channel)
      (state.holding (multiplying n (n - 1)) channel) := by
  obtain ⟨lower, rfl⟩ := Nat.exists_eq_add_one_of_ne_zero positive.ne'
  let numbers := descending (lower + 1) (lower + 1)
  have blank :
      Carries limit "      \n".toList (state.holding (counting (lower + 1) 0) channel) _ :=
    carries_idle limit noFunctions _ channel (by decide) (by decide)
  have dropped := carries_pop limit noFunctions numbers channel (.int 0)
  have blankAgain :
      Carries limit "          \n".toList (state.holding numbers channel) _ :=
    carries_idle limit noFunctions _ channel (by decide) (by decide)
  have measured :=
    carries_measure limit noFunctions numbers channel (length_descending _ (lower + 1))
  -- the lowest number is the product of the one number that is left out
  have last : multiplying (lower + 1) lower = numbers.push (.int lower) := by
    rw [multiplying, Nat.add_sub_cancel_left]
    simp [numbers, descending]
  rw [Nat.add_sub_cancel, last]
  exact ((blank.append dropped).append blankAgain).append measured

/-- Behind the second loop the product is output. -/
theorem carries_exit :
    Carries limit "p  \nu".toList
      (state.holding (multiplying n 0) (.console rest (.text shown)))
      (state.holding .empty
        (.console rest (.text (Decimal.digits (factorial n) :: shown)))) := by
  let product := Stack.empty.push (.int (factorial n))
  let channel := Channel.console rest (.text shown)
  have dropped := carries_pop limit noFunctions product channel (.int 0)
  have blank : Carries limit "  \n".toList (state.holding product channel) _ :=
    carries_idle limit noFunctions _ channel (by decide) (by decide)
  exact (dropped.append blank).append
    (carries_writeNumber limit noFunctions .empty (.int (factorial n)) rest shown)

theorem runs_terminator
    (stack : Stack)
    (channel : Channel)
    (place : Place) :
    Runs limit place (.atom (.instruction ';') (.sequence "\n".toList .stop))
      (state.holding stack channel) (.stopped (state.holding stack channel)) :=
  .atomEnds (unbound_of_holding noFunctions stack channel ';') rfl rfl

/-- The script runs until it terminates, with the factorial of the line as its output. -/
theorem runs_factorialScript
    (positive : 0 < n)
    (given : source.read = (.line (Decimal.digits n), rest)) :
    Runs limit .start factorialScript
      (state.holding .empty (.console source (.text shown)))
      (.stopped
        (state.holding .empty
          (.console rest (.text (Decimal.digits (factorial n) :: shown))))) := by
  let channel := Channel.console rest (.text shown)
  let first (counter : Nat) := state.holding (counting n counter) channel
  let second (counter : Nat) := state.holding (multiplying n counter) channel
  have firstTop (counter : Nat) : (first counter).isTopTrue = decide (counter ≠ 0) :=
    state.isTopTrue_of_counter _ channel counter
  have secondTop (counter : Nat) : (second counter).isTopTrue = decide (counter ≠ 0) :=
    state.isTopTrue_of_counter _ channel counter
  refine (carries_entry limit noFunctions (.text shown) given).runs nofun rfl ?_
  refine .of_countdown first n (fun lower _ => firstTop (lower + 1))
    (fun _ below => carries_counting limit noFunctions channel below) (firstTop 0) ?_
  refine (carries_between limit noFunctions channel positive).runs (by decide) rfl ?_
  refine .of_countdown second (n - 1) (fun lower _ => secondTop (lower + 1))
    (fun _ below => carries_multiplying limit noFunctions channel (by omega))
    (secondTop 0) ?_
  exact (carries_exit limit noFunctions shown).runs (by decide) rfl
    (runs_terminator limit noFunctions _ _ _)

end

end Structured

namespace Interpreter

open Nat (factorial)

/-- The program loads without its comments, in a form that has a script. -/
theorem exists_load?_factorial :
    ∃ program,
      Program.load? Source.factorial = some program ∧
        program.code = Source.prepare Source.factorial ∧
        Source.IsRegular program.code := by
  have nested := Structured.isScriptOf_factorialScript.fits.nested
  rw [Structured.isScriptOf_factorialScript.text] at nested
  let program : Program :=
    ⟨Source.prepare Source.factorial, Source.isBalanced_iff_nested.2 nested⟩
  have loaded : Program.load? Source.factorial = some program :=
    Program.load?_eq_some_iff.2 rfl
  have names : Source.hasPlainNames (Source.prepare Source.factorial) = true := by
    decide +kernel
  exact ⟨program, loaded, rfl, Source.isLoaded_of_load? loaded, names⟩

/-- The run of the program from its start on. -/
theorem exists_run_factorial
    {program : Program}
    (code : program.code = Source.prepare Source.factorial)
    (regular : Source.IsRegular program.code)
    {n : Nat}
    (positive : 0 < n)
    {source rest : LineSource}
    (given : source.read = (.line (Decimal.digits n), rest))
    (limit : Nat)
    (journal : Journal)
    (draws : Draws) :
    ∃ enough final,
      (Invocation.start program.code (.console source (.text [])) journal draws).run limit
          enough = .done final ∧
        final.halt = some .terminated ∧
        final.stack = .empty ∧
        final.channel = .console rest (.text [Decimal.digits (factorial n)]) := by
  let beginning :=
    Invocation.start program.code (.console source (.text [])) journal draws
  have isScript : Structured.factorialScript.IsScriptOf beginning.code := by
    have same : beginning.code = Source.prepare Source.factorial := code
    rw [same]
    exact Structured.isScriptOf_factorialScript
  have noFunctions : (Structured.State.of beginning).functions = .empty := rfl
  have runs :=
    Structured.runs_factorialScript limit noFunctions [] positive given
  have concludes :
      Structured.factorialScript.Concludes limit (.of beginning)
        ⟨none, some .terminated,
          (Structured.State.of beginning).holding .empty
            (.console rest (.text [Decimal.digits (factorial n)]))⟩ :=
    ⟨_, runs, rfl⟩
  have tidy : (Structured.State.of beginning).Tidy := by
    intro name body found
    cases found
  obtain ⟨enough, concluded⟩ :=
    (Structured.concludes_iff limit regular tidy rfl rfl isScript _).2 concludes
  cases ran : beginning.run limit enough with
  | done final =>
      rw [ran, Structured.conclusion?, Option.some.injEq, Structured.Conclusion.mk.injEq]
        at concluded
      obtain ⟨-, halted, state⟩ := concluded
      exact ⟨enough, final, ran, halted, congrArg Structured.State.stack state,
        congrArg Structured.State.channel state⟩
  | failed failure final | unfinished =>
      rw [ran] at concluded
      cases concluded

/--
The program for factorials computes them.  Whenever the first line of its input is the
decimal text of a positive number, of whatever size, it loads and terminates with an empty
stack; it has read no further line, and its output is the decimal text of the factorial.
-/
theorem factorial_computed
    {n : Nat}
    (positive : 0 < n)
    {source rest : LineSource}
    (given : source.read = (.line (Decimal.digits n), rest))
    (limit : Nat)
    (journal : Journal)
    (draws : Draws) :
    let channel := Channel.console source (.text [])
    let shown := Decimal.digits (factorial n)
    ∃ program enough,
      Program.load? Source.factorial = some program ∧
        ∀ budget, enough ≤ budget →
          (∃ final,
              (Invocation.start program.code channel journal draws).run limit budget =
                  .done final ∧
                final.halt = some .terminated ∧
                final.stack = .empty ∧
                final.channel = .console rest (.text [shown])) ∧
            (evaluate limit budget Source.factorial channel journal draws).Prints rest
              shown := by
  intro channel shown
  obtain ⟨program, loaded, code, regular⟩ := exists_load?_factorial
  obtain ⟨enough, final, ran, halted, stack, output⟩ :=
    exists_run_factorial code regular positive given limit journal draws
  refine ⟨program, enough, loaded, fun budget greater => ?_⟩
  have ranOn :
      (Invocation.start program.code channel journal draws).run limit budget =
        .done final := by
    rw [Invocation.run_eq_of_finished limit (by rw [ran]; exact nofun) greater, ran]
  refine ⟨⟨final, ranOn, halted, stack, output⟩, ?_⟩
  simp only [evaluate, loaded, ranOn]
  exact ⟨rfl, _, output, by simp [Sink.output, shown]⟩

/-- One needs no multiplication; a greater number is read from bytes that hold more. -/
theorem factorial_computed_of_one_and_twenty_one :
    (∃ enough, ∀ budget, enough ≤ budget →
        (evaluate 0 budget Source.factorial (.console (.lines [['1']]) (.text []))
            (.blank .error) default).Prints
          (.lines []) ['1']) ∧
      ∃ enough, ∀ budget, enough ≤ budget →
        (evaluate usualLimit budget Source.factorial
            (.console (.bytes [0x32, 0x31, 0x0A, 0x37]) (.text [])) (.blank .error)
            default).Prints
          (.bytes [0x37]) "51090942171709440000".toList := by
  constructor
  · have given : (LineSource.lines [['1']]).read = (.line (Decimal.digits 1), .lines []) := by
      decide +kernel
    obtain ⟨program, enough, -, prints⟩ :=
      factorial_computed (by decide) given 0 (.blank .error) default
    exact ⟨enough, fun budget greater => (prints budget greater).2⟩
  · have given :
        (LineSource.bytes [0x32, 0x31, 0x0A, 0x37]).read =
          (.line (Decimal.digits 21), .bytes [0x37]) := by
      decide +kernel
    have shown : Decimal.digits (factorial 21) = "51090942171709440000".toList := by
      decide +kernel
    obtain ⟨program, enough, -, prints⟩ :=
      factorial_computed (by decide) given usualLimit (.blank .error) default
    rw [← shown]
    exact ⟨enough, fun budget greater => (prints budget greater).2⟩

end Interpreter

end StackTape
