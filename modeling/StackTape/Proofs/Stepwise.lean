import StackTape.CommandLine.Report
import StackTape.Proofs.Exhaustion
import StackTape.Proofs.Requests
import StackTape.Proofs.Sessions

namespace StackTape

/-!
# Going step by step

A program that goes step by step is the same program.  With a line of standard input for
every step it leaves on the terminal what it leaves without prompts.  A prompt comes behind
a step that succeeds, also behind the one that halts, and none comes behind a step that
fails.  Where the lines do not suffice, the step before the first prompt without one is
the last that is made.
-/

namespace CommandLine

namespace Session

/-- Without announcements and time, an answer is what was written and logged, and the end. -/
theorem answerOf_eq
    (elapsed : String)
    {session : Session}
    {source : LineSource}
    {device : Device}
    (quiet : session.options.debug = false)
    (untimed : session.options.timeit = false)
    (channel : session.invocation.channel = .console source (.plain device))
    (ending : Ending) :
    answerOf elapsed session ending =
      ⟨if ending = .completed then success else failure,
        String.ofList device.contents,
        log session.invocation.journal ++ endingReport ending⟩ := by
  have written : session.written = device.contents := by
    simp [written, device?, channel]
  simp [answerOf, closing, quiet, untimed, written]

/-- A session whose program has its own input, before its first step. -/
theorem ready_start
    {options : Options}
    (quiet : options.debug = false)
    (own : readsStandardInput options = false)
    (program : Program)
    (text : Text)
    (draws : Draws) :
    Ready text.lines.length (start options program text.encode draws) where
  apart := by
    have plain : sink options = .plain (.blank none) := by
      simp [sink, quiet]
    have given : (source options text.encode).isBytes = false := by
      unfold source
      split
      · rfl
      · rfl
      · rename_i noText wanted
        simp [readsStandardInput, noText, wanted] at own
    exact ⟨source options text.encode, .blank none,
      congrArg (Channel.console (source options text.encode)) plain, given⟩
  prompts := fun _ => ⟨text, rfl, rfl⟩

end Session

/-- Whether a program is accepted does not depend on going step by step. -/
theorem exists_program_of_prepare
    {environment : Environment}
    {options : Options}
    {session : Session}
    (accepted : prepare environment options = .ok session) :
    let started (options : Options) (program : Program) :=
      Session.start options program environment.standardInput environment.draws
    ∃ program,
      session = started options program ∧
        prepare environment { options with slow := true } =
          .ok (started { options with slow := true } program) := by
  unfold prepare at accepted ⊢
  split at accepted
  · cases accepted
  · rename_i source found
    split at accepted
    · cases accepted
    · rename_i program loaded
      split at accepted
      · cases accepted
      · rename_i valid
        cases accepted
        exact ⟨program, rfl, by simp only [found, loaded, valid]⟩

/-- A text that loads is accepted when nothing is said of time. -/
theorem prepare_of_load?
    {environment : Environment}
    {options : Options}
    {source : Text}
    {program : Program}
    (given : environment.fileBytes options.file = .ok source.encode)
    (loaded : Program.load? source = some program)
    (timeless : options.time = none) :
    prepare environment options =
      .ok
        (.start options program environment.standardInput environment.draws) := by
  have found : sourceIn environment options.file = .ok source := by
    simp [sourceIn, given, bind, Except.bind, pure, Except.pure]
  simp [prepare, found, loaded, timeless]

/-- Every budget that is great enough gives this answer to the arguments. -/
def Settles
    (environment : Environment)
    (arguments : List Text)
    (settled : Answer) : Prop :=
  ∃ enough, ∀ budget, enough ≤ budget →
    answer budget environment arguments = settled

/-- The answer to arguments for a run whose session ends. -/
theorem settles_of_ends
    {environment : Environment}
    {arguments : List Text}
    {options : Options}
    {session : Session}
    {count : Nat}
    {final : Invocation}
    {ending : Ending}
    {source : LineSource}
    {device : Device}
    (asked : readArguments arguments = .run options)
    (accepted : prepare environment options = .ok session)
    (quiet : session.options.debug = false)
    (untimed : session.options.timeit = false)
    (ends : session.Ends count final ending)
    (channel : final.channel = .console source (.plain device)) :
    Settles environment arguments
      ⟨if ending = .completed then success else failure,
        String.ofList device.contents,
        log final.journal ++ endingReport ending⟩ := by
  obtain ⟨last, rfl, options, enough, ran⟩ := ends
  refine ⟨enough, fun budget greater => ?_⟩
  simp only [answer, asked, Request.options, accepted, (ran budget greater).1]
  exact Session.answerOf_eq _ (options ▸ quiet) (options ▸ untimed) channel ending

/--
Going step by step, a program that leaves standard input alone ends as it does without
prompts: it makes the same steps, and the answer is the same, whenever it halts after no
more steps than standard input has lines, or after no more before one that fails.  When it
can make one step more than there are lines, then it makes just these steps; the answer is
a failure, with what they wrote and with the report that standard input was closed.  The
flag for going step by step can stand in front of all other arguments.
-/
theorem stepwise_as_without_prompts
    {environment : Environment}
    {arguments slowArguments : List Text}
    {options : Options}
    {session : Session}
    {text : Text}
    (asked : readArguments arguments = .run options)
    (slowlyAsked : readArguments slowArguments = .run { options with slow := true })
    (swift : options.slow = false)
    (quiet : options.debug = false)
    (untimed : options.timeit = false)
    (own : Session.readsStandardInput options = false)
    (accepted : prepare environment options = .ok session)
    (isText : LineSource.decode? environment.standardInput = some text) :
    let lines := text.lines.length
    let limit := Interpreter.usualLimit
    readArguments (['-', 's'] :: arguments) = .run { options with slow := true } ∧
      ∃ slowSession,
        prepare environment { options with slow := true } = .ok slowSession ∧
          slowSession.invocation = session.invocation ∧
          (∀ budget last,
            session.run budget = (last, .completed) →
            session.stepsBegun budget ≤ lines →
              slowSession.Ends (session.stepsBegun budget) last.invocation .completed ∧
                ∃ settled,
                  Settles environment arguments settled ∧
                    Settles environment slowArguments settled ∧
                    settled.exit = success) ∧
          (∀ budget last failed,
            session.run budget = (last, .failed failed) →
            session.stepsBegun budget ≤ lines + 1 →
              slowSession.Ends (session.stepsBegun budget) last.invocation
                  (.failed failed) ∧
                ∃ settled,
                  Settles environment arguments settled ∧
                    Settles environment slowArguments settled ∧
                    settled.exit = failure) ∧
            ∀ after,
              Invocation.MakesSteps limit (lines + 1) session.invocation after →
                slowSession.Ends (lines + 1) after .closed ∧
                  ∃ source device,
                    after.channel = .console source (.plain device) ∧
                      Settles environment slowArguments
                        ⟨failure,
                          String.ofList device.contents,
                          log after.journal ++
                            "standard input closed during step-by-step execution\n"⟩ := by
  intro lines limit
  obtain ⟨program, rfl, slowlyAccepted⟩ := exists_program_of_prepare accepted
  have bytes := LineSource.eq_encode_of_decode? isText
  rw [bytes] at accepted slowlyAccepted ⊢
  have ready := Session.ready_start quiet own program text environment.draws
  have slowReady :
      Session.Ready lines
        (.start { options with slow := true } program text.encode environment.draws) :=
    @Session.ready_start { options with slow := true } quiet own program text
      environment.draws
  refine ⟨readArguments_slow asked swift, _, slowlyAccepted, rfl, ?halted, ?failed,
    ?closed⟩
  case halted =>
    intro budget last ran few
    obtain ⟨makes, halted⟩ := (ready.of_swift swift 0).makesSteps_of_completed swift ran
    have ends := ready.ends_of_halted few makes halted
    have slowEnds := slowReady.ends_of_halted few makes halted
    obtain ⟨source, device, channel, -⟩ := makes.isApart ready.apart
    exact ⟨slowEnds, _, settles_of_ends asked accepted quiet untimed ends channel,
      settles_of_ends slowlyAsked slowlyAccepted quiet untimed slowEnds channel, rfl⟩
  case failed =>
    intro budget last failed ran few
    obtain ⟨count, before, smaller, counted, makes, running, stepped⟩ :=
      (ready.of_swift swift 0).makesSteps_of_failed swift ran
    rw [counted] at few ⊢
    have fewer : count ≤ lines := Nat.le_of_succ_le_succ few
    have ends := ready.ends_of_failed fewer makes running stepped
    have slowEnds := slowReady.ends_of_failed fewer makes running stepped
    obtain ⟨source, device, channel, -⟩ :=
      Invocation.isApart_of_step (by rw [stepped]; rfl) (makes.isApart ready.apart)
    exact ⟨slowEnds, _, settles_of_ends asked accepted quiet untimed ends channel,
      settles_of_ends slowlyAsked slowlyAccepted quiet untimed slowEnds channel, rfl⟩
  case closed =>
    intro after makes
    have ends := slowReady.ends_of_closed rfl makes
    obtain ⟨source, device, channel, -⟩ := makes.isApart ready.apart
    exact ⟨ends, source, device, channel,
      settles_of_ends slowlyAsked slowlyAccepted quiet untimed ends channel⟩

/--
Four steps with a prompt behind each need four lines.  Three steps need only two when the
third one fails.
-/
theorem stepwise_as_without_prompts_of_few_lines :
    let environment (source : String) (lines : Nat) : Environment :=
      { fileBytes := fun _ => .ok (Text.encode source.toList)
        standardInput := Text.encode (List.replicate lines '\n')
        draws := default
        elapsed := "" }
    let arguments : List Text := ["--no-input".toList, ['f']]
    let slowArguments := ['-', 's'] :: arguments
    (∃ settled,
        Settles (environment "1u2" 4) arguments settled ∧
          Settles (environment "1u2" 4) slowArguments settled ∧
          settled.exit = success) ∧
      (∃ settled,
        Settles (environment "1uu" 2) arguments settled ∧
          Settles (environment "1uu" 2) slowArguments settled ∧
          settled.exit = failure) ∧
      Settles (environment "1u2" 3) slowArguments
        ⟨failure, "12", "standard input closed during step-by-step execution\n"⟩ := by
  intro environment arguments slowArguments
  let options : Options := ⟨['f'], false, false, none, none, false, true⟩
  have asked : readArguments arguments = .run options := by decide +kernel
  have slowlyAsked := readArguments_slow asked rfl
  let session (program : Program) (lines : Nat) :=
    Session.start options program (Text.encode (List.replicate lines '\n')) default
  have accepted
      {source : String}
      {program : Program}
      (loaded : Program.load? source.toList = some program)
      (lines : Nat) :
      prepare (environment source lines) options = .ok (session program lines) :=
    prepare_of_load? rfl loaded rfl
  have isText (lines : Nat) :
      LineSource.decode? (Text.encode (List.replicate lines '\n')) =
        some (List.replicate lines '\n') :=
    LineSource.decode?_encode _
  let printing : Program := ⟨"1u2".toList, by decide +kernel⟩
  have prints : Program.load? "1u2".toList = some printing :=
    Program.load?_eq_some_iff.2 (by decide +kernel)
  refine ⟨?halted, ?failed, ?closed⟩
  case halted =>
    have halts : ((session printing 4).run 10).2 = .completed := by decide +kernel
    have few : (session printing 4).stepsBegun 10 ≤ 4 := by decide +kernel
    obtain ⟨-, _, -, -, whole, -, -⟩ :=
      stepwise_as_without_prompts asked slowlyAsked rfl rfl rfl rfl (accepted prints 4)
        (isText 4)
    exact (whole 10 _ (Prod.ext rfl halts) few).2
  case failed =>
    let failing : Program := ⟨"1uu".toList, by decide +kernel⟩
    have fails : Program.load? "1uu".toList = some failing :=
      Program.load?_eq_some_iff.2 (by decide +kernel)
    have stops :
        ((session failing 2).run 10).2 = .failed ⟨2, some 'u', .emptyStack .pop⟩ := by
      decide +kernel
    have few : (session failing 2).stepsBegun 10 ≤ 2 + 1 := by decide +kernel
    obtain ⟨-, _, -, -, -, part, -⟩ :=
      stepwise_as_without_prompts asked slowlyAsked rfl rfl rfl rfl (accepted fails 2)
        (isText 2)
    exact (part 10 _ _ (Prod.ext rfl stops) few).2
  case closed =>
    -- without prompts, four steps are made, for which there are three lines
    have ready : Session.Ready 3 (session printing 3) :=
      @Session.ready_start options rfl rfl printing (List.replicate 3 '\n') default
    have halts : ((session printing 3).run 10).2 = .completed := by decide +kernel
    have counted : (session printing 3).stepsBegun 10 = 4 := by decide +kernel
    obtain ⟨makes, -⟩ :=
      (ready.of_swift rfl 0).makesSteps_of_completed rfl (Prod.ext rfl halts)
    rw [counted] at makes
    obtain ⟨-, _, -, -, -, -, short⟩ :=
      stepwise_as_without_prompts asked slowlyAsked rfl rfl rfl rfl (accepted prints 3)
        (isText 3)
    obtain ⟨-, source, device, channel, settled⟩ := short _ makes
    have shown :
        ((session printing 3).run 10).1.invocation.channel =
          .console .emptyLines (.plain ⟨none, [['2'], ['1']]⟩) := by
      decide +kernel
    have logged : log ((session printing 3).run 10).1.invocation.journal = "" := by
      decide +kernel
    rw [channel] at shown
    cases shown
    rw [logged] at settled
    exact settled

end CommandLine

end StackTape
