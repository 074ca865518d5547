import StackTape.Proofs.Frame

namespace StackTape

/-!
# Calls

A called function works on its caller's current stack: it takes cells off as lines of
input and puts back what it emits.  As long as it takes before it gives, it could as
well have run on its own, with the caller's cells as input lines and a place that keeps
its emissions.
-/

namespace Exchange

/-- Nothing is read any more once something was emitted. -/
def ReadsFirst (exchanges : List Exchange) : Prop :=
  exchanges.Pairwise fun earlier later =>
    earlier.isWrite = true → later.isRead = false

theorem readsFirst_append
    {first second : List Exchange}
    (unwritten : ∀ exchange ∈ first, exchange.isWrite = false)
    (unread : ∀ exchange ∈ second, exchange.isRead = false) :
    ReadsFirst (first ++ second) := by
  refine List.pairwise_append.2 ⟨?_, ?_, ?_⟩
  · refine List.pairwise_of_forall_mem_list fun earlier member _ _ wrote => ?_
    rw [unwritten earlier member] at wrote
    cases wrote
  · exact List.pairwise_of_forall_mem_list fun _ _ later member _ =>
      unread later member
  · exact fun _ _ later member _ => unread later member

end Exchange

namespace Channel.Answers

/-- Emissions alone are kept in order, and every stack takes them in that order. -/
theorem exists_emissions
    {source : LineSource}
    {kept : List Emission}
    {exchanges : List Exchange}
    {final : Channel}
    (answers : Answers (.console source (.emissions kept)) exchanges final)
    (unread : ∀ exchange ∈ exchanges, exchange.isRead = false) :
    ∃ emissions : List Emission,
      final = .console source (.emissions (emissions.reverse ++ kept)) ∧
        ∀ stack : Stack,
          Answers (.caller stack) exchanges
            (.caller (stack.append (emissions.flatMap returned))) := by
  induction exchanges generalizing kept with
  | nil =>
      cases answers
      exact ⟨[], rfl, fun stack => .nothing⟩
  | cons exchange rest inductionHypothesis =>
      cases answers with
      | read given onward =>
          simp [Exchange.isRead] at unread
      | refused given onward =>
          cases given
      | taken given onward =>
          rename_i next emission
          cases given
          obtain ⟨emissions, same, taken⟩ :=
            inductionHypothesis onward fun exchange member =>
              unread exchange (.tail _ member)
          refine ⟨emission :: emissions, by simp [same], fun stack => ?_⟩
          have behind := taken (stack.append (returned emission))
          rw [Stack.append_append] at behind
          exact .taken rfl behind

/--
Lines that are the texts of cells, and then a place for emissions, answer like the
stack of these cells.
-/
theorem exists_consumed
    {cells : List Cell}
    {exchanges : List Exchange}
    {final : Channel}
    (answers :
      Answers (.console (.lines (cells.map Cell.text)) (.emissions [])) exchanges
        final)
    (ordered : Exchange.ReadsFirst exchanges) :
    ∃ (consumed : Nat) (emissions : List Emission),
      consumed ≤ cells.length ∧
        final =
          .console (.lines ((cells.drop consumed).map Cell.text))
            (.emissions emissions.reverse) ∧
        Answers (.caller ⟨cells⟩) exchanges
          (.caller
            (Stack.append ⟨cells.drop consumed⟩
              (emissions.flatMap returned))) := by
  induction exchanges generalizing cells with
  | nil =>
      cases answers
      exact ⟨0, [], Nat.zero_le _, rfl, .nothing⟩
  | cons exchange rest inductionHypothesis =>
      cases answers with
      | read given onward =>
          have onwardOrdered := (List.pairwise_cons.1 ordered).2
          cases cells with
          | nil =>
              cases given
              have stillNone :
                  Answers
                    (.console (.lines (([] : List Cell).map Cell.text))
                      (.emissions []))
                    rest final :=
                onward
              obtain ⟨consumed, emissions, few, same, behind⟩ :=
                inductionHypothesis stillNone onwardOrdered
              exact ⟨consumed, emissions, few, same, .read rfl behind⟩
          | cons top below =>
              cases given
              obtain ⟨consumed, emissions, few, same, behind⟩ :=
                inductionHypothesis onward onwardOrdered
              exact ⟨consumed + 1, emissions, Nat.succ_le_succ few, same,
                .read rfl behind⟩
      | refused given onward =>
          cases given
      | taken given onward =>
          rename_i next emission
          -- from here on only emissions follow
          have unread :
              ∀ later ∈ Exchange.taken emission :: rest,
                later.isRead = false := by
            intro later member
            rcases List.mem_cons.1 member with rfl | behind
            · rfl
            · exact (List.pairwise_cons.1 ordered).1 later behind rfl
          obtain ⟨emissions, same, taken⟩ :=
            (Answers.taken given onward).exists_emissions unread
          exact ⟨0, emissions, Nat.zero_le _, by simpa using same, taken _⟩

end Channel.Answers

namespace Invocation

/--
A function body that runs on its own, with the functions and at the depth that a call
would give it: the caller's cells are its lines, the top one first, and its emissions
are kept.
-/
def apart
    (caller : Invocation)
    (body : Text) : Invocation :=
  { caller.enter body with
    channel :=
      .console (.lines (caller.stack.topFirst.map Cell.text)) (.emissions []) }

/--
The caller after a function that used up this many of its cells and then gave this
back.
-/
def givenBack
    (caller : Invocation)
    (consumed : Nat)
    (emissions : List Emission)
    (callee : Invocation) : Invocation :=
  { caller with
    tape :=
      caller.tape.withCurrent
        (Stack.append ⟨caller.stack.topFirst.drop consumed⟩
          (emissions.flatMap Channel.returned))
    journal := callee.journal
    draws := callee.draws
    waits := callee.waits }

/-- How a call of this name ends when the function comes to this end. -/
def endOfCall
    (name : Char)
    (give : Invocation → Invocation) :
    Outcome Failure Invocation → Outcome Fault Invocation
  | .done callee =>
      .done (give callee)
  | .failed failure callee =>
      .failed (failure.raisedBy name) (give callee)
  | .unfinished =>
      .unfinished

/--
A call ends as the function does on its own.  If that run emits nothing before it reads
for the last time, the cells that it used up as lines are gone from the caller's stack,
what it emitted is on top of the others, and nothing else of the caller has changed.
-/
theorem call_eq_endOfCall_apart
    {limit budget : Nat}
    {caller : Invocation}
    (name : Char)
    {body : Text}
    {traffic : Traffic}
    (shallow : caller.depth < limit)
    (traffics : HasTraffic (run limit budget) (caller.apart body) traffic)
    (ordered : Exchange.ReadsFirst traffic.exchanges) :
    ∃ (consumed : Nat) (emissions : List Emission),
      consumed ≤ caller.stack.length ∧
        (∀ callee,
          ((caller.apart body).run limit budget).state? = some callee →
          callee.channel =
            .console
              (.lines ((caller.stack.topFirst.drop consumed).map Cell.text))
              (.emissions emissions.reverse)) ∧
        call limit (run limit budget) caller name body =
          endOfCall name (caller.givenBack consumed emissions)
            ((caller.apart body).run limit budget) := by
  obtain ⟨final, answers⟩ := traffics.answered
  obtain ⟨consumed, emissions, few, same, onStack⟩ :=
    Channel.Answers.exists_consumed answers ordered
  refine ⟨consumed, emissions, few, ?_, ?_⟩
  · intro callee left
    rw [(traffics.answers_of_state? left).unique answers, same]
  · -- the same run on the caller's stack, with the same journal
    have called :
        (caller.enter body).run limit budget =
          reconnectedOutcome _ _ ((caller.apart body).run limit budget) :=
      traffics.determined caller.journal onStack
    have given
        {callee : Invocation}
        (left : ((caller.apart body).run limit budget).state? = some callee) :
        caller.leave
            (callee.reconnected
              (.caller
                (Stack.append ⟨caller.stack.topFirst.drop consumed⟩
                  (emissions.flatMap Channel.returned)))
              (caller.journal.noteAll traffic.events)) =
          caller.givenBack consumed emissions callee := by
      rw [← traffics.reconnected_of_state? answers left]
      rfl
    unfold call
    rw [if_neg (Nat.not_le.2 shallow), called]
    cases ran : (caller.apart body).run limit budget with
    | done callee =>
        exact congrArg Outcome.done (given (by rw [ran]; rfl))
    | failed failure callee =>
        exact congrArg (Outcome.failed _) (given (by rw [ran]; rfl))
    | unfinished =>
        rfl

/-- A function that takes two cells as its operands and gives their difference. -/
theorem call_of_difference :
    let caller : Invocation :=
      { start "a".toList (.console .exhausted (.emissions [])) (.blank .error)
          default with
        tape := .withCurrent .initial (.ofList [.int 7, .int 3, .int 4])
        functions := Bindings.empty.bind 'a' ['-'] }
    ∃ traffic after,
      HasTraffic (run 200 2) (caller.apart ['-']) traffic ∧
        Exchange.ReadsFirst traffic.exchanges ∧
        call 200 (run 200 2) caller 'a' ['-'] = .done after ∧
        after.stack.toList = [.int 7, .int 1] := by
  intro caller
  obtain ⟨middle, final, callee, subtracted, finished, ran, channel, running,
      ended, halted⟩ :
      ∃ middle final callee : Invocation,
        (caller.apart ['-']).step 200 1 = .done middle ∧
          middle.step 200 0 = .done final ∧
          (caller.apart ['-']).run 200 2 = .done callee ∧
          callee.channel =
            .console (.lines [['7']]) (.emissions [.number (.int 1)]) ∧
          middle.halt = none ∧
          middle.instruction? = none ∧
          final.halt.isSome = true :=
    ⟨_, _, _, rfl, rfl, rfl, rfl, rfl, rfl, rfl⟩
  obtain ⟨first, subtracts, firstKept⟩ :=
    exists_traffic_of_step 200 1 (caller.apart ['-'])
  obtain ⟨second, finishes, secondKept⟩ := exists_traffic_of_step 200 0 middle
  have traffics :=
    subtracts.run_succ rfl subtracted
      (finishes.run_succ running finished (hasTraffic_run_of_halted 200 0 halted))
  have ordered :
      Exchange.ReadsFirst
        (first.followedBy (second.followedBy .none)).exchanges := by
    refine Exchange.readsFirst_append ?_ ?_
    · intro exchange member
      refine Bool.eq_false_iff.2 fun wrote => ?_
      rcases firstKept.writes exchange member wrote with
        atEnd | ⟨opcode, dispatched, writes⟩
      · cases atEnd
      · cases dispatched
        cases writes
    · intro exchange member
      refine Bool.eq_false_iff.2 fun reads => ?_
      have inSecond : exchange ∈ second.exchanges := by
        simpa [Traffic.followedBy, Traffic.none] using member
      obtain ⟨opcode, dispatched, -⟩ :=
        secondKept.reads exchange inSecond reads
      simp [dispatched?, ended] at dispatched
  obtain ⟨consumed, emissions, few, kept, same⟩ :=
    call_eq_endOfCall_apart 'a' (by decide) traffics ordered
  have left := kept callee (by rw [ran]; rfl)
  rw [channel] at left
  injection left with sources sinks
  injection sources with lines
  injection sinks with emitted
  have two : consumed = 2 := by
    have size := congrArg List.length lines
    rw [List.length_map, List.length_drop] at size
    change 1 = 3 - consumed at size
    omega
  have one : emissions = [.number (.int 1)] := by
    simpa using (congrArg List.reverse emitted).symm
  subst two one
  rw [ran] at same
  exact ⟨_, _, traffics, ordered, same, rfl⟩

end Invocation

end StackTape
