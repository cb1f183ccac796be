import DistributedLighting.ConsensusRounds
import DistributedLighting.HubCommands

namespace DistributedLighting

/-!
# What a node averages, and whether it ever does

Frames carry no iteration number.  The barrier makes the counted frames the
right ones; whether the count is ever found equal to the awaited one depends on
how far the neighbours have got when a node drains its queue.
-/

open CountingBarrier (roundTokens tokensSent label)

namespace Net

variable {K : Type} {N : Nat} [Field K]

/--
Whenever a node enters `UPDATE_STATE`, its received vector is the sum of all the
proposals the other nodes have broadcast for its iteration, and every other node
has broadcast its whole proposal.
-/
def RoundIsolated (net : Net K N) : Prop :=
  ∀ n,
    net.point n = .sending [] →
    net.EntersUpdate n →
    (∀ slot < N,
      (net.node n).consensus.receivedDutyCycle slot =
        ((roundTokens Traffic.iteration? net.bus.log n
          (net.node n).consensus.numIter).map fun entry =>
            entry.frame.amount N slot).sum) ∧
      ∀ peer,
        peer ≠ n →
        tokensSent Traffic.iteration? net.bus.log peer
            (net.node n).consensus.numIter =
          numMessages N

/-- The counter is never above the awaited count when `consensus_main` looks at it. -/
def CountWithin (net : Net K N) : Prop :=
  ∀ n,
    net.point n = .sending [] →
    (net.node n).consensus.consensusState = .waitingReciveDutyCycle →
    (net.node n).consensus.numberOfMsgReceived ≤
      (net.node n).consensus.numberOfMsgExpected

/-- Nothing is queued or about to be sent, and no loop iteration changes its node. -/
def Quiescent
    [LinearOrder K] [FloorRing K]
    (net : Net K N) : Prop :=
  ∀ n,
    net.bus.fifo n = [] ∧
      (net.point n).pending = [] ∧
      ((net.node n).consensus.consensusState = .off ∨
        consensusMain (net.node n) = (net.node n, []))

/-- The run ends, if at all, with every node off after `maxIter` iterations. -/
structure NeverWedged
    [LinearOrder K] [FloorRing K]
    (net : Net K N) : Prop where
  within : CountWithin net
  completes :
    Quiescent net →
    ∀ n,
      (net.node n).consensus.consensusState = .off ∧
        net.completed n = maxIter

/-- The action is part of the run, and a proposal it takes is of the node's own iteration. -/
def InStep
    [LinearOrder K]
    (net : Net K N)
    (action : Action K N) : Prop :=
  Undisturbed net action ∧
    match action.does with
    | .take =>
        ∀ entry ∈ (net.bus.fifo action.node).head?,
          ∀ iteration ∈ entry.frame.iteration?,
            iteration = (net.node action.node).consensus.numIter
    | _ => True

instance
    [LinearOrder K]
    (net : Net K N)
    (action : Action K N) :
    Decidable (InStep net action) :=
  match action with
  | ⟨n, .take⟩ =>
      inferInstanceAs
        (Decidable
          (Undisturbed net _ ∧
            ∀ entry ∈ (net.bus.fifo n).head?,
              ∀ iteration ∈ entry.frame.iteration?, _))
  | ⟨_, .command _⟩ | ⟨_, .calibrated _ _⟩ | ⟨_, .prepare _⟩
  | ⟨_, .beginDrain⟩ | ⟨_, .endDrain⟩ | ⟨_, .beginMain⟩ | ⟨_, .transmit⟩
  | ⟨_, .endMain⟩ =>
      inferInstanceAs (Decidable (Undisturbed net _ ∧ True))

section Isolation

variable {starter : Fin N} {net : Net K N}

/-- The barrier and the bookkeeping of a node give isolation. -/
theorem RunInvariant.roundIsolated
    (invariant : RunInvariant starter net) :
    RoundIsolated net := by
  intro n sent enters
  have notOff : (net.node n).consensus.consensusState ≠ .off := by
    rw [enters.1]
    simp
  obtain ⟨_, active, iteration, _⟩ := (invariant.nodes n).active notOff
  have full :
      (net.toBarrier.counted n).length =
        numMessages N * (Fintype.card (Fin N) - 1) := by
    show (net.counted n).length = _
    rw [← active.count, enters.2, active.expected, Fintype.card_fin]
  have counted : net.counted n =
      roundTokens Traffic.iteration? net.bus.log n (net.completed n) :=
    invariant.barrier.counted_eq_roundTokens full
  rw [iteration]
  refine ⟨?_, ?_⟩
  · intro slot inVector
    rw [active.sum slot inVector, counted]
  · intro peer different
    exact invariant.barrier.tokens_of_full full different

/-- Nobody completes more than `maxIter` iterations. -/
theorem RunInvariant.completed_le
    (invariant : RunInvariant starter net)
    (n : Fin N) :
    net.completed n ≤ maxIter := by
  have ok := invariant.nodes n
  by_cases asleep : net.restarts n = []
  · rw [(ok.asleep asleep).2.1]
    exact Nat.zero_le _
  · rcases (ok.joined asleep).2.phase with ⟨_, _, bounded⟩ | ⟨_, last⟩
    · omega
    · omega

/-- No counted proposal belongs to an iteration the node has not reached. -/
def Prompt (net : Net K N) : Prop :=
  ∀ n, ∀ entry ∈ net.counted n,
    label Traffic.iteration? entry ≤ net.completed n

/-- A prompt node never counts more than it awaits. -/
theorem RunInvariant.count_le
    (invariant : RunInvariant starter net)
    (prompt : Prompt net)
    (n : Fin N) :
    (net.counted n).length ≤ numMessages N * (N - 1) := by
  have within := invariant.barrier.length_counted_le (prompt n)
  rw [Fintype.card_fin] at within
  exact within

end Isolation

section Runs

variable [LinearOrder K] [FloorRing K]
    {overrun : Nat → K → Nat}
    {starter : Fin N}
    {start net after : Net K N}

/-- The invariant of a run holds in all its states. -/
theorem runInvariant_of_run
    (spare : N < maxNumNodes)
    (launched : Launched overrun starter start)
    (run : Run (next overrun) Undisturbed start net) :
    RunInvariant starter net :=
  run.invariant (RunInvariant starter) (.initial launched)
    fun invariant undisturbed taken =>
      invariant.step spare undisturbed taken

/-- With at most six nodes, every average is taken over the right proposals. -/
theorem roundIsolated_of_run
    (spare : N < maxNumNodes)
    (launched : Launched overrun starter start)
    (run : Run (next overrun) Undisturbed start net) :
    RoundIsolated net :=
  (runInvariant_of_run spare launched run).roundIsolated

/-- An action empties the count of its node, keeps it, or appends the frame it takes. -/
theorem counted_cases
    {n : Fin N}
    {does : NodeAction K}
    (effect : Effect overrun net n does after) :
    after.counted n = [] ∨
      (after.counted n = net.counted n ∧
        after.completed n = net.completed n) ∨
      ∃ entry rest,
        does = .take ∧
          net.bus.fifo n = entry :: rest ∧
          after.counted n = net.counted n ++ [entry] ∧
          after.completed n = net.completed n := by
  cases effect with
  | command command idle =>
      by_cases restarts : (executeCommand (net.node n) command).2 = true
      · left
        simp [execute, restarts, issueRestart, processRestart, beginRun]
      · right
        left
        simp [execute, restarts, setNode]
  | prepare buffer idle =>
      exact .inr (.inl ⟨rfl, rfl⟩)
  | calibrated gainMatrix residualArray atMain =>
      left
      simp [beginRun]
  | beginDrain atStart =>
      exact .inr (.inl ⟨rfl, rfl⟩)
  | @take entry rest draining queued =>
      cases received : entry.frame with
      | doConsensus restart =>
          left
          simp [receive, received, processRestart, beginRun]
      | consensus data iteration seen =>
          right
          right
          refine ⟨entry, rest, rfl, queued, ?_, ?_⟩
          · simp [receive, received]
          · simp [receive, received, setNode]
  | endDrain draining drained =>
      exact .inr (.inl ⟨rfl, rfl⟩)
  | beginMain atMain =>
      right
      left
      unfold startMain
      split
      · exact ⟨rfl, rfl⟩
      · exact ⟨rfl, rfl⟩
  | transmit sending =>
      exact .inr (.inl ⟨rfl, rfl⟩)
  | endMain sent =>
      by_cases enters : net.EntersUpdate n
      · left
        simp [finishMain, enters]
      · right
        left
        simp [finishMain, enters, setNode, moveTo]

/-- A node that only takes proposals of its own iteration stays prompt. -/
theorem prompt_step
    (invariant : RunInvariant starter net)
    (prompt : Prompt net)
    {action : Action K N}
    (inStep : InStep net action)
    (taken : net.next overrun action = some after) :
    Prompt after := by
  obtain ⟨n, does⟩ := action
  have effect := effect_of_next taken
  intro m entry member
  by_cases same : m = n
  · subst m
    rcases counted_cases effect with
      empty | ⟨counted, completed⟩ | ⟨new, rest, isTake, queued, counted, completed⟩
    · rw [empty] at member
      cases member
    · rw [counted] at member
      rw [completed]
      exact prompt n entry member
    · rw [counted, List.mem_append, List.mem_singleton] at member
      rw [completed]
      rcases member with old | isNew
      · exact prompt n entry old
      · subst isNew
        cases labelled : entry.frame.iteration? with
        | none =>
            simp [label, labelled]
        | some iteration =>
            have value : label Traffic.iteration? entry = iteration := by
              simp [label, labelled]
            have onBus : entry ∈ net.bus.log :=
              (Bus.mem_log_of_mem_fifo (by rw [queued]; simp)).1
            have reached : iteration ≤ net.completed entry.sender :=
              invariant.barrier.label_le_round onBus labelled
            have atMost := invariant.completed_le entry.sender
            have ok := invariant.nodes n
            have awake : net.restarts n ≠ [] := by
              intro asleep
              have isRestart :=
                (invariant.fifo_of_restart queued).mpr asleep
              rw [labelled] at isRestart
              cases isRestart
            have current :
                iteration = (net.node n).consensus.numIter := by
              have condition := inStep.2
              simp only at isTake
              subst isTake
              simp only [queued, List.head?_cons, Option.mem_some_iff,
                forall_eq', labelled] at condition
              exact condition
            rw [value]
            show iteration ≤ net.completed n
            rcases (ok.joined awake).2.phase with
              ⟨_, numIter, _⟩ | ⟨_, last⟩
            · omega
            · omega
  · have unchanged := effect.others same
    rw [unchanged.counted] at member
    rw [unchanged.completed]
    exact prompt m entry member

/-- In a quiescent state every node of the run is off or waits in vain. -/
theorem RunInvariant.phase_of_quiescent
    (invariant : RunInvariant starter net)
    (quiescent : Quiescent net)
    (n : Fin N) :
    Active N (net.node n) (net.completed n) (net.counted n) ∧
      (((net.node n).consensus.consensusState =
              .waitingReciveDutyCycle ∧
            (net.node n).consensus.numberOfMsgReceived ≠
              (net.node n).consensus.numberOfMsgExpected ∧
            net.completed n < maxIter) ∨
        ((net.node n).consensus.consensusState = .off ∧
          net.completed n = maxIter)) := by
  obtain ⟨drained, _, stable⟩ := quiescent n
  have ok := invariant.nodes n
  have awake : net.restarts n ≠ [] := by
    intro asleep
    obtain ⟨_, _, _, notStarter, noneReceived⟩ := ok.asleep asleep
    obtain ⟨restart, proposals, log, _⟩ := invariant.onlyStart
    have order := net.bus.ordered n
    rw [noneReceived, drained, log, List.filter_cons,
      if_pos (by simpa using notStarter.symm)] at order
    cases order
  have active := (ok.joined awake).2
  refine ⟨active, ?_⟩
  rcases active.phase with ⟨iterating | waiting, _, bounded⟩ | off
  · rcases stable with off | stable
    · rw [iterating] at off
      cases off
    · obtain ⟨proposal, buffer, sent⟩ :=
        consensusMainSend_of_proposing (.inl iterating)
      have frames := congrArg Prod.snd stable
      simp only [consensusMain, sent] at frames
      have count := congrArg List.length frames
      rw [length_sendConsensusDutyCycle, List.length_nil] at count
      have positive := numMessages_pos (net.node n).numTotalNodes
      omega
  · refine .inl ⟨waiting, ?_, bounded⟩
    intro full
    rcases stable with off | stable
    · rw [waiting] at off
      cases off
    · have unchanged := congrArg Prod.fst stable
      rw [consensusMain_of_waiting waiting,
        consensusMainWait_of_full waiting full] at unchanged
      have state :=
        congrArg (fun node => node.consensus.consensusState) unchanged
      exact consensusUpdate_not_waiting _ (state.trans waiting)
  · exact .inr off

/-- Prompt nodes complete the run before they become quiescent. -/
theorem RunInvariant.neverWedged
    (invariant : RunInvariant starter net)
    (prompt : Prompt net) :
    NeverWedged net where
  within := by
    intro n _ waiting
    have notOff : (net.node n).consensus.consensusState ≠ .off := by
      rw [waiting]
      simp
    obtain ⟨_, active, _⟩ := (invariant.nodes n).active notOff
    rw [active.count, active.expected]
    exact invariant.count_le prompt n
  completes := by
    intro quiescent
    by_contra unfinished
    -- A node with the fewest iterations waits, although all others have sent.
    obtain ⟨last, _, least⟩ :=
      Finset.exists_min_image Finset.univ net.completed
        ⟨starter, Finset.mem_univ starter⟩
    obtain ⟨active, phase⟩ := invariant.phase_of_quiescent quiescent last
    have waiting :
        (net.node last).consensus.numberOfMsgReceived ≠
            (net.node last).consensus.numberOfMsgExpected ∧
          net.completed last < maxIter := by
      rcases phase with ⟨_, notFull, bounded⟩ | ⟨_, finished⟩
      · exact ⟨notFull, bounded⟩
      · refine absurd ?_ unfinished
        intro n
        have reached := least n (Finset.mem_univ n)
        rcases (invariant.phase_of_quiescent quiescent n).2 with
          ⟨_, _, bounded⟩ | off
        · omega
        · exact off
    have allFinished :
        ∀ peer,
          peer ≠ last →
          net.toBarrier.round last < net.toBarrier.round peer ∨
            net.toBarrier.round last = net.toBarrier.round peer ∧
              net.toBarrier.sent peer = numMessages N := by
      intro peer _
      have reached := least peer (Finset.mem_univ peer)
      rcases Nat.lt_or_eq_of_le reached with ahead | level
      · exact .inl ahead
      · refine .inr ⟨level, ?_⟩
        have nothingPending := (quiescent peer).2.1
        rcases (invariant.phase_of_quiescent quiescent peer).2 with
          ⟨state, _, _⟩ | ⟨_, finished⟩
        · show net.proposalsSent peer = numMessages N
          simp [proposalsSent, state, nothingPending]
        · omega
    have enough :=
      invariant.barrier.length_counted_ge allFinished (quiescent last).1
    have within := invariant.count_le prompt last
    rw [Fintype.card_fin] at enough
    have counted :
        (net.counted last).length = numMessages N * (N - 1) :=
      Nat.le_antisymm within enough
    refine waiting.1 ?_
    rw [active.count, active.expected, counted]

/-- At the start of the run nobody has counted anything. -/
theorem prompt_of_launched
    (launched : Launched overrun starter start) :
    Prompt start := by
  obtain ⟨before, command, off, restarts, taken⟩ := launched
  have effect := effect_of_next taken
  intro n entry member
  by_cases same : n = starter
  · subst n
    cases effect with
    | command command idle =>
        simp [execute, restarts, issueRestart, processRestart,
          beginRun] at member
  · rw [(effect.others same).counted, off.noneCounted n] at member
    cases member

/-- Runs in which every drain stays in its own iteration never wedge. -/
theorem neverWedged_of_run
    (spare : N < maxNumNodes)
    (launched : Launched overrun starter start)
    (run : Run (next overrun) InStep start net) :
    NeverWedged net := by
  have invariants : RunInvariant starter net ∧ Prompt net :=
    run.invariant
      (fun net => RunInvariant starter net ∧ Prompt net)
      ⟨.initial launched, prompt_of_launched launched⟩
      fun both inStep taken =>
        ⟨both.1.step spare inStep.1 taken,
          prompt_step both.1 both.2 inStep taken⟩
  exact invariants.1.neverWedged invariants.2

end Runs

section Examples

/-- Node `starter` has just been told that its desk is occupied. -/
def occupied (N : Nat) (starter : Fin N) : Net ℚ N :=
  (idle N).execute starter (.o 1)

/-- Whatever freshly calibrated nodes have measured, they are all off. -/
theorem allOff_calibrated
    {N : Nat}
    (gainMatrix : Nat → Nat → ℚ)
    (residualArray : Nat → ℚ)
    (cost : ℚ) :
    AllOff
      { idle N with
        node := fun n => .calibrated N n gainMatrix residualArray cost } where
  registry _ := rfl
  off _ := rfl
  quiet := rfl
  notSending _ _ sending := by cases sending
  noneCompleted _ := rfl
  noneCounted _ := rfl
  noRestart _ := rfl

theorem launched_occupied
    (N : Nat)
    (starter : Fin N)
    (overrun : Nat → ℚ → Nat) :
    Launched overrun starter (occupied N starter) :=
  ⟨idle N, .o 1, allOff_calibrated _ _ _, rfl, rfl⟩

/-- Seven desks, each lit by its own lamp and, as much, by the one four desks further on. -/
def acrossTheRoom : Net ℚ 7 :=
  { idle 7 with
    node := fun n =>
      .calibrated 7 n (fun i j => if j = i ∨ j = (i + 4) % 7 then 1 else 0)
        (fun _ => 0) 1 }

/-- Node 0 has just been told to keep more light than its own lamp gives. -/
def brighter : Net ℚ 7 :=
  acrossTheRoom.execute 0 (.U (14229 / 20))

theorem launched_brighter (overrun : Nat → ℚ → Nat) :
    Launched overrun 0 brighter :=
  ⟨acrossTheRoom, .U (14229 / 20), allOff_calibrated _ _ _, by decide +kernel, rfl⟩

/--
What `receivedDutyCycle[7] += value` leaves in `numberOfMsgReceived`.  The float
behind the array begins with the counter and ends with two bytes that follow the
object, as the linker has put them there.
-/
def floatOverrun
    (behind : BitVec 16)
    (count : Nat)
    (value : ℚ) : Nat :=
  let float := rationalSingle.floatValue (behind ++ BitVec.ofNat 16 count)
  ((rationalSingle.value (toSingle (float + toSingle value))).setWidth 16).toNat

/-- Two nodes, up to the point where node 1 has counted node 0's proposal. -/
theorem roundIsolated_two_nodes :
    ∃ net,
      Run (next fun count _ => count) Undisturbed (occupied 2 0) net ∧
        net.point 1 = .sending [] ∧
        net.EntersUpdate 1 ∧
        RoundIsolated net := by
  obtain ⟨net, run, observed⟩ :=
    exists_run_of_observed
      (next fun count _ => count)
      Undisturbed
      (occupied 2 0)
      (drainAndStart 0 0 ++ transmitFrames 0 1 ++
          drainAndStart 1 2 ++ transmitFrames 1 1)
      (fun net =>
        (net.point 1).allSent && decide (net.EntersUpdate 1))
      (by decide +kernel)
  rw [Bool.and_eq_true, decide_eq_true_eq] at observed
  exact
    ⟨net, run, LoopPoint.eq_of_allSent observed.1, observed.2,
      roundIsolated_of_run (by decide) (launched_occupied 2 0 _) run⟩

/--
Seven nodes.  Node 0 asks lamp 4 for 179, which its third frame repeats at position 7.
The float sum leaves 14 in node 3's counter, which reaches the awaited 18 while nodes 4
to 6 have not sent anything.
-/
theorem not_roundIsolated_seven_nodes :
    ¬ ∀ (starter : Fin 7) (start net : Net ℚ 7),
        Launched (floatOverrun 0) starter start →
        Run (next (floatOverrun 0)) Undisturbed start net →
        RoundIsolated net := by
  intro claim
  obtain ⟨net, run, observed⟩ :=
    exists_run_of_observed
      (next (floatOverrun 0))
      Undisturbed
      brighter
      (drainAndStart 0 0 ++ transmitFrames 0 3 ++
          drainAndStart 1 4 ++ transmitFrames 1 2 ++
          drainAndStart 2 6 ++ transmitFrames 2 1 ++
          drainAndStart 3 7 ++ transmitFrames 3 3)
      (fun net =>
        (net.point 3).allSent &&
          decide
            (net.EntersUpdate 3 ∧
              tokensSent Traffic.iteration? net.bus.log 4
                (net.node 3).consensus.numIter = 0))
      (by decide +kernel)
  rw [Bool.and_eq_true, decide_eq_true_eq] at observed
  obtain ⟨sent, enters, silent⟩ := observed
  have isolated :=
    claim _ _ net (launched_brighter _) run 3
      (LoopPoint.eq_of_allSent sent) enters
  have spoken := isolated.2 4 (by decide)
  rw [silent] at spoken
  cases spoken

/-- Two nodes, with node 1 an iteration ahead of a node that has drained nothing yet. -/
theorem neverWedged_two_nodes :
    ∃ net,
      Run (next fun count _ => count) InStep (occupied 2 0) net ∧
        net.completed 1 = 1 ∧
        NeverWedged net := by
  obtain ⟨net, run, observed⟩ :=
    exists_run_of_observed
      (next fun count _ => count)
      InStep
      (occupied 2 0)
      (drainAndStart 0 0 ++ transmitFrames 0 1 ++
          drainAndStart 1 2 ++ transmitFrames 1 1 ++ [⟨1, .endMain⟩])
      (fun net => decide (net.completed 1 = 1))
      (by decide +kernel)
  rw [decide_eq_true_eq] at observed
  exact
    ⟨net, run, observed,
      neverWedged_of_run (by decide) (launched_occupied 2 0 _) run⟩

/--
Two nodes.  Node 1 completes its first iteration and sends its second proposal
before node 0 drains its queue, which then counts two proposals instead of one.
-/
theorem not_neverWedged_two_nodes :
    ¬ ∀ (overrun : Nat → ℚ → Nat) (starter : Fin 2) (start net : Net ℚ 2),
        Launched overrun starter start →
        Run (next overrun) Undisturbed start net →
        NeverWedged net := by
  intro claim
  obtain ⟨net, run, observed⟩ :=
    exists_run_of_observed
      (next fun count _ => count)
      Undisturbed
      (occupied 2 0)
      (drainAndStart 0 0 ++ transmitFrames 0 1 ++ [⟨0, .endMain⟩] ++
          drainAndStart 1 2 ++ transmitFrames 1 1 ++ [⟨1, .endMain⟩] ++
          drainAndStart 1 0 ++ transmitFrames 1 1 ++ [⟨1, .endMain⟩] ++
          drainAndStart 0 2)
      (fun net =>
        (net.point 0).allSent &&
          decide
            ((net.node 0).consensus.consensusState =
                .waitingReciveDutyCycle ∧
              (net.node 0).consensus.numberOfMsgExpected <
                (net.node 0).consensus.numberOfMsgReceived))
      (by decide +kernel)
  rw [Bool.and_eq_true, decide_eq_true_eq] at observed
  obtain ⟨sent, waiting, tooMany⟩ := observed
  have within :=
    (claim _ _ _ net (launched_occupied 2 0 _) run).within 0
      (LoopPoint.eq_of_allSent sent) waiting
  omega

end Examples

end Net

end DistributedLighting
