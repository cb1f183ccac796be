import DistributedLighting.RoundIsolation

namespace DistributedLighting

/-!
# The consensus in lockstep

What the distributed consensus is for: all nodes iterate at once, everybody hears
every other proposal as it travels on the bus, and everybody averages.  A run of
the real network, in which each node iterates, sends, drains and waits at its own
pace, computes for each node exactly what the lockstep computes, whatever the
schedule.
-/

section Estimates

variable {K : Type} [Field K]

/--
The part of a node that the optimisation reads and leaves behind: without the
buffers, the reception counter, the state of the machine and the set points that
are not in force.
-/
def Firmware.estimate (node : Firmware K) : Firmware K :=
  { node with
    sendingFrame := fun _ => 0
    luminaire :=
      { node.luminaire with
        luxOccupied := node.luminaire.luxRef
        luxNonOccupied := node.luminaire.luxRef }
    consensus :=
      { node.consensus with
        receivedDutyCycle := fun _ => 0
        numberOfMsgReceived := 0
        consensusState := .off } }

/-- Two nodes with one estimate begin alike. -/
theorem estimate_consensusInit
    {node ideal : Firmware K}
    (same : node.estimate = ideal.estimate) :
    (consensusInit node).estimate = (consensusInit ideal).estimate := by
  have reads :
      ∀ node : Firmware K,
        (consensusInit node).estimate =
          (consensusInit node.estimate).estimate :=
    fun _ => rfl
  rw [reads node, reads ideal, same]

/-- Beginning twice is beginning once. -/
theorem consensusInit_consensusInit (node : Firmware K) :
    consensusInit (consensusInit node) = consensusInit node := by
  have twice :
      ∀ (condition : Prop) [Decidable condition] (value other : K),
        (if condition then value
          else if condition then value else other) =
          if condition then value else other := by
    intro condition _ value other
    split_ifs <;> rfl
  unfold consensusInit
  simp only [twice]

/-- The update reads the estimate, the count and the entries in use of the received vector. -/
theorem estimate_consensusUpdate
    {node ideal : Firmware K}
    (same : node.estimate = ideal.estimate)
    (count :
      node.consensus.numberOfMsgReceived =
        ideal.consensus.numberOfMsgReceived)
    (received :
      ∀ slot < node.numTotalNodes,
        node.consensus.receivedDutyCycle slot =
          ideal.consensus.receivedDutyCycle slot) :
    (consensusUpdate node).estimate =
      (consensusUpdate ideal).estimate := by
  -- Behind the registry the update reads nothing of the received vector.
  have reads :
      ∀ node : Firmware K,
        (consensusUpdate node).estimate =
          (consensusUpdate
            (node.estimate.setReceived
              (fun slot =>
                if slot < node.numTotalNodes then
                  node.consensus.receivedDutyCycle slot
                else
                  0)
              node.consensus.numberOfMsgReceived)).estimate := by
    intro node
    by_cases last : node.consensus.numIter + 1 = maxIter
    all_goals
      simp only [consensusUpdate, Firmware.estimate, Firmware.setReceived,
        last, ↓reduceIte, Firmware.mk.injEq, Consensus.mk.injEq, true_and,
        and_true]
      refine ⟨?_, ?_⟩
      all_goals
        funext slot
        by_cases inVector : slot < node.numTotalNodes
        · simp only [inVector, ↓reduceIte]
        · simp only [inVector, ↓reduceIte]
  have size : node.estimate.numTotalNodes = ideal.estimate.numTotalNodes := by
    rw [same]
  change node.numTotalNodes = ideal.numTotalNodes at size
  rw [reads node, reads ideal, same, count]
  congr 3
  funext slot
  rw [← size]
  by_cases inVector : slot < node.numTotalNodes
  · rw [if_pos inVector, if_pos inVector, received slot inVector]
  · rw [if_neg inVector, if_neg inVector]

variable [LinearOrder K]

/-- The duty cycles a node proposes in an iteration. -/
def proposalAt (node : Firmware K) : Nat → K :=
  (consensusIterate node).consensus.dutyCycleBest

/-- Two nodes with one estimate propose the same and are left with one estimate. -/
theorem estimate_consensusIterate
    {node ideal : Firmware K}
    (same : node.estimate = ideal.estimate) :
    proposalAt node = proposalAt ideal ∧
      (consensusIterate node).estimate =
        (consensusIterate ideal).estimate := by
  have reads :
      ∀ node : Firmware K,
        proposalAt node = proposalAt node.estimate ∧
          (consensusIterate node).estimate =
            (consensusIterate node.estimate).estimate :=
    fun _ => ⟨rfl, rfl⟩
  rw [(reads node).1, (reads node).2, (reads ideal).1, (reads ideal).2, same]
  exact ⟨rfl, rfl⟩

/-- A node that iterates and sends is left with the estimate of the iteration. -/
theorem estimate_consensusMainSend
    [FloorRing K]
    {node : Firmware K}
    (iterating : node.consensus.consensusState = .iterate) :
    (consensusMainSend node).1.estimate =
      (consensusIterate node).estimate := by
  simp [consensusMainSend, iterating, Firmware.estimate]

/-- It sends what it proposes. -/
theorem frames_consensusMainSend
    [FloorRing K]
    {node : Firmware K}
    (iterating : node.consensus.consensusState = .iterate) :
    (consensusMainSend node).2 =
      (sendConsensusDutyCycle node.numTotalNodes (proposalAt node)
        node.sendingFrame).2 := by
  simp [consensusMainSend, iterating, proposalAt, consensusIterate]

/-- A command that does not restart the consensus leaves the estimate alone. -/
theorem estimate_executeCommand
    {node : Firmware K}
    {command : SetCommand K}
    (noRestart : (executeCommand node command).2 = false) :
    (executeCommand node command).1.estimate = node.estimate := by
  cases command with
  | O value =>
      unfold executeCommand at noRestart ⊢
      dsimp only at noRestart ⊢
      split_ifs at noRestart ⊢
      all_goals rfl
  | U value =>
      unfold executeCommand at noRestart ⊢
      dsimp only at noRestart ⊢
      split_ifs at noRestart ⊢
      all_goals rfl
  | c value =>
      unfold executeCommand at noRestart ⊢
      dsimp only at noRestart ⊢
      split_ifs at noRestart ⊢
      all_goals rfl
  | o value =>
      unfold executeCommand at noRestart ⊢
      dsimp only at noRestart ⊢
      split_ifs at noRestart ⊢
      all_goals rfl

end Estimates

section Frames

variable {N : Nat}

/-- The frames of one node's proposal for one iteration, in bus order. -/
def proposalFrames
    (log : List (Entry (Fin N) Traffic))
    (sender : Fin N)
    (iteration : Nat) : List FrameData :=
  log.filterMap fun entry =>
    match entry.frame with
    | .doConsensus _ => none
    | .consensus data labelled _ =>
        if entry.sender = sender ∧ labelled = iteration then
          some data
        else
          none

@[simp] theorem proposalFrames_append
    (first second : List (Entry (Fin N) Traffic))
    (sender : Fin N)
    (iteration : Nat) :
    proposalFrames (first ++ second) sender iteration =
      proposalFrames first sender iteration ++
        proposalFrames second sender iteration :=
  List.filterMap_append

/-- The frames of a proposal are the tokens of its sender for that round. -/
theorem length_proposalFrames
    (log : List (Entry (Fin N) Traffic))
    (sender : Fin N)
    (iteration : Nat) :
    (proposalFrames log sender iteration).length =
      CountingBarrier.tokensSent Traffic.iteration? log sender iteration := by
  unfold CountingBarrier.tokensSent proposalFrames
  induction log with
  | nil =>
      rfl
  | cons entry rest inductionHypothesis =>
      obtain ⟨origin, frame⟩ := entry
      rw [List.filterMap_cons, List.countP_cons]
      cases frame with
      | doConsensus restart =>
          simpa [Traffic.iteration?] using inductionHypothesis
      | consensus data labelled seen =>
          by_cases matching : origin = sender ∧ labelled = iteration
          · simp [matching, Traffic.iteration?, inductionHypothesis]
          · simp [matching, Traffic.iteration?, inductionHypothesis]

/-- What a round of tokens carries is what the peers' proposals carry. -/
theorem sum_roundTokens
    {K : Type}
    [Field K]
    (log : List (Entry (Fin N) Traffic))
    (n : Fin N)
    (iteration slot : Nat) :
    ((CountingBarrier.roundTokens Traffic.iteration? log n iteration).map
        fun entry => (entry.frame.amount N slot : K)).sum =
      ∑ peer ∈ Finset.univ.erase n,
        ((proposalFrames log peer iteration).map fun data =>
          (contribution N data slot : K)).sum := by
  unfold CountingBarrier.roundTokens proposalFrames
  induction log with
  | nil =>
      simp
  | cons entry rest inductionHypothesis =>
      obtain ⟨origin, frame⟩ := entry
      simp only [List.filter_cons, List.filterMap_cons]
      cases frame with
      | doConsensus restart =>
          simpa [Traffic.iteration?] using inductionHypothesis
      | consensus data labelled seen =>
          by_cases current : labelled = iteration
          · by_cases own : origin = n
            · rw [if_neg (by simp [own]), inductionHypothesis]
              refine Finset.sum_congr rfl fun peer member => ?_
              have different : origin ≠ peer := by
                rw [own]
                exact (Finset.ne_of_mem_erase member).symm
              simp [different]
            · rw [if_pos (by simp [own, current, Traffic.iteration?]),
                List.map_cons, List.sum_cons, inductionHypothesis]
              have present : origin ∈ Finset.univ.erase n := by
                simp [own]
              rw [← Finset.add_sum_erase _ _ present,
                ← Finset.add_sum_erase _ _ present, ← add_assoc]
              congr 1
              · simp [current, Traffic.amount]
              · refine Finset.sum_congr rfl fun peer member => ?_
                have different : origin ≠ peer :=
                  (Finset.ne_of_mem_erase member).symm
                simp [different]
          · simpa [current, Traffic.iteration?] using inductionHypothesis

end Frames

section Lockstep

variable {K : Type} [Field K] [LinearOrder K] [FloorRing K] {N : Nat}

/-- What a node hears in a round: all other proposals, as they travel on the bus. -/
def heard
    (nodes : Fin N → Firmware K)
    (n : Fin N)
    (slot : Nat) : K :=
  ∑ peer ∈ Finset.univ.erase n, quantised (proposalAt (nodes peer) slot)

/-- One round of all nodes at once. -/
def lockstepRound (nodes : Fin N → Firmware K) : Fin N → Firmware K := fun n =>
  consensusUpdate
    ((consensusIterate (nodes n)).setReceived (heard nodes n)
      (numMessages N * (N - 1)))

/-- All nodes after a number of rounds from their restart. -/
def lockstep (nodes : Fin N → Firmware K) : Nat → Fin N → Firmware K
  | 0 => fun n => consensusInit (nodes n)
  | rounds + 1 => lockstepRound (lockstep nodes rounds)

end Lockstep

namespace Net

variable {K : Type} [Field K] [LinearOrder K] [FloorRing K] {N : Nat}

/-- The frames are those of the proposal that a node makes in a round of the lockstep. -/
def IsProposal
    (nodes : Fin N → Firmware K)
    (n : Fin N)
    (round : Nat)
    (frames : List FrameData) : Prop :=
  ∃ buffer,
    frames =
      (sendConsensusDutyCycle N (proposalAt (lockstep nodes round n))
        buffer).2

/-- A node is where the lockstep is after as many rounds, and has sent its proposals. -/
structure NodeFollows
    (nodes : Fin N → Firmware K)
    (net : Net K N)
    (n : Fin N) : Prop where
  asleep :
    net.restarts n = [] →
    (consensusInit (net.node n)).estimate =
      (lockstep nodes 0 n).estimate
  between :
    net.restarts n ≠ [] →
    (net.node n).consensus.consensusState ≠ .waitingReciveDutyCycle →
    (net.node n).estimate =
      (lockstep nodes (net.completed n) n).estimate
  waiting :
    (net.node n).consensus.consensusState = .waitingReciveDutyCycle →
    (net.node n).estimate =
        (consensusIterate (lockstep nodes (net.completed n) n)).estimate ∧
      IsProposal nodes n (net.completed n)
        (proposalFrames net.bus.log n (net.completed n) ++
          (net.point n).pending)
  sent :
    ∀ round < net.completed n,
      IsProposal nodes n round (proposalFrames net.bus.log n round)

section Steps

variable {nodes : Fin N → Firmware K}
    {starter : Fin N}
    {net after : Net K N}
    {n m : Fin N}
    {overrun : Nat → K → Nat}

/-- Only the estimate, the state and the progress of a node and its own frames matter. -/
theorem NodeFollows.congr
    (follows : NodeFollows nodes net n)
    (estimate : (after.node n).estimate = (net.node n).estimate)
    (state :
      (after.node n).consensus.consensusState =
        (net.node n).consensus.consensusState)
    (pending : (after.point n).pending = (net.point n).pending)
    (completed : after.completed n = net.completed n)
    (restarts : after.restarts n = net.restarts n)
    (frames :
      ∀ round,
        proposalFrames after.bus.log n round =
          proposalFrames net.bus.log n round) :
    NodeFollows nodes after n where
  asleep := by
    rw [restarts, estimate_consensusInit estimate]
    exact follows.asleep
  between := by
    rw [restarts, state, completed, estimate]
    exact follows.between
  waiting := by
    rw [state, completed, estimate, frames, pending]
    exact follows.waiting
  sent := by
    intro round before
    rw [completed] at before
    rw [frames]
    exact follows.sent round before

/-- An action only puts frames of its own node on the bus. -/
theorem proposalFrames_of_effect
    {does : NodeAction K}
    (effect : Effect overrun net n does after)
    (different : m ≠ n)
    (round : Nat) :
    proposalFrames after.bus.log m round =
      proposalFrames net.bus.log m round := by
  cases effect with
  | command command idle =>
      unfold execute
      dsimp only
      split
      · simp [issueRestart, proposalFrames]
      · rfl
  | prepare buffer idle =>
      rfl
  | calibrated gainMatrix residualArray atMain =>
      rfl
  | beginDrain atStart =>
      rfl
  | @take entry rest draining queued =>
      unfold receive
      split
      · rfl
      · rfl
  | endDrain draining drained =>
      rfl
  | beginMain atMain =>
      rw [(net.startMain_kept n).2.2.2]
  | transmit sending =>
      simp [sendFrame, proposalFrames, different.symm]
  | endMain sent =>
      unfold finishMain
      dsimp only
      split
      · rfl
      · rfl

/-- An action leaves the other nodes where they are. -/
theorem NodeFollows.of_others
    {does : NodeAction K}
    (follows : NodeFollows nodes net m)
    (effect : Effect overrun net n does after)
    (different : m ≠ n) :
    NodeFollows nodes after m := by
  have same := effect.others different
  refine follows.congr ?_ ?_ ?_ same.completed same.restarts
    (proposalFrames_of_effect effect different)
  · rw [same.node]
  · rw [same.node]
  · rw [same.point]

/-- The restart brings a sleeping node to the beginning. -/
theorem follows_receive_restart
    (invariant : RunInvariant starter net)
    (follows : NodeFollows nodes net n)
    {entry : Entry (Fin N) Traffic}
    {rest : List (Entry (Fin N) Traffic)}
    {restart : Nat}
    (queued : net.bus.fifo n = entry :: rest)
    (isRestart : entry.frame = .doConsensus restart) :
    NodeFollows nodes (net.receive overrun n entry) n := by
  have unlabelled : entry.frame.iteration? = none := by
    rw [isRestart]
    rfl
  have sleeping := (invariant.fifo_of_restart queued).mp unlabelled
  have received : net.receive overrun n entry =
      { (net.beginRun n (consensusInit (net.node n))).processRestart
          n restart with
        bus := net.bus.take n } := by
    unfold receive
    rw [isRestart]
  have newNode :
      (net.receive overrun n entry).node n = consensusInit (net.node n) := by
    rw [received]
    simp [processRestart, beginRun]
  have newCompleted : (net.receive overrun n entry).completed n = 0 := by
    rw [received]
    simp [processRestart, beginRun]
  constructor
  · intro none
    rw [received] at none
    simp [processRestart] at none
  · intro _ _
    rw [newNode, newCompleted]
    exact follows.asleep sleeping
  · intro waits
    rw [newNode, (consensusInit_fresh _).2.1] at waits
    cases waits
  · intro round before
    omega

/-- Entering `consensus_main` makes the proposal of the round. -/
theorem follows_startMain
    (invariant : RunInvariant starter net)
    (follows : NodeFollows nodes net n)
    (atMain : net.point n = .main) :
    NodeFollows nodes (net.startMain n) n := by
  obtain ⟨completed, counted, restarts, bus⟩ := net.startMain_kept n
  by_cases off : (net.node n).consensus.consensusState = .off
  · have unchanged : net.startMain n = net.moveTo n .readSerial := by
      simp [startMain, off]
    rw [unchanged]
    refine follows.congr rfl rfl ?_ rfl rfl fun _ => rfl
    simp [moveTo, atMain, LoopPoint.pending]
  · have ok := invariant.nodes n
    obtain ⟨awake, active, _⟩ := ok.active off
    have started :
        net.startMain n =
          (net.setNode n (consensusMainSend (net.node n)).1).moveTo n
            (.sending (consensusMainSend (net.node n)).2) := by
      simp [startMain, off]
    have newNode :
        (net.startMain n).node n = (consensusMainSend (net.node n)).1 := by
      rw [started]
      simp [moveTo, setNode]
    have newPoint :
        (net.startMain n).point n =
          .sending (consensusMainSend (net.node n)).2 := by
      rw [started]
      simp [moveTo]
    rcases active.phase with ⟨iterating | waiting, _⟩ | ⟨isOff, _⟩
    · have notWaiting :
          (net.node n).consensus.consensusState ≠
            .waitingReciveDutyCycle := by
        rw [iterating]
        simp
      have same := follows.between awake notWaiting
      obtain ⟨proposal, iterated⟩ := estimate_consensusIterate same
      -- No frame of the round is on the bus before it is proposed.
      have noneSent :
          proposalFrames net.bus.log n (net.completed n) = [] := by
        have tokens := invariant.barrier.tokens n (net.completed n)
        rw [← List.length_eq_zero_iff, length_proposalFrames]
        refine tokens.trans ?_
        have none : net.proposalsSent n = 0 := by
          simp [proposalsSent, iterating]
        simp [toBarrier, none]
      have frames :
          (consensusMainSend (net.node n)).2 =
            (sendConsensusDutyCycle N (proposalAt (net.node n))
              (net.node n).sendingFrame).2 := by
        rw [frames_consensusMainSend iterating, ok.size]
      constructor
      · rw [restarts]
        intro none
        exact absurd none awake
      · rw [newNode]
        intro _ notWaiting
        simp [consensusMainSend, iterating] at notWaiting
      · intro _
        rw [newNode, completed, bus, newPoint, noneSent,
          estimate_consensusMainSend iterating, frames, proposal]
        exact ⟨iterated, _, rfl⟩
      · rw [completed, bus]
        exact follows.sent
    · have stays := consensusMainSend_of_waiting waiting
      rw [stays] at newNode newPoint
      refine follows.congr ?_ ?_ ?_ (by rw [completed]) (by rw [restarts])
        fun _ => by rw [bus]
      · rw [newNode]
      · rw [newNode]
      · rw [newPoint, atMain]
        rfl
    · exact absurd isOff off

/-- Sending a frame moves it from what is pending to what is sent. -/
theorem follows_sendFrame
    (invariant : RunInvariant starter net)
    (follows : NodeFollows nodes net n)
    {data : FrameData}
    {rest : List FrameData}
    (sending : net.point n = .sending (data :: rest)) :
    NodeFollows nodes (net.sendFrame n data rest) n := by
  have ok := invariant.nodes n
  obtain ⟨waits, _⟩ := ok.sending _ sending
  have notOff : (net.node n).consensus.consensusState ≠ .off := by
    rw [waits]
    simp
  obtain ⟨awake, _, iteration, _⟩ := ok.active notOff
  have frames :
      ∀ round,
        proposalFrames (net.sendFrame n data rest).bus.log n round =
          proposalFrames net.bus.log n round ++
            if net.completed n = round then [data] else [] := by
    intro round
    show proposalFrames (net.bus.log ++ [_]) n round = _
    rw [proposalFrames_append]
    by_cases current : net.completed n = round
    · simp [proposalFrames, iteration, current]
    · simp [proposalFrames, iteration, current]
  constructor
  · intro none
    exact absurd none awake
  · intro _ notWaiting
    exact absurd waits notWaiting
  · intro _
    obtain ⟨estimate, proposal⟩ := follows.waiting waits
    refine ⟨estimate, ?_⟩
    have newPoint : (net.sendFrame n data rest).point n = .sending rest := by
      simp [sendFrame, moveTo]
    rw [sending] at proposal
    rw [newPoint, frames]
    show IsProposal nodes n (net.completed n) _
    simpa [sendFrame, moveTo, LoopPoint.pending] using proposal
  · intro round before
    have past : net.completed n ≠ round := Nat.ne_of_gt before
    rw [frames, if_neg past, List.append_nil]
    exact follows.sent round before

/-- A proposal whose tokens are all on the bus is there as the lockstep makes it. -/
theorem isProposal_of_tokensSent
    (invariant : RunInvariant starter net)
    (follows : NodeFollows nodes net n)
    {round : Nat}
    (all :
      CountingBarrier.tokensSent Traffic.iteration? net.bus.log n round =
        numMessages N) :
    IsProposal nodes n round (proposalFrames net.bus.log n round) := by
  have tokens := invariant.barrier.tokens n round
  change
    CountingBarrier.tokensSent Traffic.iteration? net.bus.log n round =
      if round < net.completed n then numMessages N
      else if round = net.completed n then net.proposalsSent n else 0
    at tokens
  rw [all] at tokens
  have positive := numMessages_pos N
  split_ifs at tokens with past current
  · exact follows.sent round past
  · -- In its current round only a waiting node without pending frames has sent all.
    subst current
    unfold proposalsSent at tokens
    split_ifs at tokens with waits
    · obtain ⟨_, proposal⟩ := follows.waiting waits
      have within : (net.point n).pending.length ≤ numMessages N := by
        cases point : net.point n with
        | sending rest =>
            exact ((invariant.nodes n).sending rest point).2
        | readSerial | drain | main =>
            exact Nat.zero_le _
      have nonePending : (net.point n).pending = [] := by
        rw [← List.length_eq_zero_iff]
        omega
      rw [nonePending, List.append_nil] at proposal
      exact proposal
    · omega
  · omega

/-- A node that enters `UPDATE_STATE` has heard what it hears in the lockstep. -/
theorem received_eq_heard
    (invariant : RunInvariant starter net)
    (follows : ∀ peer, NodeFollows nodes net peer)
    (fits : N ≤ maxNumNodes)
    (sent : net.point n = .sending [])
    (enters : net.EntersUpdate n)
    {slot : Nat}
    (inVector : slot < N) :
    (net.node n).consensus.receivedDutyCycle slot =
      heard (lockstep nodes (net.completed n)) n slot := by
  have notOff : (net.node n).consensus.consensusState ≠ .off := by
    rw [enters.1]
    simp
  obtain ⟨_, _, iteration, _⟩ := (invariant.nodes n).active notOff
  obtain ⟨sums, tokens⟩ := invariant.roundIsolated n sent enters
  rw [iteration] at sums tokens
  rw [sums slot inVector, sum_roundTokens]
  refine Finset.sum_congr rfl fun peer member => ?_
  obtain ⟨buffer, frames⟩ :=
    isProposal_of_tokensSent invariant (follows peer)
      (tokens peer (Finset.ne_of_mem_erase member))
  rw [frames]
  exact sum_contribution_sendConsensusDutyCycle fits _ _ inVector

/-- Looking at the counter either keeps waiting or completes the round. -/
theorem follows_finishMain
    (invariant : RunInvariant starter net)
    (follows : ∀ peer, NodeFollows nodes net peer)
    (fits : N ≤ maxNumNodes)
    (sent : net.point n = .sending []) :
    NodeFollows nodes (net.finishMain n) n := by
  have ok := invariant.nodes n
  obtain ⟨waits, _⟩ := ok.sending _ sent
  have notOff : (net.node n).consensus.consensusState ≠ .off := by
    rw [waits]
    simp
  obtain ⟨awake, active, _⟩ := ok.active notOff
  by_cases enters : net.EntersUpdate n
  · have finished :
        net.finishMain n =
          { (net.setNode n (consensusMainWait (net.node n))).moveTo n
              .readSerial with
            completed :=
              Function.update net.completed n (net.completed n + 1)
            counted := Function.update net.counted n [] } := by
      simp [finishMain, enters]
    have updated := consensusMainWait_of_full enters.1 enters.2
    have newNode :
        (net.finishMain n).node n = consensusMainWait (net.node n) := by
      rw [finished]
      simp [moveTo, setNode]
    have newCompleted :
        (net.finishMain n).completed n = net.completed n + 1 := by
      rw [finished]
      simp
    have bus : (net.finishMain n).bus = net.bus := by
      rw [finished]
      rfl
    obtain ⟨estimate, proposal⟩ := (follows n).waiting waits
    constructor
    · rw [finished]
      intro none
      exact absurd none awake
    · intro _ _
      rw [newNode, newCompleted, updated]
      refine estimate_consensusUpdate ?_ ?_ ?_
      · exact estimate
      · show (net.node n).consensus.numberOfMsgReceived = _
        rw [enters.2, active.expected]
        rfl
      · intro slot inVector
        have inVector : slot < (net.node n).numTotalNodes := inVector
        rw [ok.size] at inVector
        exact received_eq_heard invariant follows fits sent enters inVector
    · intro stillWaits
      rw [newNode, updated] at stillWaits
      exact absurd stillWaits (consensusUpdate_not_waiting _)
    · intro round before
      rw [newCompleted] at before
      rw [bus]
      rcases Nat.lt_succ_iff_lt_or_eq.mp before with past | current
      · exact (follows n).sent round past
      · subst current
        rw [sent, LoopPoint.pending, List.append_nil] at proposal
        exact proposal
  · have notFull :
        (net.node n).consensus.numberOfMsgReceived ≠
          (net.node n).consensus.numberOfMsgExpected :=
      fun full => enters ⟨waits, full⟩
    have finished :
        net.finishMain n =
          (net.setNode n (net.node n)).moveTo n .readSerial := by
      unfold finishMain
      rw [consensusMainWait_of_not_full waits notFull]
      simp [enters]
    rw [finished]
    refine (follows n).congr ?_ ?_ ?_ rfl rfl fun _ => rfl
    · simp [setNode, moveTo]
    · simp [setNode, moveTo]
    · simp [setNode, moveTo, sent, LoopPoint.pending]

/-- Every action of a run keeps its node in the lockstep. -/
theorem NodeFollows.step
    (invariant : RunInvariant starter net)
    (follows : ∀ peer, NodeFollows nodes net peer)
    (spare : N < maxNumNodes)
    {does : NodeAction K}
    (undisturbed : Undisturbed net ⟨n, does⟩)
    (effect : Effect overrun net n does after) :
    NodeFollows nodes after n := by
  have ok := invariant.nodes n
  cases effect with
  | command command idle =>
      have noRestart :
          (executeCommand (net.node n) command).2 = false := undisturbed
      have executed :
          net.execute n command =
            net.setNode n (executeCommand (net.node n) command).1 := by
        simp [execute, noRestart]
      have state :
          (executeCommand (net.node n) command).1.consensus =
            (net.node n).consensus := by
        obtain ⟨luminaire, restarted | unchanged⟩ :=
          executeCommand_cases (net.node n) command
        · rw [restarted] at noRestart
          cases noRestart
        · rw [unchanged]
      rw [executed]
      refine (follows n).congr ?_ ?_ rfl rfl rfl fun _ => rfl
      · simp [setNode, estimate_executeCommand noRestart]
      · simp [setNode, state]
  | prepare buffer idle =>
      refine (follows n).congr ?_ ?_ rfl rfl rfl fun _ => rfl
      · simp [setNode, Firmware.estimate]
      · simp [setNode]
  | calibrated gainMatrix residualArray atMain =>
      exact undisturbed.elim
  | beginDrain atStart =>
      refine (follows n).congr rfl rfl ?_ rfl rfl fun _ => rfl
      simp [moveTo, atStart, LoopPoint.pending]
  | @take entry rest draining queued =>
      cases received : entry.frame with
      | doConsensus restart =>
          exact
            follows_receive_restart invariant (follows n) queued received
      | consensus data iteration seen =>
          have taken : net.receive overrun n entry =
              { net.setNode n
                  (receivedConsensus overrun data (net.node n)) with
                bus := net.bus.take n
                counted :=
                  Function.update net.counted n
                    (net.counted n ++ [entry]) } := by
            unfold receive
            rw [received]
          have newNode :
              (net.receive overrun n entry).node n =
                (net.node n).collect (contribution N data) 1 := by
            rw [taken]
            simp only [setNode, Function.update_self]
            rw [receivedConsensus_within overrun data
              (by rw [ok.size]; exact spare), ok.size]
          refine
            (follows n).congr ?_ ?_ ?_ (by rw [taken]; rfl)
              (by rw [taken]; rfl) fun _ => by rw [taken]; rfl
          · rw [newNode]
            rfl
          · rw [newNode]
            rfl
          · rw [taken]
            rfl
  | endDrain draining drained =>
      refine (follows n).congr rfl rfl ?_ rfl rfl fun _ => rfl
      simp [moveTo, draining, LoopPoint.pending]
  | beginMain atMain =>
      exact follows_startMain invariant (follows n) atMain
  | transmit sending =>
      exact follows_sendFrame invariant (follows n) sending
  | endMain sent =>
      exact follows_finishMain invariant follows spare.le sent

/-- At the start every node is where the lockstep starts. -/
theorem NodeFollows.initial
    (launched : Launched overrun starter net)
    (n : Fin N) :
    NodeFollows net.node net n := by
  have invariant := RunInvariant.initial launched
  obtain ⟨before, command, off, restarts, taken⟩ := launched
  have effect := effect_of_next taken
  by_cases same : n = starter
  · subst n
    obtain ⟨luminaire, restarted | unchanged⟩ :=
      executeCommand_cases (before.node starter) command
    · have executed :
          net =
            before.issueRestart starter
              (consensusInit
                { before.node starter with luminaire := luminaire }) := by
        cases effect with
        | command command idle =>
            simp [execute, restarted]
      have newNode :
          net.node starter =
            consensusInit
              { before.node starter with luminaire := luminaire } := by
        rw [executed]
        simp [issueRestart, processRestart, beginRun]
      have newCompleted : net.completed starter = 0 := by
        rw [executed]
        simp [issueRestart, processRestart, beginRun]
      constructor
      · intro _
        rfl
      · intro _ _
        rw [newCompleted]
        show _ = (consensusInit (net.node starter)).estimate
        rw [newNode, consensusInit_consensusInit]
      · intro waits
        rw [newNode, (consensusInit_fresh _).2.1] at waits
        cases waits
      · intro round earlier
        rw [newCompleted] at earlier
        omega
    · rw [unchanged] at restarts
      cases restarts
  · have unchanged := effect.others same
    constructor
    · intro _
      rfl
    · intro awake
      rw [unchanged.restarts, off.noRestart] at awake
      exact absurd rfl awake
    · intro waits
      rw [unchanged.node, off.off] at waits
      cases waits
    · intro round earlier
      rw [unchanged.completed, off.noneCompleted] at earlier
      omega

end Steps

section Runs

variable {overrun : Nat → K → Nat}
    {starter : Fin N}
    {start net : Net K N}

/-- In every run every node follows the lockstep. -/
theorem nodeFollows_of_run
    (spare : N < maxNumNodes)
    (launched : Launched overrun starter start)
    (run : Run (next overrun) Undisturbed start net) :
    ∀ n, NodeFollows start.node net n := by
  have both :
      RunInvariant starter net ∧ ∀ n, NodeFollows start.node net n := by
    refine
      run.invariant
        (fun net =>
          RunInvariant starter net ∧ ∀ n, NodeFollows start.node net n)
        ⟨.initial launched, .initial launched⟩ ?_
    intro before after action held undisturbed taken
    obtain ⟨invariant, follows⟩ := held
    obtain ⟨n, does⟩ := action
    have effect := effect_of_next taken
    refine ⟨invariant.step spare undisturbed taken, fun m => ?_⟩
    by_cases same : m = n
    · subst m
      exact NodeFollows.step invariant follows spare undisturbed effect
    · exact (follows m).of_others effect same
  exact both.2

/--
A node is, in every state of every run, where the lockstep is after as many
rounds, and every proposal it has broadcast is the one of the lockstep.
-/
theorem lockstep_of_run
    (spare : N < maxNumNodes)
    (launched : Launched overrun starter start)
    (run : Run (next overrun) Undisturbed start net)
    (n : Fin N) :
    (net.restarts n = [] →
        net.completed n = 0 ∧
          (consensusInit (net.node n)).estimate =
            (lockstep start.node 0 n).estimate) ∧
      (net.restarts n ≠ [] →
        (net.node n).estimate =
          if (net.node n).consensus.consensusState =
              .waitingReciveDutyCycle then
            (consensusIterate
              (lockstep start.node (net.completed n) n)).estimate
          else
            (lockstep start.node (net.completed n) n).estimate) ∧
      ∀ round,
        CountingBarrier.tokensSent Traffic.iteration? net.bus.log n round =
            numMessages N →
          ∃ buffer,
            proposalFrames net.bus.log n round =
              (sendConsensusDutyCycle N
                (proposalAt (lockstep start.node round n)) buffer).2 := by
  have invariant := runInvariant_of_run spare launched run
  have follows := nodeFollows_of_run spare launched run n
  refine ⟨?_, ?_, ?_⟩
  · intro asleep
    exact
      ⟨((invariant.nodes n).asleep asleep).2.1, follows.asleep asleep⟩
  · intro awake
    split_ifs with waits
    · exact (follows.waiting waits).1
    · exact follows.between awake waits
  · intro round all
    exact isProposal_of_tokensSent invariant follows all

/-- Two nodes, up to the point where node 1 has completed an iteration. -/
theorem lockstep_of_run_two_nodes :
    ∃ net,
      Run (next fun count _ => count) Undisturbed (occupied 2 0) net ∧
        net.completed 1 = 1 ∧
        net.restarts 1 ≠ [] ∧
        (net.node 1).estimate =
          if (net.node 1).consensus.consensusState =
              .waitingReciveDutyCycle then
            (consensusIterate
              (lockstep (occupied 2 0).node (net.completed 1) 1)).estimate
          else
            (lockstep (occupied 2 0).node (net.completed 1) 1).estimate := by
  obtain ⟨net, run, observed⟩ :=
    exists_run_of_observed
      (next fun count _ => count)
      Undisturbed
      (occupied 2 0)
      (drainAndStart 0 0 ++ transmitFrames 0 1 ++
          drainAndStart 1 2 ++ transmitFrames 1 1 ++ [⟨1, .endMain⟩])
      (fun net => decide (net.completed 1 = 1 ∧ net.restarts 1 ≠ []))
      (by decide +kernel)
  rw [decide_eq_true_eq] at observed
  obtain ⟨completed, awake⟩ := observed
  exact
    ⟨net, run, completed, awake,
      (lockstep_of_run (by decide) (launched_occupied 2 0 _) run 1).2.1
        awake⟩

/--
The outcome does not depend on the schedule: wherever a node has completed as many
iterations in two runs, it holds the same estimate in both.
-/
theorem estimate_schedule_independent
    {otherOverrun : Nat → K → Nat}
    {other : Net K N}
    (spare : N < maxNumNodes)
    (launched : Launched overrun starter start)
    (run : Run (next overrun) Undisturbed start net)
    (otherLaunched : Launched otherOverrun starter start)
    (otherRun : Run (next otherOverrun) Undisturbed start other)
    {n : Fin N}
    (level : net.completed n = other.completed n)
    (awake : net.restarts n ≠ [] ∧ other.restarts n ≠ [])
    (phase :
      (net.node n).consensus.consensusState = .waitingReciveDutyCycle ↔
        (other.node n).consensus.consensusState =
          .waitingReciveDutyCycle) :
    (net.node n).estimate = (other.node n).estimate := by
  have follows := nodeFollows_of_run spare launched run n
  have otherFollows := nodeFollows_of_run spare otherLaunched otherRun n
  by_cases waits :
      (net.node n).consensus.consensusState = .waitingReciveDutyCycle
  · rw [(follows.waiting waits).1, (otherFollows.waiting (phase.mp waits)).1,
      level]
  · rw [follows.between awake.1 waits,
      otherFollows.between awake.2 (fun waiting => waits (phase.mpr waiting)),
      level]

/--
Two nodes and two schedules, in which they propose in different orders before node 1
completes its first iteration.
-/
theorem estimate_schedule_independent_two_nodes :
    ∃ net other,
      Run (next fun count _ => count) Undisturbed (occupied 2 0) net ∧
        Run (next fun _ _ => 0) Undisturbed (occupied 2 0) other ∧
        net.completed 1 = 1 ∧
        net.bus.log.map Entry.sender = [0, 0, 1] ∧
        other.bus.log.map Entry.sender = [0, 1, 0] ∧
        (net.node 1).estimate = (other.node 1).estimate := by
  obtain ⟨net, run, observed⟩ :=
    exists_run_of_observed
      (next fun count _ => count)
      Undisturbed
      (occupied 2 0)
      (drainAndStart 0 0 ++ transmitFrames 0 1 ++
          drainAndStart 1 2 ++ transmitFrames 1 1 ++ [⟨1, .endMain⟩])
      (fun net =>
        decide
          (net.completed 1 = 1 ∧ net.restarts 1 ≠ [] ∧
            (net.node 1).consensus.consensusState = .iterate ∧
            net.bus.log.map Entry.sender = [0, 0, 1]))
      (by decide +kernel)
  obtain ⟨other, otherRun, otherObserved⟩ :=
    exists_run_of_observed
      (next fun _ _ => 0)
      Undisturbed
      (occupied 2 0)
      (drainAndStart 1 1 ++ transmitFrames 1 1 ++ [⟨1, .endMain⟩] ++
          drainAndStart 0 1 ++ transmitFrames 0 1 ++
          drainAndStart 1 1 ++ [⟨1, .endMain⟩])
      (fun other =>
        decide
          (other.completed 1 = 1 ∧ other.restarts 1 ≠ [] ∧
            (other.node 1).consensus.consensusState = .iterate ∧
            other.bus.log.map Entry.sender = [0, 1, 0]))
      (by decide +kernel)
  rw [decide_eq_true_eq] at observed otherObserved
  obtain ⟨completed, awake, iterating, order⟩ := observed
  obtain ⟨otherCompleted, otherAwake, otherIterating, otherOrder⟩ :=
    otherObserved
  refine ⟨net, other, run, otherRun, completed, order, otherOrder, ?_⟩
  exact
    estimate_schedule_independent (by decide) (launched_occupied 2 0 _) run
      (launched_occupied 2 0 _) otherRun (completed.trans otherCompleted.symm)
      ⟨awake, otherAwake⟩ (by rw [iterating, otherIterating])

/-- All nodes have completed the same number of iterations, and nobody waits. -/
structure BetweenRounds (net : Net K N) (rounds : Nat) : Prop where
  awake : ∀ n, net.restarts n ≠ []
  level : ∀ n, net.completed n = rounds
  between :
    ∀ n,
      (net.node n).consensus.consensusState ≠ .waitingReciveDutyCycle

instance (net : Net K N) (rounds : Nat) :
    Decidable (net.BetweenRounds rounds) :=
  decidable_of_iff
    ((∀ n, net.restarts n ≠ []) ∧
      (∀ n, net.completed n = rounds) ∧
      ∀ n,
        (net.node n).consensus.consensusState ≠ .waitingReciveDutyCycle)
    ⟨fun facts => ⟨facts.1, facts.2.1, facts.2.2⟩,
      fun between => ⟨between.awake, between.level, between.between⟩⟩

/-- Between rounds every node holds the estimate of the lockstep. -/
theorem BetweenRounds.estimate
    (spare : N < maxNumNodes)
    (launched : Launched overrun starter start)
    (run : Run (next overrun) Undisturbed start net)
    {rounds : Nat}
    (between : net.BetweenRounds rounds)
    (n : Fin N) :
    (net.node n).estimate = (lockstep start.node rounds n).estimate := by
  have follows := nodeFollows_of_run spare launched run n
  rw [follows.between (between.awake n) (between.between n), between.level n]

/-- The nodes of a launched network have its size. -/
theorem size_of_launched
    (launched : Launched overrun starter start)
    (n : Fin N) :
    (start.node n).numTotalNodes = N :=
  ((RunInvariant.initial launched).nodes n).size

end Runs

end Net

end DistributedLighting
