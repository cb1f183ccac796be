import DistributedLighting.ConsensusNetwork
import DistributedLighting.CountingBarrier

namespace DistributedLighting

/-!
# The rounds of one run

One node restarts the consensus while all nodes are off, and nobody restarts it
again.  The network then is a counting barrier: the iterations of a node are
its rounds, its proposals the tokens.  What a node has received when it enters
`UPDATE_STATE` follows from the barrier, as long as the received vector has a
free slot behind the registry.
-/

namespace Net

variable {K : Type} {N : Nat}

section Settings

variable [Field K] [LinearOrder K] [FloorRing K]

/-- All nodes have the same registry and are off, and nothing is on the bus. -/
structure AllOff (net : Net K N) : Prop where
  registry : ∀ n, (net.node n).numTotalNodes = N
  off : ∀ n, (net.node n).consensus.consensusState = .off
  quiet : net.bus.log = []
  notSending : ∀ n rest, net.point n ≠ .sending rest
  noneCompleted : ∀ n, net.completed n = 0
  noneCounted : ∀ n, net.counted n = []
  noRestart : ∀ n, net.restarts n = []

omit [Field K] [LinearOrder K] [FloorRing K] in
/-- Before the run nobody has received a frame. -/
theorem AllOff.received_eq_nil
    {before : Net K N}
    (off : AllOff before)
    (m : Fin N) :
    before.bus.received m = [] := by
  have order := before.bus.ordered m
  rw [off.quiet, List.filter_nil, List.append_eq_nil_iff] at order
  exact order.1

/-- One node has just restarted the consensus, starting from all-off. -/
def Launched
    (overrun : Nat → K → Nat)
    (starter : Fin N)
    (start : Net K N) : Prop :=
  ∃ before command,
    AllOff before ∧
      (executeCommand (before.node starter) command).2 = true ∧
      before.next overrun ⟨starter, .command command⟩ = some start

/-- The action does not restart the consensus. -/
def Undisturbed (net : Net K N) (action : Action K N) : Prop :=
  match action.does with
  | .command command =>
      (executeCommand (net.node action.node) command).2 = false
  | .calibrated _ _ => False
  | _ => True

instance (net : Net K N) (action : Action K N) :
    Decidable (Undisturbed net action) :=
  match action with
  | ⟨_, .command _⟩ => inferInstanceAs (Decidable (_ = false))
  | ⟨_, .calibrated _ _⟩ => inferInstanceAs (Decidable False)
  | ⟨_, .prepare _⟩ | ⟨_, .beginDrain⟩ | ⟨_, .take⟩ | ⟨_, .endDrain⟩
  | ⟨_, .beginMain⟩ | ⟨_, .transmit⟩ | ⟨_, .endMain⟩ =>
      inferInstanceAs (Decidable True)

end Settings

/-- The proposals of its current iteration that a node has sent. -/
def proposalsSent (net : Net K N) (n : Fin N) : Nat :=
  if (net.node n).consensus.consensusState = .waitingReciveDutyCycle then
    numMessages N - (net.point n).pending.length
  else
    0

/-- The network as a counting barrier. -/
def toBarrier (net : Net K N) : CountingBarrier.State (Fin N) Traffic where
  bus := net.bus
  round := net.completed
  sent := net.proposalsSent
  counted := net.counted

/-- A step of one node changes the barrier at this node only. -/
theorem toBarrier_of_others
    {net after : Net K N}
    {n : Fin N}
    (others : ∀ m, m ≠ n → SameAt net after m) :
    after.toBarrier =
      { bus := after.bus
        round := Function.update net.completed n (after.completed n)
        sent :=
          Function.update net.proposalsSent n (after.proposalsSent n)
        counted := Function.update net.counted n (after.counted n) } := by
  unfold toBarrier
  rw [CountingBarrier.State.mk.injEq]
  refine ⟨rfl, ?_, ?_, ?_⟩ <;>
    funext m <;>
    by_cases same : m = n
  · subst m
    simp
  · simp [same, (others m same).completed]
  · subst m
    simp
  · simp [same, proposalsSent, (others m same).node, (others m same).point]
  · subst m
    simp
  · simp [same, (others m same).counted]

/-- A step that keeps a node's progress and the bus does not show in the barrier. -/
theorem toBarrier_of_same
    {net after : Net K N}
    {n : Fin N}
    (others : ∀ m, m ≠ n → SameAt net after m)
    (bus : after.bus = net.bus)
    (completed : after.completed n = net.completed n)
    (sent : after.proposalsSent n = net.proposalsSent n)
    (counted : after.counted n = net.counted n) :
    after.toBarrier = net.toBarrier := by
  rw [toBarrier_of_others others, bus, completed, sent, counted]
  simp [toBarrier]

section Activity

variable [Field K]

/-- A node takes part in the run, with some iterations completed and some proposals counted. -/
structure Active
    (N : Nat)
    (node : Firmware K)
    (completed : Nat)
    (counted : List (Entry (Fin N) Traffic)) : Prop where
  expected :
    node.consensus.numberOfMsgExpected = numMessages N * (N - 1)
  count : node.consensus.numberOfMsgReceived = counted.length
  sum :
    ∀ slot < N,
      node.consensus.receivedDutyCycle slot =
        (counted.map fun entry => entry.frame.amount N slot).sum
  phase :
    ((node.consensus.consensusState = .iterate ∨
          node.consensus.consensusState = .waitingReciveDutyCycle) ∧
        node.consensus.numIter = completed ∧
        completed < maxIter) ∨
      (node.consensus.consensusState = .off ∧ completed = maxIter)

/-- A freshly initialised node takes part and has done nothing yet. -/
theorem Active.fresh
    {node : Firmware K}
    (size : node.numTotalNodes = N) :
    Active N (consensusInit node) 0 [] := by
  obtain ⟨_, state, numIter, received, expected⟩ := consensusInit_fresh node
  constructor
  · rw [expected, size]
  · exact received
  · intro slot inVector
    exact consensusInit_receivedDutyCycle node (by rw [size]; exact inVector)
  · exact .inl ⟨.inl state, numIter, by decide⟩

/-- With a full count the node completes its iteration, and starts the next or switches off. -/
theorem Active.mainWait
    {node : Firmware K}
    {completed : Nat}
    {counted : List (Entry (Fin N) Traffic)}
    (active : Active N node completed counted)
    (size : node.numTotalNodes = N)
    (iteration : node.consensus.numIter = completed)
    (bounded : completed < maxIter)
    (waiting :
      node.consensus.consensusState = .waitingReciveDutyCycle)
    (full :
      node.consensus.numberOfMsgReceived =
        node.consensus.numberOfMsgExpected) :
    Active N (consensusMainWait node) (completed + 1) [] := by
  rw [consensusMainWait_of_full waiting full]
  obtain ⟨_, received, expected, sums⟩ :=
    consensusUpdate_cleared
      { node with
        consensus := { node.consensus with consensusState := .update } }
  constructor
  · rw [expected]
    exact active.expected
  · exact received
  · intro slot inVector
    exact sums slot (by rw [size]; exact inVector)
  · by_cases last : node.consensus.numIter + 1 = maxIter
    · exact .inr
        ⟨(consensusUpdate_last last).1, by rw [← iteration]; exact last⟩
    · obtain ⟨state, numIter⟩ := consensusUpdate_next
        { node with
          consensus := { node.consensus with consensusState := .update } }
        last
      refine .inl ⟨.inl state, ?_, ?_⟩
      · rw [numIter]
        simp [iteration]
      · omega

/-- What holds of one node of the run: it sleeps until the restart reaches it. -/
structure NodeOk
    (starter : Fin N)
    (net : Net K N)
    (n : Fin N) : Prop where
  size : (net.node n).numTotalNodes = N
  asleep :
    net.restarts n = [] →
    (net.node n).consensus.consensusState = .off ∧
      net.completed n = 0 ∧
      net.counted n = [] ∧
      n ≠ starter ∧
      net.bus.received n = []
  joined :
    net.restarts n ≠ [] →
    (n = starter ∨ net.bus.received n ≠ []) ∧
      Active N (net.node n) (net.completed n) (net.counted n)
  sending :
    ∀ rest,
      net.point n = .sending rest →
      (net.node n).consensus.consensusState = .waitingReciveDutyCycle ∧
        rest.length ≤ numMessages N

/-- What every reachable state of the run satisfies. -/
structure RunInvariant
    (starter : Fin N)
    (net : Net K N) : Prop where
  barrier :
    CountingBarrier.Invariant Traffic.iteration? (numMessages N)
      net.toBarrier
  onlyStart :
    ∃ restart proposals,
      net.bus.log = ⟨starter, .doConsensus restart⟩ :: proposals ∧
        ∀ entry ∈ proposals, (entry.frame.iteration?).isSome
  nodes : ∀ n, NodeOk starter net n

variable {starter : Fin N} {net after : Net K N} {n : Fin N}

/-- Only the consensus object, the registry and the progress of a node matter. -/
theorem NodeOk.congr
    (ok : NodeOk starter net n)
    (size : (after.node n).numTotalNodes = (net.node n).numTotalNodes)
    (consensus : (after.node n).consensus = (net.node n).consensus)
    (point :
      ∀ rest,
        after.point n = .sending rest →
        net.point n = .sending rest)
    (completed : after.completed n = net.completed n)
    (counted : after.counted n = net.counted n)
    (restarts : after.restarts n = net.restarts n)
    (received : after.bus.received n = net.bus.received n) :
    NodeOk starter after n where
  size := size.trans ok.size
  asleep := by
    rw [restarts, consensus, completed, counted, received]
    exact ok.asleep
  joined := by
    rw [restarts, completed, counted, received]
    intro member
    obtain ⟨reached, active⟩ := ok.joined member
    refine ⟨reached, ?_⟩
    constructor
    · rw [consensus]
      exact active.expected
    · rw [consensus]
      exact active.count
    · rw [consensus]
      exact active.sum
    · rw [consensus]
      exact active.phase
  sending := by
    intro rest sending
    rw [consensus]
    exact ok.sending rest (point rest sending)

/-- A node that an action leaves alone stays fine. -/
theorem NodeOk.of_sameAt
    (ok : NodeOk starter net n)
    (same : SameAt net after n) :
    NodeOk starter after n := by
  refine ok.congr ?_ ?_ ?_ same.completed same.counted same.restarts
    same.received
  · rw [same.node]
  · rw [same.node]
  · intro rest sending
    rw [← same.point]
    exact sending

/-- A node that the start of the run leaves alone sleeps. -/
theorem AllOff.asleep
    (off : AllOff net)
    (unchanged : SameAt net after n)
    (notStarter : n ≠ starter) :
    NodeOk starter after n := by
  constructor
  · rw [unchanged.node]
    exact off.registry n
  · intro _
    rw [unchanged.node, unchanged.completed, unchanged.counted,
      unchanged.received]
    exact
      ⟨off.off n, off.noneCompleted n, off.noneCounted n, notStarter,
        off.received_eq_nil n⟩
  · intro awake
    rw [unchanged.restarts] at awake
    exact absurd (off.noRestart n) awake
  · intro rest sending
    rw [unchanged.point] at sending
    exact absurd sending (off.notSending n rest)

/-- A node that is not off takes part in the run and is in the middle of it. -/
theorem NodeOk.active
    (ok : NodeOk starter net n)
    (notOff : (net.node n).consensus.consensusState ≠ .off) :
    net.restarts n ≠ [] ∧
      Active N (net.node n) (net.completed n) (net.counted n) ∧
      (net.node n).consensus.numIter = net.completed n ∧
      net.completed n < maxIter := by
  have joined : net.restarts n ≠ [] :=
    fun none => notOff (ok.asleep none).1
  have active := (ok.joined joined).2
  rcases active.phase with ⟨_, iteration, bounded⟩ | ⟨off, _⟩
  · exact ⟨joined, active, iteration, bounded⟩
  · exact absurd off notOff

/-- The restart is the first frame of every queue. -/
theorem RunInvariant.fifo_of_restart
    (invariant : RunInvariant starter net)
    {entry : Entry (Fin N) Traffic}
    {rest : List (Entry (Fin N) Traffic)}
    (queued : net.bus.fifo n = entry :: rest) :
    (entry.frame.iteration? = none ↔ net.restarts n = []) := by
  obtain ⟨restart, proposals, log, areProposals⟩ := invariant.onlyStart
  have order := net.bus.ordered n
  rw [log, queued, List.filter_cons] at order
  have ok := invariant.nodes n
  by_cases own : starter = n
  · have joined : net.restarts n ≠ [] :=
      fun none => (ok.asleep none).2.2.2.1 own.symm
    have member :
        entry ∈ proposals.filter (fun entry => entry.sender ≠ n) := by
      have notKept :
          decide
            ((⟨starter, .doConsensus restart⟩ :
              Entry (Fin N) Traffic).sender ≠ n) = false := by
        simp [own]
      rw [if_neg (by simp [notKept])] at order
      rw [← order]
      simp
    have isProposal := areProposals entry (List.mem_filter.mp member).1
    constructor
    · intro none
      simp [none] at isProposal
    · intro none
      exact absurd none joined
  · rw [if_pos (by simpa using own)] at order
    cases received : net.bus.received n with
    | nil =>
        rw [received, List.nil_append, List.cons.injEq] at order
        obtain ⟨isRestart, _⟩ := order
        subst isRestart
        constructor
        · intro _
          by_contra joined
          rcases (ok.joined joined).1 with isStarter | someReceived
          · exact own isStarter.symm
          · exact someReceived received
        · intro _
          rfl
    | cons first earlier =>
        rw [received, List.cons_append, List.cons.injEq] at order
        have member :
            entry ∈ proposals.filter (fun entry => entry.sender ≠ n) := by
          rw [← order.2]
          simp
        have isProposal :=
          areProposals entry (List.mem_filter.mp member).1
        have joined : net.restarts n ≠ [] := by
          intro none
          have empty := (ok.asleep none).2.2.2.2
          rw [received] at empty
          cases empty
        constructor
        · intro none
          simp [none] at isProposal
        · intro none
          exact absurd none joined

end Activity

section Steps

variable [Field K]
    {starter : Fin N} {net after : Net K N} {n : Fin N}
    {overrun : Nat → K → Nat}

/-- What one action does to the acting node and to the barrier. -/
structure Simulates
    (starter : Fin N)
    (net after : Net K N)
    (n : Fin N) : Prop where
  node : NodeOk starter after n
  barrier :
    after.toBarrier = net.toBarrier ∨
      CountingBarrier.Step Traffic.iteration? (numMessages N)
        net.toBarrier after.toBarrier
  log :
    ∃ proposals,
      after.bus.log = net.bus.log ++ proposals ∧
        ∀ entry ∈ proposals, (entry.frame.iteration?).isSome

/-- An action without an effect on the run. -/
theorem Simulates.of_unchanged
    (ok : NodeOk starter net n)
    (others : ∀ m, m ≠ n → SameAt net after m)
    (size : (after.node n).numTotalNodes = (net.node n).numTotalNodes)
    (consensus : (after.node n).consensus = (net.node n).consensus)
    (pending : (after.point n).pending = (net.point n).pending)
    (point :
      ∀ rest,
        after.point n = .sending rest →
        net.point n = .sending rest)
    (completed : after.completed n = net.completed n)
    (counted : after.counted n = net.counted n)
    (restarts : after.restarts n = net.restarts n)
    (bus : after.bus = net.bus) :
    Simulates starter net after n where
  node :=
    ok.congr size consensus point completed counted restarts (by rw [bus])
  barrier := by
    refine .inl (toBarrier_of_same others bus completed ?_ counted)
    unfold proposalsSent
    rw [consensus, pending]
  log := ⟨[], by rw [bus, List.append_nil], by simp⟩

/-- Receiving the restart starts the run of a sleeping node. -/
theorem simulates_receive_restart
    (invariant : RunInvariant starter net)
    {entry : Entry (Fin N) Traffic}
    {rest : List (Entry (Fin N) Traffic)}
    {restart : Nat}
    (queued : net.bus.fifo n = entry :: rest)
    (isRestart : entry.frame = .doConsensus restart)
    (others :
      ∀ m, m ≠ n → SameAt net (net.receive overrun n entry) m) :
    Simulates starter net (net.receive overrun n entry) n := by
  have ok := invariant.nodes n
  have unlabelled : entry.frame.iteration? = none := by
    rw [isRestart]
    rfl
  have sleeping := (invariant.fifo_of_restart queued).mp unlabelled
  obtain ⟨off, completed, counted, _, _⟩ := ok.asleep sleeping
  have fresh := consensusInit_fresh (net.node n)
  have received : net.receive overrun n entry =
      { (net.beginRun n (consensusInit (net.node n))).processRestart
          n restart with
        bus := net.bus.take n } := by
    unfold receive
    rw [isRestart]
  have newNode :
      (net.receive overrun n entry).node n = consensusInit (net.node n) := by
    rw [received]
    simp [processRestart, beginRun]
  refine { node := ?_, barrier := ?_, log := ⟨[], ?_, by simp⟩ }
  · constructor
    · rw [newNode]
      exact fresh.1.trans ok.size
    · intro none
      rw [received] at none
      simp [processRestart] at none
    · intro _
      refine ⟨.inr ?_, ?_⟩
      · rw [received]
        simp only [Bus.take_received_self queued]
        simp
      · have restarted :
            (net.receive overrun n entry).completed n = 0 ∧
              (net.receive overrun n entry).counted n = [] := by
          rw [received]
          simp [processRestart, beginRun]
        rw [newNode, restarted.1, restarted.2]
        exact Active.fresh ok.size
    · intro frames sending
      rw [received] at sending
      have wasSending : net.point n = .sending frames := sending
      have waited := (ok.sending frames wasSending).1
      rw [off] at waited
      cases waited
  · refine .inr ?_
    rw [toBarrier_of_others others]
    have sentBefore : net.proposalsSent n = 0 := by
      simp [proposalsSent, off]
    have sentAfter :
        (net.receive overrun n entry).proposalsSent n = 0 := by
      unfold proposalsSent
      rw [newNode, fresh.2.1]
      simp
    have step :
        CountingBarrier.Step Traffic.iteration? (numMessages N)
          net.toBarrier _ :=
      .skip n entry rest queued unlabelled
    convert step using 1
    rw [CountingBarrier.State.mk.injEq]
    refine ⟨?_, ?_, ?_, ?_⟩
    · rw [received]
      rfl
    · have same :
          (net.receive overrun n entry).completed n = net.completed n := by
        rw [received, completed]
        simp [processRestart, beginRun]
      rw [same, Function.update_eq_self]
      rfl
    · rw [sentAfter, ← sentBefore, Function.update_eq_self]
      rfl
    · have same :
          (net.receive overrun n entry).counted n = net.counted n := by
        rw [received, counted]
        simp [processRestart, beginRun]
      rw [same, Function.update_eq_self]
      rfl
  · rw [received, List.append_nil]
    rfl

/-- Receiving a proposal counts it. -/
theorem simulates_receive_proposal
    (invariant : RunInvariant starter net)
    (spare : N < maxNumNodes)
    {entry : Entry (Fin N) Traffic}
    {rest : List (Entry (Fin N) Traffic)}
    {data : FrameData}
    {iteration : Nat}
    {seen : List Nat}
    (queued : net.bus.fifo n = entry :: rest)
    (isProposal : entry.frame = .consensus data iteration seen)
    (draining : net.point n = .drain)
    (others :
      ∀ m, m ≠ n → SameAt net (net.receive overrun n entry) m) :
    Simulates starter net (net.receive overrun n entry) n := by
  have ok := invariant.nodes n
  have labelled : entry.frame.iteration? = some iteration := by
    rw [isProposal]
    rfl
  have awake : net.restarts n ≠ [] := by
    intro none
    have unlabelled := (invariant.fifo_of_restart queued).mpr none
    rw [labelled] at unlabelled
    cases unlabelled
  have active := (ok.joined awake).2
  have received : net.receive overrun n entry =
      { net.setNode n (receivedConsensus overrun data (net.node n)) with
        bus := net.bus.take n
        counted :=
          Function.update net.counted n (net.counted n ++ [entry]) } := by
    unfold receive
    rw [isProposal]
  have newNode :
      (net.receive overrun n entry).node n =
        (net.node n).collect (contribution N data) 1 := by
    rw [received]
    simp only [setNode, Function.update_self]
    rw [receivedConsensus_within overrun data (by rw [ok.size]; exact spare),
      ok.size]
  have newCounted :
      (net.receive overrun n entry).counted n =
        net.counted n ++ [entry] := by
    rw [received]
    simp
  have newState :
      ((net.receive overrun n entry).node n).consensus.consensusState =
        (net.node n).consensus.consensusState := by
    rw [newNode]
    rfl
  refine { node := ?_, barrier := ?_, log := ⟨[], ?_, by simp⟩ }
  · constructor
    · rw [newNode]
      exact ok.size
    · intro none
      rw [received] at none
      exact absurd none awake
    · intro _
      refine ⟨.inr ?_, ?_⟩
      · rw [received]
        simp only [Bus.take_received_self queued]
        simp
      · constructor
        · rw [newNode]
          exact active.expected
        · rw [newNode, newCounted, collect_numberOfMsgReceived,
            active.count, List.length_append, List.length_singleton]
        · intro slot inVector
          rw [newNode, newCounted, collect_receivedDutyCycle,
            active.sum slot inVector, List.map_append, List.sum_append,
            List.map_singleton, List.sum_singleton, isProposal]
          rfl
        · rw [newState, newNode, received]
          exact active.phase
    · intro frames sending
      rw [received] at sending
      have wasSending : net.point n = .sending frames := sending
      rw [draining] at wasSending
      cases wasSending
  · refine .inr ?_
    rw [toBarrier_of_others others]
    have step :
        CountingBarrier.Step Traffic.iteration? (numMessages N)
          net.toBarrier _ :=
      .count n entry rest queued (by rw [labelled]; rfl)
    convert step using 1
    rw [CountingBarrier.State.mk.injEq]
    refine ⟨?_, ?_, ?_, ?_⟩
    · rw [received]
      rfl
    · have same :
          (net.receive overrun n entry).completed n = net.completed n := by
        rw [received]
        rfl
      rw [same, Function.update_eq_self]
      rfl
    · have same :
          (net.receive overrun n entry).proposalsSent n =
            net.proposalsSent n := by
        unfold proposalsSent
        rw [newState, received]
        rfl
      rw [same, Function.update_eq_self]
      rfl
    · rw [newCounted]
      rfl
  · rw [received, List.append_nil]
    rfl

/-- Sending a frame of a proposal puts a token on the bus. -/
theorem simulates_sendFrame
    (ok : NodeOk starter net n)
    {data : FrameData}
    {rest : List FrameData}
    (sending : net.point n = .sending (data :: rest))
    (others : ∀ m, m ≠ n → SameAt net (net.sendFrame n data rest) m) :
    Simulates starter net (net.sendFrame n data rest) n := by
  obtain ⟨waiting, within⟩ := ok.sending _ sending
  rw [List.length_cons] at within
  have notOff : (net.node n).consensus.consensusState ≠ .off := by
    rw [waiting]
    simp
  obtain ⟨awake, active, iteration, bounded⟩ := ok.active notOff
  have newPoint :
      (net.sendFrame n data rest).point n = .sending rest := by
    simp [sendFrame, moveTo]
  refine { node := ?_, barrier := .inr ?_, log := ?_ }
  · constructor
    · exact ok.size
    · intro none
      exact absurd none awake
    · intro _
      exact ok.joined awake
    · intro frames stillSending
      rw [newPoint, LoopPoint.sending.injEq] at stillSending
      subst frames
      exact ⟨waiting, by omega⟩
  · rw [toBarrier_of_others others]
    have sentBefore :
        net.proposalsSent n = numMessages N - (rest.length + 1) := by
      simp [proposalsSent, waiting, sending, LoopPoint.pending]
    have sentAfter :
        (net.sendFrame n data rest).proposalsSent n =
          net.proposalsSent n + 1 := by
      rw [sentBefore]
      unfold proposalsSent
      rw [newPoint]
      have stillWaiting :
          ((net.sendFrame n data rest).node n).consensus.consensusState =
            .waitingReciveDutyCycle :=
        waiting
      rw [if_pos stillWaiting, LoopPoint.pending]
      omega
    have step :
        CountingBarrier.Step Traffic.iteration? (numMessages N)
          net.toBarrier _ :=
      .token n
        (.consensus data (net.node n).consensus.numIter (net.restarts n))
        (by rw [Traffic.iteration?, iteration]; rfl)
        (by
          show net.proposalsSent n < numMessages N
          rw [sentBefore]
          have positive := numMessages_pos N
          omega)
    convert step using 1
    rw [CountingBarrier.State.mk.injEq]
    refine ⟨rfl, ?_, ?_, ?_⟩
    · exact Function.update_eq_self n net.completed
    · rw [sentAfter]
      rfl
    · exact Function.update_eq_self n net.counted
  · exact
      ⟨[⟨n, .consensus data (net.node n).consensus.numIter
          (net.restarts n)⟩], rfl, by simp [Traffic.iteration?]⟩

/-- Looking at the counter either keeps waiting or passes the barrier. -/
theorem simulates_finishMain
    (ok : NodeOk starter net n)
    (sent : net.point n = .sending [])
    (others : ∀ m, m ≠ n → SameAt net (net.finishMain n) m) :
    Simulates starter net (net.finishMain n) n := by
  obtain ⟨waiting, _⟩ := ok.sending _ sent
  have notOff : (net.node n).consensus.consensusState ≠ .off := by
    rw [waiting]
    simp
  obtain ⟨awake, active, iteration, bounded⟩ := ok.active notOff
  by_cases enters : net.EntersUpdate n
  · have finished :
        net.finishMain n =
          { (net.setNode n (consensusMainWait (net.node n))).moveTo n
              .readSerial with
            completed :=
              Function.update net.completed n (net.completed n + 1)
            counted := Function.update net.counted n [] } := by
      simp [finishMain, enters]
    have updated := consensusMainWait_of_full enters.1 enters.2
    have newNode :
        (net.finishMain n).node n = consensusMainWait (net.node n) := by
      rw [finished]
      simp [moveTo, setNode]
    have newPoint : (net.finishMain n).point n = .readSerial := by
      rw [finished]
      simp [moveTo]
    have newCompleted :
        (net.finishMain n).completed n = net.completed n + 1 := by
      rw [finished]
      simp
    have newCounted : (net.finishMain n).counted n = [] := by
      rw [finished]
      simp
    have same :
        (net.finishMain n).restarts = net.restarts ∧
          (net.finishMain n).bus = net.bus := by
      rw [finished]
      exact ⟨rfl, rfl⟩
    obtain ⟨restarts, bus⟩ := same
    refine { node := ?_, barrier := .inr ?_, log := ?_ }
    · constructor
      · rw [newNode, updated, (consensusUpdate_cleared _).1]
        exact ok.size
      · rw [restarts]
        intro none
        exact absurd none awake
      · intro _
        rw [bus, newCompleted, newCounted, newNode]
        exact
          ⟨(ok.joined awake).1,
            active.mainWait ok.size iteration bounded enters.1 enters.2⟩
      · intro frames sending
        rw [newPoint] at sending
        cases sending
    · rw [toBarrier_of_others others]
      have allSent : net.proposalsSent n = numMessages N := by
        simp [proposalsSent, waiting, sent, LoopPoint.pending]
      have sentAfter : (net.finishMain n).proposalsSent n = 0 := by
        unfold proposalsSent
        rw [newNode, updated, if_neg (consensusUpdate_not_waiting _)]
      have full :
          (net.counted n).length =
            numMessages N * (Fintype.card (Fin N) - 1) := by
        rw [← active.count, enters.2, active.expected, Fintype.card_fin]
      have step :
          CountingBarrier.Step Traffic.iteration? (numMessages N)
            net.toBarrier _ :=
        .pass n allSent full
      convert step using 1
      rw [CountingBarrier.State.mk.injEq]
      refine ⟨by rw [bus]; rfl, ?_, ?_, ?_⟩
      · rw [newCompleted]
        rfl
      · rw [sentAfter]
        rfl
      · rw [newCounted]
        rfl
    · exact ⟨[], by rw [bus, List.append_nil], by simp⟩
  · have notFull :
        (net.node n).consensus.numberOfMsgReceived ≠
          (net.node n).consensus.numberOfMsgExpected :=
      fun full => enters ⟨waiting, full⟩
    have finished :
        net.finishMain n =
          (net.setNode n (net.node n)).moveTo n .readSerial := by
      unfold finishMain
      rw [consensusMainWait_of_not_full waiting notFull]
      simp [enters]
    rw [finished] at others ⊢
    refine .of_unchanged ok others ?_ ?_ ?_ ?_ rfl rfl rfl rfl
    · simp [setNode, moveTo]
    · simp [setNode, moveTo]
    · simp [setNode, moveTo, sent, LoopPoint.pending]
    · intro rest sending
      simp [moveTo] at sending

variable [LinearOrder K] [FloorRing K]

/-- Entering `consensus_main` leaves the bookkeeping and the bus alone. -/
theorem startMain_kept
    (net : Net K N)
    (n : Fin N) :
    (net.startMain n).completed = net.completed ∧
      (net.startMain n).counted = net.counted ∧
      (net.startMain n).restarts = net.restarts ∧
      (net.startMain n).bus = net.bus := by
  unfold startMain
  split <;> exact ⟨rfl, rfl, rfl, rfl⟩

/-- A node that takes part enters `consensus_main` and is left with `frames` to send. -/
theorem simulates_startMain_of_sending
    {node : Firmware K}
    {frames : List FrameData}
    (ok : NodeOk starter net n)
    (awake : net.restarts n ≠ [])
    (others : ∀ m, m ≠ n → SameAt net (net.startMain n) m)
    (newNode : (net.startMain n).node n = node)
    (newPoint : (net.startMain n).point n = .sending frames)
    (size : node.numTotalNodes = N)
    (active : Active N node (net.completed n) (net.counted n))
    (waiting : node.consensus.consensusState = .waitingReciveDutyCycle)
    (short : frames.length ≤ numMessages N)
    (sent : (net.startMain n).proposalsSent n = net.proposalsSent n) :
    Simulates starter net (net.startMain n) n := by
  obtain ⟨completed, counted, restarts, bus⟩ := net.startMain_kept n
  refine { node := ?_, barrier := .inl ?_, log := ?_ }
  · constructor
    · rw [newNode]
      exact size
    · rw [restarts]
      intro none
      exact absurd none awake
    · intro _
      rw [bus, completed, counted, newNode]
      exact ⟨(ok.joined awake).1, active⟩
    · intro rest sending
      rw [newPoint, LoopPoint.sending.injEq] at sending
      subst rest
      rw [newNode]
      exact ⟨waiting, short⟩
  · exact toBarrier_of_same others bus (by rw [completed]) sent (by rw [counted])
  · exact ⟨[], by rw [bus, List.append_nil], by simp⟩

/-- Entering `consensus_main` computes a proposal, but sends nothing yet. -/
theorem simulates_startMain
    (ok : NodeOk starter net n)
    (atMain : net.point n = .main)
    (others : ∀ m, m ≠ n → SameAt net (net.startMain n) m) :
    Simulates starter net (net.startMain n) n := by
  by_cases off : (net.node n).consensus.consensusState = .off
  · have unchanged : net.startMain n = net.moveTo n .readSerial := by
      simp [startMain, off]
    rw [unchanged] at others ⊢
    refine .of_unchanged ok others rfl rfl ?_ ?_ rfl rfl rfl rfl
    · simp [moveTo, atMain, LoopPoint.pending]
    · intro rest sending
      simp [moveTo] at sending
  · obtain ⟨awake, active, iteration, bounded⟩ := ok.active off
    have started :
        net.startMain n =
          (net.setNode n (consensusMainSend (net.node n)).1).moveTo n
            (.sending (consensusMainSend (net.node n)).2) := by
      simp [startMain, off]
    rcases active.phase with ⟨iterating | waiting, _, _⟩ | ⟨isOff, _⟩
    · obtain ⟨proposal, buffer, sent⟩ :=
        consensusMainSend_of_proposing (.inl iterating)
      have newNode :
          (net.startMain n).node n =
            { net.node n with
              sendingFrame := buffer
              consensus :=
                { (net.node n).consensus with
                  dutyCycleBest := proposal
                  consensusState := .waitingReciveDutyCycle } } := by
        rw [started, sent]
        simp [moveTo, setNode]
      have newPoint :
          (net.startMain n).point n =
            .sending
              (sendConsensusDutyCycle N proposal
                (net.node n).sendingFrame).2 := by
        rw [started, sent, ok.size]
        simp [moveTo]
      refine simulates_startMain_of_sending ok awake others newNode newPoint
        ok.size ?_ rfl ?_ ?_
      · exact
          ⟨active.expected, active.count, active.sum,
            .inl ⟨.inr rfl, iteration, bounded⟩⟩
      · rw [length_sendConsensusDutyCycle]
      · unfold proposalsSent
        rw [newNode, newPoint]
        simp [iterating, LoopPoint.pending]
    · have stays := consensusMainSend_of_waiting waiting
      rw [stays] at started
      have newPoint : (net.startMain n).point n = .sending [] := by
        rw [started]
        simp [moveTo]
      have newNode : (net.startMain n).node n = net.node n := by
        rw [started]
        simp [moveTo, setNode]
      refine simulates_startMain_of_sending ok awake others newNode newPoint
        ok.size active waiting (Nat.zero_le _) ?_
      unfold proposalsSent
      rw [newNode, newPoint, atMain]
      rfl
    · exact absurd isOff off

/-- Every action of the run is an action of the barrier. -/
theorem RunInvariant.simulates
    (invariant : RunInvariant starter net)
    (spare : N < maxNumNodes)
    {does : NodeAction K}
    (undisturbed : Undisturbed net ⟨n, does⟩)
    (effect : Effect overrun net n does after) :
    Simulates starter net after n := by
  have ok := invariant.nodes n
  have others : ∀ m, m ≠ n → SameAt net after m :=
    fun m different => effect.others different
  cases effect with
  | command command idle =>
      have noRestart :
          (executeCommand (net.node n) command).2 = false := undisturbed
      obtain ⟨luminaire, restarted | unchanged⟩ :=
        executeCommand_cases (net.node n) command
      · rw [restarted] at noRestart
        cases noRestart
      · have executed :
            net.execute n command =
              net.setNode n
                { net.node n with luminaire := luminaire } := by
          simp [execute, unchanged]
        rw [executed] at others ⊢
        exact
          .of_unchanged ok others (by simp [setNode]) (by simp [setNode])
            rfl (fun _ sending => sending) rfl rfl rfl rfl
  | prepare buffer idle =>
      exact
        .of_unchanged ok others (by simp [setNode]) (by simp [setNode])
          rfl (fun _ sending => sending) rfl rfl rfl rfl
  | calibrated gainMatrix residualArray atMain =>
      exact undisturbed.elim
  | beginDrain atStart =>
      refine .of_unchanged ok others rfl rfl ?_ ?_ rfl rfl rfl rfl
      · simp [moveTo, atStart, LoopPoint.pending]
      · intro rest sending
        simp [moveTo] at sending
  | @take entry rest draining queued =>
      cases received : entry.frame with
      | doConsensus restart =>
          exact simulates_receive_restart invariant queued received others
      | consensus data iteration seen =>
          exact
            simulates_receive_proposal invariant spare queued received
              draining others
  | endDrain draining drained =>
      refine .of_unchanged ok others rfl rfl ?_ ?_ rfl rfl rfl rfl
      · simp [moveTo, draining, LoopPoint.pending]
      · intro rest sending
        simp [moveTo] at sending
  | beginMain atMain =>
      exact simulates_startMain ok atMain others
  | transmit sending =>
      exact simulates_sendFrame ok sending others
  | endMain sent =>
      exact simulates_finishMain ok sent others

/-- Every action of the run keeps the invariant. -/
theorem RunInvariant.step
    (invariant : RunInvariant starter net)
    (spare : N < maxNumNodes)
    {action : Action K N}
    (undisturbed : Undisturbed net action)
    (taken : net.next overrun action = some after) :
    RunInvariant starter after := by
  obtain ⟨n, does⟩ := action
  have effect := effect_of_next taken
  have simulated := invariant.simulates spare undisturbed effect
  refine { barrier := ?_, onlyStart := ?_, nodes := ?_ }
  · rcases simulated.barrier with same | step
    · rw [same]
      exact invariant.barrier
    · exact invariant.barrier.step (numMessages_pos N) step
  · obtain ⟨restart, proposals, log, areProposals⟩ := invariant.onlyStart
    obtain ⟨later, logAfter, alsoProposals⟩ := simulated.log
    refine ⟨restart, proposals ++ later, ?_, ?_⟩
    · rw [logAfter, log, List.cons_append]
    · intro entry member
      rcases List.mem_append.mp member with old | new
      · exact areProposals entry old
      · exact alsoProposals entry new
  · intro m
    by_cases same : m = n
    · subst m
      exact simulated.node
    · exact (invariant.nodes m).of_sameAt (effect.others same)

/-- The restart that starts the run establishes the invariant. -/
theorem RunInvariant.initial
    {start : Net K N}
    (launched : Launched overrun starter start) :
    RunInvariant starter start := by
  obtain ⟨before, command, off, restarts, taken⟩ := launched
  obtain ⟨luminaire, restarted | unchanged⟩ :=
    executeCommand_cases (before.node starter) command
  · have effect := effect_of_next taken
    have others :
        ∀ m, m ≠ starter → SameAt before start m :=
      fun m different => effect.others different
    have executed :
        start =
          before.issueRestart starter
            (consensusInit
              { before.node starter with luminaire := luminaire }) := by
      cases effect with
      | command command idle =>
          simp [execute, restarted]
    have fresh :=
      consensusInit_fresh
        { before.node starter with luminaire := luminaire }
    have newNode :
        start.node starter =
          consensusInit
            { before.node starter with luminaire := luminaire } := by
      rw [executed]
      simp [issueRestart, processRestart, beginRun]
    have newCounted : start.counted starter = [] := by
      rw [executed]
      simp [issueRestart, processRestart, beginRun]
    have newCompleted : start.completed starter = 0 := by
      rw [executed]
      simp [issueRestart, processRestart, beginRun]
    have log :
        start.bus.log = [⟨starter, .doConsensus before.issued⟩] := by
      rw [executed]
      simp [issueRestart, off.quiet]
    refine { barrier := ?_, onlyStart := ?_, nodes := ?_ }
    · refine CountingBarrier.Invariant.initial ?_ ?_ ?_ ?_
      · intro entry member
        have member : entry ∈ start.bus.log := member
        rw [log, List.mem_singleton] at member
        subst entry
        rfl
      · intro m
        show start.completed m = 0
        by_cases same : m = starter
        · subst m
          exact newCompleted
        · rw [(others m same).completed]
          exact off.noneCompleted m
      · intro m
        show start.proposalsSent m = 0
        by_cases same : m = starter
        · subst m
          simp [proposalsSent, newNode, fresh.2.1]
        · simp [proposalsSent, (others m same).node, off.off m]
      · intro m
        show start.counted m = []
        by_cases same : m = starter
        · subst m
          exact newCounted
        · rw [(others m same).counted]
          exact off.noneCounted m
    · exact ⟨before.issued, [], log, by simp⟩
    · intro m
      by_cases same : m = starter
      · subst m
        constructor
        · rw [newNode, fresh.1]
          exact off.registry starter
        · intro none
          rw [executed] at none
          simp [issueRestart, processRestart] at none
        · intro _
          refine ⟨.inl rfl, ?_⟩
          rw [newNode, newCompleted, newCounted]
          exact Active.fresh (off.registry starter)
        · intro rest sending
          rw [executed] at sending
          exact absurd sending (off.notSending starter rest)
      · exact off.asleep (others m same) same
  · rw [unchanged] at restarts
    cases restarts

end Steps

end Net

end DistributedLighting
