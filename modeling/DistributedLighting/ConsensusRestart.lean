import DistributedLighting.ConsensusNetwork

namespace DistributedLighting

/-!
# Restarting a consensus that is under way

`consensus.init()` clears the counters of one node.  A proposal of the previous
run can still be queued at the restarting node, and a node that has not drained
`CAN_DO_CONSENSUS` yet may go on sending.  These are the only two ways in which
proposals of the previous run enter the new one.
-/

namespace Net

variable {K : Type} {N : Nat}

/-- Nothing is on the bus and nobody has processed a restart. -/
structure Quiet (net : Net K N) : Prop where
  log : net.bus.log = []
  restarts : ∀ n, net.restarts n = []

/--
Whenever a node is about to count a proposal, the sender of the proposal had
processed every restart that the node has processed.
-/
def RestartIsolated (net : Net K N) : Prop :=
  ∀ n entry rest data iteration seen,
    net.point n = .drain →
    net.bus.fifo n = entry :: rest →
    entry.frame = .consensus data iteration seen →
    ∀ restart ∈ net.restarts n, restart ∈ seen

/-- The action neither restarts over queued proposals nor sends past a queued restart. -/
def Orderly
    [Field K] [LinearOrder K]
    (net : Net K N)
    (action : Action K N) : Prop :=
  match action.does with
  | .command command =>
      (executeCommand (net.node action.node) command).2 = true →
      ∀ entry ∈ net.bus.fifo action.node, entry.frame.iteration? = none
  | .transmit =>
      ∀ entry ∈ net.bus.fifo action.node, entry.frame.iteration? ≠ none
  | _ => True

instance
    [Field K] [LinearOrder K]
    (net : Net K N)
    (action : Action K N) :
    Decidable (Orderly net action) :=
  match action with
  | ⟨_, .command _⟩ => inferInstanceAs (Decidable (_ = true → ∀ _ ∈ _, _))
  | ⟨_, .transmit⟩ => inferInstanceAs (Decidable (∀ _ ∈ _, _ ≠ none))
  | ⟨_, .calibrated _ _⟩ | ⟨_, .prepare _⟩ | ⟨_, .beginDrain⟩ | ⟨_, .take⟩
  | ⟨_, .endDrain⟩ | ⟨_, .beginMain⟩ | ⟨_, .endMain⟩ =>
      inferInstanceAs (Decidable True)

/-- Every proposal of a queue has seen the restarts its receiver will have processed by then. -/
def IsolatedQueue
    (processed : List Nat) : List (Entry (Fin N) Traffic) → Prop
  | [] => True
  | ⟨_, .doConsensus restart⟩ :: rest =>
      IsolatedQueue (restart :: processed) rest
  | ⟨_, .consensus _ _ seen⟩ :: rest =>
      (∀ restart ∈ processed, restart ∈ seen) ∧
        IsolatedQueue processed rest

/-- A queue without proposals is isolated. -/
theorem isolatedQueue_of_no_proposal
    {processed : List Nat}
    {queue : List (Entry (Fin N) Traffic)}
    (none : ∀ entry ∈ queue, entry.frame.iteration? = none) :
    IsolatedQueue processed queue := by
  induction queue generalizing processed with
  | nil =>
      exact trivial
  | cons entry rest inductionHypothesis =>
      obtain ⟨sender, frame⟩ := entry
      cases frame with
      | doConsensus restart =>
          exact
            inductionHypothesis fun entry member =>
              none entry (List.mem_cons_of_mem _ member)
      | consensus data iteration seen =>
          have isProposal := none _ List.mem_cons_self
          cases isProposal

/-- Appending a restart asks nothing of the queue. -/
theorem IsolatedQueue.append_restart
    {processed : List Nat}
    {queue : List (Entry (Fin N) Traffic)}
    (isolated : IsolatedQueue processed queue)
    (sender : Fin N)
    (restart : Nat) :
    IsolatedQueue processed (queue ++ [⟨sender, .doConsensus restart⟩]) := by
  induction queue generalizing processed with
  | nil =>
      exact trivial
  | cons entry rest inductionHypothesis =>
      obtain ⟨origin, frame⟩ := entry
      cases frame with
      | doConsensus earlier =>
          exact inductionHypothesis isolated
      | consensus data iteration seen =>
          exact ⟨isolated.1, inductionHypothesis isolated.2⟩

/-- A proposal may be appended if it has seen all processed and all queued restarts. -/
theorem IsolatedQueue.append_proposal
    {processed : List Nat}
    {queue : List (Entry (Fin N) Traffic)}
    (isolated : IsolatedQueue processed queue)
    {sender : Fin N}
    {data : FrameData}
    {iteration : Nat}
    {seen : List Nat}
    (sawProcessed : ∀ restart ∈ processed, restart ∈ seen)
    (sawQueued :
      ∀ origin restart,
        ⟨origin, .doConsensus restart⟩ ∈ queue →
        restart ∈ seen) :
    IsolatedQueue processed
      (queue ++ [⟨sender, .consensus data iteration seen⟩]) := by
  induction queue generalizing processed with
  | nil =>
      exact ⟨sawProcessed, trivial⟩
  | cons entry rest inductionHypothesis =>
      have sawRest :
          ∀ origin restart,
            ⟨origin, .doConsensus restart⟩ ∈ rest →
            restart ∈ seen :=
        fun origin restart member =>
          sawQueued origin restart (List.mem_cons_of_mem _ member)
      obtain ⟨origin, frame⟩ := entry
      cases frame with
      | doConsensus restart =>
          refine inductionHypothesis isolated ?_ sawRest
          intro known member
          rcases List.mem_cons.mp member with isNew | old
          · subst known
            exact sawQueued origin restart List.mem_cons_self
          · exact sawProcessed known old
      | consensus earlierData earlierIteration earlierSeen =>
          exact
            ⟨isolated.1,
              inductionHypothesis isolated.2 sawProcessed sawRest⟩

/--
What every reachable state of an orderly run satisfies: queues are isolated,
restarts are numbered in the order of their issue, and each of them has reached
every node or is queued for it.
-/
structure RestartInvariant (net : Net K N) : Prop where
  queues : ∀ n, IsolatedQueue (net.restarts n) (net.bus.fifo n)
  processed : ∀ n, ∀ restart ∈ net.restarts n, restart < net.issued
  queued :
    ∀ n origin restart,
      ⟨origin, .doConsensus restart⟩ ∈ net.bus.fifo n →
      restart < net.issued
  spread :
    ∀ restart < net.issued, ∀ n,
      restart ∈ net.restarts n ∨
        ∃ origin, ⟨origin, .doConsensus restart⟩ ∈ net.bus.fifo n

section Steps

variable {net after : Net K N} {n : Fin N}

/-- Only the queues and the restarts matter. -/
theorem RestartInvariant.congr
    (invariant : RestartInvariant net)
    (fifo : after.bus.fifo = net.bus.fifo)
    (restarts : after.restarts = net.restarts)
    (issued : after.issued = net.issued) :
    RestartInvariant after where
  queues := by
    rw [fifo, restarts]
    exact invariant.queues
  processed := by
    rw [restarts, issued]
    exact invariant.processed
  queued := by
    rw [fifo, issued]
    exact invariant.queued
  spread := by
    rw [fifo, restarts, issued]
    exact invariant.spread

/-- Issuing a restart is safe while no proposal is queued for the issuer. -/
theorem RestartInvariant.issueRestart
    (invariant : RestartInvariant net)
    (node : Firmware K)
    (noProposal :
      ∀ entry ∈ net.bus.fifo n, entry.frame.iteration? = none) :
    RestartInvariant (net.issueRestart n node) := by
  have restarts :
      (net.issueRestart n node).restarts =
        Function.update net.restarts n (net.issued :: net.restarts n) :=
    rfl
  have bus :
      (net.issueRestart n node).bus =
        net.bus.broadcast n (.doConsensus net.issued) :=
    rfl
  have issued : (net.issueRestart n node).issued = net.issued + 1 := rfl
  refine
    { queues := ?_
      processed := ?_
      queued := ?_
      spread := ?_ }
  · intro m
    rw [restarts, bus]
    by_cases same : m = n
    · subst m
      rw [Function.update_self, Bus.broadcast_fifo_self]
      exact isolatedQueue_of_no_proposal noProposal
    · rw [Function.update_of_ne same,
        Bus.broadcast_fifo_other _ (Ne.symm same)]
      exact (invariant.queues m).append_restart n net.issued
  · intro m restart member
    rw [restarts] at member
    rw [issued]
    by_cases same : m = n
    · subst m
      rw [Function.update_self] at member
      rcases List.mem_cons.mp member with isNew | old
      · omega
      · have bounded := invariant.processed n restart old
        omega
    · rw [Function.update_of_ne same] at member
      have bounded := invariant.processed m restart member
      omega
  · intro m origin restart member
    rw [bus] at member
    rw [issued]
    by_cases same : m = n
    · subst m
      rw [Bus.broadcast_fifo_self] at member
      have bounded := invariant.queued n origin restart member
      omega
    · rw [Bus.broadcast_fifo_other _ (Ne.symm same), List.mem_append,
        List.mem_singleton] at member
      rcases member with old | isNew
      · have bounded := invariant.queued m origin restart old
        omega
      · cases isNew
        omega
  · intro restart bounded m
    rw [issued] at bounded
    rw [restarts, bus]
    by_cases same : m = n
    · subst m
      rw [Function.update_self, Bus.broadcast_fifo_self]
      by_cases isNew : restart = net.issued
      · exact .inl (by simp [isNew])
      · rcases invariant.spread restart (by omega) n with
          known | waiting
        · exact .inl (List.mem_cons_of_mem _ known)
        · exact .inr waiting
    · rw [Function.update_of_ne same,
        Bus.broadcast_fifo_other _ (Ne.symm same)]
      by_cases isNew : restart = net.issued
      · exact .inr ⟨n, by simp [isNew]⟩
      · rcases invariant.spread restart (by omega) m with
          known | ⟨origin, waiting⟩
        · exact .inl known
        · exact .inr ⟨origin, List.mem_append_left _ waiting⟩

/-- Sending a proposal is safe while no restart is queued for the sender. -/
theorem RestartInvariant.sendFrame
    (invariant : RestartInvariant net)
    (data : FrameData)
    (rest : List FrameData)
    (noRestart :
      ∀ entry ∈ net.bus.fifo n, entry.frame.iteration? ≠ none) :
    RestartInvariant (net.sendFrame n data rest) := by
  have sawAll :
      ∀ restart < net.issued, restart ∈ net.restarts n := by
    intro restart bounded
    rcases invariant.spread restart bounded n with known | ⟨origin, waiting⟩
    · exact known
    · exact absurd rfl (noRestart _ waiting)
  refine
    { queues := ?_
      processed := invariant.processed
      queued := ?_
      spread := ?_ }
  · intro m
    show IsolatedQueue (net.restarts m) ((net.bus.broadcast n _).fifo m)
    by_cases same : m = n
    · subst m
      rw [Bus.broadcast_fifo_self]
      exact invariant.queues n
    · rw [Bus.broadcast_fifo_other _ (Ne.symm same)]
      refine (invariant.queues m).append_proposal ?_ ?_
      · intro restart member
        exact sawAll restart (invariant.processed m restart member)
      · intro origin restart member
        exact sawAll restart (invariant.queued m origin restart member)
  · intro m origin restart member
    have member :
        ⟨origin, .doConsensus restart⟩ ∈
          (net.bus.broadcast n _).fifo m :=
      member
    by_cases same : m = n
    · subst m
      rw [Bus.broadcast_fifo_self] at member
      exact invariant.queued n origin restart member
    · rw [Bus.broadcast_fifo_other _ (Ne.symm same), List.mem_append,
        List.mem_singleton] at member
      rcases member with old | isNew
      · exact invariant.queued m origin restart old
      · cases isNew
  · intro restart bounded m
    rcases invariant.spread restart bounded m with
      known | ⟨origin, waiting⟩
    · exact .inl known
    · refine .inr ⟨origin, ?_⟩
      show _ ∈ (net.bus.broadcast n _).fifo m
      by_cases same : m = n
      · subst m
        rw [Bus.broadcast_fifo_self]
        exact waiting
      · rw [Bus.broadcast_fifo_other _ (Ne.symm same)]
        exact List.mem_append_left _ waiting

section Receiving

variable [Field K] (overrun : Nat → K → Nat)

/-- Receiving takes the oldest frame from the bus and does nothing else to it. -/
theorem bus_receive
    (net : Net K N)
    (n : Fin N)
    (entry : Entry (Fin N) Traffic) :
    (net.receive overrun n entry).bus = net.bus.take n := by
  obtain ⟨origin, frame⟩ := entry
  cases frame <;> rfl

/-- Nobody issues a restart by receiving one. -/
theorem issued_receive
    (net : Net K N)
    (n : Fin N)
    (entry : Entry (Fin N) Traffic) :
    (net.receive overrun n entry).issued = net.issued := by
  obtain ⟨origin, frame⟩ := entry
  cases frame <;> rfl

theorem restarts_receive_other
    {entry : Entry (Fin N) Traffic}
    {m : Fin N}
    (different : m ≠ n) :
    (net.receive overrun n entry).restarts m = net.restarts m := by
  obtain ⟨origin, frame⟩ := entry
  cases frame with
  | doConsensus restart =>
      exact Function.update_of_ne different _ _
  | consensus data iteration seen =>
      rfl

/-- A node learns of a restart by taking its frame. -/
theorem restarts_receive_doConsensus (origin : Fin N) (restart : Nat) :
    (net.receive overrun n ⟨origin, .doConsensus restart⟩).restarts n =
      restart :: net.restarts n :=
  Function.update_self _ _ _

theorem mem_restarts_receive
    {entry : Entry (Fin N) Traffic}
    {restart : Nat} :
    restart ∈ (net.receive overrun n entry).restarts n ↔
      restart ∈ net.restarts n ∨ entry.frame = .doConsensus restart := by
  obtain ⟨origin, frame⟩ := entry
  cases frame with
  | doConsensus taken =>
      rw [restarts_receive_doConsensus, List.mem_cons,
        Traffic.doConsensus.injEq, or_comm, eq_comm]
  | consensus data iteration seen =>
      exact (or_iff_left nofun).symm

/-- Receiving a frame is always safe. -/
theorem RestartInvariant.receive
    (invariant : RestartInvariant net)
    {entry : Entry (Fin N) Traffic}
    {rest : List (Entry (Fin N) Traffic)}
    (queued : net.bus.fifo n = entry :: rest) :
    RestartInvariant (net.receive overrun n entry) := by
  refine
    { queues := ?_
      processed := ?_
      queued := ?_
      spread := ?_ }
  · intro m
    rw [bus_receive]
    by_cases same : m = n
    · subst m
      have isolated := invariant.queues n
      obtain ⟨origin, frame⟩ := entry
      rw [queued] at isolated
      rw [Bus.take_fifo_self queued]
      cases frame with
      | doConsensus restart =>
          rw [restarts_receive_doConsensus]
          exact isolated
      | consensus data iteration seen =>
          exact isolated.2
    · rw [Bus.take_fifo_other _ same, restarts_receive_other overrun same]
      exact invariant.queues m
  · intro m restart member
    rw [issued_receive]
    by_cases same : m = n
    · subst m
      rcases (mem_restarts_receive overrun).mp member with old | isTaken
      · exact invariant.processed n restart old
      · refine invariant.queued n entry.sender restart ?_
        rw [queued, ← isTaken]
        exact List.mem_cons_self
    · rw [restarts_receive_other overrun same] at member
      exact invariant.processed m restart member
  · intro m sender restart member
    rw [issued_receive]
    rw [bus_receive] at member
    by_cases same : m = n
    · subst m
      rw [Bus.take_fifo_self queued] at member
      refine invariant.queued n sender restart ?_
      rw [queued]
      exact List.mem_cons_of_mem _ member
    · rw [Bus.take_fifo_other _ same] at member
      exact invariant.queued m sender restart member
  · intro restart bounded m
    rw [issued_receive] at bounded
    rw [bus_receive]
    by_cases same : m = n
    · subst m
      rw [Bus.take_fifo_self queued]
      rcases invariant.spread restart bounded n with
        known | ⟨sender, waiting⟩
      · exact .inl ((mem_restarts_receive overrun).mpr (.inl known))
      · rw [queued] at waiting
        rcases List.mem_cons.mp waiting with isTaken | stillWaiting
        · exact .inl ((mem_restarts_receive overrun).mpr (.inr (by rw [← isTaken])))
        · exact .inr ⟨sender, stillWaiting⟩
    · rw [Bus.take_fifo_other _ same, restarts_receive_other overrun same]
      exact invariant.spread restart bounded m

end Receiving

/-- With an idle bus and no restarts so far the invariant holds. -/
theorem RestartInvariant.initial
    (quiet : Quiet net)
    (noneIssued : net.issued = 0) :
    RestartInvariant net := by
  have empty : ∀ n, net.bus.fifo n = [] := by
    intro n
    have order := net.bus.ordered n
    rw [quiet.log, List.filter_nil, List.append_eq_nil_iff] at order
    exact order.2
  refine
    { queues := ?_
      processed := ?_
      queued := ?_
      spread := ?_ }
  · intro n
    rw [empty n]
    exact trivial
  · intro n restart member
    rw [quiet.restarts n] at member
    cases member
  · intro n origin restart member
    rw [empty n] at member
    cases member
  · intro restart bounded
    omega

/-- In an isolated queue the oldest proposal has seen every processed restart. -/
theorem RestartInvariant.restartIsolated
    (invariant : RestartInvariant net) :
    RestartIsolated net := by
  intro n entry rest data iteration seen _ queued isProposal
  have isolated := invariant.queues n
  obtain ⟨origin, frame⟩ := entry
  simp only at isProposal
  subst isProposal
  rw [queued] at isolated
  exact isolated.1

end Steps

section Runs

variable [Field K] [LinearOrder K] [FloorRing K]
    {overrun : Nat → K → Nat}
    {start net after : Net K N}

/-- Every orderly action keeps the invariant. -/
theorem RestartInvariant.step
    (invariant : RestartInvariant net)
    {action : Action K N}
    (orderly : Orderly net action)
    (taken : net.next overrun action = some after) :
    RestartInvariant after := by
  obtain ⟨n, does⟩ := action
  have effect := effect_of_next taken
  cases effect with
  | command command idle =>
      unfold execute
      dsimp only
      split
      · rename_i restarts
        exact invariant.issueRestart _ (orderly restarts)
      · exact invariant.congr rfl rfl rfl
  | prepare buffer idle =>
      exact invariant.congr rfl rfl rfl
  | calibrated gainMatrix residualArray atMain =>
      exact invariant.congr rfl rfl rfl
  | beginDrain atStart =>
      exact invariant.congr rfl rfl rfl
  | take draining queued =>
      exact invariant.receive overrun queued
  | endDrain draining drained =>
      exact invariant.congr rfl rfl rfl
  | beginMain atMain =>
      unfold startMain
      split
      · exact invariant.congr rfl rfl rfl
      · exact invariant.congr rfl rfl rfl
  | transmit sending =>
      exact invariant.sendFrame _ _ orderly
  | endMain sent =>
      unfold finishMain
      dsimp only
      split
      · exact invariant.congr rfl rfl rfl
      · exact invariant.congr rfl rfl rfl

/-- Orderly runs never mix proposals of different restarts. -/
theorem restartIsolated_of_run
    (quiet : Quiet start)
    (noneIssued : start.issued = 0)
    (run : Run (next overrun) Orderly start net) :
    RestartIsolated net := by
  have invariant : RestartInvariant net :=
    run.invariant RestartInvariant (.initial quiet noneIssued)
      fun invariant orderly taken => invariant.step orderly taken
  exact invariant.restartIsolated

end Runs

section Examples

/-- The first frame that waits for a node is a proposal that has not seen a restart of it. -/
def stale (net : Net ℚ 2) (n : Fin 2) (restart : Nat) : Bool :=
  match net.point n, net.bus.fifo n with
  | .drain, ⟨_, .consensus _ _ seen⟩ :: _ =>
      decide (restart ∈ net.restarts n) && decide (restart ∉ seen)
  | _, _ => false

theorem not_restartIsolated_of_stale
    {net : Net ℚ 2}
    {n : Fin 2}
    {restart : Nat}
    (isStale : stale net n restart = true) :
    ¬ RestartIsolated net := by
  intro isolated
  unfold stale at isStale
  split at isStale
  · rename_i draining queued
    rw [Bool.and_eq_true, decide_eq_true_eq, decide_eq_true_eq] at isStale
    exact isStale.2
      (isolated n _ _ _ _ _ draining queued rfl restart isStale.1)
  · cases isStale

theorem quiet_idle (N : Nat) : Quiet (idle N) where
  log := rfl
  restarts := fun _ => rfl

/-- Two nodes: after one restart node 1 is about to count node 0's first proposal. -/
theorem restartIsolated_two_nodes :
    ∃ net,
      Run (next fun count _ => count) Orderly (idle 2) net ∧
        net.restarts 1 = [0] ∧
        (net.bus.fifo 1).length = 1 ∧
        RestartIsolated net := by
  obtain ⟨net, run, observed⟩ :=
    exists_run_of_observed
      (next fun count _ => count)
      Orderly
      (idle 2)
      ([⟨0, .command (.o 1)⟩] ++ drainAndStart 0 0 ++
        transmitFrames 0 1 ++ [⟨1, .beginDrain⟩, ⟨1, .take⟩])
      (fun net =>
        decide (net.restarts 1 = [0] ∧ (net.bus.fifo 1).length = 1))
      (by decide +kernel)
  rw [decide_eq_true_eq] at observed
  exact
    ⟨net, run, observed.1, observed.2,
      restartIsolated_of_run (quiet_idle 2) rfl run⟩

/--
Two nodes.  Node 1 has answered node 0's first proposal when node 0 is told that
its desk is free again; node 0 then counts the answer in its new run.
-/
theorem not_restartIsolated_two_nodes :
    ¬ ∀ (overrun : Nat → ℚ → Nat) (start net : Net ℚ 2),
        Quiet start →
        start.issued = 0 →
        Run (next overrun) (fun _ _ => True) start net →
        RestartIsolated net := by
  intro claim
  obtain ⟨net, run, isStale⟩ :=
    exists_run_of_observed
      (next fun count _ => count)
      (fun _ _ => True)
      (idle 2)
      ([⟨0, .command (.o 1)⟩] ++ drainAndStart 0 0 ++
        transmitFrames 0 1 ++ [⟨0, .endMain⟩] ++
        drainAndStart 1 2 ++ transmitFrames 1 1 ++
        [⟨0, .command (.o 0)⟩, ⟨0, .beginDrain⟩])
      (fun net => stale net 0 1)
      (by decide +kernel)
  exact
    not_restartIsolated_of_stale isStale
      (claim _ _ net (quiet_idle 2) rfl run)

end Examples

end Net

end DistributedLighting
