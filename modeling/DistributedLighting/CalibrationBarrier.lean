import DistributedLighting.CalibrationNetwork
import DistributedLighting.CountingBarrier

namespace DistributedLighting

/-!
# The steps of a calibration

The nodes pass `2 * N + 1` barriers together, one `CAN_CALIB_READY` of each node
per barrier, and use one boolean event for the LED of every step.  The phases of
a node, the barrier and the LED frames on the bus determine each other.
-/

/-- The index of the node whose LED a step is about; steps start at one. -/
def designated (step : Nat) : Nat :=
  (step - 1) / 2

/-- Which of the two readings of its LED a step takes. -/
def readingOf (step : Nat) : Nat :=
  (step - 1) % 2

/-- `nodeLedOn` and `luxReadNum` at the first barriers of a calibration. -/
def stepsUpTo (count : Nat) : List (Int × Nat) :=
  (List.range count).map fun earlier =>
    ((designated (earlier + 1) : Int), readingOf (earlier + 1))

/-- Where a node is in its calibration, by the barriers it has passed. -/
inductive Phase
    {K : Type}
    (N : Nat)
    (n : Fin N)
    (fsm : CalibrationFSM K)
    (passed : Nat) : Prop where
  | calibInit
      (state : fsm.state = .calibInit)
      (none : passed = 0)
      (luxReadNum : fsm.luxReadNum = 0)
      (notDone : fsm.done = false)
  | residual
      (state : fsm.state = .waitReady)
      (none : passed = 0)
      (nodeLedOn : fsm.nodeLedOn = -1)
      (luxReadNum : fsm.luxReadNum = 0)
      (notDone : fsm.done = false)
  | awaiting
      (state : fsm.state = .waitLedOn)
      (some : 1 ≤ passed)
      (within : passed ≤ 2 * N)
      (nodeLedOn : fsm.nodeLedOn = designated passed)
      (luxReadNum : fsm.luxReadNum = readingOf passed)
      (other : n.val ≠ designated passed)
      (notDone : fsm.done = false)
  | transient
      (state : fsm.state = .waitTransient)
      (some : 1 ≤ passed)
      (within : passed ≤ 2 * N)
      (nodeLedOn : fsm.nodeLedOn = designated passed)
      (luxReadNum : fsm.luxReadNum = readingOf passed)
      (notDone : fsm.done = false)
  | measured
      (state : fsm.state = .waitReady)
      (some : 1 ≤ passed)
      (within : passed ≤ 2 * N)
      (nodeLedOn : fsm.nodeLedOn = designated passed)
      (luxReadNum : fsm.luxReadNum = readingOf passed + 1)
      (notDone : fsm.done = false)
  | finished
      (state : fsm.state = .waitReady)
      (all : passed = 2 * N + 1)
      (nodeLedOn : fsm.nodeLedOn = designated passed)
      (isDone : fsm.done = true)

namespace Phase

variable {K : Type} {N : Nat} {n : Fin N}
    {fsm after : CalibrationFSM K} {passed : Nat}

/-- Only the protocol members of the machine matter. -/
theorem congr
    (phase : Phase N n fsm passed)
    (state : after.state = fsm.state)
    (nodeLedOn : after.nodeLedOn = fsm.nodeLedOn)
    (luxReadNum : after.luxReadNum = fsm.luxReadNum)
    (done : after.done = fsm.done) :
    Phase N n after passed := by
  cases phase with
  | calibInit isState none lux notDone =>
      exact
        .calibInit (state.trans isState) none (luxReadNum.trans lux)
          (done.trans notDone)
  | residual isState none led lux notDone =>
      exact
        .residual (state.trans isState) none (nodeLedOn.trans led)
          (luxReadNum.trans lux) (done.trans notDone)
  | awaiting isState some within led lux other notDone =>
      exact
        .awaiting (state.trans isState) some within (nodeLedOn.trans led)
          (luxReadNum.trans lux) other (done.trans notDone)
  | transient isState some within led lux notDone =>
      exact
        .transient (state.trans isState) some within (nodeLedOn.trans led)
          (luxReadNum.trans lux) (done.trans notDone)
  | measured isState some within led lux notDone =>
      exact
        .measured (state.trans isState) some within (nodeLedOn.trans led)
          (luxReadNum.trans lux) (done.trans notDone)
  | finished isState all led isDone =>
      exact
        .finished (state.trans isState) all (nodeLedOn.trans led)
          (done.trans isDone)

/-- Nobody passes more than `2 * N + 1` barriers. -/
theorem passed_le (phase : Phase N n fsm passed) :
    passed ≤ 2 * N + 1 := by
  cases phase <;> omega

/-- A node is done exactly when it has passed all barriers. -/
theorem done_iff (phase : Phase N n fsm passed) :
    fsm.done = true ↔ passed = 2 * N + 1 := by
  cases phase with
  | calibInit _ none _ notDone =>
      simp [notDone, none]
  | residual _ none _ _ notDone =>
      simp [notDone, none]
  | awaiting _ _ within _ _ _ notDone =>
      simp [notDone]
      omega
  | transient _ _ within _ _ notDone =>
      simp [notDone]
      omega
  | measured _ _ within _ _ notDone =>
      simp [notDone]
      omega
  | finished _ all _ isDone =>
      simp [isDone, all]

/-- From the first barrier on `nodeLedOn` follows from the barriers passed. -/
theorem nodeLedOn_eq
    (phase : Phase N n fsm passed)
    (some : 1 ≤ passed) :
    fsm.nodeLedOn = designated passed := by
  cases phase with
  | calibInit _ none _ _ => omega
  | residual _ none _ _ _ => omega
  | awaiting _ _ _ led _ _ _ => exact led
  | transient _ _ _ led _ _ => exact led
  | measured _ _ _ led _ _ => exact led
  | finished _ _ led _ => exact led

/-- A machine in `CalibInit` has not passed a barrier. -/
theorem of_calibInit
    (phase : Phase N n fsm passed)
    (atInit : fsm.state = .calibInit) :
    passed = 0 ∧ fsm.luxReadNum = 0 := by
  cases phase with
  | calibInit _ none lux _ => exact ⟨none, lux⟩
  | residual state => rw [atInit] at state; cases state
  | awaiting state => rw [atInit] at state; cases state
  | transient state => rw [atInit] at state; cases state
  | measured state => rw [atInit] at state; cases state
  | finished state => rw [atInit] at state; cases state

/-- A machine that waits for an LED is in the step of another node. -/
theorem of_waitLedOn
    (phase : Phase N n fsm passed)
    (awaiting : fsm.state = .waitLedOn) :
    1 ≤ passed ∧
      passed ≤ 2 * N ∧
      fsm.nodeLedOn = designated passed ∧
      fsm.luxReadNum = readingOf passed ∧
      n.val ≠ designated passed := by
  cases phase with
  | calibInit state => rw [awaiting] at state; cases state
  | residual state => rw [awaiting] at state; cases state
  | awaiting _ some within led lux other _ =>
      exact ⟨some, within, led, lux, other⟩
  | transient state => rw [awaiting] at state; cases state
  | measured state => rw [awaiting] at state; cases state
  | finished state => rw [awaiting] at state; cases state

/-- A machine that waits for the transient is about to take the reading of its step. -/
theorem of_waitTransient
    (phase : Phase N n fsm passed)
    (transient : fsm.state = .waitTransient) :
    1 ≤ passed ∧
      passed ≤ 2 * N ∧
      fsm.nodeLedOn = designated passed ∧
      fsm.luxReadNum = readingOf passed := by
  cases phase with
  | calibInit state => rw [transient] at state; cases state
  | residual state => rw [transient] at state; cases state
  | awaiting state => rw [transient] at state; cases state
  | transient _ some within led lux _ => exact ⟨some, within, led, lux⟩
  | measured state => rw [transient] at state; cases state
  | finished state => rw [transient] at state; cases state

/-- When every node is ready, the machine advances to the next step. -/
theorem advance
    (phase : Phase N n fsm passed)
    (ready : fsm.state = .waitReady)
    (notDone : fsm.done = false) :
    passed ≤ 2 * N ∧
      fsm.advance.nodeLedOn = designated (passed + 1) ∧
      fsm.advance.luxReadNum = readingOf (passed + 1) := by
  unfold CalibrationFSM.advance
  cases phase with
  | calibInit state _ _ _ =>
      rw [ready] at state
      cases state
  | residual _ none led lux _ =>
      subst none
      rw [if_pos (.inl led)]
      refine ⟨by omega, ?_, ?_⟩
      · simp [led, designated]
      · simp [readingOf]
  | awaiting state _ _ _ _ _ _ =>
      rw [ready] at state
      cases state
  | transient state _ _ _ _ _ =>
      rw [ready] at state
      cases state
  | measured _ some within led lux _ =>
      refine ⟨within, ?_⟩
      by_cases second : fsm.luxReadNum = 2
      · rw [if_pos (.inr second)]
        rw [lux] at second
        unfold readingOf designated at *
        refine ⟨?_, ?_⟩
        · simp only [led]
          omega
        · simp only
          omega
      · have notResidual : fsm.nodeLedOn ≠ -1 := by
          rw [led]
          omega
        rw [if_neg (fun either => either.elim notResidual second)]
        rw [lux] at second
        unfold readingOf designated at *
        refine ⟨?_, ?_⟩
        · simp only [led]
          omega
        · simp only [lux]
          omega
  | finished _ _ _ isDone =>
      rw [notDone] at isDone
      cases isDone

end Phase

namespace CalibNode

variable {K : Type} {N : Nat}

/-- The `CAN_CALIB_READY` of the current barrier that a node has sent. -/
def readySent (node : CalibNode K N) : Nat :=
  if node.fsm.state = .waitReady ∧ node.fsm.done = false then 1 else 0

/-- The last step whose LED event is behind the node. -/
def ledSeen (node : CalibNode K N) : Nat :=
  if node.fsm.state = .waitLedOn then node.passed - 1 else node.passed

end CalibNode

namespace CalibNet

variable {K : Type} {N : Nat}

/-- The network as a counting barrier. -/
def toBarrier
    (net : CalibNet K N) : CountingBarrier.State (Fin N) (CalibFrame K) where
  bus := net.bus
  round := fun n => (net.node n).passed
  sent := fun n => (net.node n).readySent
  counted := fun n => (net.node n).counted

/-- What holds of one node of the calibration. -/
structure NodeOk
    (bus : Bus (Fin N) (CalibFrame K))
    (n : Fin N)
    (node : CalibNode K N) : Prop where
  phase : Phase N n node.fsm node.passed
  count :
    node.fsm.numNodesReady = node.counted.length + node.readySent
  running : node.mainState = .run ↔ node.fsm.done = true
  steps : node.steps = stepsUpTo node.passed
  flag :
    node.fsm.otherNodeLedOn = true ↔
      ∃ entry ∈ bus.received n,
        ∃ step,
          entry.frame.ledStep? = some step ∧ node.ledSeen < step
  queuedLed :
    ∀ entry ∈ bus.fifo n,
      ∀ step,
        entry.frame.ledStep? = some step →
        node.ledSeen < step
  lit :
    ∀ step,
      1 ≤ step →
      step ≤ node.ledSeen →
      step ≤ 2 * N →
      ∃ entry ∈ bus.log, entry.frame.ledStep? = some step

/-- What every reachable state of a calibration satisfies. -/
structure CalibInvariant (net : CalibNet K N) : Prop where
  barrier :
    CountingBarrier.Invariant CalibFrame.readyStep? 1 net.toBarrier
  nodes : ∀ n, NodeOk net.bus n (net.node n)
  ledOn :
    ∀ entry ∈ net.bus.log,
      ∀ step,
        entry.frame.ledStep? = some step →
        1 ≤ step ∧
          entry.sender.val = designated step ∧
          step ≤ (net.node entry.sender).passed
  ledDone :
    ∀ n step,
      1 ≤ step →
      step ≤ (net.node n).passed →
      n.val = designated step →
      ∃ entry ∈ net.bus.log, entry.frame.ledStep? = some step
  ledSorted :
    net.bus.log.Pairwise fun first second =>
      ∀ earlier later,
        first.frame.ledStep? = some earlier →
        second.frame.ledStep? = some later →
        earlier < later

section Nodes

variable {bus : Bus (Fin N) (CalibFrame K)}
    {n sender : Fin N} {node after : CalibNode K N}

/-- A node that has seen the LED as far as before keeps what is known about the LED. -/
theorem NodeOk.of_ledSeen
    (ok : NodeOk bus n node)
    (phase : Phase N n after.fsm after.passed)
    (count : after.fsm.numNodesReady = after.counted.length + after.readySent)
    (running : after.mainState = .run ↔ after.fsm.done = true)
    (event : after.fsm.otherNodeLedOn = node.fsm.otherNodeLedOn)
    (seen : after.ledSeen = node.ledSeen)
    (passed : after.passed = node.passed)
    (steps : after.steps = node.steps) :
    NodeOk bus n after where
  phase := phase
  count := count
  running := running
  steps := by
    rw [steps, passed]
    exact ok.steps
  flag := by
    rw [event, seen]
    exact ok.flag
  queuedLed := by
    rw [seen]
    exact ok.queuedLed
  lit := by
    rw [seen]
    exact ok.lit

/-- Only the protocol part of a node matters. -/
theorem NodeOk.congr
    (ok : NodeOk bus n node)
    (state : after.fsm.state = node.fsm.state)
    (nodeLedOn : after.fsm.nodeLedOn = node.fsm.nodeLedOn)
    (luxReadNum : after.fsm.luxReadNum = node.fsm.luxReadNum)
    (done : after.fsm.done = node.fsm.done)
    (event : after.fsm.otherNodeLedOn = node.fsm.otherNodeLedOn)
    (ready : after.fsm.numNodesReady = node.fsm.numNodesReady)
    (passed : after.passed = node.passed)
    (counted : after.counted = node.counted)
    (steps : after.steps = node.steps)
    (running : after.mainState = .run ↔ after.fsm.done = true) :
    NodeOk bus n after := by
  have sent : after.readySent = node.readySent := by
    simp [CalibNode.readySent, state, done]
  have seen : after.ledSeen = node.ledSeen := by
    simp [CalibNode.ledSeen, state, passed]
  refine ok.of_ledSeen ?_ ?_ running event seen passed steps
  · rw [passed]
    exact ok.phase.congr state nodeLedOn luxReadNum done
  · rw [ready, counted, sent]
    exact ok.count

/-- Sending the `CAN_CALIB_READY` of a step leaves the LED event alone. -/
theorem NodeOk.ready
    (ok : NodeOk bus n node)
    (phase : Phase N n after.fsm after.passed)
    (notReady : node.fsm.state ≠ .waitReady)
    (notAwaiting : node.fsm.state ≠ .waitLedOn)
    (state : after.fsm.state = .waitReady)
    (notDone : after.fsm.done = false)
    (event : after.fsm.otherNodeLedOn = node.fsm.otherNodeLedOn)
    (ready : after.fsm.numNodesReady = node.fsm.numNodesReady + 1)
    (passed : after.passed = node.passed)
    (counted : after.counted = node.counted)
    (steps : after.steps = node.steps)
    (running : after.mainState ≠ .run) :
    NodeOk bus n after := by
  have unsent : node.readySent = 0 := by
    simp [CalibNode.readySent, notReady]
  have sent : after.readySent = 1 := by
    simp [CalibNode.readySent, state, notDone]
  have seen : after.ledSeen = node.ledSeen := by
    simp [CalibNode.ledSeen, state, notAwaiting, passed]
  refine ok.of_ledSeen phase ?_ ?_ event seen passed steps
  · rw [ready, counted, sent, ok.count, unsent]
  · simp [running, notDone]

/-- A broadcast does not disturb a node that has not seen the LED of its step. -/
theorem NodeOk.broadcast
    (ok : NodeOk bus n node)
    {frame : CalibFrame K}
    (unseen :
      ∀ step,
        frame.ledStep? = some step →
        sender ≠ n →
        node.ledSeen < step) :
    NodeOk (bus.broadcast sender frame) n node where
  phase := ok.phase
  count := ok.count
  running := ok.running
  steps := ok.steps
  flag := ok.flag
  queuedLed := by
    intro entry member step isLed
    by_cases own : sender = n
    · subst sender
      rw [Bus.broadcast_fifo_self] at member
      exact ok.queuedLed entry member step isLed
    · rw [Bus.broadcast_fifo_other _ own, List.mem_append,
        List.mem_singleton] at member
      rcases member with old | isNew
      · exact ok.queuedLed entry old step isLed
      · subst entry
        exact unseen step isLed own
  lit := by
    intro step some seen within
    obtain ⟨entry, member, isLed⟩ := ok.lit step some seen within
    exact ⟨entry, List.mem_append_left _ member, isLed⟩

/-- A frame that another node takes does not concern a node. -/
theorem NodeOk.take_other
    (ok : NodeOk bus n node)
    (different : n ≠ sender) :
    NodeOk (bus.take sender) n node where
  phase := ok.phase
  count := ok.count
  running := ok.running
  steps := ok.steps
  flag := by
    rw [Bus.take_received_other _ different]
    exact ok.flag
  queuedLed := by
    rw [Bus.take_fifo_other _ different]
    exact ok.queuedLed
  lit := ok.lit

end Nodes

section Networks

variable {net : CalibNet K N} {n : Fin N} {node : CalibNode K N}
    {bus : Bus (Fin N) (CalibFrame K)}
    {progress : Fin N → Fin N → Progress}

/-- Replace one node, the bus and the progress. -/
def replace
    (net : CalibNet K N)
    (n : Fin N)
    (node : CalibNode K N)
    (bus : Bus (Fin N) (CalibFrame K))
    (progress : Fin N → Fin N → Progress) : CalibNet K N where
  node := Function.update net.node n node
  bus := bus
  progress := progress

theorem toBarrier_replace :
    (net.replace n node bus progress).toBarrier =
      { bus := bus
        round := Function.update net.toBarrier.round n node.passed
        sent := Function.update net.toBarrier.sent n node.readySent
        counted := Function.update net.toBarrier.counted n node.counted } := by
  unfold toBarrier replace
  rw [CountingBarrier.State.mk.injEq]
  refine ⟨rfl, ?_, ?_, ?_⟩ <;>
    funext m <;>
    by_cases same : m = n
  · subst m
    simp
  · simp [same]
  · subst m
    simp
  · simp [same]
  · subst m
    simp
  · simp [same]

/-- An LED step belongs to one of the nodes. -/
theorem CalibInvariant.ledStep_le_steps
    (invariant : CalibInvariant net)
    {entry : Entry (Fin N) (CalibFrame K)}
    {step : Nat}
    (member : entry ∈ net.bus.log)
    (isLed : entry.frame.ledStep? = some step) :
    step ≤ 2 * N := by
  obtain ⟨_, sender, _⟩ := invariant.ledOn entry member step isLed
  have inRange := entry.sender.isLt
  unfold designated at sender
  omega

/-- No LED is ahead of a node that has not sent its `CAN_CALIB_READY`. -/
theorem CalibInvariant.ledStep_le_passed
    (invariant : CalibInvariant net)
    (unsent : (net.node n).readySent = 0)
    {entry : Entry (Fin N) (CalibFrame K)}
    {step : Nat}
    (member : entry ∈ net.bus.log)
    (isLed : entry.frame.ledStep? = some step) :
    step ≤ (net.node n).passed := by
  obtain ⟨_, _, reached⟩ := invariant.ledOn entry member step isLed
  have near : (net.node entry.sender).passed ≤ (net.node n).passed + 1 :=
    invariant.barrier.lockstep entry.sender n
  by_contra beyond
  have ahead : (net.node entry.sender).passed = (net.node n).passed + 1 := by
    omega
  have sent : (net.node n).readySent = 1 :=
    invariant.barrier.complete entry.sender n ahead
  omega

/-- An LED step is on the bus at most once, and received ones precede queued ones. -/
theorem CalibInvariant.received_lt_queued
    (invariant : CalibInvariant net)
    {first second : Entry (Fin N) (CalibFrame K)}
    {earlier later : Nat}
    (received : first ∈ net.bus.received n)
    (queued : second ∈ net.bus.fifo n)
    (firstLed : first.frame.ledStep? = some earlier)
    (secondLed : second.frame.ledStep? = some later) :
    earlier < later := by
  have sorted :=
    invariant.ledSorted.sublist
      (List.filter_sublist (p := fun entry => entry.sender ≠ n))
  rw [← net.bus.ordered n, List.pairwise_append] at sorted
  exact
    sorted.2.2 first received second queued earlier later firstLed secondLed

/-- An LED frame that is on the bus stays reached by its sender. -/
theorem CalibInvariant.ledOn_replace
    (invariant : CalibInvariant net)
    (passed : (net.node n).passed ≤ node.passed)
    {entry : Entry (Fin N) (CalibFrame K)}
    {step : Nat}
    (old : entry ∈ net.bus.log)
    (isLed : entry.frame.ledStep? = some step) :
    1 ≤ step ∧
      entry.sender.val = designated step ∧
      step ≤ ((net.replace n node bus progress).node entry.sender).passed := by
  obtain ⟨some, sender, reached⟩ := invariant.ledOn entry old step isLed
  refine ⟨some, sender, ?_⟩
  by_cases same : entry.sender = n
  · rw [same] at reached ⊢
    simp only [CalibNet.replace, Function.update_self]
    exact Nat.le_trans reached passed
  · simpa [CalibNet.replace, same] using reached

/-- Replacing a node without an LED frame keeps the invariant. -/
theorem CalibInvariant.replace
    (invariant : CalibInvariant net)
    (entries : List (Entry (Fin N) (CalibFrame K)))
    (barrier :
      CountingBarrier.Invariant CalibFrame.readyStep? 1
        (net.replace n node bus progress).toBarrier)
    (own : NodeOk bus n node)
    (others : ∀ m, m ≠ n → NodeOk bus m (net.node m))
    (log : bus.log = net.bus.log ++ entries)
    (noLed : ∀ entry ∈ entries, entry.frame.ledStep? = none)
    (passed : (net.node n).passed ≤ node.passed)
    (noDuty :
      ∀ step,
        step ≤ node.passed →
        n.val = designated step →
        1 ≤ step →
        step ≤ (net.node n).passed) :
    CalibInvariant (net.replace n node bus progress) where
  barrier := barrier
  nodes := by
    intro m
    by_cases same : m = n
    · subst m
      simpa [CalibNet.replace] using own
    · simpa [CalibNet.replace, same] using others m same
  ledOn := by
    intro entry member step isLed
    have member : entry ∈ bus.log := member
    rw [log, List.mem_append] at member
    rcases member with old | new
    · exact invariant.ledOn_replace passed old isLed
    · rw [noLed entry new] at isLed
      cases isLed
  ledDone := by
    intro m step some reached duty
    have found :
        ∃ entry ∈ net.bus.log, entry.frame.ledStep? = Option.some step := by
      by_cases same : m = n
      · subst m
        simp only [CalibNet.replace, Function.update_self] at reached
        exact
          invariant.ledDone n step some (noDuty step reached duty some) duty
      · simp only [CalibNet.replace, Function.update_of_ne same] at reached
        exact invariant.ledDone m step some reached duty
    obtain ⟨entry, member, isLed⟩ := found
    refine ⟨entry, ?_, isLed⟩
    show entry ∈ bus.log
    rw [log]
    exact List.mem_append_left _ member
  ledSorted := by
    show bus.log.Pairwise _
    rw [log, List.pairwise_append]
    refine ⟨invariant.ledSorted, ?_, ?_⟩
    · refine List.pairwise_of_forall_mem_list ?_
      intro first member second _ earlier later isLed
      rw [noLed first member] at isLed
      cases isLed
    · intro first _ second member earlier later _ isLed
      rw [noLed second member] at isLed
      cases isLed

/-- A step of a node that shows neither in the barrier nor on the bus. -/
theorem CalibInvariant.replace_same
    (invariant : CalibInvariant net)
    (own : NodeOk net.bus n node)
    (passed : node.passed = (net.node n).passed)
    (sent : node.readySent = (net.node n).readySent)
    (counted : node.counted = (net.node n).counted) :
    CalibInvariant (net.replace n node net.bus progress) := by
  have barrier :
      (net.replace n node net.bus progress).toBarrier = net.toBarrier := by
    rw [toBarrier_replace, passed, sent, counted]
    show
      CountingBarrier.State.mk net.bus
        (Function.update net.toBarrier.round n (net.toBarrier.round n))
        (Function.update net.toBarrier.sent n (net.toBarrier.sent n))
        (Function.update net.toBarrier.counted n
          (net.toBarrier.counted n)) = net.toBarrier
    simp only [Function.update_eq_self]
    rfl
  refine
    invariant.replace [] ?_ own
      (fun m _ => invariant.nodes m) (by simp) (by simp)
      (by rw [passed]) ?_
  · rw [barrier]
    exact invariant.barrier
  · intro step reached _ _
    rw [passed] at reached
    exact reached

/-- Sending the `CAN_CALIB_READY` of a step is a token of the barrier. -/
theorem CalibInvariant.replace_token
    (invariant : CalibInvariant net)
    {value : K}
    (own :
      NodeOk
        (net.bus.broadcast n
          ⟨.calibReady value, (net.node n).passed⟩) n node)
    (passed : node.passed = (net.node n).passed)
    (unsent : (net.node n).readySent = 0)
    (sent : node.readySent = 1)
    (counted : node.counted = (net.node n).counted) :
    CalibInvariant
      (net.replace n node
        (net.bus.broadcast n ⟨.calibReady value, (net.node n).passed⟩)
        progress) := by
  have token :
      CountingBarrier.Step CalibFrame.readyStep? 1 net.toBarrier _ :=
    .token n ⟨.calibReady value, (net.node n).passed⟩ rfl
      (by
        show (net.node n).readySent < 1
        omega)
  refine
    invariant.replace
      [⟨n, ⟨.calibReady value, (net.node n).passed⟩⟩]
      ?_ own ?_ rfl ?_ (by rw [passed]) ?_
  · have stepped := invariant.barrier.step Nat.one_pos token
    have same :
        (net.replace n node
          (net.bus.broadcast n ⟨.calibReady value, (net.node n).passed⟩)
          progress).toBarrier = _ :=
      toBarrier_replace
    rw [same, passed, sent, counted]
    convert stepped using 1
    rw [CountingBarrier.State.mk.injEq]
    refine ⟨rfl, ?_, ?_, ?_⟩
    · exact Function.update_eq_self n net.toBarrier.round
    · have before : net.toBarrier.sent n = 0 := unsent
      rw [before]
    · exact Function.update_eq_self n net.toBarrier.counted
  · intro m _
    refine (invariant.nodes m).broadcast ?_
    intro step isLed
    cases isLed
  · intro entry member
    rw [List.mem_singleton] at member
    subst entry
    rfl
  · intro step reached _ _
    rw [passed] at reached
    exact reached

/-- A full count is a full share of the barrier. -/
theorem CalibInvariant.full
    (invariant : CalibInvariant net)
    (all : (net.node n).fsm.numNodesReady = N)
    (sent : (net.node n).readySent = 1) :
    (net.toBarrier.counted n).length = 1 * (Fintype.card (Fin N) - 1) := by
  have count := (invariant.nodes n).count
  rw [all, sent] at count
  show (net.node n).counted.length = _
  rw [Fintype.card_fin]
  omega

/-- Leaving `WaitReady` passes the barrier. -/
theorem CalibInvariant.barrier_pass
    (invariant : CalibInvariant net)
    (all : (net.node n).fsm.numNodesReady = N)
    (sent : (net.node n).readySent = 1)
    (passed : node.passed = (net.node n).passed + 1)
    (unsent : node.readySent = 0)
    (counted : node.counted = []) :
    CountingBarrier.Invariant CalibFrame.readyStep? 1
      (net.replace n node net.bus progress).toBarrier := by
  have pass :
      CountingBarrier.Step CalibFrame.readyStep? 1 net.toBarrier _ :=
    .pass n sent (invariant.full all sent)
  have stepped := invariant.barrier.step Nat.one_pos pass
  rw [toBarrier_replace, passed, unsent, counted]
  exact stepped

/-- Leaving `WaitReady` without lighting the LED keeps the invariant. -/
theorem CalibInvariant.replace_pass
    (invariant : CalibInvariant net)
    (own : NodeOk net.bus n node)
    (all : (net.node n).fsm.numNodesReady = N)
    (sent : (net.node n).readySent = 1)
    (passed : node.passed = (net.node n).passed + 1)
    (unsent : node.readySent = 0)
    (counted : node.counted = [])
    (other : n.val ≠ designated node.passed) :
    CalibInvariant (net.replace n node net.bus progress) := by
  refine
    invariant.replace []
      (invariant.barrier_pass all sent passed unsent counted) own
      (fun m _ => invariant.nodes m) (by simp) (by simp)
      (by omega) ?_
  intro step reached duty _
  by_cases last : step = node.passed
  · subst last
    exact absurd duty other
  · omega

/-- Lighting the LED passes the barrier and broadcasts the step. -/
theorem CalibInvariant.replace_light
    (invariant : CalibInvariant net)
    (own :
      NodeOk (net.bus.broadcast n ⟨.calibLedOn, node.passed⟩) n node)
    (all : (net.node n).fsm.numNodesReady = N)
    (sent : (net.node n).readySent = 1)
    (passed : node.passed = (net.node n).passed + 1)
    (within : node.passed ≤ 2 * N)
    (unsent : node.readySent = 0)
    (counted : node.counted = [])
    (duty : n.val = designated node.passed) :
    CalibInvariant
      (net.replace n node
        (net.bus.broadcast n ⟨.calibLedOn, node.passed⟩) progress) := by
  -- The LED of the new step is not on the bus yet.
  have earlier :
      ∀ entry ∈ net.bus.log,
        ∀ step,
          entry.frame.ledStep? = some step →
          step < node.passed := by
    intro entry member step isLed
    obtain ⟨_, sender, reached⟩ := invariant.ledOn entry member step isLed
    have near :
        (net.node entry.sender).passed ≤ (net.node n).passed + 1 :=
      invariant.barrier.lockstep entry.sender n
    by_contra notEarlier
    have same : step = node.passed := by omega
    rw [same, ← duty, Fin.val_inj] at sender
    rw [sender] at reached
    omega
  have barrier :
      CountingBarrier.Invariant CalibFrame.readyStep? 1
        (net.replace n node
          (net.bus.broadcast n ⟨.calibLedOn, node.passed⟩)
          progress).toBarrier := by
    have led :
        CountingBarrier.Step CalibFrame.readyStep? 1
          (net.replace n node net.bus progress).toBarrier _ :=
      .other n ⟨.calibLedOn, node.passed⟩ rfl
    exact
      (invariant.barrier_pass all sent passed unsent counted).step
        Nat.one_pos led
  refine
    { barrier := barrier
      nodes := ?_
      ledOn := ?_
      ledDone := ?_
      ledSorted := ?_ }
  · intro m
    by_cases same : m = n
    · subst m
      simpa [CalibNet.replace] using own
    · have unseen : (net.node m).ledSeen < node.passed := by
        by_contra seen
        obtain ⟨entry, member, isLed⟩ :=
          (invariant.nodes m).lit node.passed (by omega) (by omega) within
        have before := earlier entry member node.passed isLed
        omega
      have kept :
          NodeOk (net.bus.broadcast n ⟨.calibLedOn, node.passed⟩) m
            (net.node m) := by
        refine (invariant.nodes m).broadcast ?_
        intro step isLed _
        cases isLed
        exact unseen
      simpa [CalibNet.replace, same] using kept
  · intro entry member step isLed
    have member :
        entry ∈ net.bus.log ++ [⟨n, ⟨.calibLedOn, node.passed⟩⟩] :=
      member
    rw [List.mem_append, List.mem_singleton] at member
    rcases member with old | new
    · exact invariant.ledOn_replace (by omega) old isLed
    · subst entry
      have newest : node.passed = step := Option.some.inj isLed
      subst newest
      refine ⟨by omega, duty, ?_⟩
      simp [CalibNet.replace]
  · intro m step some reached isDuty
    by_cases isNew : step = node.passed
    · subst isNew
      exact
        ⟨⟨n, ⟨.calibLedOn, node.passed⟩⟩,
          List.mem_append_right _ (List.mem_singleton_self _), rfl⟩
    · have old : step ≤ (net.node m).passed := by
        by_cases same : m = n
        · subst m
          simp only [CalibNet.replace, Function.update_self] at reached
          omega
        · simpa [CalibNet.replace, same] using reached
      obtain ⟨entry, member, isLed⟩ :=
        invariant.ledDone m step some old isDuty
      exact ⟨entry, List.mem_append_left _ member, isLed⟩
  · show (net.bus.log ++ [_]).Pairwise _
    rw [List.pairwise_append]
    refine ⟨invariant.ledSorted, List.pairwise_singleton _ _, ?_⟩
    intro first member second isNew step later firstLed secondLed
    rw [List.mem_singleton] at isNew
    subst second
    cases secondLed
    exact earlier first member step firstLed

/-- Taking a frame keeps the invariant. -/
theorem CalibInvariant.replace_take
    (invariant : CalibInvariant net)
    {entry : Entry (Fin N) (CalibFrame K)}
    {rest : List (Entry (Fin N) (CalibFrame K))}
    (queued : net.bus.fifo n = entry :: rest)
    (own : NodeOk (net.bus.take n) n node)
    (passed : node.passed = (net.node n).passed)
    (sent : node.readySent = (net.node n).readySent)
    (counted :
      node.counted =
        if entry.frame.readyStep?.isSome then
          (net.node n).counted ++ [entry]
        else
          (net.node n).counted) :
    CalibInvariant (net.replace n node (net.bus.take n) progress) := by
  have barrier :
      CountingBarrier.Invariant CalibFrame.readyStep? 1
        (net.replace n node (net.bus.take n) progress).toBarrier := by
    have round :
        Function.update net.toBarrier.round n node.passed =
          net.toBarrier.round := by
      rw [passed]
      exact Function.update_eq_self n net.toBarrier.round
    have readySent :
        Function.update net.toBarrier.sent n node.readySent =
          net.toBarrier.sent := by
      rw [sent]
      exact Function.update_eq_self n net.toBarrier.sent
    rw [toBarrier_replace, round, readySent, counted]
    cases isReady : entry.frame.readyStep? with
    | none =>
        have skip :
            CountingBarrier.Step CalibFrame.readyStep? 1
              net.toBarrier _ :=
          .skip n entry rest queued isReady
        have stepped := invariant.barrier.step Nat.one_pos skip
        have same :
            Function.update net.toBarrier.counted n
                (net.node n).counted =
              net.toBarrier.counted :=
          Function.update_eq_self n net.toBarrier.counted
        simp only [Option.isSome_none, Bool.false_eq_true, ↓reduceIte]
        rw [same]
        exact stepped
    | some step =>
        have count :
            CountingBarrier.Step CalibFrame.readyStep? 1
              net.toBarrier _ :=
          .count n entry rest queued (by rw [isReady]; rfl)
        exact invariant.barrier.step Nat.one_pos count
  refine
    invariant.replace [] barrier own
      (fun m different => (invariant.nodes m).take_other different)
      (by simp) (by simp) (by rw [passed]) ?_
  intro step reached _ _
  rw [passed] at reached
  exact reached

end Networks

end CalibNet

end DistributedLighting
