import DistributedLighting.NodeMain

namespace DistributedLighting

/-!
# A node after a reset and a node after boot

An `r` is meant to bring a node back to what it was after `setup()`.  The two
nodes are compared event by event, with the clock of the one ahead of that of
the other by the time of the reset.  They behave alike when the main machine
has entered its state at the very time of the reset, no LED index is left over
in the calibration machine, and the cells that `resetCalib` does not reach are
zero.
-/

variable {K : Type}

/-- The same run of the main loop with all readings of the clock later. -/
def LoopInput.later
    (offset : BitVec 32)
    (input : LoopInput K) : LoopInput K :=
  { input with
    now := input.now + offset
    stamp := input.stamp + offset
    calibNow := input.calibNow + offset }

/-- The same event at a later time. -/
def NodeEvent.later
    (offset : BitVec 32) : NodeEvent K → NodeEvent K
  | .mainLoop input => .mainLoop (input.later offset)
  | .frame sender sent => .frame sender sent
  | .command sent => .command sent
  | .discovery hadResponse => .discovery hadResponse

/-- Frames come from nodes, whose ids run from 1 to `MAX_NODE_ID`. -/
def NodeEvent.FromNode : NodeEvent K → Prop
  | .frame sender _ => 0 < sender ∧ sender ≤ maxNodeId
  | .mainLoop _ => True
  | .command _ => True
  | .discovery _ => True

namespace MainNode

/-- What two nodes have in common when they behave the same. -/
structure SameBehaviour (running booted : MainNode K) : Prop where
  glob : running.glob = booted.glob
  mainState : running.mainFSM.state = booted.mainFSM.state
  calibrationState :
    running.calibrationFSM.state = booted.calibrationFSM.state
  residualArray :
    ∀ i < maxNumNodes,
      running.calibrationFSM.residualArray i =
        booted.calibrationFSM.residualArray i
  gainMatrix :
    ∀ i < maxNumNodes, ∀ j < maxNumNodes,
      running.calibrationFSM.gainMatrix i j =
        booted.calibrationFSM.gainMatrix i j

section Behaviour

variable [Field K] [LinearOrder K]

/-- The node after an event. -/
def step
    (voltageToLux : K → K)
    (node : MainNode K)
    (event : NodeEvent K) : Option (MainNode K) :=
  (node.next voltageToLux event).map Prod.fst

/-- After an `r` at this time the node goes through all events as one that has booted. -/
def BehavesAsBoot
    (voltageToLux : K → K)
    (now : BitVec 32)
    (node : MainNode K) : Prop :=
  ∀ events : List (NodeEvent K),
    (∀ event ∈ events, event.FromNode) →
      Option.Rel
        (fun running booted =>
          SameBehaviour running.1 booted.1 ∧ running.2 = booted.2)
        (react (next voltageToLux) node.reset
          (events.map (NodeEvent.later now)))
        (react (next voltageToLux)
          (boot K node.glob.nodeId node.glob.hubNode) events)

end Behaviour

/-- Nothing that an `r` leaves alone differs from what boot sets. -/
structure ResetsCleanly
    [Zero K]
    (now : BitVec 32)
    (node : MainNode K) : Prop where
  transition : node.mainFSM.lastTransitionTime = now
  nodeLedOn : node.calibrationFSM.nodeLedOn = 0
  residualArray :
    ∀ i < maxNumNodes,
      node.glob.numTotalNodes ≤ i →
        node.calibrationFSM.residualArray i = 0
  gainMatrix :
    ∀ i < maxNumNodes, ∀ j < maxNumNodes,
      node.glob.numTotalNodes ≤ i ∨ node.glob.numTotalNodes ≤ j →
        node.calibrationFSM.gainMatrix i j = 0

end MainNode

/-!
## The invariant of a node
-/

namespace Glob

/-- The hub does not matter to a tidy registry. -/
theorem Tidy.withHub
    {glob : Glob}
    {entries : List Nat}
    (tidy : glob.Tidy entries)
    (hub : Nat) :
    { glob with hubNode := hub }.Tidy entries where
  count := tidy.count
  holds := tidy.holds
  unlisted := tidy.unlisted
  positive := tidy.positive

/-- After boot all ids have the index 0. -/
theorem indexOf_boot
    {nodeId : Nat}
    (positive : 0 < nodeId)
    (hubNode id : Nat) :
    (boot nodeId hubNode).indexOf id = 0 := by
  have lists := lists_boot positive hubNode
  by_cases own : id = nodeId
  · have first : (boot nodeId hubNode).nodesList 0 = nodeId := by
      rw [lists.holds 0, Finset.sort_singleton]
      rfl
    rw [own, ← first]
    exact lists.index 0 (by rw [Finset.card_singleton]; exact Nat.one_pos)
  · exact lists.unlisted id (by rwa [Finset.mem_singleton])

/-- What a step of the calibration machine does to its LED index. -/
theorem nodeLedOn_calibrationLoop
    [Field K]
    (glob : Glob)
    (voltageToLux : K → K)
    (input : LoopInput K)
    {fsm : CalibrationFSM K}
    (known : 0 < glob.numTotalNodes)
    (least : -1 ≤ fsm.nodeLedOn)
    (designated :
      fsm.state = .calibInit ∨ fsm.nodeLedOn < glob.numTotalNodes) :
    let ran := (glob.calibrationLoop voltageToLux input fsm).1
    (-1 : Int) ≤ ran.nodeLedOn ∧
      (ran.nodeLedOn < glob.numTotalNodes ∨
        ran.done = true ∧ ran.nodeLedOn ≤ glob.numTotalNodes) := by
  have counted : (0 : Int) < glob.numTotalNodes := by exact_mod_cast known
  unfold calibrationLoop
  cases state : fsm.state with
  | calibInit =>
      have ledOff : (-1 : Int) < glob.numTotalNodes := by omega
      exact ⟨le_refl _, .inl ledOff⟩
  | waitReady =>
      have bounded : fsm.nodeLedOn < glob.numTotalNodes :=
        designated.resolve_left (by rw [state]; decide)
      have advanced :
          -1 ≤ fsm.advance.nodeLedOn ∧
            fsm.advance.nodeLedOn ≤ fsm.nodeLedOn + 1 := by
        unfold CalibrationFSM.advance
        split
        · exact ⟨by dsimp only; omega, le_refl _⟩
        · exact ⟨least, by dsimp only; omega⟩
      dsimp only
      unfold runStateWaitReady
      split
      · dsimp only
        split
        · exact ⟨advanced.1, .inr ⟨rfl, by dsimp only; omega⟩⟩
        · rename_i more
          split
          · exact ⟨advanced.1, .inl (Int.not_le.mp more)⟩
          · exact ⟨advanced.1, .inl (Int.not_le.mp more)⟩
      · exact ⟨least, .inl bounded⟩
  | waitLedOn =>
      have bounded : fsm.nodeLedOn < glob.numTotalNodes :=
        designated.resolve_left (by rw [state]; decide)
      dsimp only
      unfold CalibrationFSM.runStateWaitLedOn
      split
      · exact ⟨least, .inl bounded⟩
      · exact ⟨least, .inl bounded⟩
  | waitTransient =>
      have bounded : fsm.nodeLedOn < glob.numTotalNodes :=
        designated.resolve_left (by rw [state]; decide)
      dsimp only
      unfold CalibrationFSM.runStateWaitTrasient
      split
      · dsimp only
        split
        · exact ⟨least, .inl bounded⟩
        · exact ⟨least, .inl bounded⟩
      · exact ⟨least, .inl bounded⟩

end Glob

namespace MainNode

/-- What holds of a node in every run. -/
structure Sound (node : MainNode K) : Prop where
  positive : 0 < node.glob.nodeId
  tidy : ∃ entries, node.glob.Tidy entries
  known : 0 < node.glob.numTotalNodes
  fits : node.glob.numTotalNodes ≤ maxNumNodes
  least : -1 ≤ node.calibrationFSM.nodeLedOn
  most : node.calibrationFSM.nodeLedOn ≤ maxNumNodes
  /-- The calibration has not begun before the main machine calibrates. -/
  resting :
    node.mainFSM.state = .init ∨ node.mainFSM.state = .wakeupWait →
      node.calibrationFSM.state = .calibInit
  /-- While it goes on, the LED index is that of a node. -/
  designated :
    node.mainFSM.state = .calibrate →
      node.calibrationFSM.state = .calibInit ∨
        node.calibrationFSM.nodeLedOn < node.glob.numTotalNodes

section Invariant

variable {node : MainNode K}

namespace Sound

/-- Changing the hub keeps a node sound. -/
theorem setHub
    (sound : node.Sound)
    (hub : Nat) :
    (node.setHub hub).Sound where
  positive := sound.positive
  tidy := by
    obtain ⟨entries, tidy⟩ := sound.tidy
    exact ⟨entries, tidy.withHub hub⟩
  known := sound.known
  fits := sound.fits
  least := sound.least
  most := sound.most
  resting := sound.resting
  designated := sound.designated

/-- The registry after an `r` is the one after boot. -/
theorem resetGlob_eq (sound : node.Sound) :
    node.glob.resetGlob = .boot node.glob.nodeId node.glob.hubNode := by
  obtain ⟨entries, tidy⟩ := sound.tidy
  exact tidy.resetGlob_eq_boot

/-- Registering a node keeps a node sound. -/
theorem register
    (sound : node.Sound)
    {id : Nat}
    (positive : 0 < id)
    (room : ¬ node.glob.numTotalNodes ≥ maxNumNodes) :
    { node with glob := node.glob.registerNewNode id }.Sound where
  positive := sound.positive
  tidy := by
    obtain ⟨entries, tidy⟩ := sound.tidy
    exact ⟨_, tidy.registerNewNode positive⟩
  known := Nat.succ_pos _
  fits := Nat.not_le.mp room
  least := sound.least
  most := sound.most
  resting := sound.resting
  designated := by
    intro calibrating
    refine (sound.designated calibrating).imp_right fun bounded => ?_
    refine lt_trans bounded ?_
    show (node.glob.numTotalNodes : Int) < (node.glob.numTotalNodes + 1 : Nat)
    omega

variable [Field K]

/-- A node is sound after boot. -/
theorem boot
    {nodeId : Nat}
    (positive : 0 < nodeId)
    (hubNode : Nat) :
    (boot K nodeId hubNode).Sound where
  positive := positive
  tidy := ⟨_, (Glob.lists_boot positive hubNode).tidy⟩
  known := Nat.one_pos
  fits := by
    show 1 ≤ maxNumNodes
    decide
  least := by
    show (-1 : Int) ≤ 0
    decide
  most := by
    show (0 : Int) ≤ maxNumNodes
    decide
  resting := fun _ => rfl
  designated := fun calibrating => by cases calibrating

/-- An `r` keeps a node sound. -/
theorem reset (sound : node.Sound) : node.reset.Sound where
  positive := sound.positive
  tidy := by
    rw [MainNode.reset, sound.resetGlob_eq]
    exact ⟨_, (Glob.lists_boot sound.positive node.glob.hubNode).tidy⟩
  known := Nat.one_pos
  fits := by
    show 1 ≤ maxNumNodes
    decide
  least := sound.least
  most := sound.most
  resting := fun _ => rfl
  designated := fun calibrating => by cases calibrating

/-- A frame of the calibration keeps a node sound. -/
theorem calib
    [LinearOrder K]
    (sound : node.Sound)
    (sender : Nat)
    (message : CalibMessage K) :
    { node with
      calibrationFSM :=
        node.calibrationFSM.received sender message }.Sound := by
  have same :
      (node.calibrationFSM.received sender message).nodeLedOn =
          node.calibrationFSM.nodeLedOn ∧
        (node.calibrationFSM.received sender message).state =
          node.calibrationFSM.state := by
    unfold CalibrationFSM.received CalibrationFSM.receivedGainOrResidual
    split
    · split
      · split <;> exact ⟨rfl, rfl⟩
      · exact ⟨rfl, rfl⟩
    · exact ⟨rfl, rfl⟩
  exact
    { positive := sound.positive
      tidy := sound.tidy
      known := sound.known
      fits := sound.fits
      least := by dsimp only; rw [same.1]; exact sound.least
      most := by dsimp only; rw [same.1]; exact sound.most
      resting := by dsimp only; rw [same.2]; exact sound.resting
      designated := by
        dsimp only
        rw [same.1, same.2]
        exact sound.designated }

/-- A run of the main loop keeps a node sound. -/
theorem mainLoop
    (sound : node.Sound)
    (voltageToLux : K → K)
    (input : LoopInput K) :
    (node.mainLoop voltageToLux input).1.Sound := by
  have loop := mainLoop_case voltageToLux input node
  revert loop
  generalize node.mainLoop voltageToLux input = ran
  intro loop
  cases loop with
  | wakes starting _ =>
      exact
        { sound with
          resting := fun _ => sound.resting (.inl starting)
          designated := fun calibrating => by cases calibrating }
  | waits _ => exact sound
  | starts waiting _ =>
      exact
        { sound with
          resting := fun _ => sound.resting (.inr waiting)
          designated := fun _ => .inl (sound.resting (.inr waiting)) }
  | calibrates fsm sent calibrating ran =>
      have bounds :=
        node.glob.nodeLedOn_calibrationLoop voltageToLux input sound.known
          sound.least (sound.designated calibrating)
      rw [ran] at bounds
      obtain ⟨least, most⟩ := bounds
      have fits : (node.glob.numTotalNodes : Int) ≤ maxNumNodes := by
        exact_mod_cast sound.fits
      dsimp only at least most
      refine
        { positive := sound.positive
          tidy := sound.tidy
          known := sound.known
          fits := sound.fits
          least := least
          most := by dsimp only; omega
          resting := ?_
          designated := ?_ }
      · dsimp only
        split
        · rintro (atInit | waiting)
          · cases atInit
          · cases waiting
        · rw [calibrating]
          rintro (atInit | waiting)
          · cases atInit
          · cases waiting
      · dsimp only
        split
        · intro finished
          cases finished
        · rename_i notDone
          intro _
          exact .inr (most.resolve_right fun finished => notDone finished.1)

/-- A command keeps a node sound. -/
theorem executeCommand
    (sound : node.Sound)
    (command : Command) :
    (node.executeCommand command).Sound := by
  unfold MainNode.executeCommand
  split
  · exact sound.reset
  · exact sound

/-- A frame keeps a node sound. -/
theorem received
    [LinearOrder K]
    (sound : node.Sound)
    {sender : Nat}
    (positive : 0 < sender)
    {frame : NodeFrame K}
    {after : MainNode K}
    (taken : node.received sender frame = some after) :
    after.Sound := by
  cases frame with
  | calib message =>
      obtain ⟨⟩ := taken
      exact sound.calib (node.glob.indexOf sender) message
  | can message =>
      cases message with
      | wakeupBroadcast =>
          rw [MainNode.received] at taken
          split at taken
          · cases taken
          · rename_i room
            obtain ⟨⟩ := taken
            exact sound.register positive room
      | isHubNode =>
          obtain ⟨⟩ := taken
          exact sound.setHub sender
      | noLongerIsHubNode =>
          obtain ⟨⟩ := taken
          split
          · exact sound.setHub 0
          · exact sound
      | commandsRequest command =>
          obtain ⟨⟩ := taken
          exact sound.executeCommand command
      | frequentData _ _ _ _ =>
          obtain ⟨⟩ := taken
          exact sound
      | commandsResponse _ =>
          obtain ⟨⟩ := taken
          exact sound
      | other =>
          obtain ⟨⟩ := taken
          exact sound

/-- An event keeps a node sound. -/
theorem step
    [LinearOrder K]
    (sound : node.Sound)
    {voltageToLux : K → K}
    {event : NodeEvent K}
    (fromNode : event.FromNode)
    {after : MainNode K}
    (taken : node.step voltageToLux event = some after) :
    after.Sound := by
  cases event with
  | frame sender frame =>
      rw [MainNode.step, next, Option.map_map] at taken
      obtain ⟨node', received, rfl⟩ := Option.map_eq_some_iff.mp taken
      exact sound.received fromNode.1 received
  | command command =>
      obtain ⟨⟩ := taken
      show (node.readCommand command).Sound
      unfold readCommand
      split_ifs
      · exact sound
      · exact sound.setHub _
      · exact sound.executeCommand command
      · exact sound.executeCommand command
      · exact sound
  | discovery hadResponse =>
      obtain ⟨⟩ := taken
      show (node.sendPCDiscovery hadResponse).Sound
      unfold sendPCDiscovery
      split
      · exact sound.setHub 0
      · exact sound
  | mainLoop input =>
      obtain ⟨⟩ := taken
      exact sound.mainLoop voltageToLux input

end Sound

end Invariant

end MainNode

/-!
## The same events at a later time
-/

namespace CalibrationFSM

/-- The machine with another time of its last transition and other arrays. -/
def withStore
    (fsm : CalibrationFSM K)
    (time : BitVec 32)
    (gainMatrix : Nat → Nat → K)
    (residualArray : Nat → K) : CalibrationFSM K :=
  { fsm with
    lastTransitionTime := time
    gainMatrix := gainMatrix
    residualArray := residualArray }

/-- The machines differ at most in the clock and behind the arrays. -/
structure Matches
    (offset : BitVec 32)
    (running booted : CalibrationFSM K) : Prop where
  store :
    ∃ time gainMatrix residualArray,
      running = booted.withStore time gainMatrix residualArray
  time :
    booted.state = .waitTransient →
      running.lastTransitionTime = booted.lastTransitionTime + offset
  gainMatrix :
    ∀ i < maxNumNodes, ∀ j < maxNumNodes,
      running.gainMatrix i j = booted.gainMatrix i j
  residualArray :
    ∀ i < maxNumNodes, running.residualArray i = booted.residualArray i

/-- Where a ready frame puts its value. -/
theorem gainMatrix_received
    [Field K] [LinearOrder K]
    (fsm : CalibrationFSM K)
    {value : K}
    (nonneg : 0 ≤ value)
    (sender : Nat) :
    (fsm.received sender (.calibReady value)).gainMatrix =
      if fsm.nodeLedOn = -1 then
        fsm.gainMatrix
      else
        (fsm.setGain sender (toUint8 fsm.nodeLedOn) value).gainMatrix := by
  unfold received receivedGainOrResidual
  dsimp only
  rw [if_pos nonneg]
  split <;> rfl

namespace Matches

variable {offset : BitVec 32} {running booted : CalibrationFSM K}

theorem state (same : Matches offset running booted) :
    running.state = booted.state := by
  obtain ⟨⟨time, gainMatrix, residualArray, rfl⟩, -, -, -⟩ := same
  rfl

theorem nodeLedOn (same : Matches offset running booted) :
    running.nodeLedOn = booted.nodeLedOn := by
  obtain ⟨⟨time, gainMatrix, residualArray, rfl⟩, -, -, -⟩ := same
  rfl

theorem luxReadNum (same : Matches offset running booted) :
    running.luxReadNum = booted.luxReadNum := by
  obtain ⟨⟨time, gainMatrix, residualArray, rfl⟩, -, -, -⟩ := same
  rfl

theorem numNodesReady (same : Matches offset running booted) :
    running.numNodesReady = booted.numNodesReady := by
  obtain ⟨⟨time, gainMatrix, residualArray, rfl⟩, -, -, -⟩ := same
  rfl

theorem otherNodeLedOn (same : Matches offset running booted) :
    running.otherNodeLedOn = booted.otherNodeLedOn := by
  obtain ⟨⟨time, gainMatrix, residualArray, rfl⟩, -, -, -⟩ := same
  rfl

theorem done (same : Matches offset running booted) :
    running.done = booted.done := by
  obtain ⟨⟨time, gainMatrix, residualArray, rfl⟩, -, -, -⟩ := same
  rfl

/-- Both machines make a change that the clock and the arrays have no part in. -/
theorem alter
    (same : Matches offset running booted)
    (change : CalibrationFSM K → CalibrationFSM K)
    (commutes :
      ∀ fsm time gainMatrix residualArray,
        change (withStore fsm time gainMatrix residualArray) =
          (change fsm).withStore time gainMatrix residualArray)
    (kept :
      (change booted).state = booted.state ∧
        (change booted).lastTransitionTime = booted.lastTransitionTime ∧
        (change booted).gainMatrix = booted.gainMatrix ∧
        (change booted).residualArray = booted.residualArray) :
    Matches offset (change running) (change booted) := by
  obtain ⟨⟨time, gainMatrix, residualArray, rfl⟩, sameTime, gains, residuals⟩ :=
    same
  obtain ⟨state, keptTime, keptGains, keptResiduals⟩ := kept
  rw [commutes]
  refine ⟨⟨time, gainMatrix, residualArray, rfl⟩, ?_, ?_, ?_⟩
  · rw [state, keptTime]
    exact sameTime
  · rw [keptGains]
    exact gains
  · rw [keptResiduals]
    exact residuals

/-- A transition that both machines make. -/
theorem setState
    (same : Matches offset running booted)
    (state : CalibrationState)
    (now : BitVec 32) :
    Matches offset (running.setState state (now + offset))
      (booted.setState state now) := by
  obtain ⟨⟨time, gainMatrix, residualArray, rfl⟩, -, gains, residuals⟩ := same
  exact
    ⟨⟨now + offset, gainMatrix, residualArray, rfl⟩, fun _ => rfl, gains,
      residuals⟩

/-- A residual that both machines store. -/
theorem setResidual
    (same : Matches offset running booted)
    (index : Nat)
    (value : K) :
    Matches offset (running.setResidual index value)
      (booted.setResidual index value) := by
  obtain ⟨⟨time, gainMatrix, residualArray, rfl⟩, sameTime, gains, residuals⟩ :=
    same
  refine ⟨⟨time, gainMatrix, _, rfl⟩, sameTime, gains, ?_⟩
  intro i inRange
  unfold CalibrationFSM.setResidual Function.update
  dsimp only
  split
  · rfl
  · exact residuals i inRange

/-- A gain that both machines store. -/
theorem setGain
    (same : Matches offset running booted)
    (row column : Nat)
    (gain : K) :
    Matches offset (running.setGain row column gain)
      (booted.setGain row column gain) := by
  obtain ⟨⟨time, gainMatrix, residualArray, rfl⟩, sameTime, gains, residuals⟩ :=
    same
  refine ⟨⟨time, _, residualArray, rfl⟩, sameTime, ?_, residuals⟩
  intro i iInRange j jInRange
  unfold CalibrationFSM.setGain Function.update
  dsimp only
  split
  · rename_i own
    subst own
    dsimp only
    split
    · rfl
    · exact gains _ iInRange j jInRange
  · exact gains i iInRange j jInRange

/-- Both machines count a node. -/
theorem incrementNodesReady
    (same : Matches offset running booted) :
    Matches offset running.incrementNodesReady
      booted.incrementNodesReady :=
  same.alter CalibrationFSM.incrementNodesReady (fun _ _ _ _ => rfl)
    ⟨rfl, rfl, rfl, rfl⟩

/-- Both machines go on to the next LED or reading. -/
theorem advance
    (same : Matches offset running booted) :
    Matches offset running.advance booted.advance := by
  refine same.alter CalibrationFSM.advance ?_ ?_
  · intro fsm time gainMatrix residualArray
    unfold CalibrationFSM.advance withStore
    dsimp only
    split <;> rfl
  · unfold CalibrationFSM.advance
    split <;> exact ⟨rfl, rfl, rfl, rfl⟩

/-- Both machines store a reading in `luxReads`. -/
theorem measure
    (same : Matches offset running booted)
    (reading : K) :
    Matches offset (running.measure reading) (booted.measure reading) :=
  same.alter (fun fsm => fsm.measure reading) (fun _ _ _ _ => rfl)
    ⟨rfl, rfl, rfl, rfl⟩

/-- In `WaitLedOn` both machines look at the event. -/
theorem runStateWaitLedOn
    (same : Matches offset running booted)
    (now : BitVec 32) :
    Matches offset (running.runStateWaitLedOn (now + offset))
      (booted.runStateWaitLedOn now) := by
  unfold CalibrationFSM.runStateWaitLedOn
  rw [same.otherNodeLedOn]
  split
  · apply setState
    exact
      same.alter (fun fsm => { fsm with otherNodeLedOn := false })
        (fun _ _ _ _ => rfl) ⟨rfl, rfl, rfl, rfl⟩
  · exact same

/-- In `WaitReady` both machines look at the count. -/
theorem runStateWaitReady
    (same : Matches offset running booted)
    (glob : Glob)
    (now : BitVec 32) :
    Matches offset (glob.runStateWaitReady (now + offset) running).1
        (glob.runStateWaitReady now booted).1 ∧
      (glob.runStateWaitReady (now + offset) running).2 =
        (glob.runStateWaitReady now booted).2 := by
  have advanced := same.advance
  unfold Glob.runStateWaitReady
  dsimp only
  rw [same.numNodesReady, advanced.nodeLedOn]
  split
  · split
    · refine ⟨?_, rfl⟩
      exact
        advanced.alter
          (fun fsm =>
            { fsm with
              nodeLedOn := booted.advance.nodeLedOn
              done := true })
          (fun _ _ _ _ => rfl) ⟨rfl, rfl, rfl, rfl⟩
    · split
      · exact ⟨advanced.setState .waitTransient now, rfl⟩
      · exact ⟨advanced.setState .waitLedOn now, rfl⟩
  · exact ⟨same, rfl⟩

/-- In `CalibInit` both machines store the residual. -/
theorem runStateInit
    (same : Matches offset running booted)
    (index : Nat)
    (now : BitVec 32)
    (reading : K) :
    Matches offset (running.runStateInit index (now + offset) reading).1
        (booted.runStateInit index now reading).1 ∧
      (running.runStateInit index (now + offset) reading).2 =
        (booted.runStateInit index now reading).2 := by
  refine ⟨?_, rfl⟩
  apply setState
  exact
    (same.setResidual index reading).incrementNodesReady.alter
      (fun fsm => { fsm with nodeLedOn := -1 })
      (fun _ _ _ _ => rfl) ⟨rfl, rfl, rfl, rfl⟩

/-- Both machines read the same residual. -/
theorem residualOfId
    (same : Matches offset running booted)
    (nodeId : Nat)
    (stray : K) :
    running.residualOfId nodeId stray = booted.residualOfId nodeId stray := by
  unfold CalibrationFSM.residualOfId
  split
  · rename_i inside
    exact same.residualArray nodeId inside
  · rfl

section Readings

variable [Field K]

/-- In `WaitTransient` both machines measure at the same time. -/
theorem runStateWaitTrasient
    (same : Matches offset running booted)
    (transient : booted.state = .waitTransient)
    (index nodeId : Nat)
    (now : BitVec 32)
    (lux stray : K) :
    Matches offset
        (running.runStateWaitTrasient index nodeId (now + offset) lux
          stray).1
        (booted.runStateWaitTrasient index nodeId now lux stray).1 ∧
      (running.runStateWaitTrasient index nodeId (now + offset) lux
          stray).2 =
        (booted.runStateWaitTrasient index nodeId now lux stray).2 := by
  have elapsed : running.Elapsed (now + offset) ↔ booted.Elapsed now := by
    unfold CalibrationFSM.Elapsed
    rw [same.time transient, add_sub_add_right_eq_sub]
  unfold CalibrationFSM.runStateWaitTrasient
  rw [same.residualOfId nodeId stray]
  by_cases waited : booted.Elapsed now
  · rw [if_pos waited, if_pos (elapsed.mpr waited)]
    dsimp only
    have measured :=
      same.measure (lux - booted.residualOfId nodeId stray)
    generalize
      running.measure (lux - booted.residualOfId nodeId stray) = second
      at measured ⊢
    generalize
      booted.measure (lux - booted.residualOfId nodeId stray) = first
      at measured ⊢
    have gain : second.computedGain = first.computedGain := by
      obtain ⟨⟨time, gainMatrix, residualArray, rfl⟩, -, -, -⟩ := measured
      rfl
    rw [measured.luxReadNum, measured.nodeLedOn, gain]
    split
    · exact
        ⟨(measured.setGain _ _ _).incrementNodesReady.setState .waitReady now,
          rfl⟩
    · exact ⟨measured.incrementNodesReady.setState .waitReady now, rfl⟩
  · rw [if_neg waited, if_neg fun later => waited (elapsed.mp later)]
    exact ⟨same, rfl⟩

/-- Both machines run a step. -/
theorem calibrationLoop
    (same : Matches offset running booted)
    (voltageToLux : K → K)
    (glob : Glob)
    (input : LoopInput K) :
    Matches offset
        (glob.calibrationLoop voltageToLux (input.later offset) running).1
        (glob.calibrationLoop voltageToLux input booted).1 ∧
      (glob.calibrationLoop voltageToLux (input.later offset) running).2 =
        (glob.calibrationLoop voltageToLux input booted).2 := by
  unfold Glob.calibrationLoop
  rw [same.state]
  cases state : booted.state with
  | calibInit => exact same.runStateInit _ input.calibNow _
  | waitReady => exact same.runStateWaitReady glob input.calibNow
  | waitLedOn => exact ⟨same.runStateWaitLedOn input.calibNow, rfl⟩
  | waitTransient =>
      exact same.runStateWaitTrasient state _ _ input.calibNow _ _

/-- Both machines take a frame. -/
theorem received
    [LinearOrder K]
    (same : Matches offset running booted)
    (sender : Nat)
    (message : CalibMessage K) :
    Matches offset (running.received sender message)
      (booted.received sender message) := by
  cases message with
  | calibReady gainValue =>
      unfold CalibrationFSM.received CalibrationFSM.receivedGainOrResidual
      dsimp only
      rw [same.nodeLedOn]
      split
      · apply incrementNodesReady
        split
        · exact same.setResidual sender gainValue
        · exact same.setGain sender _ gainValue
      · exact same.incrementNodesReady
  | calibLedOn =>
      exact
        same.alter (fun fsm => { fsm with otherNodeLedOn := true })
          (fun _ _ _ _ => rfl) ⟨rfl, rfl, rfl, rfl⟩

/-- Both machines are reset. -/
theorem resetCalib
    (same : Matches offset running booted)
    (numTotalNodes : Nat) :
    Matches offset (running.resetCalib numTotalNodes)
      (booted.resetCalib numTotalNodes) where
  store := by
    obtain ⟨⟨time, gainMatrix, residualArray, rfl⟩, -, -, -⟩ := same
    exact ⟨time, _, _, rfl⟩
  time := fun transient => by cases transient
  gainMatrix := by
    intro i iInRange j jInRange
    unfold CalibrationFSM.resetCalib
    dsimp only
    split
    · rfl
    · exact same.gainMatrix i iInRange j jInRange
  residualArray := by
    intro i inRange
    unfold CalibrationFSM.resetCalib
    dsimp only
    split
    · rfl
    · exact same.residualArray i inRange

end Readings

end Matches

end CalibrationFSM

namespace MainNode

/-- The nodes differ at most in the clock and behind the arrays. -/
structure Follows
    (offset : BitVec 32)
    (running booted : MainNode K) : Prop where
  glob : running.glob = booted.glob
  mainState : running.mainFSM.state = booted.mainFSM.state
  time :
    running.mainFSM.lastTransitionTime =
      booted.mainFSM.lastTransitionTime + offset
  machine : running.calibrationFSM.Matches offset booted.calibrationFSM

namespace Follows

variable {offset : BitVec 32} {running booted : MainNode K}

/-- Nodes that differ in nothing else behave the same. -/
theorem sameBehaviour
    (follows : Follows offset running booted) :
    SameBehaviour running booted where
  glob := follows.glob
  mainState := follows.mainState
  calibrationState := follows.machine.state
  residualArray := follows.machine.residualArray
  gainMatrix := follows.machine.gainMatrix

/-- Both nodes change their hub. -/
theorem setHub
    (follows : Follows offset running booted)
    (hub : Nat) :
    Follows offset (running.setHub hub) (booted.setHub hub) where
  glob := by
    unfold MainNode.setHub
    rw [follows.glob]
  mainState := follows.mainState
  time := follows.time
  machine := follows.machine

/-- The delay is over for both nodes or for none. -/
theorem elapsed
    (follows : Follows offset running booted)
    (input : LoopInput K) :
    running.mainFSM.Elapsed (input.later offset).now ↔
      booted.mainFSM.Elapsed input.now := by
  unfold MainFSM.Elapsed LoopInput.later
  rw [follows.time, add_sub_add_right_eq_sub]

section Events

variable [Field K]

/-- Both nodes execute a command. -/
theorem executeCommand
    (follows : Follows offset running booted)
    (command : Command) :
    Follows offset (running.executeCommand command)
      (booted.executeCommand command) := by
  unfold MainNode.executeCommand
  split
  · exact
      { glob := congrArg Glob.resetGlob follows.glob
        mainState := rfl
        time := follows.time
        machine := by
          unfold MainNode.reset
          rw [follows.glob]
          exact follows.machine.resetCalib _ }
  · exact follows

/-- Both nodes read a command of the PC. -/
theorem readCommand
    (follows : Follows offset running booted)
    (command : Command) :
    Follows offset (running.readCommand command)
      (booted.readCommand command) := by
  unfold MainNode.readCommand
  rw [follows.glob]
  split_ifs
  · exact follows
  · exact follows.setHub _
  · exact follows.executeCommand command
  · exact follows.executeCommand command
  · exact follows

/-- Both nodes run the main loop, and broadcast the same. -/
theorem mainLoop
    (follows : Follows offset running booted)
    (voltageToLux : K → K)
    (input : LoopInput K) :
    Follows offset (running.mainLoop voltageToLux (input.later offset)).1
        (booted.mainLoop voltageToLux input).1 ∧
      (running.mainLoop voltageToLux (input.later offset)).2 =
        (booted.mainLoop voltageToLux input).2 := by
  have elapsed := follows.elapsed input
  unfold MainNode.mainLoop
  rw [follows.mainState]
  cases state : booted.mainFSM.state with
  | init =>
      dsimp only
      by_cases waited : booted.mainFSM.Elapsed input.now
      · rw [if_pos waited, if_pos (elapsed.mpr waited)]
        exact ⟨⟨follows.glob, rfl, rfl, follows.machine⟩, rfl⟩
      · rw [if_neg waited, if_neg fun later => waited (elapsed.mp later)]
        exact ⟨follows, rfl⟩
  | wakeupWait =>
      dsimp only
      by_cases waited : booted.mainFSM.Elapsed input.now
      · rw [if_pos waited, if_pos (elapsed.mpr waited)]
        exact ⟨⟨follows.glob, rfl, rfl, follows.machine⟩, rfl⟩
      · rw [if_neg waited, if_neg fun later => waited (elapsed.mp later)]
        exact ⟨follows, rfl⟩
  | calibrate =>
      obtain ⟨machine, sent⟩ :=
        follows.machine.calibrationLoop voltageToLux booted.glob input
      dsimp only
      rw [follows.glob, sent, machine.done]
      refine ⟨⟨rfl, ?_, ?_, machine⟩, rfl⟩
      · dsimp only
        split
        · rfl
        · exact follows.mainState
      · dsimp only
        split
        · rfl
        · exact follows.time
  | run => exact ⟨follows, rfl⟩

variable [LinearOrder K]

/-- Both nodes take a frame, or none does. -/
theorem received
    (follows : Follows offset running booted)
    (sender : Nat)
    (frame : NodeFrame K) :
    Option.Rel (Follows offset) (running.received sender frame)
      (booted.received sender frame) := by
  cases frame with
  | calib message =>
      refine .some ⟨follows.glob, follows.mainState, follows.time, ?_⟩
      rw [follows.glob]
      exact follows.machine.received _ message
  | can message =>
      cases message with
      | wakeupBroadcast =>
          rw [MainNode.received, MainNode.received, follows.glob]
          split
          · exact .none
          · exact
              .some ⟨rfl, follows.mainState, follows.time, follows.machine⟩
      | isHubNode => exact .some (follows.setHub sender)
      | noLongerIsHubNode =>
          rw [MainNode.received, MainNode.received, follows.glob]
          refine .some ?_
          split
          · exact follows.setHub 0
          · exact follows
      | commandsRequest command =>
          exact .some (follows.executeCommand command)
      | frequentData _ _ _ _ => exact .some follows
      | commandsResponse _ => exact .some follows
      | other => exact .some follows

/-- Both nodes react to an event alike, the one later than the other. -/
theorem next
    (voltageToLux : K → K)
    (follows : Follows offset running booted)
    (event : NodeEvent K) :
    Option.Rel
      (fun ran expected =>
        Follows offset ran.1 expected.1 ∧ ran.2 = expected.2)
      (running.next voltageToLux (event.later offset))
      (booted.next voltageToLux event) := by
  cases event with
  | frame sender frame =>
      have both := follows.received sender frame
      show
        Option.Rel _
          ((running.received sender frame).map fun after => (after, []))
          ((booted.received sender frame).map fun after => (after, []))
      revert both
      generalize running.received sender frame = taken
      generalize booted.received sender frame = expected
      intro both
      cases both with
      | none => exact .none
      | some same => exact .some ⟨same, rfl⟩
  | command command => exact .some ⟨follows.readCommand command, rfl⟩
  | discovery hadResponse =>
      refine .some ⟨?_, rfl⟩
      unfold sendPCDiscovery
      rw [follows.glob]
      split
      · exact follows.setHub 0
      · exact follows
  | mainLoop input => exact .some (follows.mainLoop voltageToLux input)

end Events

end Follows

/-- In `Init` the node broadcasts something when the delay is over. -/
theorem sent_mainLoop_eq_nil
    [Field K]
    (node : MainNode K)
    (voltageToLux : K → K)
    (input : LoopInput K)
    (starting : node.mainFSM.state = .init) :
    (node.mainLoop voltageToLux input).2 = [] ↔
      ¬ node.mainFSM.Elapsed input.now := by
  unfold mainLoop
  rw [starting]
  dsimp only
  split
  · rename_i elapsed
    exact iff_of_false (List.cons_ne_nil _ _) fun early => early elapsed
  · rename_i early
    exact iff_of_true rfl early

section Equivalence

variable [Field K] {node : MainNode K} {now : BitVec 32}

/-- A clean reset leaves what boot leaves, up to the clock. -/
theorem follows_reset
    (sound : node.Sound)
    (clean : node.ResetsCleanly now) :
    Follows now node.reset
      (boot K node.glob.nodeId node.glob.hubNode) where
  glob := sound.resetGlob_eq
  mainState := rfl
  time := by
    show node.mainFSM.lastTransitionTime = 0 + now
    rw [clean.transition]
    exact (BitVec.zero_add now).symm
  machine :=
    { store := by
        refine
          ⟨node.reset.calibrationFSM.lastTransitionTime,
            node.reset.calibrationFSM.gainMatrix,
            node.reset.calibrationFSM.residualArray, ?_⟩
        have ledOn : node.reset.calibrationFSM.nodeLedOn = 0 :=
          clean.nodeLedOn
        unfold CalibrationFSM.withStore boot CalibrationFSM.boot
        rw [← ledOn]
        rfl
      time := fun transient => by cases transient
      gainMatrix := by
        intro i iInRange j jInRange
        show (if _ then 0 else node.calibrationFSM.gainMatrix i j) = 0
        split
        · rfl
        · rename_i behind
          rw [not_and_or, Nat.not_lt, Nat.not_lt] at behind
          exact clean.gainMatrix i iInRange j jInRange behind
      residualArray := by
        intro i inRange
        show (if _ then 0 else node.calibrationFSM.residualArray i) = 0
        split
        · rfl
        · rename_i behind
          exact clean.residualArray i inRange (Nat.not_lt.mp behind) }

variable [LinearOrder K] {voltageToLux : K → K}

/-- A node that resets cleanly behaves as after boot. -/
theorem Sound.behavesAsBoot
    (sound : node.Sound)
    (clean : node.ResetsCleanly now) :
    node.BehavesAsBoot voltageToLux now := by
  intro events _
  have related :=
    react_related (Follows now) (NodeEvent.later now)
      (fun follows event => follows.next voltageToLux event)
      (follows_reset sound clean) events
  revert related
  generalize react (MainNode.next voltageToLux) node.reset _ = ran
  generalize react (MainNode.next voltageToLux) _ events = expected
  intro related
  cases related with
  | none => exact .none
  | some same => exact .some ⟨same.1.sameBehaviour, same.2⟩

namespace BehavesAsBoot

/-- Nothing that is compared differs right after the reset. -/
theorem initially
    (behaves : node.BehavesAsBoot voltageToLux now) :
    SameBehaviour node.reset
      (boot K node.glob.nodeId node.glob.hubNode) := by
  have related :=
    behaves [] fun event member => absurd member List.not_mem_nil
  cases related with
  | some same => exact same.1

/-- A single event has the same effect after the reset and after boot. -/
theorem first
    (behaves : node.BehavesAsBoot voltageToLux now)
    {event : NodeEvent K}
    (fromNode : event.FromNode) :
    Option.Rel
      (fun running booted =>
        SameBehaviour running.1 booted.1 ∧ running.2 = booted.2)
      (node.reset.next voltageToLux (event.later now))
      ((boot K node.glob.nodeId node.glob.hubNode).next voltageToLux
        event) := by
  have related := behaves [event] (by simpa using fromNode)
  rwa [List.map_singleton, react_singleton, react_singleton] at related

/-- The first delay is over at the same times, so it begins at the reset. -/
theorem transition
    (behaves : node.BehavesAsBoot voltageToLux now) :
    node.mainFSM.lastTransitionTime = now := by
  have sameDelay :
      ∀ time : BitVec 32,
        (time + now - node.mainFSM.lastTransitionTime).toNat >
            MainFSM.wakeupDelay ↔
          time.toNat > MainFSM.wakeupDelay := by
    intro time
    let input : LoopInput K :=
      { now := time
        stamp := time
        calibNow := time
        voltage := 0
        stray := 0 }
    have sent :
        (node.reset.mainLoop voltageToLux (input.later now)).2 =
          ((boot K node.glob.nodeId node.glob.hubNode).mainLoop voltageToLux
            input).2 := by
      have related :=
        behaves.first (show (NodeEvent.mainLoop input).FromNode from trivial)
      cases related with
      | some same => exact same.2
    have running :=
      node.reset.sent_mainLoop_eq_nil voltageToLux (input.later now) rfl
    have booted :=
      (boot K node.glob.nodeId node.glob.hubNode).sent_mainLoop_eq_nil
        voltageToLux input rfl
    rw [sent, booted, not_iff_not] at running
    have start : time - 0 = time := sub_zero time
    exact running.symm.trans (by
      show (time - 0).toNat > _ ↔ _
      rw [start])
  have atOnce := sameDelay 0
  have atDelay := sameDelay (BitVec.ofNat 32 MainFSM.wakeupDelay)
  unfold MainFSM.wakeupDelay at atOnce atDelay
  bv_omega

/-- The first ready frame goes to the same array, so no LED index is left over. -/
theorem nodeLedOn
    [IsStrictOrderedRing K]
    (sound : node.Sound)
    (behaves : node.BehavesAsBoot voltageToLux now) :
    node.calibrationFSM.nodeLedOn = 0 := by
  have fromNode :
      (NodeEvent.frame 1 (.calib (.calibReady (1 : K)))).FromNode := by
    refine ⟨Nat.one_pos, ?_⟩
    decide
  have sameGain :
      (node.reset.calibrationFSM.received (node.reset.glob.indexOf 1)
          (.calibReady 1)).gainMatrix 0 0 =
        ((CalibrationFSM.boot K).received
          ((Glob.boot node.glob.nodeId node.glob.hubNode).indexOf 1)
          (.calibReady 1)).gainMatrix 0 0 := by
    have related := behaves.first fromNode
    cases related with
    | some same => exact same.1.gainMatrix 0 (by decide) 0 (by decide)
  have index : node.reset.glob.indexOf 1 = 0 := by
    show node.glob.resetGlob.indexOf 1 = 0
    rw [sound.resetGlob_eq]
    exact Glob.indexOf_boot sound.positive _ _
  have booted :
      (CalibrationFSM.boot K).nodeLedOn ≠ -1 := by
    show (0 : Int) ≠ -1
    decide
  rw [index, Glob.indexOf_boot sound.positive,
    CalibrationFSM.gainMatrix_received _ zero_le_one,
    CalibrationFSM.gainMatrix_received _ zero_le_one, if_neg booted] at sameGain
  have stored :
      ((CalibrationFSM.boot K).setGain 0
          (toUint8 (CalibrationFSM.boot K).nodeLedOn) 1).gainMatrix 0 0 =
        1 :=
    rfl
  have cleared : node.reset.calibrationFSM.gainMatrix 0 0 = 0 :=
    if_pos ⟨sound.known, sound.known⟩
  have ledOn :
      node.reset.calibrationFSM.nodeLedOn = node.calibrationFSM.nodeLedOn :=
    rfl
  rw [stored, ledOn] at sameGain
  split at sameGain
  · rw [cleared] at sameGain
    exact absurd sameGain zero_ne_one
  · rename_i lit
    by_cases first : toUint8 node.calibrationFSM.nodeLedOn = 0
    · have least := sound.least
      have most := sound.most
      unfold maxNumNodes at most
      unfold toUint8 at first
      omega
    · have other :
          (node.reset.calibrationFSM.setGain 0
              (toUint8 node.calibrationFSM.nodeLedOn) 1).gainMatrix 0 0 =
            node.reset.calibrationFSM.gainMatrix 0 0 := by
        unfold CalibrationFSM.setGain
        dsimp only
        rw [Function.update_self, Function.update_of_ne (Ne.symm first)]
      rw [other, cleared] at sameGain
      exact absurd sameGain zero_ne_one

/-- A node that behaves as after boot has been reset cleanly. -/
theorem resetsCleanly
    [IsStrictOrderedRing K]
    (sound : node.Sound)
    (behaves : node.BehavesAsBoot voltageToLux now) :
    node.ResetsCleanly now where
  transition := behaves.transition
  nodeLedOn := behaves.nodeLedOn sound
  residualArray := by
    intro i inRange behind
    have same := behaves.initially.residualArray i inRange
    have kept :
        node.reset.calibrationFSM.residualArray i =
          node.calibrationFSM.residualArray i :=
      if_neg (Nat.not_lt.mpr behind)
    exact kept.symm.trans same
  gainMatrix := by
    intro i iInRange j jInRange behind
    have same := behaves.initially.gainMatrix i iInRange j jInRange
    have kept :
        node.reset.calibrationFSM.gainMatrix i j =
          node.calibrationFSM.gainMatrix i j := by
      refine if_neg ?_
      rw [not_and_or, Nat.not_lt, Nat.not_lt]
      exact behind
    exact kept.symm.trans same

end BehavesAsBoot

/-- What is sound at boot stays sound in every run. -/
theorem sound_of_run
    {nodeId hubNode : Nat}
    (positive : 0 < nodeId)
    (run :
      Run (step voltageToLux) (fun _ event => event.FromNode)
        (boot K nodeId hubNode) node) :
    node.Sound :=
  run.invariant Sound (Sound.boot positive hubNode)
    fun sound fromNode taken => sound.step fromNode taken

/--
A node that has run for any time behaves after an `r` as one that has booted exactly
when the reset finds nothing left over that it does not reach.
-/
theorem behavesAsBoot_iff
    [IsStrictOrderedRing K]
    (voltageToLux : K → K)
    {nodeId : Nat}
    (inRange : 0 < nodeId ∧ nodeId ≤ maxNodeId)
    (hubNode : Nat)
    {node : MainNode K}
    (run :
      Run (step voltageToLux) (fun _ event => event.FromNode)
        (boot K nodeId hubNode) node)
    (now : BitVec 32) :
    node.BehavesAsBoot voltageToLux now ↔ node.ResetsCleanly now := by
  have sound := sound_of_run inRange.1 run
  constructor
  · intro behaves
    exact behaves.resetsCleanly sound
  · intro clean
    exact sound.behavesAsBoot clean

end Equivalence

section Examples

/-- A node that has announced itself after two seconds. -/
def awake : MainNode ℚ :=
  { boot ℚ 1 0 with mainFSM := .setState .wakeupWait 2000001 }

theorem run_awake :
    Run (step id) (fun _ event => event.FromNode) (boot ℚ 1 0) awake :=
  .step (.mainLoop (.atTime 2000001 0)) .refl trivial rfl

/-- A reset at the time of the announcement is like a boot. -/
theorem behavesAsBoot_atTransition :
    awake.BehavesAsBoot id 2000001 := by
  have inRange : 0 < 1 ∧ 1 ≤ maxNodeId := by decide
  apply (behavesAsBoot_iff id inRange 0 run_awake 2000001).mpr
  exact
    { transition := rfl
      nodeLedOn := rfl
      residualArray := fun _ _ _ => rfl
      gainMatrix := fun _ _ _ _ _ => rfl }

/--
A reset two seconds after the announcement is not: the next run of the main loop
announces the node at once, and a booted node waits.
-/
theorem not_behavesAsBoot_late :
    ∃ node : MainNode ℚ,
      Run (step id) (fun _ event => event.FromNode) (boot ℚ 1 0) node ∧
        ¬ node.BehavesAsBoot id 4000002 := by
  refine ⟨awake, run_awake, ?_⟩
  intro behaves
  have late := behaves.transition
  exact absurd late (by decide)

end Examples

end MainNode

end DistributedLighting
