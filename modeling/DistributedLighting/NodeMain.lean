import DistributedLighting.CalibrationNetwork
import DistributedLighting.HubCommands

namespace DistributedLighting

/-!
# The main machine of one node

A node from `setup()` on: its registry, the main machine, which announces the
node and waits for the others, and the calibration machine.  It reacts to CAN
frames, to what comes over its serial port, and to runs of `mainFSM.loop()`.
The light control, the consensus and the responses have no part in this.
-/

/-- The states of `MainFSM`. -/
inductive MainFSMState where
  | init
  | wakeupWait
  | calibrate
  | run
  deriving Repr, DecidableEq

/-- The members of `MainFSM`. -/
structure MainFSM where
  state : MainFSMState
  lastTransitionTime : BitVec 32
  deriving DecidableEq

/-- The globals of one node that take part in the wakeup and the calibration. -/
structure MainNode (K : Type) where
  glob : Glob
  mainFSM : MainFSM
  calibrationFSM : CalibrationFSM K

/-- The CAN frames: those of the calibration, and the others. -/
inductive NodeFrame (K : Type) where
  | calib (message : CalibMessage K)
  | can (message : CanMessage)

/-- What one run of `mainFSM.loop()` reads. -/
structure LoopInput (K : Type) where
  /-- `micros()` in `MainFSM::loop` -/
  now : BitVec 32
  /-- `micros()` in `MainFSM::setState` -/
  stamp : BitVec 32
  /-- `micros()` in the calibration machine -/
  calibNow : BitVec 32
  /-- The voltage at the sensor. -/
  voltage : K
  /-- What lies behind `residualArray`. -/
  stray : K

/-- The input where all clocks are read at one time. -/
def LoopInput.atTime
    {K : Type}
    [Zero K]
    (now : BitVec 32)
    (voltage : K) : LoopInput K where
  now := now
  stamp := now
  calibNow := now
  voltage := voltage
  stray := 0

/-- What a node reacts to. -/
inductive NodeEvent (K : Type) where
  | frame (sender : Nat) (frame : NodeFrame K)
  | command (command : Command)
  /-- The discovery timer, with `pcDiscoveryHadResponse`. -/
  | discovery (hadResponse : Bool)
  | mainLoop (input : LoopInput K)

namespace MainFSM

/-- The delay of `Init` and of `WakeupWait`, in microseconds. -/
def wakeupDelay : Nat := 2000000

/-- `MainFSM::setState` -/
def setState
    (state : MainFSMState)
    (now : BitVec 32) : MainFSM where
  state := state
  lastTransitionTime := now

/-- `MainFSM::resetMainFSM`, which keeps the time of the last transition. -/
def resetMainFSM (mainFSM : MainFSM) : MainFSM :=
  { mainFSM with state := .init }

/-- The machine after boot: the constructor and zeroed memory. -/
def boot : MainFSM where
  state := .init
  lastTransitionTime := 0

/-- The delay since the last transition is over. -/
def Elapsed (mainFSM : MainFSM) (now : BitVec 32) : Prop :=
  (now - mainFSM.lastTransitionTime).toNat > wakeupDelay

instance (mainFSM : MainFSM) (now : BitVec 32) :
    Decidable (mainFSM.Elapsed now) :=
  inferInstanceAs (Decidable (_ > _))

end MainFSM

namespace Glob

variable {K : Type}

/-- The index of a node in the calibration matrices. -/
def indexOf
    (glob : Glob)
    (id : Nat) : Nat :=
  glob.nodeIndexOnGainMatrix id

/-- `CalibrationFSM::runStateWaitReady` over the registry, without the LED output. -/
def runStateWaitReady
    (glob : Glob)
    (now : BitVec 32)
    (fsm : CalibrationFSM K) : CalibrationFSM K × List (CalibMessage K) :=
  if fsm.numNodesReady = glob.numTotalNodes then
    let fsm := fsm.advance
    if fsm.nodeLedOn ≥ glob.numTotalNodes then
      ({ fsm with done := true }, [])
    else if glob.nodesList fsm.nodeLedOn.toNat = glob.nodeId then
      (fsm.setState .waitTransient now, [.calibLedOn])
    else
      (fsm.setState .waitLedOn now, [])
  else
    (fsm, [])

/-- `CalibrationFSM::loop` -/
def calibrationLoop
    [Field K]
    (voltageToLux : K → K)
    (glob : Glob)
    (input : LoopInput K)
    (fsm : CalibrationFSM K) : CalibrationFSM K × List (CalibMessage K) :=
  match fsm.state with
  | .calibInit =>
      fsm.runStateInit (glob.indexOf glob.nodeId) input.calibNow
        (voltageToLux input.voltage)
  | .waitReady => glob.runStateWaitReady input.calibNow fsm
  | .waitLedOn => (fsm.runStateWaitLedOn input.calibNow, [])
  | .waitTransient =>
      fsm.runStateWaitTrasient (glob.indexOf glob.nodeId) glob.nodeId
        input.calibNow (voltageToLux input.voltage) input.stray

end Glob

namespace MainNode

variable {K : Type}

/-- The node after `setup()`. -/
def boot
    (K : Type)
    [Field K]
    (nodeId hubNode : Nat) : MainNode K where
  glob := .boot nodeId hubNode
  mainFSM := .boot
  calibrationFSM := .boot K

/-- `hubNode = hub` -/
def setHub
    (node : MainNode K)
    (hub : Nat) : MainNode K :=
  { node with glob := { node.glob with hubNode := hub } }

/-- What `SerialComm::executeCommand` does for an `r`. -/
def reset
    [Field K]
    (node : MainNode K) : MainNode K where
  calibrationFSM := node.calibrationFSM.resetCalib node.glob.numTotalNodes
  mainFSM := node.mainFSM.resetMainFSM
  glob := node.glob.resetGlob

/-- `SerialComm::executeCommand`; the other commands leave these globals alone. -/
def executeCommand
    [Field K]
    (node : MainNode K)
    (command : Command) : MainNode K :=
  if command.cmd = byteOf 'r' then node.reset else node

/-- One command in `SerialComm::readSerial`. -/
def readCommand
    [Field K]
    (node : MainNode K)
    (command : Command) : MainNode K :=
  if command.cmd = byteOf 'D' then
    if node.glob.hubNode = node.glob.nodeId then
      node
    else
      node.setHub node.glob.nodeId
  else if command.destination = 0 then
    node.executeCommand command
  else if command.destination.toNat = node.glob.nodeId then
    node.executeCommand command
  else
    node

/-- `SerialComm::sendPCDiscovery` -/
def sendPCDiscovery
    (node : MainNode K)
    (hadResponse : Bool) : MainNode K :=
  if node.glob.hubNode = node.glob.nodeId ∧ hadResponse = false then
    node.setHub 0
  else
    node

/-- `Communication::received`; a registry that is full registers nobody. -/
def received
    [Field K] [LinearOrder K]
    (node : MainNode K)
    (sender : Nat) : NodeFrame K → Option (MainNode K)
  | .calib message =>
      some
        { node with
          calibrationFSM :=
            node.calibrationFSM.received (node.glob.indexOf sender) message }
  | .can .wakeupBroadcast =>
      if node.glob.numTotalNodes ≥ maxNumNodes then
        none
      else
        some { node with glob := node.glob.registerNewNode sender }
  | .can .isHubNode => some (node.setHub sender)
  | .can .noLongerIsHubNode =>
      some (if node.glob.hubNode = sender then node.setHub 0 else node)
  | .can (.commandsRequest command) => some (node.executeCommand command)
  | .can (.frequentData _ _ _ _) => some node
  | .can (.commandsResponse _) => some node
  | .can .other => some node

/-- `MainFSM::loop`: the node and what it broadcasts. -/
def mainLoop
    [Field K]
    (voltageToLux : K → K)
    (input : LoopInput K)
    (node : MainNode K) : MainNode K × List (NodeFrame K) :=
  match node.mainFSM.state with
  | .init =>
      if node.mainFSM.Elapsed input.now then
        ({ node with mainFSM := .setState .wakeupWait input.stamp },
          [.can .wakeupBroadcast])
      else
        (node, [])
  | .wakeupWait =>
      if node.mainFSM.Elapsed input.now then
        ({ node with mainFSM := .setState .calibrate input.stamp }, [])
      else
        (node, [])
  | .calibrate =>
      let ran :=
        node.glob.calibrationLoop voltageToLux input node.calibrationFSM
      ({ node with
          calibrationFSM := ran.1
          mainFSM :=
            if ran.1.done then
              .setState .run input.stamp
            else
              node.mainFSM },
        ran.2.map .calib)
  | .run => (node, [])

/-- React to an event: the node and what the main machine broadcasts. -/
def next
    [Field K] [LinearOrder K]
    (voltageToLux : K → K)
    (node : MainNode K) :
    NodeEvent K → Option (MainNode K × List (NodeFrame K))
  | .frame sender frame =>
      (node.received sender frame).map fun after => (after, [])
  | .command command => some (node.readCommand command, [])
  | .discovery hadResponse => some (node.sendPCDiscovery hadResponse, [])
  | .mainLoop input => some (node.mainLoop voltageToLux input)

end MainNode

namespace NodeFrame

variable {K : Type}

/-- The frame announces a node. -/
def isWakeup : NodeFrame K → Bool
  | .can .wakeupBroadcast => true
  | _ => false

/-- The frame asks for a reset. -/
def isReset : NodeFrame K → Bool
  | .can (.commandsRequest command) => command.cmd = byteOf 'r'
  | _ => false

@[simp] theorem isWakeup_wakeup :
    (NodeFrame.can .wakeupBroadcast : NodeFrame K).isWakeup = true :=
  rfl

/-- Only the wakeup frame announces a node. -/
theorem eq_of_isWakeup
    {frame : NodeFrame K}
    (wakeup : frame.isWakeup = true) :
    frame = .can .wakeupBroadcast := by
  unfold isWakeup at wakeup
  split at wakeup
  · rfl
  · cases wakeup

/-- Only a command request asks for a reset. -/
theorem exists_of_isReset
    {frame : NodeFrame K}
    (reset : frame.isReset = true) :
    ∃ command,
      frame = .can (.commandsRequest command) ∧
        command.cmd = byteOf 'r' := by
  unfold isReset at reset
  split at reset
  · exact ⟨_, rfl, of_decide_eq_true reset⟩
  · cases reset

end NodeFrame

namespace MainNode

section Loop

variable
  {K : Type} [Field K] {voltageToLux : K → K} {input : LoopInput K}
  {node : MainNode K}

/-- Everything that one run of `mainFSM.loop()` can do, and when. -/
inductive LoopCase
    (voltageToLux : K → K)
    (input : LoopInput K)
    (node : MainNode K) : MainNode K × List (NodeFrame K) → Prop where
  | wakes
      (starting : node.mainFSM.state = .init)
      (elapsed : node.mainFSM.Elapsed input.now) :
      LoopCase voltageToLux input node
        ({ node with mainFSM := .setState .wakeupWait input.stamp },
          [.can .wakeupBroadcast])
  | waits
      (notCalibrating : node.mainFSM.state ≠ .calibrate) :
      LoopCase voltageToLux input node (node, [])
  | starts
      (waiting : node.mainFSM.state = .wakeupWait)
      (elapsed : node.mainFSM.Elapsed input.now) :
      LoopCase voltageToLux input node
        ({ node with mainFSM := .setState .calibrate input.stamp }, [])
  | calibrates
      (fsm : CalibrationFSM K)
      (sent : List (CalibMessage K))
      (calibrating : node.mainFSM.state = .calibrate)
      (ran :
        node.glob.calibrationLoop voltageToLux input node.calibrationFSM =
          (fsm, sent)) :
      LoopCase voltageToLux input node
        ({ node with
            calibrationFSM := fsm
            mainFSM :=
              if fsm.done then
                .setState .run input.stamp
              else
                node.mainFSM },
          sent.map .calib)

/-- A run of the main loop is one of four cases. -/
theorem mainLoop_case
    (voltageToLux : K → K)
    (input : LoopInput K)
    (node : MainNode K) :
    LoopCase voltageToLux input node (node.mainLoop voltageToLux input) := by
  unfold mainLoop
  split
  · rename_i starting
    split
    · rename_i elapsed
      exact .wakes starting elapsed
    · exact .waits (by rw [starting]; decide)
  · rename_i waiting
    split
    · rename_i elapsed
      exact .starts waiting elapsed
    · exact .waits (by rw [waiting]; decide)
  · rename_i calibrating
    exact .calibrates _ _ calibrating rfl
  · rename_i running
    exact .waits (by rw [running]; decide)

end Loop

section Received

variable {K : Type}

/-- The discovery timer changes at most the hub. -/
theorem sendPCDiscovery_kept
    (node : MainNode K)
    (hadResponse : Bool) :
    (node.sendPCDiscovery hadResponse).mainFSM = node.mainFSM ∧
      ∃ hub,
        (node.sendPCDiscovery hadResponse).glob =
          { node.glob with hubNode := hub } := by
  unfold sendPCDiscovery
  split
  · exact ⟨rfl, 0, rfl⟩
  · exact ⟨rfl, node.glob.hubNode, rfl⟩

variable [Field K]

/-- A command that is no reset changes at most the hub. -/
theorem readCommand_of_kept
    {command : Command}
    (kept : command.cmd ≠ byteOf 'r')
    (node : MainNode K) :
    (node.readCommand command).mainFSM = node.mainFSM ∧
      ∃ hub,
        (node.readCommand command).glob =
          { node.glob with hubNode := hub } := by
  have same : node.executeCommand command = node := if_neg kept
  unfold readCommand
  rw [same]
  split_ifs
  · exact ⟨rfl, node.glob.hubNode, rfl⟩
  · exact ⟨rfl, node.glob.nodeId, rfl⟩
  all_goals exact ⟨rfl, node.glob.hubNode, rfl⟩

variable {node : MainNode K}

/-- A command changes the registry as it does in the model of the commands. -/
theorem glob_executeCommand
    {hub : HubNode K}
    (same : node.glob = hub.glob)
    (command : Command)
    (reading : BitVec 32) :
    (node.executeCommand command).glob =
      (hub.executeCommand command reading).2.1.glob := by
  unfold executeCommand
  split
  · rename_i isReset
    rw [hub.executeCommand_of_reset reading isReset]
    exact congrArg Glob.resetGlob same
  · rename_i kept
    rw [hub.executeCommand_of_kept reading kept]
    exact same

/-- So does a command that the PC has sent. -/
theorem glob_readCommand
    (union : FloatTo4Bytes K)
    {hub : HubNode K}
    (same : node.glob = hub.glob)
    (command : Command)
    (reading : BitVec 32) :
    (node.readCommand command).glob =
      (hub.readCommand union command reading).node.glob := by
  unfold readCommand HubNode.readCommand
  rw [same]
  by_cases discovery : command.cmd = byteOf 'D'
  · rw [if_pos discovery, if_pos discovery, HubNode.readDiscoveryAnswer]
    split
    · exact same
    · unfold setHub
      rw [same]
  · rw [if_neg discovery, if_neg discovery]
    by_cases total : command.destination = 0
    · rw [if_pos total, if_pos total, HubNode.readTotalCommand]
      dsimp only
      rw [HubNode.sendTotalIfAllValueForTotalReceived_glob]
      have counting : node.glob = hub.countNodes.glob := same
      exact glob_executeCommand counting command reading
    · rw [if_neg total, if_neg total]
      split
      · exact glob_executeCommand same command reading
      · split <;> exact same

/-- A command that the node does not execute changes at most the hub. -/
theorem readCommand_passedOn
    (node : MainNode K)
    {command : Command}
    (passedOn :
      ¬ (command.cmd ≠ byteOf 'D' ∧
        (command.destination = 0 ∨
          command.destination.toNat = node.glob.nodeId))) :
    node.readCommand command = node ∨
      node.readCommand command = node.setHub node.glob.nodeId := by
  unfold readCommand
  split
  · split
    · exact .inl rfl
    · exact .inr rfl
  · rename_i noAnswer
    split
    · rename_i all
      exact absurd ⟨noAnswer, .inl all⟩ passedOn
    · split
      · rename_i own
        exact absurd ⟨noAnswer, .inr own⟩ passedOn
      · exact .inl rfl

variable [LinearOrder K]

/-- Frames that announce nobody and reset nothing keep the main machine and the registry. -/
theorem received_plain
    (node : MainNode K)
    {frame : NodeFrame K}
    (noWakeup : frame.isWakeup = false)
    (noReset : frame.isReset = false)
    (sender : Nat) :
    ∃ after,
      node.received sender frame = some after ∧
        after.mainFSM = node.mainFSM ∧
        ∃ hub, after.glob = { node.glob with hubNode := hub } := by
  cases frame with
  | calib message => exact ⟨_, rfl, rfl, node.glob.hubNode, rfl⟩
  | can message =>
      cases message with
      | wakeupBroadcast => cases noWakeup
      | isHubNode => exact ⟨_, rfl, rfl, sender, rfl⟩
      | noLongerIsHubNode =>
          refine ⟨_, rfl, ?_⟩
          split
          · exact ⟨rfl, 0, rfl⟩
          · exact ⟨rfl, node.glob.hubNode, rfl⟩
      | commandsRequest command =>
          refine ⟨_, rfl, ?_⟩
          have kept : ¬ command.cmd = byteOf 'r' := of_decide_eq_false noReset
          rw [executeCommand, if_neg kept]
          exact ⟨rfl, node.glob.hubNode, rfl⟩
      | frequentData _ _ _ _ => exact ⟨_, rfl, rfl, node.glob.hubNode, rfl⟩
      | commandsResponse _ => exact ⟨_, rfl, rfl, node.glob.hubNode, rfl⟩
      | other => exact ⟨_, rfl, rfl, node.glob.hubNode, rfl⟩

/-- A frame changes the registry as it does in the model of the commands. -/
theorem glob_received
    (union : FloatTo4Bytes K)
    {hub : HubNode K}
    (same : node.glob = hub.glob)
    (sender : Nat)
    (reading : BitVec 32)
    (message : CanMessage) :
    ((node.received sender (.can message)).map fun after => after.glob) =
      (hub.handle union (.frame sender reading message)).map
        fun outcome => outcome.node.glob := by
  unfold HubNode.handle
  dsimp only
  by_cases wakeup : message = .wakeupBroadcast
  · subst wakeup
    rw [received, same]
    by_cases full : hub.glob.numTotalNodes ≥ maxNumNodes
    · rw [if_pos full, if_pos ⟨rfl, full⟩]
      rfl
    · rw [if_neg full, if_neg fun both => full both.2]
      rfl
  · rw [if_neg fun both => wakeup both.1]
    cases message with
    | wakeupBroadcast => exact absurd rfl wakeup
    | isHubNode =>
        rw [received, setHub, same]
        rfl
    | noLongerIsHubNode =>
        rw [received, HubNode.received, setHub, same]
        by_cases own : hub.glob.hubNode = sender
        · rw [if_pos own, if_pos own]
          rfl
        · rw [if_neg own, if_neg own]
          exact congrArg some same
    | frequentData _ _ _ _ => exact congrArg some same
    | commandsRequest command =>
        exact congrArg some (glob_executeCommand same command reading)
    | commandsResponse value =>
        refine congrArg some (same.trans ?_)
        exact (hub.receivedCommandResponseFromCAN_glob union value).symm
    | other => exact congrArg some same

/-- The event of this model that stands for an event of the commands. -/
def eventOf
    (hub : HubNode K) : HubEvent → NodeEvent K
  | .command command _ => .command command
  | .frame sender _ message => .frame sender (.can message)
  | .discovery => .discovery hub.serialComm.pcDiscoveryHadResponse

/-- The registry goes through all events as it does in the model of the commands. -/
theorem glob_handle
    (union : FloatTo4Bytes K)
    (voltageToLux : K → K)
    {hub : HubNode K}
    (same : node.glob = hub.glob)
    (event : HubEvent) :
    ((node.next voltageToLux (eventOf hub event)).map fun ran => ran.1.glob) =
      (hub.handle union event).map fun outcome => outcome.node.glob := by
  cases event with
  | command command reading =>
      exact congrArg some (glob_readCommand union same command reading)
  | frame sender reading message =>
      rw [← glob_received union same sender reading message, eventOf, next,
        Option.map_map]
      rfl
  | discovery =>
      refine congrArg some ?_
      unfold sendPCDiscovery HubNode.sendPCDiscovery
      rw [same]
      split
      · unfold setHub
        rw [same]
      · exact same

end Received

end MainNode

namespace Glob.Lists

variable {K : Type} {glob : Glob} {members : Finset Nat}

/-- A well-formed registry as one that all nodes share. -/
def registry (lists : glob.Lists members) : Registry members.card where
  nodesList := glob.nodesList
  nodeIndexOnGainMatrix := glob.nodeIndexOnGainMatrix
  indexed := lists.index

/-- Over a well-formed registry `WaitReady` is that of the calibration network. -/
theorem runStateWaitReady_eq
    (lists : glob.Lists members)
    (now : BitVec 32)
    (fsm : CalibrationFSM K) :
    glob.runStateWaitReady now fsm =
      let ran := fsm.runStateWaitReady lists.registry glob.nodeId now
      (ran.1, ran.2.2) := by
  unfold runStateWaitReady CalibrationFSM.runStateWaitReady
  rw [lists.count]
  by_cases all : fsm.numNodesReady = members.card
  · simp only [if_pos all]
    by_cases last : fsm.advance.nodeLedOn ≥ members.card
    · simp only [if_pos last]
    · simp only [if_neg last]
      by_cases turn :
          glob.nodesList fsm.advance.nodeLedOn.toNat = glob.nodeId
      · rw [if_pos turn, if_pos (show lists.registry.nodesList _ = _ from turn)]
      · rw [if_neg turn, if_neg (show lists.registry.nodesList _ ≠ _ from turn)]
  · simp only [if_neg all]

variable [Field K]

/-- Over a well-formed registry the machine is the one of the calibration network. -/
theorem calibrationLoop_eq
    (lists : glob.Lists members)
    (voltageToLux : K → K)
    (input : LoopInput K)
    {n : Fin members.card}
    (own : glob.nodesList n = glob.nodeId)
    {node : CalibNode K members.card}
    (calibrating : node.mainState = .calibrate)
    (control : Nat) :
    glob.calibrationLoop voltageToLux input node.fsm =
      let ran :=
        node.mainLoop lists.registry voltageToLux n
          ⟨input.calibNow, input.voltage, input.stray, control⟩
      (ran.node.fsm, ran.sent) := by
  have index : glob.indexOf glob.nodeId = n := by
    rw [← own]
    exact lists.index n n.isLt
  have ownId : lists.registry.nodesList n = glob.nodeId := own
  unfold calibrationLoop CalibNode.mainLoop
  rw [calibrating]
  cases state : node.fsm.state with
  | calibInit =>
      rw [index]
      rfl
  | waitReady =>
      dsimp only
      rw [lists.runStateWaitReady_eq, CalibNode.loopWaitReady, ownId]
      split <;> rfl
  | waitLedOn => rfl
  | waitTransient =>
      dsimp only
      rw [index, CalibNode.loopWaitTransient, ownId]
      by_cases elapsed : node.fsm.Elapsed input.calibNow
      · rw [if_pos elapsed]
      · rw [if_neg elapsed]

end Glob.Lists

end DistributedLighting
