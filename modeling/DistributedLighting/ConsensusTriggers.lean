import DistributedLighting.Consensus
import DistributedLighting.GainRecord

namespace DistributedLighting

/-!
# What starts the consensus

One node with its main machine and its consensus.  `consensus.init()` is called
when the main machine enters `Run`, by the commands that change a reference, the
occupancy or the cost, and by `CAN_DO_CONSENSUS`; and `loop()` runs
`consensus_main()` whatever state the main machine is in.  What `consensus.init()`
then finds in the gain row depends on when it comes, and on the wakeups before it.
-/

/-- The frames that a node can receive. -/
inductive LightingFrame (K : Type) where
  | node (frame : NodeFrame K)
  | consensus (data : FrameData)
  | doConsensus

/-- What a node reacts to. -/
inductive LightingEvent (K : Type) where
  | frame (sender : Nat) (frame : LightingFrame K)
  | command (command : Command)
  /-- The discovery timer, with `pcDiscoveryHadResponse`. -/
  | discovery (hadResponse : Bool)
  /-- The rest of `loop()`: `mainFSM.loop()` and `consensus_main()`. -/
  | loop (input : LoopInput K)

/-- One node with its consensus. -/
structure LightingNode (K : Type) where
  main : MainNode K
  luminaire : Luminaire K
  consensus : Consensus K
  /-- `sendingFrame.data` -/
  sendingFrame : FrameData
  /-- A ghost: what the calibration has stored. -/
  record : GainRecord K
  /-- Ghosts: the node and the record at the last `consensus.init()`. -/
  initialised : MainNode K
  initialRecord : GainRecord K

/-- The command of `SerialComm::executeCommand` that a `Command` sets something with. -/
def Command.setCommand
    {K : Type}
    (union : FloatTo4Bytes K)
    (command : Command) : Option (SetCommand K) :=
  if command.cmd = byteOf 'O' then
    some (.O (union.floatValue command.value))
  else if command.cmd = byteOf 'U' then
    some (.U (union.floatValue command.value))
  else if command.cmd = byteOf 'c' then
    some (.c (union.floatValue command.value))
  else if command.cmd = byteOf 'o' then
    some (.o command.value.toNat)
  else
    none

namespace LightingNode

variable {K : Type} [Field K]

/-- The node after `setup()`; the cost is read from the EEPROM. -/
def boot
    (nodeId : Nat)
    (cost : K) : LightingNode K where
  main := .boot K nodeId 0
  luminaire := .boot cost
  consensus := .initial K
  sendingFrame := fun _ => 0
  record := .empty K
  initialised := .boot K nodeId 0
  initialRecord := .empty K

/-- The globals that the consensus uses. -/
def firmware (node : LightingNode K) : Firmware K where
  numTotalNodes := node.main.glob.numTotalNodes
  nodeIndex := node.main.glob.indexOf node.main.glob.nodeId
  gainMatrix := node.main.calibrationFSM.gainMatrix
  residualArray := node.main.calibrationFSM.residualArray
  luminaire := node.luminaire
  consensus := node.consensus
  sendingFrame := node.sendingFrame

/-- The globals that the consensus changes. -/
def withFirmware
    (node : LightingNode K)
    (firmware : Firmware K) : LightingNode K :=
  { node with
    luminaire := firmware.luminaire
    consensus := firmware.consensus
    sendingFrame := firmware.sendingFrame }

/-- `consensus.init()` -/
def initConsensus (node : LightingNode K) : LightingNode K :=
  { node.withFirmware (consensusInit node.firmware) with
    initialised := node.main
    initialRecord := node.record }

/-- The node after an `r`. -/
def reset (node : LightingNode K) : LightingNode K :=
  { node with
    main := node.main.reset
    record := .empty K
    consensus :=
      node.consensus.resetConsensus node.main.glob.numTotalNodes
    luminaire := node.luminaire.resetLuminaire }

variable [LinearOrder K]

/-- A command that sets something, and whether it has restarted the consensus. -/
def executeSet
    (node : LightingNode K)
    (command : SetCommand K) : LightingNode K × Bool :=
  let ran := DistributedLighting.executeCommand node.firmware command
  ({ node.withFirmware ran.1 with
      initialised := if ran.2 then node.main else node.initialised
      initialRecord := if ran.2 then node.record else node.initialRecord },
    ran.2)

/-- `SerialComm::executeCommand` with what it broadcasts. -/
def executeCommand
    (union : FloatTo4Bytes K)
    (node : LightingNode K)
    (command : Command) : LightingNode K × List (LightingFrame K) :=
  match command.setCommand union with
  | some set =>
      let ran := node.executeSet set
      (ran.1, if ran.2 then [.doConsensus] else [])
  | none =>
      if command.cmd = byteOf 'r' then (node.reset, []) else (node, [])

/-- The node executes the command itself. -/
def ExecutesOwn
    (node : LightingNode K)
    (command : Command) : Prop :=
  command.cmd ≠ byteOf 'D' ∧
    (command.destination = 0 ∨
      command.destination.toNat = node.main.glob.nodeId)

instance (node : LightingNode K) (command : Command) :
    Decidable (node.ExecutesOwn command) :=
  inferInstanceAs (Decidable (_ ∧ _))

/-- One command in `SerialComm::readSerial`. -/
def readCommand
    (union : FloatTo4Bytes K)
    (node : LightingNode K)
    (command : Command) : LightingNode K × List (LightingFrame K) :=
  if node.ExecutesOwn command then
    node.executeCommand union command
  else
    ({ node with main := node.main.readCommand command }, [])

variable [FloorRing K]

/-- `Communication::received` with what it broadcasts. -/
def received
    (union : FloatTo4Bytes K)
    (overrun : Nat → K → Nat)
    (node : LightingNode K)
    (sender : Nat) :
    LightingFrame K → Option (LightingNode K × List (LightingFrame K))
  | .node (.can (.commandsRequest command)) =>
      some (node.executeCommand union command)
  | .node frame =>
      (node.main.received sender frame).map fun main =>
        ({ node with
            main := main
            record := node.record.afterFrame node.main sender frame },
          [])
  | .consensus data =>
      some
        (node.withFirmware (receivedConsensus overrun data node.firmware), [])
  | .doConsensus => some (node.initConsensus, [])

/-- `mainFSM.loop()` -/
def runMainFSM
    (voltageToLux : K → K)
    (input : LoopInput K)
    (node : LightingNode K) : LightingNode K × List (LightingFrame K) :=
  let ran := node.main.mainLoop voltageToLux input
  let after :=
    { node with
      main := ran.1
      record := node.record.afterLoop voltageToLux input node.main }
  (if node.main.mainFSM.state = .calibrate ∧
        ran.1.calibrationFSM.done = true then
      after.initConsensus
    else
      after,
    ran.2.map .node)

/-- `consensus_main()`, unless the consensus is off. -/
def runConsensus
    (node : LightingNode K) : LightingNode K × List (LightingFrame K) :=
  if node.consensus.consensusState = .off then
    (node, [])
  else
    let ran := consensusMain node.firmware
    (node.withFirmware ran.1, ran.2.map .consensus)

/-- React to an event: the node and what it broadcasts. -/
def next
    (union : FloatTo4Bytes K)
    (overrun : Nat → K → Nat)
    (voltageToLux : K → K)
    (node : LightingNode K) :
    LightingEvent K → Option (LightingNode K × List (LightingFrame K))
  | .frame sender frame => node.received union overrun sender frame
  | .command command => some (node.readCommand union command)
  | .discovery hadResponse =>
      some
        ({ node with main := node.main.sendPCDiscovery hadResponse }, [])
  | .loop input =>
      let ran := node.runMainFSM voltageToLux input
      let consensus := ran.1.runConsensus
      some (consensus.1, ran.2 ++ consensus.2)

/-- The node after an event. -/
def step
    (union : FloatTo4Bytes K)
    (overrun : Nat → K → Nat)
    (voltageToLux : K → K)
    (node : LightingNode K)
    (event : LightingEvent K) : Option (LightingNode K) :=
  (node.next union overrun voltageToLux event).map fun ran => ran.1

/-- The command that an event makes the node execute. -/
def executed (node : LightingNode K) : LightingEvent K → Option Command
  | .command command =>
      if node.ExecutesOwn command then some command else none
  | .frame _ (.node (.can (.commandsRequest command))) => some command
  | _ => none

/-- The event is a trigger of the consensus other than the end of the calibration. -/
def Starts
    (union : FloatTo4Bytes K)
    (node : LightingNode K)
    (event : LightingEvent K) : Bool :=
  match event with
  | .frame _ .doConsensus => true
  | _ =>
      (node.executed event).any fun command =>
        (command.setCommand union).any fun set =>
          (node.executeSet set).2

/-- The event registers a node so that the gain row that is being measured moves. -/
def Displaces (node : LightingNode K) : LightingEvent K → Bool
  | .frame sender (.node (.can .wakeupBroadcast)) => node.main.MovesRow sender
  | _ => false

end LightingNode

namespace MainNode

variable {K : Type} [Field K]

/-- What `consensus.init()` computes for `kiNorm` from the node's gain row. -/
def rowNorm (node : MainNode K) : K :=
  let ki := fun i =>
    percentGain
      (node.calibrationFSM.gainMatrix (node.glob.indexOf node.glob.nodeId)
        i)
  multiplyTwoArrays node.glob.numTotalNodes ki ki

/-- The calibration is over. -/
structure Calibrated (node : MainNode K) : Prop where
  done : node.calibrationFSM.done = true
  running : node.mainFSM.state = .run

end MainNode

namespace LightingNode

variable {K : Type} [Field K] {node : LightingNode K}

/-- The consensus works on what a finished calibration has left. -/
structure Calibrated (node : LightingNode K) : Prop where
  now : node.main.Calibrated
  initialised : node.initialised.Calibrated
  completes : node.initialRecord.Completes node.initialised
  norm : node.consensus.kiNorm = node.initialised.rowNorm

/-- Whenever `consensus_iterate` is executed, it works on a finished calibration. -/
def IteratesCalibrated
    (voltageToLux : K → K)
    (node : LightingNode K) : Prop :=
  ∀ input,
    let after := (node.runMainFSM voltageToLux input).1
    after.consensus.consensusState = .iterate → after.Calibrated

/-- The consensus is off, or works on a finished calibration. -/
structure Ready (node : LightingNode K) : Prop where
  done_iff :
    node.main.calibrationFSM.done = true ↔ node.main.mainFSM.state = .run
  follows : node.record.Follows node.main
  started : node.consensus.consensusState ≠ .off → node.Calibrated

/--
Triggers come in `Run` only, with no node registered since the calibration has ended,
and no registration moves the node's own row while it is being measured.
-/
def Patient
    [LinearOrder K]
    (union : FloatTo4Bytes K)
    (node : LightingNode K)
    (event : LightingEvent K) : Prop :=
  (node.Starts union event = true →
      node.main.mainFSM.state = .run ∧ node.record.joined = false) ∧
    node.Displaces event = false

instance
    [LinearOrder K]
    (union : FloatTo4Bytes K)
    (node : LightingNode K)
    (event : LightingEvent K) :
    Decidable (node.Patient union event) :=
  inferInstanceAs (Decidable (_ ∧ _))

end LightingNode

namespace MainNode

variable {K : Type} {node : MainNode K}

/-- The progress of the wakeup and of the calibration is the same. -/
structure SameProgress (node after : MainNode K) : Prop where
  mainFSM : after.mainFSM = node.mainFSM
  done : after.calibrationFSM.done = node.calibrationFSM.done

/-- The discovery timer does not touch the calibration. -/
theorem sameProgress_sendPCDiscovery
    (node : MainNode K)
    (hadResponse : Bool) :
    node.SameProgress (node.sendPCDiscovery hadResponse) := by
  unfold sendPCDiscovery
  split <;> exact ⟨rfl, rfl⟩

variable [Field K]

/-- A command that the node passes on or answers with a claim does not either. -/
theorem sameProgress_readCommand
    {command : Command}
    (passedOn :
      ¬ (command.cmd ≠ byteOf 'D' ∧
        (command.destination = 0 ∨
          command.destination.toNat = node.glob.nodeId))) :
    node.SameProgress (node.readCommand command) := by
  obtain same | claims := node.readCommand_passedOn passedOn
  · rw [same]
    exact ⟨rfl, rfl⟩
  · rw [claims]
    exact ⟨rfl, rfl⟩

/-- A frame that carries no command changes neither machine's progress. -/
theorem sameProgress_received
    [LinearOrder K]
    {after : MainNode K}
    {sender : Nat}
    {frame : NodeFrame K}
    (noCommand : ∀ command, frame ≠ .can (.commandsRequest command))
    (taken : node.received sender frame = some after) :
    node.SameProgress after := by
  cases frame with
  | calib message =>
      obtain ⟨⟩ := taken
      refine ⟨rfl, ?_⟩
      cases message with
      | calibReady value =>
          obtain ⟨gains, residuals, counted⟩ :=
            node.calibrationFSM.received_calibReady
              (node.glob.indexOf sender) value
          exact congrArg (·.done) counted
      | calibLedOn => rfl
  | can message =>
      cases message with
      | wakeupBroadcast =>
          unfold received at taken
          dsimp only at taken
          split at taken
          · cases taken
          · obtain ⟨⟩ := taken
            exact ⟨rfl, rfl⟩
      | isHubNode =>
          obtain ⟨⟩ := taken
          exact ⟨rfl, rfl⟩
      | noLongerIsHubNode =>
          obtain ⟨⟩ := taken
          split <;> exact ⟨rfl, rfl⟩
      | frequentData _ _ _ _ =>
          obtain ⟨⟩ := taken
          exact ⟨rfl, rfl⟩
      | commandsRequest command => exact absurd rfl (noCommand command)
      | commandsResponse _ =>
          obtain ⟨⟩ := taken
          exact ⟨rfl, rfl⟩
      | other =>
          obtain ⟨⟩ := taken
          exact ⟨rfl, rfl⟩

/-- The main machine enters `Run` when the calibration ends. -/
theorem ends_of_enters
    {voltageToLux : K → K}
    {input : LoopInput K}
    (notRunning : node.mainFSM.state ≠ .run)
    (enters : (node.mainLoop voltageToLux input).1.mainFSM.state = .run) :
    node.mainFSM.state = .calibrate ∧
      (node.glob.calibrationLoop voltageToLux input
        node.calibrationFSM).1.done = true := by
  have case := node.mainLoop_case voltageToLux input
  generalize node.mainLoop voltageToLux input = ran at case enters
  cases case with
  | wakes starting elapsed => cases enters
  | waits notCalibrating => exact absurd enters notRunning
  | starts waiting elapsed => cases enters
  | calibrates fsm sent calibrating ran =>
      dsimp only at enters
      split at enters
      · rename_i ended
        rw [ran]
        exact ⟨calibrating, ended⟩
      · exact absurd enters notRunning

end MainNode

section Norm

variable {K : Type} [Field K]

/-- `consensus.init()` computes the norm of the gain row. -/
theorem kiNorm_consensusInit (node : Firmware K) :
    let ki := fun i => percentGain (node.gainMatrix node.nodeIndex i)
    (consensusInit node).consensus.kiNorm =
      multiplyTwoArrays node.numTotalNodes ki ki := by
  intro ki
  have entry :
      ∀ i ∈ Finset.range node.numTotalNodes,
        (if i < node.numTotalNodes then ki i else node.consensus.ki i) *
            (if i < node.numTotalNodes then ki i else node.consensus.ki i) =
          ki i * ki i := by
    intro i inRange
    rw [if_pos (Finset.mem_range.mp inRange)]
  exact Finset.sum_congr rfl entry

end Norm

namespace LightingNode

variable {K : Type} [Field K] {node : LightingNode K}

/-- `consensus.init()` on a finished calibration. -/
theorem calibrated_initConsensus
    (now : node.main.Calibrated)
    (completes : node.record.Completes node.main) :
    node.initConsensus.Calibrated where
  now := now
  initialised := now
  completes := completes
  norm := kiNorm_consensusInit node.firmware

/-- In `Run` the row is complete, until a node is registered. -/
theorem Ready.completes
    (ready : node.Ready)
    (running : node.main.mainFSM.state = .run)
    (alone : node.record.joined = false) :
    node.record.Completes node.main :=
  ready.follows.mirrors.completes (ready.follows.running running alone)

/-- What keeps the progress of the machines and the norm keeps a node ready. -/
theorem Ready.congr
    {after : LightingNode K}
    (ready : node.Ready)
    (main : node.main.SameProgress after.main)
    (follows : after.record.Follows after.main)
    (initialised : after.initialised = node.initialised)
    (initialRecord : after.initialRecord = node.initialRecord)
    (norm : after.consensus.kiNorm = node.consensus.kiNorm)
    (started :
      after.consensus.consensusState ≠ .off →
        node.consensus.consensusState ≠ .off) :
    after.Ready where
  done_iff := by
    rw [main.done, main.mainFSM]
    exact ready.done_iff
  follows := follows
  started := by
    intro running
    have before := ready.started (started running)
    refine ⟨⟨?_, ?_⟩, ?_, ?_, ?_⟩
    · rw [main.done]
      exact before.now.done
    · rw [main.mainFSM]
      exact before.now.running
    · rw [initialised]
      exact before.initialised
    · rw [initialised, initialRecord]
      exact before.completes
    · rw [norm, initialised]
      exact before.norm

/-- Before `Run` a node with the consensus off is ready. -/
theorem ready_of_off
    (follows : node.record.Follows node.main)
    (notEnded : node.main.calibrationFSM.done ≠ true)
    (notRunning : node.main.mainFSM.state ≠ .run)
    (off : node.consensus.consensusState = .off) :
    node.Ready where
  done_iff := ⟨fun ended => absurd ended notEnded,
    fun running => absurd running notRunning⟩
  follows := follows
  started := fun running => absurd off running

/-- A reset stops the consensus and takes the calibration back. -/
theorem ready_reset (node : LightingNode K) : node.reset.Ready :=
  ready_of_off (GainRecord.follows_reset node.main) Bool.false_ne_true
    (MainFSMState.noConfusion ·) rfl

/-- After boot the consensus is off. -/
theorem ready_boot
    (nodeId : Nat)
    (cost : K) :
    (boot nodeId cost).Ready :=
  ready_of_off (GainRecord.follows_boot nodeId 0) Bool.false_ne_true
    (MainFSMState.noConfusion ·) rfl

section Executed

variable [LinearOrder K] {union : FloatTo4Bytes K}

/-- A command that sets something keeps a node ready, unless it starts too early. -/
theorem ready_executeSet
    (ready : node.Ready)
    (set : SetCommand K)
    (patient :
      (node.executeSet set).2 = true →
        node.main.mainFSM.state = .run ∧ node.record.joined = false) :
    (node.executeSet set).1.Ready := by
  obtain ⟨luminaire, restarts | keeps⟩ :=
    executeCommand_cases node.firmware set
  · obtain ⟨running, alone⟩ :
        node.main.mainFSM.state = .run ∧ node.record.joined = false := by
      apply patient
      unfold executeSet
      rw [restarts]
    have now : node.main.Calibrated := ⟨ready.done_iff.mpr running, running⟩
    unfold executeSet
    rw [restarts]
    exact
      ⟨ready.done_iff, ready.follows,
        fun _ => ⟨now, now, ready.completes running alone, kiNorm_consensusInit _⟩⟩
  · unfold executeSet
    rw [keeps]
    exact ready.congr ⟨rfl, rfl⟩ ready.follows rfl rfl rfl id

/-- So does any command. -/
theorem ready_executeCommand
    (ready : node.Ready)
    (command : Command)
    (patient :
      ((command.setCommand union).any fun set =>
          (node.executeSet set).2) = true →
        node.main.mainFSM.state = .run ∧ node.record.joined = false) :
    (node.executeCommand union command).1.Ready := by
  unfold executeCommand
  cases isSet : command.setCommand union with
  | some set =>
      rw [isSet] at patient
      exact ready_executeSet ready set patient
  | none =>
      dsimp only
      split
      · exact ready_reset node
      · exact ready

end Executed

section Loop

variable (voltageToLux : K → K) (input : LoopInput K)

/-- Before `Run` the consensus is off. -/
theorem Ready.off
    (ready : node.Ready)
    (notRunning : node.main.mainFSM.state ≠ .run) :
    node.consensus.consensusState = .off := by
  by_contra running
  exact notRunning (ready.started running).now.running

/-- A node that goes on waiting stays ready. -/
theorem Ready.waits
    {main : MainNode K}
    {record : GainRecord K}
    (ready : node.Ready)
    (notRunning : node.main.mainFSM.state ≠ .run)
    (follows : record.Follows main)
    (same : main.calibrationFSM.done = node.main.calibrationFSM.done)
    (notYet : main.mainFSM.state ≠ .run) :
    ({ node with main := main, record := record } : LightingNode K).Ready :=
  ready_of_off follows
    (fun ended => notRunning (ready.done_iff.mp (same.symm.trans ended)))
    notYet (ready.off notRunning)

/-- The main machine starts the consensus when it enters `Run`, and only then. -/
theorem ready_runMainFSM (ready : node.Ready) :
    (node.runMainFSM voltageToLux input).1.Ready := by
  have case := node.main.mainLoop_case voltageToLux input
  have follows : (node.record.afterLoop voltageToLux input node.main).Follows
      (node.main.mainLoop voltageToLux input).1 := by
    refine ready.follows.mainLoop (fun calibrating ended => ?_) voltageToLux input
    rw [ready.done_iff, calibrating] at ended
    cases ended
  have alone :
      node.main.mainFSM.state = .calibrate →
        (node.main.mainLoop voltageToLux input).1.mainFSM.state = .run →
          (node.record.afterLoop voltageToLux input node.main).joined = false := by
    intro calibrating running
    rw [GainRecord.afterLoop, if_pos calibrating]
    exact if_pos running
  unfold runMainFSM
  generalize node.record.afterLoop voltageToLux input node.main = record
    at follows alone ⊢
  generalize node.main.mainLoop voltageToLux input = ran at case follows alone ⊢
  cases case with
  | wakes starting elapsed =>
      have early :
          node.main.mainFSM.state ≠ .calibrate ∧ node.main.mainFSM.state ≠ .run := by
        rw [starting]
        decide
      dsimp only
      rw [if_neg fun both => early.1 both.1]
      exact ready.waits early.2 follows rfl (MainFSMState.noConfusion ·)
  | starts waiting elapsed =>
      have early :
          node.main.mainFSM.state ≠ .calibrate ∧ node.main.mainFSM.state ≠ .run := by
        rw [waiting]
        decide
      dsimp only
      rw [if_neg fun both => early.1 both.1]
      exact ready.waits early.2 follows rfl (MainFSMState.noConfusion ·)
  | waits notCalibrating =>
      dsimp only
      rw [if_neg fun both => notCalibrating both.1]
      exact ready.congr ⟨rfl, rfl⟩ follows rfl rfl rfl id
  | calibrates fsm sent calibrating ran =>
      dsimp only
      by_cases ended : fsm.done = true
      · rw [if_pos ⟨calibrating, ended⟩, if_pos ended]
        dsimp only at follows alone
        rw [if_pos ended] at follows alone
        have now :
            MainNode.Calibrated
              { node.main with
                calibrationFSM := fsm
                mainFSM := .setState .run input.stamp } :=
          ⟨ended, rfl⟩
        exact
          ⟨⟨fun _ => rfl, fun _ => ended⟩, follows,
            fun _ =>
              calibrated_initConsensus now
                (follows.mirrors.completes
                  (follows.running rfl (alone calibrating rfl)))⟩
      · have notRunning : node.main.mainFSM.state ≠ .run := by
          rw [calibrating]
          decide
        dsimp only at follows
        rw [if_neg ended] at follows
        rw [if_neg fun both => ended both.2, if_neg ended]
        exact ready_of_off follows ended notRunning (ready.off notRunning)

variable [LinearOrder K] [FloorRing K]

/-- `consensus_main()` keeps a node ready. -/
theorem ready_runConsensus (ready : node.Ready) :
    node.runConsensus.1.Ready := by
  unfold runConsensus
  split
  · exact ready
  · rename_i running
    exact
      ready.congr ⟨rfl, rfl⟩ ready.follows rfl rfl
        (sameGains_consensusMain node.firmware).kiNorm fun _ => running

end Loop

section Steps

variable
  [LinearOrder K] {union : FloatTo4Bytes K}
  {overrun : Nat → K → Nat} {voltageToLux : K → K} {after : LightingNode K}

/-- A frame keeps a node ready, unless it starts the consensus too early. -/
theorem ready_received
    {sender : Nat}
    {frame : LightingFrame K}
    {ran : LightingNode K × List (LightingFrame K)}
    (ready : node.Ready)
    (patient : node.Patient union (.frame sender frame))
    (taken : node.received union overrun sender frame = some ran) :
    ran.1.Ready := by
  unfold received at taken
  split at taken
  · obtain ⟨⟩ := taken
    exact ready_executeCommand ready _ patient.1
  · rename_i frame noCommand
    obtain ⟨main, isMain, isRan⟩ := Option.map_eq_some_iff.mp taken
    subst isRan
    have keepsRow : frame = .can .wakeupBroadcast → ¬ node.main.MovesRow sender := by
      rintro rfl
      exact of_decide_eq_false patient.2
    exact
      ready.congr (MainNode.sameProgress_received noCommand isMain)
        (ready.follows.received noCommand keepsRow isMain) rfl rfl rfl id
  · rename_i data
    obtain ⟨⟩ := taken
    obtain ⟨entries, count, received⟩ :=
      receivedConsensus_eq overrun data node.firmware
    rw [received]
    exact ready.congr ⟨rfl, rfl⟩ ready.follows rfl rfl rfl id
  · obtain ⟨⟩ := taken
    obtain ⟨running, alone⟩ := patient.1 rfl
    exact
      ⟨ready.done_iff, ready.follows,
        fun _ =>
          calibrated_initConsensus ⟨ready.done_iff.mpr running, running⟩
            (ready.completes running alone)⟩

variable [FloorRing K]

/-- Every patient step keeps a node ready. -/
theorem ready_step
    {event : LightingEvent K}
    (ready : node.Ready)
    (patient : node.Patient union event)
    (taken : node.step union overrun voltageToLux event = some after) :
    after.Ready := by
  obtain ⟨ran, isRan, isAfter⟩ := Option.map_eq_some_iff.mp taken
  subst isAfter
  cases event with
  | frame sender frame => exact ready_received ready patient isRan
  | command command =>
      obtain ⟨⟩ := isRan
      unfold readCommand
      split
      · rename_i own
        apply ready_executeCommand ready
        intro starts
        apply patient.1
        unfold Starts executed
        dsimp only
        rw [if_pos own]
        exact starts
      · rename_i passedOn
        exact
          ready.congr (MainNode.sameProgress_readCommand passedOn)
            (ready.follows.readCommand passedOn) rfl rfl rfl id
  | discovery hadResponse =>
      obtain ⟨⟩ := isRan
      exact
        ready.congr (MainNode.sameProgress_sendPCDiscovery _ _)
          (ready.follows.sendPCDiscovery hadResponse) rfl rfl rfl id
  | loop input =>
      obtain ⟨⟩ := isRan
      exact ready_runConsensus (ready_runMainFSM voltageToLux input ready)

/-- In a run of patient steps, a node is always ready. -/
theorem ready_of_run
    {nodeId : Nat}
    {cost : K}
    (run :
      Run (step union overrun voltageToLux) (Patient union)
        (boot nodeId cost) node) :
    node.Ready := by
  apply run.invariant Ready
  · exact ready_boot nodeId cost
  · intro before after event ready patient taken
    exact ready_step ready patient taken

/--
In a run whose triggers come in `Run`, before another node is registered, and whose
registrations do not move the row that is being measured, `consensus_iterate` is
executed only in `Run`, with a finished calibration, and `kiNorm` is the norm of a gain
row every entry of which the calibration has stored since the last reset.
-/
theorem iteratesCalibrated_of_run
    {nodeId : Nat}
    {cost : K}
    (run :
      Run (step union overrun voltageToLux) (Patient union)
        (boot nodeId cost) node) :
    node.IteratesCalibrated voltageToLux := by
  intro input after iterating
  have ready := ready_runMainFSM voltageToLux input (ready_of_run run)
  apply ready.started
  show after.consensus.consensusState ≠ .off
  rw [iterating]
  decide

/-- Any events in any order. -/
def Anyhow (_ : LightingNode K) (_ : LightingEvent K) : Prop := True

instance (node : LightingNode K) (event : LightingEvent K) :
    Decidable (node.Anyhow event) :=
  inferInstanceAs (Decidable True)

end Steps

section Examples

/-- The main loop at a time, with a reading of the sensor. -/
def loopAt (now : Nat) (voltage : ℚ) : LightingEvent ℚ :=
  .loop (.atTime (BitVec.ofNat 32 now) voltage)

/-- A single node calibrates, and starts the consensus. -/
def calibrateAlone : List (LightingEvent ℚ) :=
  [loopAt 2000001 0, loopAt 4000002 0, loopAt 4000003 1, loopAt 4000004 0,
    loopAt 5000005 5, loopAt 5000006 0, loopAt 6000007 49, loopAt 6000008 0]

/-- The node is asked for the consensus again. -/
theorem iteratesCalibrated_alone :
    ∃ node : LightingNode ℚ,
      node.consensus.consensusState = .iterate ∧
        node.main.mainFSM.state = .run ∧
        node.IteratesCalibrated id := by
  obtain ⟨node, run, observed⟩ :=
    exists_run_of_observed
      (step rationalSingle (fun count _ => count) id)
      (Patient rationalSingle) (boot 1 0)
      (calibrateAlone ++ [.frame 2 .doConsensus])
      (fun node =>
        node.consensus.consensusState = .iterate ∧
          node.main.mainFSM.state = .run)
      (by decide +kernel)
  have seen := of_decide_eq_true observed
  exact ⟨node, seen.1, seen.2, iteratesCalibrated_of_run run⟩

/-- `CAN_DO_CONSENSUS` from another node starts the consensus right after boot. -/
theorem not_iteratesCalibrated_early :
    ¬ ∀ node : LightingNode ℚ,
        Run (step rationalSingle (fun count _ => count) id) Anyhow
            (boot 1 0) node →
          node.IteratesCalibrated id := by
  intro claim
  have run :
      Run (step rationalSingle (fun count _ => count) id) Anyhow
        (boot 1 0) (boot 1 0 : LightingNode ℚ).initConsensus :=
    .step (.frame 2 .doConsensus) .refl trivial rfl
  have calibrated :=
    claim _ run (.atTime 0 0) rfl
  cases calibrated.now.running

/-- A node that iterates over a row in which nothing is stored somewhere. -/
theorem not_iteratesCalibrated_of_gap
    {node : LightingNode ℚ}
    {input : LoopInput ℚ}
    {column : Nat}
    (iterating :
      (node.runMainFSM id input).1.consensus.consensusState = .iterate)
    (inRow :
      column < (node.runMainFSM id input).1.initialised.glob.numTotalNodes)
    (gap :
      ((node.runMainFSM id input).1.initialRecord.stored
        (node.runMainFSM id input).1.initialised.ownRow column).isNone = true) :
    ¬ node.IteratesCalibrated id := by
  intro calibrated
  have stored := (calibrated input iterating).completes column inRow
  rw [stored] at gap
  cases gap

/-- Node 1 calibrates alone, registers node 2 in `Run`, and starts with half a row. -/
theorem not_iteratesCalibrated_joined :
    ∃ node : LightingNode ℚ,
      Run (step rationalSingle (fun count _ => count) id)
          (fun node event =>
            node.Starts rationalSingle event = true →
              node.main.mainFSM.state = .run)
          (boot 1 0) node ∧
        ¬ node.IteratesCalibrated id := by
  obtain ⟨node, run, observed⟩ :=
    exists_run_of_observed
      (step rationalSingle (fun count _ => count) id)
      (fun node event =>
        node.Starts rationalSingle event = true → node.main.mainFSM.state = .run)
      (boot 1 0)
      (calibrateAlone ++
        [.frame 2 (.node (.can .wakeupBroadcast)), .frame 2 .doConsensus])
      (fun node =>
        let after := (node.runMainFSM id (.atTime 0 0)).1
        after.consensus.consensusState = .iterate ∧
          1 < after.initialised.glob.numTotalNodes ∧
          (after.initialRecord.stored after.initialised.ownRow 1).isNone = true)
      (by decide +kernel)
  have seen := of_decide_eq_true observed
  exact ⟨node, run, not_iteratesCalibrated_of_gap seen.1 seen.2.1 seen.2.2⟩

/-- Node 2 registers node 1 while it calibrates, and fills the last part of another row. -/
theorem not_iteratesCalibrated_moved :
    ∃ node : LightingNode ℚ,
      Run (step rationalSingle (fun count _ => count) id)
          (fun node event => node.Starts rationalSingle event = false)
          (boot 2 0) node ∧
        ¬ node.IteratesCalibrated id := by
  obtain ⟨node, run, observed⟩ :=
    exists_run_of_observed
      (step rationalSingle (fun count _ => count) id)
      (fun node event => node.Starts rationalSingle event = false)
      (boot 2 0)
      (calibrateAlone.take 7 ++
        [.frame 1 (.node (.can .wakeupBroadcast)),
          .frame 1 (.node (.calib (.calibReady (-1)))), loopAt 6000008 0,
          loopAt 7000009 5, .frame 1 (.node (.calib (.calibReady (-1)))),
          loopAt 7000010 0, loopAt 8000011 49,
          .frame 1 (.node (.calib (.calibReady (-1))))])
      (fun node =>
        let after := (node.runMainFSM id (.atTime 8000012 0)).1
        after.consensus.consensusState = .iterate ∧
          0 < after.initialised.glob.numTotalNodes ∧
          (after.initialRecord.stored after.initialised.ownRow 0).isNone = true)
      (by decide +kernel)
  have seen := of_decide_eq_true observed
  exact ⟨node, run, not_iteratesCalibrated_of_gap seen.1 seen.2.1 seen.2.2⟩

end Examples

section Sharpness

variable {voltageToLux : K → K} {input : LoopInput K}

/-- Only the last `WaitReady` ends the calibration. -/
theorem waitReady_of_done
    {glob : Glob}
    {fsm : CalibrationFSM K}
    (notYet : fsm.done ≠ true)
    (ended : (glob.calibrationLoop voltageToLux input fsm).1.done = true) :
    fsm.state = .waitReady ∧ fsm.numNodesReady = glob.numTotalNodes := by
  unfold Glob.calibrationLoop at ended
  split at ended
  · exact absurd ended notYet
  · rename_i waiting
    unfold Glob.runStateWaitReady at ended
    split at ended
    · rename_i all
      exact ⟨waiting, all⟩
    · exact absurd ended notYet
  · unfold CalibrationFSM.runStateWaitLedOn at ended
    split at ended <;> exact absurd ended notYet
  · unfold CalibrationFSM.runStateWaitTrasient at ended
    dsimp only at ended
    split at ended
    · split at ended <;> exact absurd ended notYet
    · exact absurd ended notYet

/-- A node that iterates although its main machine does not get to `Run`. -/
theorem not_iteratesCalibrated_of_notRunning
    (input : LoopInput K)
    (iterating : node.consensus.consensusState = .iterate)
    (notRunning :
      (node.main.mainLoop voltageToLux input).1.mainFSM.state ≠ .run) :
    ¬ node.IteratesCalibrated voltageToLux := by
  intro calibrated
  have now := calibrated input
  have noStart :
      ¬ (node.main.mainFSM.state = .calibrate ∧
        (node.main.mainLoop voltageToLux input).1.calibrationFSM.done = true) := by
    rintro ⟨calibrating, ended⟩
    apply notRunning
    unfold MainNode.mainLoop at ended ⊢
    rw [calibrating] at ended ⊢
    dsimp only at ended ⊢
    rw [if_pos ended]
    rfl
  unfold runMainFSM at now
  dsimp only at now
  rw [if_neg noStart] at now
  exact notRunning (now iterating).now.running

variable
  [LinearOrder K] {union : FloatTo4Bytes K} {overrun : Nat → K → Nat}

/-- A set command that restarts leaves the consensus in `ITERATE_STATE`. -/
theorem iterate_of_executeSet
    {set : SetCommand K}
    (restarts : (node.executeSet set).2 = true) :
    (node.executeSet set).1.consensus.consensusState = .iterate ∧
      (node.executeSet set).1.main = node.main := by
  obtain ⟨luminaire, started | keeps⟩ :=
    executeCommand_cases node.firmware set
  · unfold executeSet
    rw [started]
    exact ⟨rfl, rfl⟩
  · unfold executeSet at restarts
    rw [keeps] at restarts
    cases restarts

variable [FloorRing K] {after : LightingNode K}

/-- A trigger leaves the consensus in `ITERATE_STATE`. -/
theorem iterate_of_starts
    {event : LightingEvent K}
    (starts : node.Starts union event = true)
    (taken : node.step union overrun voltageToLux event = some after) :
    after.consensus.consensusState = .iterate ∧ after.main = node.main := by
  obtain ⟨ran, isRan, isAfter⟩ := Option.map_eq_some_iff.mp taken
  subst isAfter
  have executes :
      ∀ {command : Command},
        ((command.setCommand union).any fun set =>
            (node.executeSet set).2) = true →
          (node.executeCommand union command).1.consensus.consensusState =
              .iterate ∧
            (node.executeCommand union command).1.main = node.main := by
    intro command restarts
    obtain ⟨set, isSet, restarts⟩ := (Option.any_eq_true _ _).mp restarts
    unfold executeCommand
    rw [isSet]
    exact iterate_of_executeSet restarts
  cases event with
  | frame sender frame =>
      cases frame with
      | consensus data => cases starts
      | doConsensus =>
          obtain ⟨⟩ := isRan
          exact ⟨rfl, rfl⟩
      | node frame =>
          cases frame with
          | calib message => cases starts
          | can message =>
              cases message with
              | commandsRequest command =>
                  obtain ⟨⟩ := isRan
                  exact executes starts
              | _ => cases starts
  | command command =>
      obtain ⟨⟩ := isRan
      by_cases own : node.ExecutesOwn command
      · unfold Starts executed at starts
        dsimp only at starts
        rw [if_pos own] at starts
        unfold readCommand
        rw [if_pos own]
        exact executes starts
      · unfold Starts executed at starts
        dsimp only at starts
        rw [if_neg own] at starts
        cases starts
  | discovery hadResponse => cases starts
  | loop input => cases starts

/--
In a run of patient steps, a trigger that comes before `Run` can make
`consensus_iterate` work on an unfinished calibration.
-/
theorem exists_uncalibrated_of_early
    {nodeId : Nat}
    {cost : K}
    (run :
      Run (step union overrun voltageToLux) (Patient union)
        (boot nodeId cost) node)
    {event : LightingEvent K}
    (starts : node.Starts union event = true)
    (notRunning : node.main.mainFSM.state ≠ .run)
    (taken : node.step union overrun voltageToLux event = some after) :
    ∃ final,
      Run (step union overrun voltageToLux) Anyhow after final ∧
        ¬ final.IteratesCalibrated voltageToLux := by
  have ready := ready_of_run run
  obtain ⟨iterating, same⟩ := iterate_of_starts starts taken
  have notYet : after.main.calibrationFSM.done ≠ true := by
    rw [same]
    exact fun ended => notRunning (ready.done_iff.mp ended)
  rw [← same] at notRunning
  let input : LoopInput K := .atTime 0 0
  by_cases enters :
      (after.main.mainLoop voltageToLux input).1.mainFSM.state = .run
  · -- One more ready frame, and the barrier of the last step does not open.
    obtain ⟨calibrating, ended⟩ :=
      MainNode.ends_of_enters notRunning enters
    have waited := waitReady_of_done notYet ended
    let counted :=
      after.main.calibrationFSM.received (after.main.glob.indexOf 0)
        (.calibReady 0)
    obtain ⟨gains, residuals, isCounted⟩ :=
      after.main.calibrationFSM.received_calibReady
        (after.main.glob.indexOf 0) 0
    let main := { after.main with calibrationFSM := counted }
    have mainNotRunning : main.mainFSM.state ≠ .run := notRunning
    refine
      ⟨{ after with
          main := main
          record := after.record.afterFrame after.main 0 (.calib (.calibReady 0)) },
        .step (.frame 0 (.node (.calib (.calibReady 0)))) .refl trivial rfl,
        not_iteratesCalibrated_of_notRunning input iterating ?_⟩
    intro stillEnters
    have stillEnds :=
      (MainNode.ends_of_enters mainNotRunning stillEnters).2
    have notCounted : counted.done ≠ true := by
      unfold counted
      rw [isCounted]
      exact notYet
    have full : counted.numNodesReady = after.main.glob.numTotalNodes :=
      (waitReady_of_done notCounted stillEnds).2
    unfold counted at full
    rw [isCounted, ← waited.2] at full
    exact Nat.succ_ne_self _ full
  · exact
      ⟨after, .refl,
        not_iteratesCalibrated_of_notRunning input iterating enters⟩

end Sharpness

end LightingNode

end DistributedLighting
