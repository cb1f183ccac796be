import DistributedLighting.Consensus
import DistributedLighting.Runs
import DistributedLighting.TotalOrderBus

namespace DistributedLighting

/-!
# Nodes that run the consensus over the CAN bus

Every node repeats `loop()`: it reads serial commands, drains its receive queue
and, unless the consensus is off, runs `consensus_main`.  Other nodes may act
between any two frames it receives or sends, so the point it has reached in the
loop belongs to the state.

The annotations of a frame and the last four fields of a network are
bookkeeping.  No transition of a node reads them.
-/

/-- The consensus frames, annotated with what their senders knew. -/
inductive Traffic where
  /-- `CAN_DO_CONSENSUS`, with the number of the restart that it announces. -/
  | doConsensus (restart : Nat)
  /-- `CAN_CONSENSUS`, with `numIter` and the processed restarts of its sender. -/
  | consensus (data : FrameData) (iteration : Nat) (seen : List Nat)

namespace Traffic

/-- The iteration a proposal belongs to. -/
def iteration? : Traffic → Option Nat
  | .doConsensus _ => none
  | .consensus _ iteration _ => some iteration

/-- What a frame adds to entry `slot` of a received vector. -/
def amount
    {K : Type}
    [Field K]
    (numTotalNodes slot : Nat) : Traffic → K
  | .doConsensus _ => 0
  | .consensus data _ _ => contribution numTotalNodes data slot

end Traffic

/-- Where a node is in its main loop. -/
inductive LoopPoint where
  | readSerial
  | drain
  | main
  /-- Inside `sendConsensusDutyCycle`, with the frames still to send. -/
  | sending (rest : List FrameData)

/-- The frames a node still has to send before it looks at its counter. -/
def LoopPoint.pending : LoopPoint → List FrameData
  | .sending rest => rest
  | _ => []

/-- The node has sent everything and is about to look at its counter. -/
def LoopPoint.allSent : LoopPoint → Bool
  | .sending [] => true
  | _ => false

theorem LoopPoint.eq_of_allSent
    {point : LoopPoint}
    (sent : point.allSent = true) :
    point = .sending [] := by
  unfold allSent at sent
  split at sent
  · rfl
  · cases sent

/-- All nodes and the bus between them. -/
structure Net (K : Type) (N : Nat) where
  node : Fin N → Firmware K
  point : Fin N → LoopPoint
  bus : Bus (Fin N) Traffic
  /-- The iterations a node has completed in its current run. -/
  completed : Fin N → Nat
  /-- The proposals a node has counted since it last cleared its counter. -/
  counted : Fin N → List (Entry (Fin N) Traffic)
  /-- The restarts a node has processed. -/
  restarts : Fin N → List Nat
  /-- The restarts issued so far. -/
  issued : Nat

/-- What a node may do next. -/
inductive NodeAction (K : Type) where
  | command (command : SetCommand K)
  /-- Another part of the firmware uses the sending buffer. -/
  | prepare (buffer : FrameData)
  /-- The end of a calibration: `consensus.init()` in `MainFSM::loop`. -/
  | calibrated (gainMatrix : Nat → Nat → K) (residualArray : Nat → K)
  | beginDrain
  | take
  | endDrain
  | beginMain
  | transmit
  | endMain

/-- An action of one node. -/
structure Action (K : Type) (N : Nat) where
  node : Fin N
  does : NodeAction K

namespace Net

variable {K : Type} {N : Nat}

/-- Move a node to another point of its loop. -/
def moveTo
    (net : Net K N)
    (n : Fin N)
    (point : LoopPoint) : Net K N :=
  { net with point := Function.update net.point n point }

/-- Replace the globals of a node. -/
def setNode
    (net : Net K N)
    (n : Fin N)
    (node : Firmware K) : Net K N :=
  { net with node := Function.update net.node n node }

/-- A node starts a new run with an empty count. -/
def beginRun
    (net : Net K N)
    (n : Fin N)
    (node : Firmware K) : Net K N :=
  { net with
    node := Function.update net.node n node
    completed := Function.update net.completed n 0
    counted := Function.update net.counted n [] }

/-- A node has processed a restart. -/
def processRestart
    (net : Net K N)
    (n : Fin N)
    (restart : Nat) : Net K N :=
  { net with
    restarts :=
      Function.update net.restarts n (restart :: net.restarts n) }

/-- `sendDoConsensus()` and `consensus.init()` in `executeCommand`. -/
def issueRestart
    (net : Net K N)
    (n : Fin N)
    (node : Firmware K) : Net K N :=
  { (net.beginRun n node).processRestart n net.issued with
    bus := net.bus.broadcast n (.doConsensus net.issued)
    issued := net.issued + 1 }

section Transitions

variable [Field K] [LinearOrder K] [FloorRing K]

/-- A node executes a command. -/
def execute
    (net : Net K N)
    (n : Fin N)
    (command : SetCommand K) : Net K N :=
  let executed := executeCommand (net.node n) command
  if executed.2 then
    net.issueRestart n executed.1
  else
    net.setNode n executed.1

/-- `Communication::received` for the oldest queued frame. -/
def receive
    (overrun : Nat → K → Nat)
    (net : Net K N)
    (n : Fin N)
    (entry : Entry (Fin N) Traffic) : Net K N :=
  match entry.frame with
  | .doConsensus restart =>
      { (net.beginRun n (consensusInit (net.node n))).processRestart
          n restart with
        bus := net.bus.take n }
  | .consensus data _ _ =>
      { net.setNode n (receivedConsensus overrun data (net.node n)) with
        bus := net.bus.take n
        counted :=
          Function.update net.counted n (net.counted n ++ [entry]) }

/-- `loop()` enters `consensus_main`, unless the consensus is off. -/
def startMain
    (net : Net K N)
    (n : Fin N) : Net K N :=
  if (net.node n).consensus.consensusState = .off then
    net.moveTo n .readSerial
  else
    let sent := consensusMainSend (net.node n)
    (net.setNode n sent.1).moveTo n (.sending sent.2)

/-- One `sendFrame()` of `sendConsensusDutyCycle`. -/
def sendFrame
    (net : Net K N)
    (n : Fin N)
    (data : FrameData)
    (rest : List FrameData) : Net K N :=
  { net.moveTo n (.sending rest) with
    bus :=
      net.bus.broadcast n
        (.consensus data (net.node n).consensus.numIter
          (net.restarts n)) }

/-- A node is about to leave `WAITING_RECIVE_DUTY_CYCLE_STATE`. -/
def EntersUpdate (net : Net K N) (n : Fin N) : Prop :=
  (net.node n).consensus.consensusState = .waitingReciveDutyCycle ∧
    (net.node n).consensus.numberOfMsgReceived =
      (net.node n).consensus.numberOfMsgExpected

instance (net : Net K N) (n : Fin N) : Decidable (net.EntersUpdate n) :=
  inferInstanceAs (Decidable (_ ∧ _))

/-- The rest of `consensus_main`, after which the loop starts again. -/
def finishMain
    (net : Net K N)
    (n : Fin N) : Net K N :=
  let waited :=
    (net.setNode n (consensusMainWait (net.node n))).moveTo n .readSerial
  if net.EntersUpdate n then
    { waited with
      completed := Function.update net.completed n (net.completed n + 1)
      counted := Function.update net.counted n [] }
  else
    waited

/-- What one node does next, if it can. -/
def nextOf
    (overrun : Nat → K → Nat)
    (net : Net K N)
    (n : Fin N) : NodeAction K → Option (Net K N)
  | .command command =>
      match net.point n with
      | .readSerial | .drain => some (net.execute n command)
      | _ => none
  | .prepare buffer =>
      match net.point n with
      | .sending _ => none
      | _ => some (net.setNode n { net.node n with sendingFrame := buffer })
  | .calibrated gainMatrix residualArray =>
      match net.point n with
      | .main =>
          some
            (net.beginRun n
              (consensusInit
                { net.node n with
                  gainMatrix := gainMatrix
                  residualArray := residualArray }))
      | _ => none
  | .beginDrain =>
      match net.point n with
      | .readSerial => some (net.moveTo n .drain)
      | _ => none
  | .take =>
      match net.point n, net.bus.fifo n with
      | .drain, entry :: _ => some (net.receive overrun n entry)
      | _, _ => none
  | .endDrain =>
      match net.point n, net.bus.fifo n with
      | .drain, [] => some (net.moveTo n .main)
      | _, _ => none
  | .beginMain =>
      match net.point n with
      | .main => some (net.startMain n)
      | _ => none
  | .transmit =>
      match net.point n with
      | .sending (data :: rest) => some (net.sendFrame n data rest)
      | _ => none
  | .endMain =>
      match net.point n with
      | .sending [] => some (net.finishMain n)
      | _ => none

/-- The transition function of the network. -/
def next
    (overrun : Nat → K → Nat)
    (net : Net K N)
    (action : Action K N) : Option (Net K N) :=
  net.nextOf overrun action.node action.does

/-- Everything that a single action can do, and when. -/
inductive Effect
    (overrun : Nat → K → Nat)
    (net : Net K N)
    (n : Fin N) : NodeAction K → Net K N → Prop where
  | command
      (command : SetCommand K)
      (idle : net.point n = .readSerial ∨ net.point n = .drain) :
      Effect overrun net n (.command command) (net.execute n command)
  | prepare
      (buffer : FrameData)
      (idle : ∀ rest, net.point n ≠ .sending rest) :
      Effect overrun net n (.prepare buffer)
        (net.setNode n { net.node n with sendingFrame := buffer })
  | calibrated
      (gainMatrix : Nat → Nat → K)
      (residualArray : Nat → K)
      (atMain : net.point n = .main) :
      Effect overrun net n (.calibrated gainMatrix residualArray)
        (net.beginRun n
          (consensusInit
            { net.node n with
              gainMatrix := gainMatrix
              residualArray := residualArray }))
  | beginDrain
      (atStart : net.point n = .readSerial) :
      Effect overrun net n .beginDrain (net.moveTo n .drain)
  | take
      {entry : Entry (Fin N) Traffic}
      {rest : List (Entry (Fin N) Traffic)}
      (draining : net.point n = .drain)
      (queued : net.bus.fifo n = entry :: rest) :
      Effect overrun net n .take (net.receive overrun n entry)
  | endDrain
      (draining : net.point n = .drain)
      (drained : net.bus.fifo n = []) :
      Effect overrun net n .endDrain (net.moveTo n .main)
  | beginMain
      (atMain : net.point n = .main) :
      Effect overrun net n .beginMain (net.startMain n)
  | transmit
      {data : FrameData}
      {rest : List FrameData}
      (sending : net.point n = .sending (data :: rest)) :
      Effect overrun net n .transmit (net.sendFrame n data rest)
  | endMain
      (sent : net.point n = .sending []) :
      Effect overrun net n .endMain (net.finishMain n)

/-- A transition has one of the listed effects. -/
theorem effect_of_next
    {overrun : Nat → K → Nat}
    {net after : Net K N}
    {action : Action K N}
    (taken : net.next overrun action = some after) :
    Effect overrun net action.node action.does after := by
  obtain ⟨n, does⟩ := action
  unfold next at taken
  cases does with
  | command command =>
      simp only [nextOf] at taken
      split at taken
      · rename_i reading
        cases taken
        exact .command command (.inl reading)
      · rename_i draining
        cases taken
        exact .command command (.inr draining)
      · cases taken
  | prepare buffer =>
      simp only [nextOf] at taken
      split at taken
      · cases taken
      · rename_i idle
        cases taken
        exact .prepare buffer idle
  | calibrated gainMatrix residualArray =>
      simp only [nextOf] at taken
      split at taken
      · rename_i atMain
        cases taken
        exact .calibrated gainMatrix residualArray atMain
      · cases taken
  | beginDrain =>
      simp only [nextOf] at taken
      split at taken
      · rename_i atStart
        cases taken
        exact .beginDrain atStart
      · cases taken
  | take =>
      simp only [nextOf] at taken
      split at taken
      · rename_i draining queued
        cases taken
        exact .take draining queued
      · cases taken
  | endDrain =>
      simp only [nextOf] at taken
      split at taken
      · rename_i draining drained
        cases taken
        exact .endDrain draining drained
      · cases taken
  | beginMain =>
      simp only [nextOf] at taken
      split at taken
      · rename_i atMain
        cases taken
        exact .beginMain atMain
      · cases taken
  | transmit =>
      simp only [nextOf] at taken
      split at taken
      · rename_i sending
        cases taken
        exact .transmit sending
      · cases taken
  | endMain =>
      simp only [nextOf] at taken
      split at taken
      · rename_i sent
        cases taken
        exact .endMain sent
      · cases taken

/-- Two networks agree on everything that belongs to one node. -/
structure SameAt (before after : Net K N) (m : Fin N) : Prop where
  node : after.node m = before.node m
  point : after.point m = before.point m
  completed : after.completed m = before.completed m
  counted : after.counted m = before.counted m
  restarts : after.restarts m = before.restarts m
  received : after.bus.received m = before.bus.received m

/-- An action of one node leaves all other nodes alone. -/
theorem Effect.others
    {overrun : Nat → K → Nat}
    {net after : Net K N}
    {n m : Fin N}
    {does : NodeAction K}
    (effect : Effect overrun net n does after)
    (different : m ≠ n) :
    SameAt net after m := by
  cases effect with
  | command command idle =>
      unfold execute
      dsimp only
      split
      · constructor <;>
          simp [issueRestart, processRestart, beginRun, different]
      · constructor <;> simp [setNode, different]
  | prepare buffer idle =>
      constructor <;> simp [setNode, different]
  | calibrated gainMatrix residualArray atMain =>
      constructor <;> simp [beginRun, different]
  | beginDrain atStart =>
      constructor <;> simp [moveTo, different]
  | @take entry rest draining queued =>
      unfold receive
      split
      · constructor <;>
          simp [processRestart, beginRun, different,
            Bus.take_received_other net.bus different]
      · constructor <;>
          simp [setNode, different,
            Bus.take_received_other net.bus different]
  | endDrain draining drained =>
      constructor <;> simp [moveTo, different]
  | beginMain atMain =>
      unfold startMain
      split
      · constructor <;> simp [moveTo, different]
      · constructor <;> simp [moveTo, setNode, different]
  | transmit sending =>
      constructor <;> simp [sendFrame, moveTo, different]
  | endMain sent =>
      unfold finishMain
      dsimp only
      split
      · constructor <;> simp [moveTo, setNode, different]
      · constructor <;> simp [moveTo, setNode, different]

end Transitions

section Schedules

/-- Freshly calibrated nodes on an idle bus. -/
def idle (N : Nat) : Net ℚ N where
  node := fun n =>
    .calibrated N n (fun i j => if i = j then 2 else 1 / 2)
      (fun _ => 0) 1
  point := fun _ => .readSerial
  bus := .empty
  completed := fun _ => 0
  counted := fun _ => []
  restarts := fun _ => []
  issued := 0

/-- A node drains a number of frames and enters `consensus_main`. -/
def drainAndStart
    {N : Nat}
    (n : Fin N)
    (frames : Nat) : List (Action ℚ N) :=
  ⟨n, .beginDrain⟩ ::
    List.replicate frames ⟨n, .take⟩ ++
      [⟨n, .endDrain⟩, ⟨n, .beginMain⟩]

/-- A node sends a number of frames. -/
def transmitFrames
    {N : Nat}
    (n : Fin N)
    (frames : Nat) : List (Action ℚ N) :=
  List.replicate frames ⟨n, .transmit⟩

end Schedules

end Net

end DistributedLighting
