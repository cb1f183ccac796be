import DistributedLighting.CalibrationFSM
import DistributedLighting.Runs
import DistributedLighting.TotalOrderBus

namespace DistributedLighting

/-!
# Nodes that calibrate over the CAN bus

Every node repeats `loop()`: it drains its receive queue and runs `mainFSM`,
which enters the calibration after a delay, runs the calibration machine until
it is done and then hands the LED to the controller.  The loop, the clocks and
the readings of the nodes are independent of each other.

The annotations of a frame and the last fields of a network are bookkeeping.
No transition of a node reads them.
-/

/-- A calibration frame, with the number of barriers its sender had passed. -/
structure CalibFrame (K : Type) where
  message : CalibMessage K
  step : Nat

namespace CalibFrame

variable {K : Type}

/-- The step of a `CAN_CALIB_READY`. -/
def readyStep? (frame : CalibFrame K) : Option Nat :=
  match frame.message with
  | .calibReady _ => some frame.step
  | .calibLedOn => none

/-- The step of a `CAN_CALIB_LED_ON`. -/
def ledStep? (frame : CalibFrame K) : Option Nat :=
  match frame.message with
  | .calibReady _ => none
  | .calibLedOn => some frame.step

end CalibFrame

/-- The states of `MainFSM` from the end of the wake-up on. -/
inductive MainState where
  | wakeupWait
  | calibrate
  | run
  deriving Repr, DecidableEq

/-- Where a node is in its main loop. -/
inductive LoopStage where
  | start
  | drain
  | main
  deriving Repr, DecidableEq

/-- How far a node has got with a loop iteration since some event. -/
inductive Progress where
  | none
  | started
  | completed
  deriving Repr, DecidableEq

/--
The globals of one node that take part in the calibration and its place in the
main loop, followed by the bookkeeping about it.
-/
structure CalibNode (K : Type) (N : Nat) where
  fsm : CalibrationFSM K
  led : Nat
  mainState : MainState
  mainTransitionTime : BitVec 32
  stage : LoopStage
  /-- The barriers the node has passed: how often it has left `WaitReady`. -/
  passed : Nat
  /-- The `CAN_CALIB_READY` frames it has counted since its last barrier. -/
  counted : List (Entry (Fin N) (CalibFrame K))
  /-- `nodeLedOn` and `luxReadNum` at every barrier it has passed. -/
  steps : List (Int × Nat)
  /-- The reading of its `CalibInit`. -/
  residual : K
  /-- The gains it has computed, by `nodeLedOn`. -/
  gain : Nat → K
  /-- It has run `runStateWaitReady` since it last entered `WaitReady`. -/
  polled : Bool

/-- All nodes and the bus between them. -/
structure CalibNet (K : Type) (N : Nat) where
  node : Fin N → CalibNode K N
  bus : Bus (Fin N) (CalibFrame K)
  /-- The progress of the second node since the first last entered `WaitTransient`. -/
  progress : Fin N → Fin N → Progress

/-- The inputs of one run of `mainFSM.loop()`. -/
structure MainInput (K : Type) where
  /-- `micros()` -/
  now : BitVec 32
  /-- The voltage at the sensor. -/
  voltage : K
  /-- What lies behind `residualArray`. -/
  stray : K
  /-- The LED output of the controller. -/
  control : Nat

/-- What a run of `mainFSM.loop()` leaves and sends, and whether it entered `WaitTransient`. -/
structure Ran (K : Type) (N : Nat) where
  node : CalibNode K N
  sent : List (CalibMessage K)
  entered : Bool

/-- What a node may do next. -/
inductive NodeStep (K : Type) where
  | beginDrain
  | take
  | endDrain
  | mainLoop (input : MainInput K)

/-- A step of one node. -/
structure CalibAction (K : Type) (N : Nat) where
  node : Fin N
  does : NodeStep K

namespace CalibNode

variable {K : Type} {N : Nat} [Field K]

/-- `CalibInit`: read the residual and broadcast it. -/
def loopInit
    (n : Fin N)
    (now : BitVec 32)
    (reading : K)
    (node : CalibNode K N) : Ran K N :=
  let ran := node.fsm.runStateInit n now reading
  { node := { node with fsm := ran.1, residual := reading, polled := false }
    sent := ran.2
    entered := false }

/-- `WaitReady`: switch the LED off and look at the count. -/
def loopWaitReady
    (registry : Registry N)
    (n : Fin N)
    (now : BitVec 32)
    (node : CalibNode K N) : Ran K N :=
  let ran := node.fsm.runStateWaitReady registry (registry.nodesList n) now
  let looked :=
    { node with
      fsm := ran.1
      led := ran.2.1
      mainState := if ran.1.done then .run else node.mainState
      polled := true }
  if node.fsm.numNodesReady = N then
    { node :=
        { looked with
          passed := node.passed + 1
          counted := []
          steps := node.steps ++ [(ran.1.nodeLedOn, ran.1.luxReadNum)] }
      sent := ran.2.2
      entered := decide (ran.1.state = .waitTransient) }
  else
    { node := looked, sent := ran.2.2, entered := false }

/-- `WaitLedOn`: consume the event. -/
def loopWaitLedOn
    (now : BitVec 32)
    (node : CalibNode K N) : Ran K N :=
  { node := { node with fsm := node.fsm.runStateWaitLedOn now }
    sent := []
    entered := node.fsm.otherNodeLedOn }

/-- `WaitTransient`: measure once the transient is over. -/
def loopWaitTransient
    (registry : Registry N)
    (n : Fin N)
    (now : BitVec 32)
    (lux stray : K)
    (node : CalibNode K N) : Ran K N :=
  let ran :=
    node.fsm.runStateWaitTrasient n (registry.nodesList n) now lux stray
  let waited := { node with fsm := ran.1 }
  if node.fsm.Elapsed now then
    { node :=
        { waited with
          gain :=
            if ran.1.luxReadNum = 2 then
              Function.update node.gain (toUint8 node.fsm.nodeLedOn)
                ran.1.computedGain
            else
              node.gain
          polled := false }
      sent := ran.2
      entered := false }
  else
    { node := waited, sent := ran.2, entered := false }

/-- `mainFSM.loop()` -/
def mainLoop
    (registry : Registry N)
    (voltageToLux : K → K)
    (n : Fin N)
    (input : MainInput K)
    (node : CalibNode K N) : Ran K N :=
  match node.mainState with
  | .wakeupWait =>
      if (input.now - node.mainTransitionTime).toNat > 2000000 then
        { node :=
            { node with
              mainState := .calibrate
              mainTransitionTime := input.now }
          sent := []
          entered := false }
      else
        { node := node, sent := [], entered := false }
  | .calibrate =>
      match node.fsm.state with
      | .calibInit =>
          node.loopInit n input.now (voltageToLux input.voltage)
      | .waitReady => node.loopWaitReady registry n input.now
      | .waitLedOn => node.loopWaitLedOn input.now
      | .waitTransient =>
          node.loopWaitTransient registry n input.now
            (voltageToLux input.voltage) input.stray
  | .run =>
      { node := { node with led := input.control }
        sent := []
        entered := false }

/-- `Communication::received` -/
def receive
    [LinearOrder K]
    (node : CalibNode K N)
    (entry : Entry (Fin N) (CalibFrame K)) : CalibNode K N :=
  { node with
    fsm := node.fsm.received entry.sender entry.frame.message
    counted :=
      if entry.frame.readyStep?.isSome then
        node.counted ++ [entry]
      else
        node.counted }

end CalibNode

namespace CalibNode

variable {K : Type} {N : Nat} [Field K]

/-- The node after it has left `WaitReady` with the given machine and LED output. -/
def passBarrier
    (node : CalibNode K N)
    (fsm : CalibrationFSM K)
    (led : Nat) : CalibNode K N :=
  { node with
    fsm := fsm
    led := led
    mainState := if fsm.done then .run else node.mainState
    polled := true
    passed := node.passed + 1
    counted := []
    steps := node.steps ++ [(fsm.nodeLedOn, fsm.luxReadNum)] }

/-- The machine after a measurement that does not complete a pair of readings. -/
def afterFirst
    (node : CalibNode K N)
    (now : BitVec 32)
    (reading : K) : CalibrationFSM K :=
  (node.fsm.measure reading).incrementNodesReady.setState .waitReady now

/-- The machine after a measurement that completes a pair of readings. -/
def afterSecond
    (node : CalibNode K N)
    (n : Fin N)
    (now : BitVec 32)
    (reading : K) : CalibrationFSM K :=
  ((node.fsm.measure reading).setGain n (toUint8 node.fsm.nodeLedOn)
    (node.fsm.measure reading).computedGain).incrementNodesReady.setState
      .waitReady now

/-- Everything that one run of `mainFSM.loop()` can do, and when. -/
inductive MainCase
    (registry : Registry N)
    (voltageToLux : K → K)
    (n : Fin N)
    (input : MainInput K)
    (node : CalibNode K N) : Ran K N → Prop where
  | waking
      (state : MainState)
      (time : BitVec 32)
      (waiting : node.mainState = .wakeupWait)
      (notRun : state ≠ .run) :
      MainCase registry voltageToLux n input node
        ⟨{ node with mainState := state, mainTransitionTime := time },
          [], false⟩
  | controlled
      (running : node.mainState = .run) :
      MainCase registry voltageToLux n input node
        ⟨{ node with led := input.control }, [], false⟩
  | init
      (calibrating : node.mainState = .calibrate)
      (atInit : node.fsm.state = .calibInit) :
      MainCase registry voltageToLux n input node
        ⟨{ node with
            fsm :=
              (node.fsm.runStateInit n input.now
                (voltageToLux input.voltage)).1
            residual := voltageToLux input.voltage
            polled := false },
          [.calibReady (voltageToLux input.voltage)], false⟩
  | poll
      (calibrating : node.mainState = .calibrate)
      (ready : node.fsm.state = .waitReady)
      (missing : node.fsm.numNodesReady ≠ N) :
      MainCase registry voltageToLux n input node
        ⟨{ node with
            led := 0
            mainState := if node.fsm.done then .run else node.mainState
            polled := true },
          [], false⟩
  | finish
      (calibrating : node.mainState = .calibrate)
      (ready : node.fsm.state = .waitReady)
      (all : node.fsm.numNodesReady = N)
      (last : node.fsm.advance.nodeLedOn ≥ N) :
      MainCase registry voltageToLux n input node
        ⟨node.passBarrier { node.fsm.advance with done := true } 0,
          [], false⟩
  | light
      (calibrating : node.mainState = .calibrate)
      (ready : node.fsm.state = .waitReady)
      (all : node.fsm.numNodesReady = N)
      (more : ¬ node.fsm.advance.nodeLedOn ≥ N)
      (own :
        registry.nodesList node.fsm.advance.nodeLedOn.toNat =
          registry.nodesList n) :
      MainCase registry voltageToLux n input node
        ⟨node.passBarrier
            (node.fsm.advance.setState .waitTransient input.now)
            (pwm node.fsm.advance.luxReadNum),
          [.calibLedOn], true⟩
  | dark
      (calibrating : node.mainState = .calibrate)
      (ready : node.fsm.state = .waitReady)
      (all : node.fsm.numNodesReady = N)
      (more : ¬ node.fsm.advance.nodeLedOn ≥ N)
      (other :
        registry.nodesList node.fsm.advance.nodeLedOn.toNat ≠
          registry.nodesList n) :
      MainCase registry voltageToLux n input node
        ⟨node.passBarrier
            (node.fsm.advance.setState .waitLedOn input.now) 0,
          [], false⟩
  | ignore
      (calibrating : node.mainState = .calibrate)
      (awaiting : node.fsm.state = .waitLedOn)
      (noEvent : node.fsm.otherNodeLedOn = false) :
      MainCase registry voltageToLux n input node ⟨node, [], false⟩
  | consume
      (calibrating : node.mainState = .calibrate)
      (awaiting : node.fsm.state = .waitLedOn)
      (event : node.fsm.otherNodeLedOn = true) :
      MainCase registry voltageToLux n input node
        ⟨{ node with
            fsm :=
              { node.fsm with otherNodeLedOn := false }.setState
                .waitTransient input.now },
          [], true⟩
  | settling
      (calibrating : node.mainState = .calibrate)
      (transient : node.fsm.state = .waitTransient)
      (early : ¬ node.fsm.Elapsed input.now) :
      MainCase registry voltageToLux n input node ⟨node, [], false⟩
  | first
      (reading : K)
      (measured :
        voltageToLux input.voltage -
            node.fsm.residualOfId (registry.nodesList n) input.stray =
          reading)
      (calibrating : node.mainState = .calibrate)
      (transient : node.fsm.state = .waitTransient)
      (elapsed : node.fsm.Elapsed input.now)
      (single : node.fsm.luxReadNum + 1 ≠ 2) :
      MainCase registry voltageToLux n input node
        ⟨{ node with
            fsm := node.afterFirst input.now reading
            polled := false },
          [.calibReady (-1)], false⟩
  | second
      (reading : K)
      (measured :
        voltageToLux input.voltage -
            node.fsm.residualOfId (registry.nodesList n) input.stray =
          reading)
      (calibrating : node.mainState = .calibrate)
      (transient : node.fsm.state = .waitTransient)
      (elapsed : node.fsm.Elapsed input.now)
      (pair : node.fsm.luxReadNum + 1 = 2) :
      MainCase registry voltageToLux n input node
        ⟨{ node with
            fsm := node.afterSecond n input.now reading
            gain :=
              Function.update node.gain (toUint8 node.fsm.nodeLedOn)
                (node.fsm.measure reading).computedGain
            polled := false },
          [.calibReady (node.fsm.measure reading).computedGain], false⟩

/-- Looking at the count in `WaitReady` is one of four cases. -/
theorem mainCase_waitReady
    (registry : Registry N)
    (voltageToLux : K → K)
    (n : Fin N)
    (input : MainInput K)
    {node : CalibNode K N}
    (calibrating : node.mainState = .calibrate)
    (ready : node.fsm.state = .waitReady) :
    MainCase registry voltageToLux n input node
      (node.loopWaitReady registry n input.now) := by
  by_cases all : node.fsm.numNodesReady = N
  · by_cases last : node.fsm.advance.nodeLedOn ≥ N
    · have notTransient : node.fsm.advance.state ≠ .waitTransient := by
        have same : node.fsm.advance.state = .waitReady := by
          unfold CalibrationFSM.advance
          split <;> exact ready
        rw [same]
        decide
      have finished :
          node.loopWaitReady registry n input.now =
            ⟨node.passBarrier { node.fsm.advance with done := true } 0,
              [], false⟩ := by
        simp [loopWaitReady, CalibrationFSM.runStateWaitReady, all, last,
          passBarrier, notTransient]
      rw [finished]
      exact .finish calibrating ready all last
    · by_cases own :
          registry.nodesList node.fsm.advance.nodeLedOn.toNat =
            registry.nodesList n
      · have lit :
            node.loopWaitReady registry n input.now =
              ⟨node.passBarrier
                  (node.fsm.advance.setState .waitTransient input.now)
                  (pwm node.fsm.advance.luxReadNum),
                [.calibLedOn], true⟩ := by
          simp only [loopWaitReady, CalibrationFSM.runStateWaitReady, all,
            last, own, ↓reduceIte]
          rfl
        rw [lit]
        exact .light calibrating ready all last own
      · have unlit :
            node.loopWaitReady registry n input.now =
              ⟨node.passBarrier
                  (node.fsm.advance.setState .waitLedOn input.now) 0,
                [], false⟩ := by
          simp only [loopWaitReady, CalibrationFSM.runStateWaitReady, all,
            last, own, ↓reduceIte]
          rfl
        rw [unlit]
        exact .dark calibrating ready all last own
  · have polled :
        node.loopWaitReady registry n input.now =
          ⟨{ node with
              led := 0
              mainState :=
                if node.fsm.done then .run else node.mainState
              polled := true },
            [], false⟩ := by
      simp [loopWaitReady, CalibrationFSM.runStateWaitReady, all]
    rw [polled]
    exact .poll calibrating ready all

/-- Waiting for the LED is one of two cases. -/
theorem mainCase_waitLedOn
    (registry : Registry N)
    (voltageToLux : K → K)
    (n : Fin N)
    (input : MainInput K)
    {node : CalibNode K N}
    (calibrating : node.mainState = .calibrate)
    (awaiting : node.fsm.state = .waitLedOn) :
    MainCase registry voltageToLux n input node
      (node.loopWaitLedOn input.now) := by
  by_cases event : node.fsm.otherNodeLedOn = true
  · have consumed :
        node.loopWaitLedOn input.now =
          ⟨{ node with
              fsm :=
                { node.fsm with otherNodeLedOn := false }.setState
                  .waitTransient input.now },
            [], true⟩ := by
      simp [loopWaitLedOn, CalibrationFSM.runStateWaitLedOn, event]
    rw [consumed]
    exact .consume calibrating awaiting event
  · rw [Bool.not_eq_true] at event
    have ignored :
        node.loopWaitLedOn input.now = ⟨node, [], false⟩ := by
      simp [loopWaitLedOn, CalibrationFSM.runStateWaitLedOn, event]
    rw [ignored]
    exact .ignore calibrating awaiting event

/-- Waiting for the transient is one of three cases. -/
theorem mainCase_waitTransient
    (registry : Registry N)
    (voltageToLux : K → K)
    (n : Fin N)
    (input : MainInput K)
    {node : CalibNode K N}
    (calibrating : node.mainState = .calibrate)
    (transient : node.fsm.state = .waitTransient) :
    MainCase registry voltageToLux n input node
      (node.loopWaitTransient registry n input.now
        (voltageToLux input.voltage) input.stray) := by
  generalize measured :
    voltageToLux input.voltage -
        node.fsm.residualOfId (registry.nodesList n) input.stray =
      reading
  by_cases elapsed : node.fsm.Elapsed input.now
  · by_cases pair : node.fsm.luxReadNum + 1 = 2
    · have read : (node.fsm.measure reading).luxReadNum = 2 := pair
      have readAfter :
          (node.afterSecond n input.now reading).luxReadNum = 2 :=
        pair
      have complete :
          node.loopWaitTransient registry n input.now
              (voltageToLux input.voltage) input.stray =
            ⟨{ node with
                fsm := node.afterSecond n input.now reading
                gain :=
                  Function.update node.gain (toUint8 node.fsm.nodeLedOn)
                    (node.fsm.measure reading).computedGain
                polled := false },
              [.calibReady (node.fsm.measure reading).computedGain],
              false⟩ := by
        have ran :
            node.fsm.runStateWaitTrasient n (registry.nodesList n)
                input.now (voltageToLux input.voltage) input.stray =
              (node.afterSecond n input.now reading,
                [.calibReady (node.fsm.measure reading).computedGain]) := by
          simp only [CalibrationFSM.runStateWaitTrasient, measured, elapsed,
            read, ↓reduceIte]
          rfl
        simp only [loopWaitTransient, ran, elapsed, readAfter, ↓reduceIte]
        rfl
      rw [complete]
      exact .second reading measured calibrating transient elapsed pair
    · have read : (node.fsm.measure reading).luxReadNum ≠ 2 := pair
      have readAfter :
          (node.afterFirst input.now reading).luxReadNum ≠ 2 :=
        pair
      have incomplete :
          node.loopWaitTransient registry n input.now
              (voltageToLux input.voltage) input.stray =
            ⟨{ node with
                fsm := node.afterFirst input.now reading
                polled := false },
              [.calibReady (-1)], false⟩ := by
        have ran :
            node.fsm.runStateWaitTrasient n (registry.nodesList n)
                input.now (voltageToLux input.voltage) input.stray =
              (node.afterFirst input.now reading, [.calibReady (-1)]) := by
          simp only [CalibrationFSM.runStateWaitTrasient, measured, elapsed,
            read, ↓reduceIte]
          rfl
        simp only [loopWaitTransient, ran, elapsed, readAfter, ↓reduceIte]
      rw [incomplete]
      exact .first reading measured calibrating transient elapsed pair
  · have settling :
        node.loopWaitTransient registry n input.now
            (voltageToLux input.voltage) input.stray =
          ⟨node, [], false⟩ := by
      simp [loopWaitTransient, CalibrationFSM.runStateWaitTrasient, elapsed]
    rw [settling]
    exact .settling calibrating transient elapsed

/-- A run of `mainFSM.loop()` is one of the listed cases. -/
theorem mainCase
    (registry : Registry N)
    (voltageToLux : K → K)
    (n : Fin N)
    (input : MainInput K)
    (node : CalibNode K N) :
    MainCase registry voltageToLux n input node
      (node.mainLoop registry voltageToLux n input) := by
  unfold mainLoop
  split
  · rename_i waiting
    split
    · exact .waking .calibrate input.now waiting (by decide)
    · have notRun : node.mainState ≠ .run := by
        rw [waiting]
        decide
      exact .waking node.mainState node.mainTransitionTime waiting notRun
  · rename_i calibrating
    split
    · rename_i atInit
      exact .init calibrating atInit
    · rename_i ready
      exact mainCase_waitReady registry voltageToLux n input calibrating ready
    · rename_i awaiting
      exact
        mainCase_waitLedOn registry voltageToLux n input calibrating awaiting
    · rename_i transient
      exact
        mainCase_waitTransient registry voltageToLux n input calibrating
          transient
  · rename_i running
    exact .controlled running

end CalibNode

namespace CalibNet

variable {K : Type} {N : Nat}

/-- Broadcast the frames a node sends, with the number of its step. -/
def sendAll
    (bus : Bus (Fin N) (CalibFrame K))
    (n : Fin N)
    (step : Nat)
    (messages : List (CalibMessage K)) : Bus (Fin N) (CalibFrame K) :=
  messages.foldl (fun bus message => bus.broadcast n ⟨message, step⟩) bus

/-- A node starts a loop iteration. -/
def startLoop (net : CalibNet K N) (n : Fin N) : CalibNet K N :=
  { net with
    node :=
      Function.update net.node n { net.node n with stage := .drain }
    progress := fun m k =>
      if k = n ∧ net.progress m k = .none then
        .started
      else
        net.progress m k }

/-- The progress of all nodes when one of them completes a loop iteration. -/
def completedLoop
    (progress : Fin N → Fin N → Progress)
    (n : Fin N) : Fin N → Fin N → Progress :=
  fun m k =>
    if k = n ∧ progress m k = .started then
      .completed
    else
      progress m k

/-- A node completes a loop iteration with what `mainFSM.loop()` has left. -/
def endLoop
    (net : CalibNet K N)
    (n : Fin N)
    (ran : Ran K N) : CalibNet K N where
  node := Function.update net.node n { ran.node with stage := .start }
  bus := sendAll net.bus n ran.node.passed ran.sent
  progress :=
    if ran.entered then
      Function.update (completedLoop net.progress n) n fun _ => .none
    else
      completedLoop net.progress n

section Transitions

variable [Field K] [LinearOrder K]

/-- The transition function of the network. -/
def next
    (registry : Registry N)
    (voltageToLux : K → K)
    (net : CalibNet K N)
    (action : CalibAction K N) : Option (CalibNet K N) :=
  let n := action.node
  let node := net.node n
  match action.does with
  | .beginDrain =>
      if node.stage = .start then some (net.startLoop n) else none
  | .take =>
      match node.stage, net.bus.fifo n with
      | .drain, entry :: _ =>
          some
            { net with
              node := Function.update net.node n (node.receive entry)
              bus := net.bus.take n }
      | _, _ => none
  | .endDrain =>
      match node.stage, net.bus.fifo n with
      | .drain, [] =>
          some
            { net with
              node :=
                Function.update net.node n { node with stage := .main } }
      | _, _ => none
  | .mainLoop input =>
      if node.stage = .main then
        some
          (net.endLoop n (node.mainLoop registry voltageToLux n input))
      else
        none

/-- Everything that a single step can do, and when. -/
inductive Effect
    (registry : Registry N)
    (voltageToLux : K → K)
    (net : CalibNet K N)
    (n : Fin N) : NodeStep K → CalibNet K N → Prop where
  | beginDrain
      (atStart : (net.node n).stage = .start) :
      Effect registry voltageToLux net n .beginDrain (net.startLoop n)
  | take
      {entry : Entry (Fin N) (CalibFrame K)}
      {rest : List (Entry (Fin N) (CalibFrame K))}
      (draining : (net.node n).stage = .drain)
      (queued : net.bus.fifo n = entry :: rest) :
      Effect registry voltageToLux net n .take
        { net with
          node :=
            Function.update net.node n ((net.node n).receive entry)
          bus := net.bus.take n }
  | endDrain
      (draining : (net.node n).stage = .drain)
      (drained : net.bus.fifo n = []) :
      Effect registry voltageToLux net n .endDrain
        { net with
          node :=
            Function.update net.node n
              { net.node n with stage := .main } }
  | mainLoop
      (input : MainInput K)
      (atMain : (net.node n).stage = .main) :
      Effect registry voltageToLux net n (.mainLoop input)
        (net.endLoop n
          ((net.node n).mainLoop registry voltageToLux n input))

/-- A transition has one of the listed effects. -/
theorem effect_of_next
    {registry : Registry N}
    {voltageToLux : K → K}
    {net after : CalibNet K N}
    {action : CalibAction K N}
    (taken : next registry voltageToLux net action = some after) :
    Effect registry voltageToLux net action.node action.does after := by
  obtain ⟨n, does⟩ := action
  cases does with
  | beginDrain =>
      simp only [next] at taken
      split at taken
      · rename_i atStart
        cases taken
        exact .beginDrain atStart
      · cases taken
  | take =>
      simp only [next] at taken
      split at taken
      · rename_i draining queued
        cases taken
        exact .take draining queued
      · cases taken
  | endDrain =>
      simp only [next] at taken
      split at taken
      · rename_i draining drained
        cases taken
        exact .endDrain draining drained
      · cases taken
  | mainLoop input =>
      simp only [next] at taken
      split at taken
      · rename_i atMain
        cases taken
        exact .mainLoop input atMain
      · cases taken

end Transitions

end CalibNet

end DistributedLighting
