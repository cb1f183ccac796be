import DistributedLighting.DutyCycleFrames

namespace DistributedLighting

/-!
# The calibration machine of one node

The state machine `CalibrationFSM` and the handlers of the two frames that it
exchanges.  A transition returns the machine and the frames it sends; the state
that drives the LED also returns the LED output.  The clock, the voltage at the
sensor and what lies behind `residualArray` are inputs.
-/

/-- The states of the calibration machine. -/
inductive CalibrationState where
  | calibInit
  | waitReady
  | waitLedOn
  | waitTransient
  deriving Repr, DecidableEq

/-- `pwm[2]`, as the constructor and `resetCalib` set it. -/
def pwm (reading : Nat) : Nat :=
  if reading = 0 then 20 else 240

/-- The transient of the sensor, in microseconds. -/
def transientTime : Nat := 1000000

/-- The members of `CalibrationFSM`. -/
structure CalibrationFSM (K : Type) where
  state : CalibrationState
  nodeLedOn : Int
  luxReadNum : Nat
  luxReads : Nat → K
  lastTransitionTime : BitVec 32
  numNodesReady : Nat
  otherNodeLedOn : Bool
  gainMatrix : Nat → Nat → K
  residualArray : Nat → K
  done : Bool

/-- The registry that all nodes share: node ids by index, and back. -/
structure Registry (N : Nat) where
  nodesList : Nat → Nat
  nodeIndexOnGainMatrix : Nat → Nat
  indexed : ∀ index < N, nodeIndexOnGainMatrix (nodesList index) = index

/-- The frames of the calibration. -/
inductive CalibMessage (K : Type) where
  | calibReady (value : K)
  | calibLedOn

namespace Registry

variable {N : Nat}

/-- Distinct nodes have distinct ids. -/
theorem nodesList_inj
    (registry : Registry N)
    {first second : Nat}
    (firstIn : first < N)
    (secondIn : second < N) :
    registry.nodesList first = registry.nodesList second ↔
      first = second := by
  constructor
  · intro same
    rw [← registry.indexed first firstIn, same,
      registry.indexed second secondIn]
  · intro same
    rw [same]

end Registry

namespace Luminaire

/--
`Luminaire::voltageToLux`, with the library functions `pow(10, ·)` and `log10`
as parameters.
-/
def voltageToLux
    {K : Type}
    [Field K]
    (pow10 log10 : K → K)
    (ldrSlopeM ldrSlopeB voltage : K) : K :=
  let rLDR := 10 * (5 - voltage) / voltage
  pow10 ((log10 rLDR - ldrSlopeB) / ldrSlopeM)

end Luminaire

/-- Conversion of an `int` to the `uint8_t` parameter of `setGain`. -/
def toUint8 (value : Int) : Nat :=
  (value % 256).toNat

namespace CalibrationFSM

variable {K : Type}

/-- `CalibrationFSM::setState` -/
def setState
    (fsm : CalibrationFSM K)
    (state : CalibrationState)
    (now : BitVec 32) : CalibrationFSM K :=
  { fsm with state := state, lastTransitionTime := now }

/-- `CalibrationFSM::incrementNodesReady` -/
def incrementNodesReady (fsm : CalibrationFSM K) : CalibrationFSM K :=
  { fsm with numNodesReady := fsm.numNodesReady + 1 }

/-- `CalibrationFSM::setGain` -/
def setGain
    (fsm : CalibrationFSM K)
    (i j : Nat)
    (gain : K) : CalibrationFSM K :=
  { fsm with
    gainMatrix :=
      Function.update fsm.gainMatrix i
        (Function.update (fsm.gainMatrix i) j gain) }

/-- Store a value in `residualArray`. -/
def setResidual
    (fsm : CalibrationFSM K)
    (index : Nat)
    (value : K) : CalibrationFSM K :=
  { fsm with
    residualArray := Function.update fsm.residualArray index value }

/-- `CalibrationFSM::receivedGainOrResidual`, with the sender's index. -/
def receivedGainOrResidual
    (fsm : CalibrationFSM K)
    (sender : Nat)
    (value : K) : CalibrationFSM K :=
  if fsm.nodeLedOn = -1 then
    fsm.setResidual sender value
  else
    fsm.setGain sender (toUint8 fsm.nodeLedOn) value

section Received

variable [Field K] [LinearOrder K]

/-- `Communication::received` for the frames of the calibration. -/
def received
    (fsm : CalibrationFSM K)
    (sender : Nat) : CalibMessage K → CalibrationFSM K
  | .calibReady gainValue =>
      if gainValue ≥ 0 then
        (fsm.receivedGainOrResidual sender gainValue).incrementNodesReady
      else
        fsm.incrementNodesReady
  | .calibLedOn => { fsm with otherNodeLedOn := true }

end Received

/-- `CalibrationFSM::runStateInit` -/
def runStateInit
    (index : Nat)
    (now : BitVec 32)
    (residualReading : K)
    (fsm : CalibrationFSM K) : CalibrationFSM K × List (CalibMessage K) :=
  ({ (fsm.setResidual index residualReading).incrementNodesReady with
      nodeLedOn := -1 }.setState .waitReady now,
    [.calibReady residualReading])

/-- The next LED and reading, once every node is ready. -/
def advance (fsm : CalibrationFSM K) : CalibrationFSM K :=
  if fsm.nodeLedOn = -1 ∨ fsm.luxReadNum = 2 then
    { fsm with
      numNodesReady := 0
      nodeLedOn := fsm.nodeLedOn + 1
      luxReadNum := 0 }
  else
    { fsm with numNodesReady := 0 }

/-- `CalibrationFSM::runStateWaitReady`: the machine, its LED and what it sends. -/
def runStateWaitReady
    {N : Nat}
    (registry : Registry N)
    (nodeId : Nat)
    (now : BitVec 32)
    (fsm : CalibrationFSM K) :
    CalibrationFSM K × Nat × List (CalibMessage K) :=
  if fsm.numNodesReady = N then
    let fsm := fsm.advance
    if fsm.nodeLedOn ≥ N then
      ({ fsm with done := true }, 0, [])
    else if registry.nodesList fsm.nodeLedOn.toNat = nodeId then
      (fsm.setState .waitTransient now, pwm fsm.luxReadNum, [.calibLedOn])
    else
      (fsm.setState .waitLedOn now, 0, [])
  else
    (fsm, 0, [])

/-- `CalibrationFSM::runStateWaitLedOn` -/
def runStateWaitLedOn
    (now : BitVec 32)
    (fsm : CalibrationFSM K) : CalibrationFSM K :=
  if fsm.otherNodeLedOn then
    { fsm with otherNodeLedOn := false }.setState .waitTransient now
  else
    fsm

section Measure

variable [Field K]

/-- `residualArray[nodeId]`, which is indexed with the id and not with the index. -/
def residualOfId
    (fsm : CalibrationFSM K)
    (nodeId : Nat)
    (stray : K) : K :=
  if nodeId < maxNumNodes then fsm.residualArray nodeId else stray

/-- The machine after it has stored a reading in `luxReads`. -/
def measure
    (fsm : CalibrationFSM K)
    (reading : K) : CalibrationFSM K :=
  { fsm with
    luxReads := Function.update fsm.luxReads fsm.luxReadNum reading
    luxReadNum := fsm.luxReadNum + 1 }

/-- `(luxReads[1] - luxReads[0]) / (pwm[1] - pwm[0])` -/
def computedGain (fsm : CalibrationFSM K) : K :=
  (fsm.luxReads 1 - fsm.luxReads 0) / ((pwm 1 : K) - (pwm 0 : K))

/-- The transient is over. -/
def Elapsed (fsm : CalibrationFSM K) (now : BitVec 32) : Prop :=
  (now - fsm.lastTransitionTime).toNat > transientTime

instance (fsm : CalibrationFSM K) (now : BitVec 32) :
    Decidable (fsm.Elapsed now) :=
  inferInstanceAs (Decidable (_ > _))

/-- `CalibrationFSM::runStateWaitTrasient` -/
def runStateWaitTrasient
    (index nodeId : Nat)
    (now : BitVec 32)
    (lux stray : K)
    (fsm : CalibrationFSM K) : CalibrationFSM K × List (CalibMessage K) :=
  if fsm.Elapsed now then
    let fsm := fsm.measure (lux - fsm.residualOfId nodeId stray)
    if fsm.luxReadNum = 2 then
      let gain := fsm.computedGain
      ((fsm.setGain index (toUint8 fsm.nodeLedOn)
          gain).incrementNodesReady.setState .waitReady now,
        [.calibReady gain])
    else
      (fsm.incrementNodesReady.setState .waitReady now,
        [.calibReady (-1)])
  else
    (fsm, [])

end Measure

/-- `CalibrationFSM::resetCalib`, which leaves `nodeLedOn` as it was. -/
def resetCalib
    [Field K]
    (numTotalNodes : Nat)
    (fsm : CalibrationFSM K) : CalibrationFSM K :=
  { fsm with
    state := .calibInit
    numNodesReady := 0
    luxReadNum := 0
    luxReads := fun _ => 0
    otherNodeLedOn := false
    done := false
    gainMatrix := fun i j =>
      if i < numTotalNodes ∧ j < numTotalNodes then
        0
      else
        fsm.gainMatrix i j
    residualArray := fun i =>
      if i < numTotalNodes then 0 else fsm.residualArray i }

/-- The machine after boot: zeroed memory and the constructor. -/
def boot
    (K : Type)
    [Field K] : CalibrationFSM K where
  state := .calibInit
  nodeLedOn := 0
  luxReadNum := 0
  luxReads := fun _ => 0
  lastTransitionTime := 0
  numNodesReady := 0
  otherNodeLedOn := false
  gainMatrix := fun _ _ => 0
  residualArray := fun _ => 0
  done := false

/-- Booting is a reset of zeroed memory. -/
theorem resetCalib_boot
    [Field K]
    (numTotalNodes : Nat) :
    (boot K).resetCalib numTotalNodes = boot K := by
  simp [resetCalib, boot]

section Received

variable [Field K] [LinearOrder K]

/-- A received `CAN_CALIB_READY` counts once and may store its value. -/
theorem received_calibReady
    (fsm : CalibrationFSM K)
    (sender : Nat)
    (value : K) :
    ∃ gains residuals,
      fsm.received sender (.calibReady value) =
        { fsm with
          numNodesReady := fsm.numNodesReady + 1
          gainMatrix := gains
          residualArray := residuals } := by
  simp only [received]
  by_cases stored : value ≥ 0
  · rw [if_pos stored]
    unfold receivedGainOrResidual
    split
    · exact ⟨fsm.gainMatrix, _, rfl⟩
    · exact ⟨_, fsm.residualArray, rfl⟩
  · rw [if_neg stored]
    exact ⟨fsm.gainMatrix, fsm.residualArray, rfl⟩

end Received

end CalibrationFSM

end DistributedLighting
