import DistributedLighting.DutyCycleFrames

namespace DistributedLighting

/-!
# The consensus object of one node

The state and the operations of `Consensus`, with the globals it reads: the
registry size, the node's calibration row and its luminaire.  Arithmetic is
exact over a field `K`.

`received` writes the entry `posInVector` of `receivedDutyCycle` whenever
`posInVector <= numTotalNodes`.  With seven nodes this reaches one slot past the
array, where the object keeps `numberOfMsgReceived`; what that write leaves in
the counter is the parameter `overrun`.
-/

/-- The states of the consensus machine. -/
inductive ConsensusState where
  | off
  | iterate
  | sendingDutyCycle
  | waitingReciveDutyCycle
  | update
  deriving Repr, DecidableEq

/-- The member `maxIter`, which the source only ever sets to this value. -/
def maxIter : Nat := 50

/-- The members of `Consensus`. -/
structure Consensus (K : Type) where
  dutyCycleAv : Nat → K
  lagrangeMultipliers : Nat → K
  ki : Nat → K
  kiNorm : K
  kinormKiiDiff : K
  liRef : K
  rho : K
  nodeIdx : Nat
  numIter : Nat
  numberOfMsgExpected : Nat
  consensusState : ConsensusState
  dutyCycleBest : Nat → K
  receivedDutyCycle : Nat → K
  numberOfMsgReceived : Nat

/-- The members of `Luminaire` that commands and the consensus share. -/
structure Luminaire (K : Type) where
  occupied : Bool
  luxRef : K
  luxRefAfterConsensus : K
  luxOccupied : K
  luxNonOccupied : K
  cost : K

/-- The global objects of one node that take part in the consensus. -/
structure Firmware (K : Type) where
  numTotalNodes : Nat
  /-- `nodeIndexOnGainMatrix[nodeId]` -/
  nodeIndex : Nat
  gainMatrix : Nat → Nat → K
  residualArray : Nat → K
  luminaire : Luminaire K
  consensus : Consensus K
  /-- `sendingFrame.data` -/
  sendingFrame : FrameData

/-- The consensus object as it is constructed. -/
def Consensus.initial (K : Type) [Field K] : Consensus K where
  dutyCycleAv := fun _ => 0
  lagrangeMultipliers := fun _ => 0
  ki := fun _ => 0
  kiNorm := 0
  kinormKiiDiff := 0
  liRef := 0
  rho := 7 / 100
  nodeIdx := 255
  numIter := 0
  numberOfMsgExpected := 0
  consensusState := .off
  dutyCycleBest := fun _ => 0
  receivedDutyCycle := fun _ => 0
  numberOfMsgReceived := 0

/-- `Consensus::resetConsensus` -/
def Consensus.resetConsensus
    {K : Type}
    [Field K]
    (numTotalNodes : Nat)
    (consensus : Consensus K) : Consensus K :=
  let zeroed := fun (array : Nat → K) i =>
    if i < numTotalNodes then 0 else array i
  { consensus with
    dutyCycleAv := zeroed consensus.dutyCycleAv
    lagrangeMultipliers := zeroed consensus.lagrangeMultipliers
    receivedDutyCycle := zeroed consensus.receivedDutyCycle
    dutyCycleBest := zeroed consensus.dutyCycleBest
    ki := zeroed consensus.ki
    kiNorm := 0
    kinormKiiDiff := 0
    liRef := 0
    rho := 7 / 100
    nodeIdx := 255
    numberOfMsgReceived := 0
    numIter := 0
    consensusState := .off }

/-- A node after `setup()` and a calibration, before its first consensus. -/
def Firmware.calibrated
    {K : Type}
    [Field K]
    (numTotalNodes nodeIndex : Nat)
    (gainMatrix : Nat → Nat → K)
    (residualArray : Nat → K)
    (cost : K) : Firmware K where
  numTotalNodes := numTotalNodes
  nodeIndex := nodeIndex
  gainMatrix := gainMatrix
  residualArray := residualArray
  luminaire :=
    { occupied := false
      luxRef := 30
      luxRefAfterConsensus := 0
      luxOccupied := 100
      luxNonOccupied := 30
      cost := cost }
  consensus := .initial K
  sendingFrame := fun _ => 0

section Iterate

variable {K : Type} [Field K] [LinearOrder K]

/-- `Consensus::multiplyTwoArrays` -/
def multiplyTwoArrays
    (dimention : Nat)
    (array1 array2 : Nat → K) : K :=
  ∑ i ∈ Finset.range dimention, array1 i * array2 i

/-- A gain for a duty cycle in percent, as `Consensus::init` computes it. -/
def percentGain (gain : K) : K :=
  gain * 255 / 100

/-- The largest duty cycle, in percent. -/
def fullDutyCycle (K : Type) [Field K] : K := 100

/-- The initial `costBest`, a large number. -/
def initialCostBest (K : Type) [Field K] : K := 100000

/-- `Consensus::init` -/
def consensusInit (node : Firmware K) : Firmware K :=
  let old := node.consensus
  let size := node.numTotalNodes
  let nodeIdx := node.nodeIndex
  let ki := fun i =>
    if i < size then
      percentGain (node.gainMatrix nodeIdx i)
    else
      old.ki i
  let zeroed := fun (array : Nat → K) i =>
    if i < size then 0 else array i
  let kiNorm := multiplyTwoArrays size ki ki
  { node with
    consensus :=
      { old with
        numberOfMsgExpected := ((size - 1) / 3 + 1) * (size - 1)
        nodeIdx := nodeIdx
        consensusState := .iterate
        numIter := 0
        numberOfMsgReceived := 0
        ki := ki
        dutyCycleBest := zeroed old.dutyCycleBest
        dutyCycleAv := zeroed old.dutyCycleAv
        lagrangeMultipliers := zeroed old.lagrangeMultipliers
        receivedDutyCycle := zeroed old.receivedDutyCycle
        kiNorm := kiNorm
        kinormKiiDiff := kiNorm - ki nodeIdx ^ 2
        liRef := node.luminaire.luxRef } }

/-- `Consensus::evaluate_cost` -/
def evaluateCost (node : Firmware K) (dutyCycleToCheck : Nat → K) : K :=
  let c := node.consensus
  let diff := fun i => dutyCycleToCheck i - c.dutyCycleAv i
  node.luminaire.cost * dutyCycleToCheck c.nodeIdx +
    multiplyTwoArrays node.numTotalNodes c.lagrangeMultipliers diff +
    c.rho / 2 * multiplyTwoArrays node.numTotalNodes diff diff

/-- The share of one entry in the cost. -/
def costShare (node : Firmware K) (vector : Nat → K) (i : Nat) : K :=
  (if i = node.consensus.nodeIdx then node.luminaire.cost * vector i
    else 0) +
    node.consensus.lagrangeMultipliers i *
      (vector i - node.consensus.dutyCycleAv i) +
    node.consensus.rho / 2 *
      ((vector i - node.consensus.dutyCycleAv i) *
        (vector i - node.consensus.dutyCycleAv i))

/-- `Consensus::check_feasibility` -/
def checkFeasibility (node : Firmware K) (dutyCycleToCheck : Nat → K) : Bool :=
  let c := node.consensus
  let tol : K := 1 / 100
  if dutyCycleToCheck c.nodeIdx < 0 - tol then
    false
  else if dutyCycleToCheck c.nodeIdx > 100 + tol then
    false
  else if multiplyTwoArrays node.numTotalNodes dutyCycleToCheck c.ki <
      c.liRef - node.residualArray c.nodeIdx - tol then
    false
  else
    true

/-- Keep the better of the best proposal so far and a feasible candidate. -/
def considerCandidate
    (node : Firmware K)
    (best : (Nat → K) × K)
    (dutyCycleTest : Nat → K) : (Nat → K) × K :=
  if checkFeasibility node dutyCycleTest then
    let cost := evaluateCost node dutyCycleTest
    if cost < best.2 then
      (fun i =>
        if i < node.numTotalNodes then dutyCycleTest i else best.1 i, cost)
    else
      best
  else
    best

/-- The vector `z` of `consensus_iterate`. -/
def iterateZ (node : Firmware K) : Nat → K :=
  let c := node.consensus
  let z := fun i => c.rho * c.dutyCycleAv i - c.lagrangeMultipliers i
  Function.update z c.nodeIdx (z c.nodeIdx - node.luminaire.cost)

/-- The six candidates of `consensus_iterate`, in the order it tries them. -/
def candidates (node : Firmware K) : List (Nat → K) :=
  let c := node.consensus
  let z := iterateZ node
  let zk := multiplyTwoArrays node.numTotalNodes z c.ki
  let residual := node.residualArray c.nodeIdx
  let unconstrained := fun i => 1 / c.rho * z i
  let boundaryLinear := fun i =>
    1 / c.rho * z i -
      c.ki i / c.kiNorm * (residual - c.liRef + 1 / c.rho * zk)
  let linearAnd := fun (offset : K) i =>
    1 / c.rho * z i -
      c.ki i / c.kinormKiiDiff * (residual - c.liRef + offset) +
      c.ki i / (c.rho * c.kinormKiiDiff) *
        (c.ki c.nodeIdx * z c.nodeIdx - zk)
  [unconstrained,
    boundaryLinear,
    Function.update unconstrained c.nodeIdx 0,
    Function.update unconstrained c.nodeIdx 100,
    Function.update (linearAnd 0) c.nodeIdx 0,
    Function.update (linearAnd (100 * c.ki c.nodeIdx)) c.nodeIdx 100]

/-- `Consensus::consensus_iterate` -/
def consensusIterate (node : Firmware K) : Firmware K :=
  let placeholder := fun i =>
    if i < node.numTotalNodes then -1 else node.consensus.dutyCycleBest i
  let best :=
    (candidates node).foldl (considerCandidate node)
      (placeholder, initialCostBest K)
  { node with
    consensus := { node.consensus with dutyCycleBest := best.1 } }

end Iterate

section Main

variable {K : Type} [Field K] [LinearOrder K] [FloorRing K]

/--
`Consensus::consensus_main` up to the last `sendFrame`: the node it leaves and
the frames it broadcasts.
-/
def consensusMainSend (node : Firmware K) : Firmware K × List FrameData :=
  let node :=
    if node.consensus.consensusState = .iterate then
      let iterated := consensusIterate node
      { iterated with
        consensus :=
          { iterated.consensus with consensusState := .sendingDutyCycle } }
    else
      node
  if node.consensus.consensusState = .sendingDutyCycle then
    let sent :=
      sendConsensusDutyCycle node.numTotalNodes
        node.consensus.dutyCycleBest node.sendingFrame
    ({ node with
        sendingFrame := sent.1
        consensus :=
          { node.consensus with
            consensusState := .waitingReciveDutyCycle } },
      sent.2)
  else
    (node, [])

/-- The body of `UPDATE_STATE`. -/
def consensusUpdate (node : Firmware K) : Firmware K :=
  let c := node.consensus
  let size := node.numTotalNodes
  let dutyCycleAv := fun j =>
    if j < size then
      (c.receivedDutyCycle j + c.dutyCycleBest j) /
        ((c.numberOfMsgReceived : K) + 1)
    else
      c.dutyCycleAv j
  let lagrangeMultipliers := fun j =>
    if j < size then
      c.lagrangeMultipliers j + c.rho * (c.dutyCycleBest j - dutyCycleAv j)
    else
      c.lagrangeMultipliers j
  let updated : Consensus K :=
    { c with
      dutyCycleAv := dutyCycleAv
      lagrangeMultipliers := lagrangeMultipliers
      numberOfMsgReceived := 0
      consensusState := .iterate
      numIter := c.numIter + 1
      receivedDutyCycle := fun i =>
        if i < size then 0 else c.receivedDutyCycle i }
  if updated.numIter = maxIter then
    { node with
      consensus :=
        { updated with
          consensusState := .off
          numIter := 0
          numberOfMsgReceived := 0 }
      luminaire :=
        { node.luminaire with
          luxRefAfterConsensus :=
            multiplyTwoArrays size c.dutyCycleBest c.ki +
              node.residualArray c.nodeIdx } }
  else
    { node with consensus := updated }

/-- `Consensus::consensus_main` after the last `sendFrame`. -/
def consensusMainWait (node : Firmware K) : Firmware K :=
  let node :=
    if node.consensus.consensusState = .waitingReciveDutyCycle ∧
        node.consensus.numberOfMsgReceived =
          node.consensus.numberOfMsgExpected then
      { node with
        consensus := { node.consensus with consensusState := .update } }
    else
      node
  if node.consensus.consensusState = .update then
    consensusUpdate node
  else
    node

/-- `Consensus::consensus_main`: the node it leaves and the frames it broadcasts. -/
def consensusMain (node : Firmware K) : Firmware K × List FrameData :=
  let sent := consensusMainSend node
  (consensusMainWait sent.1, sent.2)

/-- One pass of the loop over a received triple. -/
def receiveEntry
    (overrun : Nat → K → Nat)
    (numTotalNodes : Nat)
    (data : FrameData)
    (c : Consensus K)
    (i : Nat) : Consensus K :=
  let position := posInVector data i
  if position ≤ numTotalNodes then
    let value : K := entryValue data i
    if position < maxNumNodes then
      { c with
        receivedDutyCycle :=
          Function.update c.receivedDutyCycle position
            (c.receivedDutyCycle position + value) }
    else
      { c with
        numberOfMsgReceived := overrun c.numberOfMsgReceived value }
  else
    c

/-- `Communication::received` for `CAN_CONSENSUS`. -/
def receivedConsensus
    (overrun : Nat → K → Nat)
    (data : FrameData)
    (node : Firmware K) : Firmware K :=
  let c :=
    [0, 1, 2].foldl
      (receiveEntry overrun node.numTotalNodes data) node.consensus
  { node with
    consensus :=
      { c with numberOfMsgReceived := c.numberOfMsgReceived + 1 } }

end Main

section Commands

variable {K : Type} [Field K] [LinearOrder K]

/-- The commands of `executeCommand` that can restart the consensus. -/
inductive SetCommand (K : Type) where
  | O (value : K)
  | U (value : K)
  | c (value : K)
  | o (value : Nat)

/-- `Luminaire::setOccupied` -/
def Luminaire.setOccupied
    (luminaire : Luminaire K)
    (occupied : Bool) : Luminaire K :=
  { luminaire with
    occupied := occupied
    luxRef :=
      if occupied then luminaire.luxOccupied else luminaire.luxNonOccupied }

/--
The `O`, `U`, `c` and `o` branches of `SerialComm::executeCommand`: the node
after the command and whether it called `sendDoConsensus()` and
`consensus.init()`.
-/
def executeCommand
    (node : Firmware K) :
    SetCommand K → Firmware K × Bool
  | .O value =>
      if node.luminaire.luxOccupied ≠ value then
        let luminaire := { node.luminaire with luxOccupied := value }
        if luminaire.occupied = true then
          (consensusInit
            { node with luminaire := { luminaire with luxRef := value } },
            true)
        else
          ({ node with luminaire := luminaire }, false)
      else
        (node, false)
  | .U value =>
      if node.luminaire.luxNonOccupied ≠ value then
        let luminaire := { node.luminaire with luxNonOccupied := value }
        if luminaire.occupied = false then
          (consensusInit
            { node with luminaire := { luminaire with luxRef := value } },
            true)
        else
          ({ node with luminaire := luminaire }, false)
      else
        (node, false)
  | .c value =>
      if node.luminaire.cost ≠ value then
        (consensusInit
          { node with luminaire := { node.luminaire with cost := value } },
          true)
      else
        (node, false)
  | .o value =>
      let receivedOccupiedState := decide (value = 1)
      if receivedOccupiedState ≠ node.luminaire.occupied then
        (consensusInit
          { node with
            luminaire := node.luminaire.setOccupied receivedOccupiedState },
          true)
      else
        (node, false)

end Commands

/-- `Luminaire::resetLuminaire`, which keeps the cost. -/
def Luminaire.resetLuminaire
    {K : Type}
    [Field K]
    (luminaire : Luminaire K) : Luminaire K :=
  { luminaire with
    luxRefAfterConsensus := 0
    luxOccupied := 100
    luxNonOccupied := 30 }.setOccupied false

/-- `Luminaire::init` and the initial values of its members. -/
def Luminaire.boot
    {K : Type}
    [Field K]
    (cost : K) : Luminaire K :=
  { occupied := false
    luxRef := 0
    luxRefAfterConsensus := 0
    luxOccupied := 100
    luxNonOccupied := 30
    cost := cost : Luminaire K }.setOccupied false

section Effects

variable {K : Type} [Field K]

/-- What a freshly initialised consensus looks like to the protocol. -/
theorem consensusInit_fresh (node : Firmware K) :
    (consensusInit node).numTotalNodes = node.numTotalNodes ∧
      (consensusInit node).consensus.consensusState = .iterate ∧
      (consensusInit node).consensus.numIter = 0 ∧
      (consensusInit node).consensus.numberOfMsgReceived = 0 ∧
      (consensusInit node).consensus.numberOfMsgExpected =
        numMessages node.numTotalNodes * (node.numTotalNodes - 1) :=
  ⟨rfl, rfl, rfl, rfl, rfl⟩

/-- A command either restarts the consensus or only changes the luminaire. -/
theorem executeCommand_cases
    [LinearOrder K]
    (node : Firmware K)
    (command : SetCommand K) :
    ∃ luminaire,
      executeCommand node command =
          (consensusInit { node with luminaire := luminaire }, true) ∨
        executeCommand node command =
          ({ node with luminaire := luminaire }, false) := by
  cases command with
  | O value =>
      by_cases changed : node.luminaire.luxOccupied ≠ value
      · by_cases occupied : node.luminaire.occupied = true
        · exact ⟨_, .inl (by simp [executeCommand, changed, occupied]; rfl)⟩
        · exact ⟨_, .inr (by simp [executeCommand, changed, occupied]; rfl)⟩
      · exact ⟨node.luminaire, .inr (by simp [executeCommand, changed])⟩
  | U value =>
      by_cases changed : node.luminaire.luxNonOccupied ≠ value
      · by_cases occupied : node.luminaire.occupied = false
        · exact ⟨_, .inl (by simp [executeCommand, changed, occupied]; rfl)⟩
        · exact ⟨_, .inr (by simp [executeCommand, changed, occupied]; rfl)⟩
      · exact ⟨node.luminaire, .inr (by simp [executeCommand, changed])⟩
  | c value =>
      by_cases changed : node.luminaire.cost ≠ value
      · exact ⟨_, .inl (by simp [executeCommand, changed]; rfl)⟩
      · exact ⟨node.luminaire, .inr (by simp [executeCommand, changed])⟩
  | o value =>
      by_cases changed : decide (value = 1) ≠ node.luminaire.occupied
      · exact ⟨_, .inl (by simp only [executeCommand, if_pos changed]; rfl)⟩
      · exact
          ⟨node.luminaire, .inr (by simp only [executeCommand, if_neg changed])⟩

theorem consensusInit_receivedDutyCycle
    (node : Firmware K)
    {slot : Nat}
    (inVector : slot < node.numTotalNodes) :
    (consensusInit node).consensus.receivedDutyCycle slot = 0 := by
  simp [consensusInit, inVector]

/-- Iterating only replaces the proposal. -/
theorem consensusIterate_eq
    [LinearOrder K]
    (node : Firmware K) :
    ∃ proposal,
      consensusIterate node =
        { node with
          consensus :=
            { node.consensus with dutyCycleBest := proposal } } :=
  ⟨_, rfl⟩

/-- A node that has a proposal to send, computed before or now, sends it and waits. -/
theorem consensusMainSend_of_proposing
    [LinearOrder K] [FloorRing K]
    {node : Firmware K}
    (proposing :
      node.consensus.consensusState = .iterate ∨
        node.consensus.consensusState = .sendingDutyCycle) :
    ∃ proposal buffer,
      consensusMainSend node =
        ({ node with
            sendingFrame := buffer
            consensus :=
              { node.consensus with
                dutyCycleBest := proposal
                consensusState := .waitingReciveDutyCycle } },
          (sendConsensusDutyCycle node.numTotalNodes proposal
            node.sendingFrame).2) := by
  rcases proposing with iterating | sending
  · obtain ⟨proposal, iterated⟩ := consensusIterate_eq node
    refine
      ⟨proposal,
        (sendConsensusDutyCycle node.numTotalNodes proposal
          node.sendingFrame).1, ?_⟩
    simp [consensusMainSend, iterating, iterated]
  · refine
      ⟨node.consensus.dutyCycleBest,
        (sendConsensusDutyCycle node.numTotalNodes
          node.consensus.dutyCycleBest node.sendingFrame).1, ?_⟩
    simp [consensusMainSend, sending]

/-- While waiting, the first half of `consensus_main` does nothing. -/
theorem consensusMainSend_of_waiting
    [LinearOrder K] [FloorRing K]
    {node : Firmware K}
    (waiting :
      node.consensus.consensusState = .waitingReciveDutyCycle) :
    consensusMainSend node = (node, []) := by
  simp [consensusMainSend, waiting]

/-- While waiting, `consensus_main` only looks at the count. -/
theorem consensusMain_of_waiting
    [LinearOrder K] [FloorRing K]
    {node : Firmware K}
    (waiting :
      node.consensus.consensusState = .waitingReciveDutyCycle) :
    (consensusMain node).1 = consensusMainWait node := by
  simp [consensusMain, consensusMainSend_of_waiting waiting]

/-- With the awaited count of messages the node enters `UPDATE_STATE`. -/
theorem consensusMainWait_of_full
    {node : Firmware K}
    (waiting :
      node.consensus.consensusState = .waitingReciveDutyCycle)
    (full :
      node.consensus.numberOfMsgReceived =
        node.consensus.numberOfMsgExpected) :
    consensusMainWait node =
      consensusUpdate
        { node with
          consensus := { node.consensus with consensusState := .update } } := by
  simp [consensusMainWait, waiting, full]

/-- With any other count it keeps waiting. -/
theorem consensusMainWait_of_not_full
    {node : Firmware K}
    (waiting :
      node.consensus.consensusState = .waitingReciveDutyCycle)
    (notFull :
      node.consensus.numberOfMsgReceived ≠
        node.consensus.numberOfMsgExpected) :
    consensusMainWait node = node := by
  simp [consensusMainWait, waiting, notFull]

/-- The update counts an iteration and clears the exchange. -/
theorem consensusUpdate_next
    (node : Firmware K)
    (more : node.consensus.numIter + 1 ≠ maxIter) :
    (consensusUpdate node).consensus.consensusState = .iterate ∧
      (consensusUpdate node).consensus.numIter =
        node.consensus.numIter + 1 := by
  simp [consensusUpdate, more]

/-- After `maxIter` iterations the node switches off. -/
theorem consensusUpdate_last
    {node : Firmware K}
    (last : node.consensus.numIter + 1 = maxIter) :
    (consensusUpdate node).consensus.consensusState = .off ∧
      (consensusUpdate node).consensus.numIter = 0 := by
  simp [consensusUpdate, last]

/-- Either way the node no longer waits. -/
theorem consensusUpdate_not_waiting (node : Firmware K) :
    (consensusUpdate node).consensus.consensusState ≠
      .waitingReciveDutyCycle := by
  by_cases last : node.consensus.numIter + 1 = maxIter
  · simp [consensusUpdate_last last]
  · simp [consensusUpdate_next node last]

/-- Either way the exchange starts again from zero. -/
theorem consensusUpdate_cleared (node : Firmware K) :
    (consensusUpdate node).numTotalNodes = node.numTotalNodes ∧
      (consensusUpdate node).consensus.numberOfMsgReceived = 0 ∧
      (consensusUpdate node).consensus.numberOfMsgExpected =
        node.consensus.numberOfMsgExpected ∧
      ∀ slot < node.numTotalNodes,
        (consensusUpdate node).consensus.receivedDutyCycle slot = 0 := by
  by_cases last : node.consensus.numIter + 1 = maxIter <;>
    simp +contextual [consensusUpdate, last]

/-- The average that `UPDATE_STATE` computes. -/
theorem consensusUpdate_dutyCycleAv
    (node : Firmware K)
    {slot : Nat}
    (inVector : slot < node.numTotalNodes) :
    (consensusUpdate node).consensus.dutyCycleAv slot =
      (node.consensus.receivedDutyCycle slot +
          node.consensus.dutyCycleBest slot) /
        ((node.consensus.numberOfMsgReceived : K) + 1) := by
  by_cases last : node.consensus.numIter + 1 = maxIter <;>
    simp [consensusUpdate, last, inVector]

/-- One received position, as long as the registry leaves a free slot. -/
theorem receiveEntry_within
    (overrun : Nat → K → Nat)
    {numTotalNodes : Nat}
    (spare : numTotalNodes < maxNumNodes)
    (data : FrameData)
    (c : Consensus K)
    (i : Nat) :
    receiveEntry overrun numTotalNodes data c i =
      { c with
        receivedDutyCycle := fun slot =>
          c.receivedDutyCycle slot +
            if posInVector data i ≤ numTotalNodes ∧
                posInVector data i = slot then
              entryValue data i
            else
              0 } := by
  unfold receiveEntry
  by_cases stored : posInVector data i ≤ numTotalNodes
  · have inside : posInVector data i < maxNumNodes := by omega
    simp only [stored, inside, ↓reduceIte, true_and]
    congr 1
    funext slot
    by_cases here : posInVector data i = slot
    · subst slot
      simp
    · have elsewhere : slot ≠ posInVector data i := fun h => here h.symm
      simp [here, elsewhere]
  · simp [stored]

/-- Replace what the consensus has received and counted. -/
def Firmware.setReceived
    (node : Firmware K)
    (received : Nat → K)
    (count : Nat) : Firmware K :=
  { node with
    consensus :=
      { node.consensus with
        receivedDutyCycle := received
        numberOfMsgReceived := count } }

/-- Count some frames and add what they carry to the received vector. -/
def Firmware.collect
    (node : Firmware K)
    (amount : Nat → K)
    (count : Nat) : Firmware K :=
  node.setReceived
    (fun slot => node.consensus.receivedDutyCycle slot + amount slot)
    (node.consensus.numberOfMsgReceived + count)

/-- Receiving a frame only touches the received vector and the counter. -/
theorem receivedConsensus_eq
    (overrun : Nat → K → Nat)
    (data : FrameData)
    (node : Firmware K) :
    ∃ received count,
      receivedConsensus overrun data node =
        node.setReceived received count := by
  have entry :
      ∀ (c : Consensus K) (i : Nat),
        ∃ received count,
          receiveEntry overrun node.numTotalNodes data c i =
            { c with
              receivedDutyCycle := received
              numberOfMsgReceived := count } := by
    intro c i
    unfold receiveEntry
    by_cases stored : posInVector data i ≤ node.numTotalNodes
    · by_cases inside : posInVector data i < maxNumNodes
      · refine ⟨?_, c.numberOfMsgReceived, ?_⟩
        · exact
            Function.update c.receivedDutyCycle (posInVector data i)
              (c.receivedDutyCycle (posInVector data i) +
                entryValue data i)
        · simp [stored, inside]
      · refine
          ⟨c.receivedDutyCycle,
            overrun c.numberOfMsgReceived (entryValue data i), ?_⟩
        simp [stored, inside]
    · exact
        ⟨c.receivedDutyCycle, c.numberOfMsgReceived, by simp [stored]⟩
  obtain ⟨received0, count0, first⟩ := entry node.consensus 0
  obtain ⟨received1, count1, second⟩ :=
    entry (receiveEntry overrun node.numTotalNodes data node.consensus 0) 1
  obtain ⟨received2, count2, third⟩ :=
    entry
      (receiveEntry overrun node.numTotalNodes data
        (receiveEntry overrun node.numTotalNodes data node.consensus 0) 1) 2
  refine ⟨received2, count2 + 1, ?_⟩
  unfold receivedConsensus Firmware.setReceived
  simp only [List.foldl_cons, List.foldl_nil, third]
  simp only [second]
  simp only [first]

/-- What has been received so far plays no role in what a node proposes and sends. -/
theorem consensusMainSend_setReceived
    [LinearOrder K] [FloorRing K]
    (node : Firmware K)
    (received : Nat → K)
    (count : Nat) :
    consensusMainSend (node.setReceived received count) =
      ((consensusMainSend node).1.setReceived received count,
        (consensusMainSend node).2) := by
  have iterated :
      consensusIterate (node.setReceived received count) =
        (consensusIterate node).setReceived received count :=
    rfl
  have state :
      (node.setReceived received count).consensus.consensusState =
        node.consensus.consensusState :=
    rfl
  unfold consensusMainSend
  rw [iterated, state]
  by_cases iterating : node.consensus.consensusState = .iterate
  · simp [iterating, Firmware.setReceived]
  · by_cases sending :
        node.consensus.consensusState = .sendingDutyCycle
    · simp [sending, Firmware.setReceived]
    · simp [iterating, sending, Firmware.setReceived]

@[simp] theorem collect_numTotalNodes
    (node : Firmware K)
    (amount : Nat → K)
    (count : Nat) :
    (node.collect amount count).numTotalNodes = node.numTotalNodes := rfl

@[simp] theorem collect_receivedDutyCycle
    (node : Firmware K)
    (amount : Nat → K)
    (count : Nat)
    (slot : Nat) :
    (node.collect amount count).consensus.receivedDutyCycle slot =
      node.consensus.receivedDutyCycle slot + amount slot := rfl

@[simp] theorem collect_numberOfMsgReceived
    (node : Firmware K)
    (amount : Nat → K)
    (count : Nat) :
    (node.collect amount count).consensus.numberOfMsgReceived =
      node.consensus.numberOfMsgReceived + count := rfl

theorem collect_zero (node : Firmware K) :
    node.collect (fun _ => 0) 0 = node := by
  simp [Firmware.collect, Firmware.setReceived]

theorem collect_collect
    (node : Firmware K)
    (first second : Nat → K)
    (earlier later : Nat) :
    (node.collect first earlier).collect second later =
      node.collect (fun slot => first slot + second slot)
        (earlier + later) := by
  simp [Firmware.collect, Firmware.setReceived, add_assoc]

/--
Receiving a frame counts it and adds its contributions, as long as the registry
leaves a free slot.
-/
theorem receivedConsensus_within
    (overrun : Nat → K → Nat)
    (data : FrameData)
    {node : Firmware K}
    (spare : node.numTotalNodes < maxNumNodes) :
    receivedConsensus overrun data node =
      node.collect (contribution node.numTotalNodes data) 1 := by
  unfold receivedConsensus Firmware.collect Firmware.setReceived contribution
  simp only [List.foldl_cons, List.foldl_nil,
    receiveEntry_within overrun spare, List.map_cons, List.map_nil,
    List.sum_cons, List.sum_nil]
  congr 2
  funext slot
  ring

end Effects

section Gains

variable {K : Type} {node after : Firmware K}

/-- The gains, and what `Consensus::init` made of them. -/
structure SameGains (node after : Firmware K) : Prop where
  numTotalNodes : after.numTotalNodes = node.numTotalNodes
  nodeIndex : after.nodeIndex = node.nodeIndex
  gainMatrix : after.gainMatrix = node.gainMatrix
  nodeIdx : after.consensus.nodeIdx = node.consensus.nodeIdx
  ki : after.consensus.ki = node.consensus.ki
  kiNorm : after.consensus.kiNorm = node.consensus.kiNorm
  kinormKiiDiff :
    after.consensus.kinormKiiDiff = node.consensus.kinormKiiDiff
  rho : after.consensus.rho = node.consensus.rho

theorem SameGains.refl (node : Firmware K) : SameGains node node :=
  ⟨rfl, rfl, rfl, rfl, rfl, rfl, rfl, rfl⟩

theorem SameGains.trans
    {middle : Firmware K}
    (first : SameGains node middle)
    (second : SameGains middle after) :
    SameGains node after where
  numTotalNodes := second.numTotalNodes.trans first.numTotalNodes
  nodeIndex := second.nodeIndex.trans first.nodeIndex
  gainMatrix := second.gainMatrix.trans first.gainMatrix
  nodeIdx := second.nodeIdx.trans first.nodeIdx
  ki := second.ki.trans first.ki
  kiNorm := second.kiNorm.trans first.kiNorm
  kinormKiiDiff := second.kinormKiiDiff.trans first.kinormKiiDiff
  rho := second.rho.trans first.rho

variable [Field K]

/-- The update does not touch the gains. -/
theorem sameGains_consensusUpdate (node : Firmware K) :
    SameGains node (consensusUpdate node) := by
  by_cases last : node.consensus.numIter + 1 = maxIter <;>
    constructor <;> simp [consensusUpdate, last]

theorem sameGains_consensusMainWait (node : Firmware K) :
    SameGains node (consensusMainWait node) := by
  unfold consensusMainWait
  dsimp only
  split
  · rw [if_pos rfl]
    refine .trans ?_ (sameGains_consensusUpdate _)
    exact ⟨rfl, rfl, rfl, rfl, rfl, rfl, rfl, rfl⟩
  · split
    · exact sameGains_consensusUpdate node
    · exact .refl node

/-- Neither does any other part of `consensus_main`. -/
theorem sameGains_consensusMain
    [LinearOrder K] [FloorRing K]
    (node : Firmware K) :
    SameGains node (consensusMain node).1 := by
  refine .trans ?_ (sameGains_consensusMainWait (consensusMainSend node).1)
  by_cases proposing :
      node.consensus.consensusState = .iterate ∨
        node.consensus.consensusState = .sendingDutyCycle
  · obtain ⟨proposal, buffer, sent⟩ := consensusMainSend_of_proposing proposing
    rw [sent]
    exact ⟨rfl, rfl, rfl, rfl, rfl, rfl, rfl, rfl⟩
  · rw [not_or] at proposing
    unfold consensusMainSend
    rw [if_neg proposing.1, if_neg proposing.2]
    exact .refl node

end Gains

end DistributedLighting
