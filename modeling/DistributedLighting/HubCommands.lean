import DistributedLighting.NodeRegistry
import DistributedLighting.Runs
import DistributedLighting.SerialStream

namespace DistributedLighting

/-!
# The commands of the PC at the hub

`SerialComm` answers a command itself, passes it on to one node, or asks all
nodes and adds their results.  A response that arrives carries no mark of the
command that it answers: whether it is passed on or added depends on what the
commands before have left in `runningTotalCommand`.
-/

/-- The union `FloatTo4Bytes`: the float that 32 bits stand for, and back. -/
structure FloatTo4Bytes (K : Type) where
  floatValue : BitVec 32 → K
  value : K → BitVec 32

/--
Single-precision floats as multiples of the smallest one, `2 ^ -149`: what the
union does with finite floats, and with sums that are floats again.
-/
def singlePrecision : FloatTo4Bytes Int where
  floatValue value :=
    let exponent : Nat := value.toNat / 2 ^ 23 % 2 ^ 8
    let fraction : Nat := value.toNat % 2 ^ 23
    let magnitude : Nat :=
      if exponent = 0 then
        fraction
      else
        (2 ^ 23 + fraction) * 2 ^ (exponent - 1)
    if value.toNat < 2 ^ 31 then magnitude else -(magnitude : Int)
  value float :=
    let shift : Nat := float.natAbs.log2 - 23
    let sign : Nat := if float < 0 then 2 ^ 31 else 0
    BitVec.ofNat 32
      (sign + shift * 2 ^ 23 + float.natAbs / 2 ^ shift)

/-- The union on the numbers themselves. -/
def rationalSingle : FloatTo4Bytes ℚ where
  floatValue value := (singlePrecision.floatValue value : ℚ) / 2 ^ 149
  value float := singlePrecision.value ⌊float * 2 ^ 149⌋

/-- The members of `Command`. -/
structure Command where
  cmd : Byte
  destination : Byte
  value : BitVec 32
  deriving DecidableEq

/-- `Command('D', 0, ' ')`, the answer of the PC to a discovery. -/
def discoveryAnswer : Command where
  cmd := byteOf 'D'
  destination := 0
  value := 32

/-- The members of `SerialComm`. -/
structure SerialComm (K : Type) where
  numNodesWaitingResult : BitVec 8
  runningTotalCommand : Bool
  totalCommandResult : K
  pcDiscoveryHadResponse : Bool

/-- The objects of one node that take part in commands. -/
structure HubNode (K : Type) where
  glob : Glob
  serialComm : SerialComm K

/-- The CAN frames, by what they mean to the commands. -/
inductive CanMessage where
  | wakeupBroadcast
  | isHubNode
  | noLongerIsHubNode
  | frequentData (data0 data1 data2 data3 : Byte)
  | commandsRequest (command : Command)
  | commandsResponse (value : BitVec 32)
  /-- The frames of the calibration and of the consensus. -/
  | other
  deriving DecidableEq

/-- The node after a handler, what it wrote to the PC and what it sent, by destination. -/
structure Outcome (K : Type) where
  node : HubNode K
  serial : List Message
  can : List (Nat × CanMessage)

/-- What a hub reacts to: a command of the PC, a CAN frame, and the discovery timer. -/
inductive HubEvent where
  | command (command : Command) (reading : BitVec 32)
  | frame (sender : Nat) (reading : BitVec 32) (message : CanMessage)
  | discovery

/-- `SerialComm::resetSerialComm` -/
def SerialComm.resetSerialComm
    {K : Type}
    [Zero K]
    (serialComm : SerialComm K) : SerialComm K :=
  { serialComm with
    numNodesWaitingResult := 0
    runningTotalCommand := false
    totalCommandResult := 0 }

/-- `SerialComm::sendListNodesToPC`; `numTotalNodes` is one byte. -/
def Glob.sendListNodesToPC (glob : Glob) : List Message :=
  if fits : (glob.listed.map (BitVec.ofNat 8)).length < 256 then
    [.listNodes (glob.listed.map (BitVec.ofNat 8)) fits]
  else
    []

/-- The list that `registerNewNode` sends at a hub. -/
def Glob.announce (glob : Glob) : List Message :=
  if glob.nodeId = glob.hubNode then glob.sendListNodesToPC else []

namespace HubNode

variable {K : Type}

/-- `SerialComm::executeCommand` sets, asks or starts something else for these commands. -/
def acknowledged (cmd : Byte) : Bool :=
  cmd = byteOf 'O' ∨ cmd = byteOf 'U' ∨ cmd = byteOf 'c' ∨ cmd = byteOf 'o'

/--
`SerialComm::executeCommand`: the value it returns and the node it leaves.  The
variable that a get command reads is the input `reading`.
-/
def executeCommand
    [Zero K]
    (node : HubNode K)
    (command : Command)
    (reading : BitVec 32) : BitVec 32 × HubNode K × List Message :=
  if command.cmd = byteOf 'g' then
    (reading, node, [])
  else if acknowledged command.cmd then
    (1, node, [])
  else if command.cmd = byteOf 'r' then
    (1,
      { glob := node.glob.resetGlob
        serialComm := node.serialComm.resetSerialComm },
      node.glob.resetGlob.announce)
  else
    (0, node, [])

/-- `numNodesWaitingResult = numTotalNodes - 1` and `runningTotalCommand = true` -/
def countNodes (node : HubNode K) : HubNode K :=
  { node with
    serialComm :=
      { node.serialComm with
        numNodesWaitingResult := BitVec.ofNat 8 node.glob.numTotalNodes - 1
        runningTotalCommand := true } }

/-- Store the first result of a total command. -/
def storeResult
    (node : HubNode K)
    (result : K) : HubNode K :=
  { node with
    serialComm := { node.serialComm with totalCommandResult := result } }

/-- Add a further result and count it. -/
def addResult
    [Add K]
    (node : HubNode K)
    (result : K) : HubNode K :=
  { node with
    serialComm :=
      { node.serialComm with
        totalCommandResult := node.serialComm.totalCommandResult + result
        numNodesWaitingResult :=
          node.serialComm.numNodesWaitingResult - 1 } }

/-- `runningTotalCommand = false` -/
def stopTotal (node : HubNode K) : HubNode K :=
  { node with
    serialComm := { node.serialComm with runningTotalCommand := false } }

section Totals

variable (union : FloatTo4Bytes K)

/-- `SerialComm::sendTotalIfAllValueForTotalReceived` -/
def sendTotalIfAllValueForTotalReceived
    (node : HubNode K) : HubNode K × List Message :=
  if node.serialComm.numNodesWaitingResult = 0 then
    (node.stopTotal,
      [.response (union.value node.serialComm.totalCommandResult)])
  else
    (node, [])

/-- `SerialComm::receivedCommandResponseFromCAN` -/
def receivedCommandResponseFromCAN
    [Add K]
    (node : HubNode K)
    (value : BitVec 32) : HubNode K × List Message :=
  if node.serialComm.runningTotalCommand = false then
    (node, [.response value])
  else
    (node.addResult (union.floatValue value)).sendTotalIfAllValueForTotalReceived
      union

/-- The command of destination 0 in `SerialComm::readSerial`. -/
def readTotalCommand
    [Zero K]
    (node : HubNode K)
    (command : Command)
    (reading : BitVec 32) : Outcome K :=
  let executed := node.countNodes.executeCommand command reading
  let stored := executed.2.1.storeResult (union.floatValue executed.1)
  let sent := stored.sendTotalIfAllValueForTotalReceived union
  { node := sent.1
    serial := executed.2.2 ++ sent.2
    can := [(0, .commandsRequest command)] }

/-- The answer of the PC to a discovery. -/
def readDiscoveryAnswer (node : HubNode K) : Outcome K :=
  let heard :=
    { node with
      serialComm :=
        { node.serialComm with pcDiscoveryHadResponse := true } }
  if node.glob.hubNode = node.glob.nodeId then
    { node := heard, serial := [], can := [] }
  else
    { node :=
        { heard with
          glob := { node.glob with hubNode := node.glob.nodeId } }
      serial := node.glob.sendListNodesToPC
      can := [(0, .isHubNode)] }

/-- One command in `SerialComm::readSerial`. -/
def readCommand
    [Zero K]
    (node : HubNode K)
    (command : Command)
    (reading : BitVec 32) : Outcome K :=
  if command.cmd = byteOf 'D' then
    node.readDiscoveryAnswer
  else if command.destination = 0 then
    node.readTotalCommand union command reading
  else if command.destination.toNat = node.glob.nodeId then
    let executed := node.executeCommand command reading
    { node := executed.2.1
      serial := executed.2.2 ++ [.response executed.1]
      can := [] }
  else if node.glob.checkIfNodeExists command.destination.toNat then
    { node := node
      serial := []
      can := [(command.destination.toNat, .commandsRequest command)] }
  else
    { node := node, serial := [], can := [] }

/-- `Communication::received` -/
def received
    [Zero K] [Add K]
    (node : HubNode K)
    (sender : Nat)
    (reading : BitVec 32) : CanMessage → Outcome K
  | .wakeupBroadcast =>
      let registered := node.glob.registerNewNode sender
      { node := { node with glob := registered }
        serial := registered.announce
        can := [] }
  | .isHubNode =>
      { node := { node with glob := { node.glob with hubNode := sender } }
        serial := []
        can := [] }
  | .noLongerIsHubNode =>
      { node :=
          if node.glob.hubNode = sender then
            { node with glob := { node.glob with hubNode := 0 } }
          else
            node
        serial := []
        can := [] }
  | .frequentData data0 data1 data2 data3 =>
      { node := node
        serial := [.frequentData data0 (joinBytes data2 data1) data3]
        can := [] }
  | .commandsRequest command =>
      let executed := node.executeCommand command reading
      { node := executed.2.1
        serial := executed.2.2
        can := [(sender, .commandsResponse executed.1)] }
  | .commandsResponse value =>
      let answered := node.receivedCommandResponseFromCAN union value
      { node := answered.1, serial := answered.2, can := [] }
  | .other => { node := node, serial := [], can := [] }

end Totals

/-- `SerialComm::sendPCDiscovery` -/
def sendPCDiscovery (node : HubNode K) : Outcome K :=
  let asked :=
    { node with
      serialComm :=
        { node.serialComm with pcDiscoveryHadResponse := false } }
  if node.glob.hubNode = node.glob.nodeId ∧
      node.serialComm.pcDiscoveryHadResponse = false then
    { node := { asked with glob := { node.glob with hubNode := 0 } }
      serial := [.pcDiscovery]
      can := [(0, .noLongerIsHubNode)] }
  else
    { node := asked, serial := [.pcDiscovery], can := [] }

/-- React to an event; a registry that is full registers nobody. -/
def handle
    [Zero K] [Add K]
    (union : FloatTo4Bytes K)
    (node : HubNode K) : HubEvent → Option (Outcome K)
  | .command command reading => some (node.readCommand union command reading)
  | .frame sender reading message =>
      if message = .wakeupBroadcast ∧
          node.glob.numTotalNodes ≥ maxNumNodes then
        none
      else
        some (node.received union sender reading message)
  | .discovery => some node.sendPCDiscovery

/-- The node after `setup()`. -/
def boot
    [Zero K]
    (nodeId : Nat) : HubNode K where
  glob := .boot nodeId 0
  serialComm :=
    { numNodesWaitingResult := 0
      runningTotalCommand := false
      totalCommandResult := 0
      pcDiscoveryHadResponse := false }

section Commands

variable
  [Zero K] (union : FloatTo4Bytes K) (node : HubNode K) {command : Command}
  (reading : BitVec 32)

/-- The value that `SerialComm::executeCommand` returns. -/
def commandResult
    (command : Command)
    (reading : BitVec 32) : BitVec 32 :=
  if command.cmd = byteOf 'g' then
    reading
  else if acknowledged command.cmd ∨ command.cmd = byteOf 'r' then
    1
  else
    0

/-- The node with its registry and its counters reset. -/
def reset : HubNode K where
  glob := node.glob.resetGlob
  serialComm := node.serialComm.resetSerialComm

/-- Only a reset touches the registry and the counters. -/
theorem executeCommand_of_kept (kept : command.cmd ≠ byteOf 'r') :
    node.executeCommand command reading =
      (commandResult command reading, node, []) := by
  unfold executeCommand commandResult
  split_ifs <;> simp_all

theorem executeCommand_of_reset (isReset : command.cmd = byteOf 'r') :
    node.executeCommand command reading =
      (1, node.reset, node.glob.resetGlob.announce) := by
  have notGet : byteOf 'r' ≠ byteOf 'g' := by decide
  have notSet : acknowledged (byteOf 'r') ≠ true := by decide
  rw [executeCommand, isReset, if_neg notGet, if_neg notSet, if_pos rfl]
  rfl

/-- A total command that is not a reset counts the other nodes and adds its own result. -/
theorem readTotalCommand_of_kept (kept : command.cmd ≠ byteOf 'r') :
    node.readTotalCommand union command reading =
      { node :=
          ((node.countNodes.storeResult
            (union.floatValue (commandResult command reading))
            ).sendTotalIfAllValueForTotalReceived union).1
        serial :=
          ((node.countNodes.storeResult
            (union.floatValue (commandResult command reading))
            ).sendTotalIfAllValueForTotalReceived union).2
        can := [(0, .commandsRequest command)] } := by
  unfold readTotalCommand
  rw [executeCommand_of_kept node.countNodes reading kept]
  rfl

/-- A reset of all nodes erases its own countdown and is answered at once. -/
theorem readTotalCommand_of_reset (isReset : command.cmd = byteOf 'r') :
    node.readTotalCommand union command reading =
      { node := node.reset.storeResult (union.floatValue 1)
        serial :=
          node.glob.resetGlob.announce ++
            [.response (union.value (union.floatValue 1))]
        can := [(0, .commandsRequest command)] } := by
  unfold readTotalCommand
  rw [executeCommand_of_reset node.countNodes reading isReset]
  rfl

end Commands

section Counting

variable (union : FloatTo4Bytes K)

/-- Totals and responses leave the registry alone. -/
theorem sendTotalIfAllValueForTotalReceived_glob (node : HubNode K) :
    (node.sendTotalIfAllValueForTotalReceived union).1.glob = node.glob := by
  unfold sendTotalIfAllValueForTotalReceived
  split <;> rfl

theorem receivedCommandResponseFromCAN_glob
    [Add K]
    (node : HubNode K)
    (value : BitVec 32) :
    (node.receivedCommandResponseFromCAN union value).1.glob = node.glob := by
  unfold receivedCommandResponseFromCAN
  split
  · rfl
  · rw [sendTotalIfAllValueForTotalReceived_glob]
    rfl

/-- The node waits for `missing` responses, and has added up `sum` so far. -/
structure Counting
    (missing : Nat)
    (sum : K)
    (node : HubNode K) : Prop where
  running :
    node.serialComm.runningTotalCommand = decide (0 < missing)
  waiting :
    0 < missing →
      node.serialComm.numNodesWaitingResult = BitVec.ofNat 8 missing
  total : 0 < missing → node.serialComm.totalCommandResult = sum

/-- What a countdown sends once nothing is missing. -/
def totalAt
    (missing : Nat)
    (sum : K) : List Message :=
  if missing = 0 then [.response (union.value sum)] else []

variable {missing : Nat} {sum : K} {node after : HubNode K}

/-- A node that runs no total command waits for nothing. -/
theorem counting_zero
    (running : node.serialComm.runningTotalCommand = false)
    (sum : K) :
    node.Counting 0 sum where
  running := running
  waiting := nofun
  total := nofun

/-- What leaves the counters alone keeps the count. -/
theorem Counting.congr
    (counting : node.Counting missing sum)
    (running :
      after.serialComm.runningTotalCommand =
        node.serialComm.runningTotalCommand)
    (waiting :
      after.serialComm.numNodesWaitingResult =
        node.serialComm.numNodesWaitingResult)
    (total :
      after.serialComm.totalCommandResult =
        node.serialComm.totalCommandResult) :
    after.Counting missing sum where
  running := running.trans counting.running
  waiting := fun positive => waiting.trans (counting.waiting positive)
  total := fun positive => total.trans (counting.total positive)

/-- The countdown is one byte, and small numbers do not wrap around. -/
theorem ofNat_eq_zero_iff (few : missing < 256) :
    BitVec.ofNat 8 missing = 0 ↔ missing = 0 := by
  constructor
  · intro zero
    have same := congrArg BitVec.toNat zero
    rw [BitVec.toNat_ofNat, Nat.mod_eq_of_lt few] at same
    exact same
  · intro zero
    rw [zero]
    rfl

theorem ofNat_sub_one (positive : 0 < missing) :
    BitVec.ofNat 8 missing - 1 = BitVec.ofNat 8 (missing - 1) := by
  obtain ⟨fewer, isNext⟩ := Nat.exists_eq_add_of_lt positive
  rw [isNext, Nat.zero_add, Nat.add_sub_cancel, BitVec.ofNat_add]
  exact BitVec.add_sub_cancel _ _

/-- The total is sent exactly when nothing is missing any more. -/
theorem sendTotalIfAllValueForTotalReceived_spec
    (running : node.serialComm.runningTotalCommand = true)
    (waiting :
      node.serialComm.numNodesWaitingResult = BitVec.ofNat 8 missing)
    (few : missing < 256) :
    (node.sendTotalIfAllValueForTotalReceived union).1.Counting missing
        node.serialComm.totalCommandResult ∧
      (node.sendTotalIfAllValueForTotalReceived union).2 =
        totalAt union missing node.serialComm.totalCommandResult := by
  unfold sendTotalIfAllValueForTotalReceived totalAt
  by_cases none : missing = 0
  · rw [if_pos (waiting.trans ((ofNat_eq_zero_iff few).mpr none)),
      if_pos none, none]
    exact ⟨counting_zero rfl _, rfl⟩
  · rw [if_neg fun zero =>
        none ((ofNat_eq_zero_iff few).mp (waiting.symm.trans zero)),
      if_neg none]
    refine ⟨⟨?_, fun _ => waiting, fun _ => rfl⟩, rfl⟩
    exact running.trans (decide_eq_true (Nat.pos_of_ne_zero none)).symm

namespace Counting

/-- A response that is awaited is counted and added. -/
theorem response
    [Add K]
    (counting : node.Counting missing sum)
    (positive : 0 < missing)
    (few : missing ≤ 256)
    (value : BitVec 32) :
    (node.receivedCommandResponseFromCAN union value).1.Counting
        (missing - 1) (sum + union.floatValue value) ∧
      (node.receivedCommandResponseFromCAN union value).2 =
        totalAt union (missing - 1) (sum + union.floatValue value) := by
  have running := counting.running
  rw [decide_eq_true positive] at running
  have added :
      (node.addResult
          (union.floatValue value)).serialComm.totalCommandResult =
        sum + union.floatValue value :=
    congrArg (· + union.floatValue value) (counting.total positive)
  have counted :
      (node.addResult
          (union.floatValue value)).serialComm.numNodesWaitingResult =
        BitVec.ofNat 8 (missing - 1) :=
    (congrArg (· - 1) (counting.waiting positive)).trans
      (ofNat_sub_one positive)
  unfold receivedCommandResponseFromCAN
  rw [if_neg (by rw [running]; decide), ← added]
  exact
    sendTotalIfAllValueForTotalReceived_spec union running counted
      (by omega)

/-- A response that nobody counts is passed on. -/
theorem response_of_zero
    [Add K]
    (counting : node.Counting 0 sum)
    (value : BitVec 32) :
    node.receivedCommandResponseFromCAN union value =
      (node, [.response value]) := by
  have stopped : node.serialComm.runningTotalCommand = false :=
    counting.running
  unfold receivedCommandResponseFromCAN
  rw [if_pos stopped]

end Counting

/-- A total command counts the other nodes and starts with the hub's own result. -/
theorem readTotalCommand_spec
    [Zero K]
    (node : HubNode K)
    {command : Command}
    (kept : command.cmd ≠ byteOf 'r')
    (someNode : 0 < node.glob.numTotalNodes)
    (few : node.glob.numTotalNodes ≤ 256)
    (reading : BitVec 32) :
    (node.readTotalCommand union command reading).node.Counting
        (node.glob.numTotalNodes - 1)
        (union.floatValue (commandResult command reading)) ∧
      (node.readTotalCommand union command reading).serial =
        totalAt union (node.glob.numTotalNodes - 1)
          (union.floatValue (commandResult command reading)) := by
  rw [node.readTotalCommand_of_kept union reading kept]
  have fits : node.glob.numTotalNodes - 1 < 256 := by omega
  have counted :
      (node.countNodes.storeResult
          (union.floatValue
            (commandResult command reading))).serialComm.numNodesWaitingResult =
        BitVec.ofNat 8 (node.glob.numTotalNodes - 1) :=
    ofNat_sub_one someNode
  exact sendTotalIfAllValueForTotalReceived_spec union rfl counted fits

end Counting

end HubNode

/-- The responses among the messages to the PC. -/
def responses (serial : List Message) : List (BitVec 32) :=
  serial.filterMap fun message =>
    match message with
    | .response value => some value
    | _ => none

theorem responses_append (first second : List Message) :
    responses (first ++ second) = responses first ++ responses second :=
  List.filterMap_append

/-- The list of nodes is not a response. -/
theorem responses_sendListNodesToPC (glob : Glob) :
    responses glob.sendListNodesToPC = [] := by
  unfold Glob.sendListNodesToPC
  split <;> rfl

theorem responses_announce (glob : Glob) : responses glob.announce = [] := by
  unfold Glob.announce
  split
  · exact responses_sendListNodesToPC glob
  · rfl

/-- The bits of 1.0, 2.0 and 3.0. -/
def oneF : BitVec 32 := 0x3F800000
def twoF : BitVec 32 := 0x40000000
def threeF : BitVec 32 := 0x40400000

/-- A get command to `destination`. -/
def getFrom (destination : Byte) : Command where
  cmd := byteOf 'g'
  destination := destination
  value := 0

end DistributedLighting
