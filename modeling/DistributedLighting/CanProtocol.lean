import DistributedLighting.CanDriver
import DistributedLighting.FrequentData

namespace DistributedLighting

open MCP2515

/-!
# The CAN protocol of the nodes

Every frame carries its destination, its sender and its type in the identifier.  Each
node sets the filters of its controller to its own id and to the broadcasts.  Whatever
a node sends reaches the nodes that it is for and no others, and is there understood
as what it was, from the node that sent it, whatever the buffers held before.
-/

/-- `CAN_WAKEUP_BROADCAST` -/
def canWakeupBroadcast : Byte := 1

/-- `CAN_CALIB_READY` -/
def canCalibReady : Byte := 2

/-- `CAN_CALIB_LED_ON` -/
def canCalibLedOn : Byte := 3

/-- `CAN_DO_CONSENSUS` -/
def canDoConsensus : Byte := 5

/-- `CAN_CONSENSUS` -/
def canConsensus : Byte := 6

/-- `CAN_COMMANDS_REQUEST` -/
def canCommandsRequest : Byte := 8

/-- `CAN_COMMANDS_RESPONSE` -/
def canCommandsResponse : Byte := 9

/-- `CAN_IS_HUB_NODE` -/
def canIsHubNode : Byte := 10

/-- `CAN_NO_LONGER_IS_HUB_NODE` -/
def canNoLongerIsHubNode : Byte := 11

/-- `CAN_FREQUENT_DATA` -/
def canFrequentData : Byte := 12

/-- `canMessageId`, with the global `nodeId`. -/
def canMessageId (nodeId destination messageType : Byte) : BitVec 32 :=
  destination.setWidth 32 <<< 16 ||| nodeId.setWidth 32 <<< 8 |||
    messageType.setWidth 32 ||| canEffFlag

/-- The masks and the filters of a controller. -/
structure Filters where
  mask0 : IdRegisters
  mask1 : IdRegisters
  rxf0 : IdRegisters
  rxf1 : IdRegisters
  rxf2 : IdRegisters
  rxf3 : IdRegisters
  rxf4 : IdRegisters
  rxf5 : IdRegisters

namespace Filters

/-- The masks and the filters that `MCP2515::reset` leaves. -/
def reset : Filters where
  mask0 := prepareId true 0
  mask1 := prepareId true 0
  rxf0 := prepareId false 0
  rxf1 := prepareId true 0
  rxf2 := prepareId false 0
  rxf3 := prepareId false 0
  rxf4 := prepareId false 0
  rxf5 := prepareId false 0

/-- `Communication::init` -/
def init (nodeId : Byte) : Filters :=
  { reset with
    mask0 := prepareId true 0x00FF0000
    rxf0 := prepareId true 0
    rxf1 := prepareId true (nodeId.setWidth 32 <<< 16)
    mask1 := prepareId true 0x00FF0000
    rxf2 := prepareId true 0
    rxf3 := prepareId true (nodeId.setWidth 32 <<< 16) }

/-- The controller keeps the frame, in one buffer or in the other. -/
def Accepts (filters : Filters) (registers : IdRegisters) : Prop :=
  (filters.mask0.Passes filters.rxf0 registers ∨
      filters.mask0.Passes filters.rxf1 registers) ∨
    filters.mask1.Passes filters.rxf2 registers ∨
      filters.mask1.Passes filters.rxf3 registers ∨
      filters.mask1.Passes filters.rxf4 registers ∨
      filters.mask1.Passes filters.rxf5 registers

end Filters

/-- The bytes of the union `Convertion`, the lowest first. -/
def valueBytes (value32b : BitVec 32) : List Byte :=
  [convertionByte value32b 0, convertionByte value32b 1,
    convertionByte value32b 2, convertionByte value32b 3]

/-- `value32b` of the union, from its bytes. -/
def ofValueBytes (first second third fourth : Byte) : BitVec 32 :=
  joinResponse fourth third second first

/-- Store some bytes at the front of `sendingFrame.data`. -/
def storeBytes
    (bytes : List Byte)
    (data : FrameData) : FrameData := fun index =>
  if index < bytes.length then bytes.getD index 0 else data index

section Sending

variable (nodeId : Byte) (sendingFrame : StructCanFrame)

/-- A broadcast without data. -/
def broadcastEmpty (messageType : Byte) : StructCanFrame :=
  { sendingFrame with
    canId := canMessageId nodeId 0 messageType
    canDlc := 0 }

/-- `Communication::sendBroadcastWakeup` -/
def sendBroadcastWakeup : StructCanFrame :=
  broadcastEmpty nodeId sendingFrame canWakeupBroadcast

/-- `Communication::sendCalibLedOn` -/
def sendCalibLedOn : StructCanFrame :=
  broadcastEmpty nodeId sendingFrame canCalibLedOn

/-- `Communication::sendDoConsensus` -/
def sendDoConsensus : StructCanFrame :=
  broadcastEmpty nodeId sendingFrame canDoConsensus

/-- `Communication::sendBroadcastIsHubNode` -/
def sendBroadcastIsHubNode : StructCanFrame :=
  broadcastEmpty nodeId sendingFrame canIsHubNode

/-- `Communication::sendBroadcastNoLongerIsHubNode` -/
def sendBroadcastNoLongerIsHubNode : StructCanFrame :=
  broadcastEmpty nodeId sendingFrame canNoLongerIsHubNode

/-- A frame that carries a word in the byte order of the processor. -/
def sendWord (destination messageType : Byte) (value : BitVec 32) : StructCanFrame where
  canId := canMessageId nodeId destination messageType
  canDlc := 4
  data := storeBytes (valueBytes value) sendingFrame.data

/-- `Communication::sendCalibReady`, with the bits of the float. -/
def sendCalibReady (val : BitVec 32) : StructCanFrame :=
  sendWord nodeId sendingFrame 0 canCalibReady val

/-- `Communication::sendCommandResponse` -/
def sendCommandResponse (sender : Byte) (value : BitVec 32) : StructCanFrame :=
  sendWord nodeId sendingFrame sender canCommandsResponse value

/-- `Communication::sendCommandRequest` -/
def sendCommandRequestFrame
    (destination : Byte)
    (command : Command) : StructCanFrame :=
  let request :=
    sendCommandRequest sendingFrame.data destination.toNat command
  { canId := canMessageId nodeId destination canCommandsRequest
    canDlc := BitVec.ofNat 8 request.can_dlc
    data := request.data }

/-- `Communication::sendFrequentDataToHub` -/
def sendFrequentDataToHub
    (hubNode : Byte)
    (packet : SerialFrequentDataPacket) : StructCanFrame where
  canId := canMessageId nodeId hubNode canFrequentData
  canDlc := BitVec.ofNat 8 packet.toByteArray.length
  data := storeBytes packet.toByteArray sendingFrame.data

/-- One frame of `Communication::sendConsensusDutyCycle`, with the data it has encoded. -/
def sendConsensusFrame (data : FrameData) : StructCanFrame where
  canId := canMessageId nodeId 0 canConsensus
  canDlc := 7
  data := data

end Sending

/-- What a node can send. -/
inductive Sending where
  | broadcastWakeup
  | calibReady (val : BitVec 32)
  | calibLedOn
  | doConsensus
  | consensus (data : FrameData)
  | broadcastIsHubNode
  | broadcastNoLongerIsHubNode
  | frequentDataToHub (hubNode : Byte) (packet : SerialFrequentDataPacket)
  | commandRequest (destination : Byte) (command : Command)
  | commandResponse (sender : Byte) (value : BitVec 32)

/-- What `Communication::received` makes of a frame. -/
inductive Reception where
  | wakeupBroadcast
  | calibReady (value : BitVec 32)
  | calibLedOn
  | doConsensus
  /-- The three encoded entries and `msgI`. -/
  | consensus (bytes : List Byte)
  | isHubNode
  | noLongerIsHubNode
  /-- The bytes that are copied to the serial port. -/
  | frequentData (bytes : List Byte)
  | commandsRequest (command : Command)
  | commandsResponse (value : BitVec 32)

namespace Sending

/-- The frame that the node sends, over what `sendingFrame` holds. -/
def frame
    (nodeId : Byte)
    (sendingFrame : StructCanFrame) : Sending → StructCanFrame
  | .broadcastWakeup => sendBroadcastWakeup nodeId sendingFrame
  | .calibReady val => sendCalibReady nodeId sendingFrame val
  | .calibLedOn => sendCalibLedOn nodeId sendingFrame
  | .doConsensus => sendDoConsensus nodeId sendingFrame
  | .consensus data => sendConsensusFrame nodeId data
  | .broadcastIsHubNode => sendBroadcastIsHubNode nodeId sendingFrame
  | .broadcastNoLongerIsHubNode =>
      sendBroadcastNoLongerIsHubNode nodeId sendingFrame
  | .frequentDataToHub hubNode packet =>
      sendFrequentDataToHub nodeId sendingFrame hubNode packet
  | .commandRequest destination command =>
      sendCommandRequestFrame nodeId sendingFrame destination command
  | .commandResponse sender value =>
      sendCommandResponse nodeId sendingFrame sender value

/-- Whom it is for; zero is everybody. -/
def destination : Sending → Byte
  | .frequentDataToHub hubNode _ => hubNode
  | .commandRequest destination _ => destination
  | .commandResponse sender _ => sender
  | _ => 0

/-- What it should be understood as. -/
def meaning : Sending → Reception
  | .broadcastWakeup => .wakeupBroadcast
  | .calibReady val => .calibReady val
  | .calibLedOn => .calibLedOn
  | .doConsensus => .doConsensus
  | .consensus data => .consensus ((List.range 7).map data)
  | .broadcastIsHubNode => .isHubNode
  | .broadcastNoLongerIsHubNode => .noLongerIsHubNode
  | .frequentDataToHub _ packet => .frequentData packet.toByteArray
  | .commandRequest _ command => .commandsRequest command
  | .commandResponse _ value => .commandsResponse value

end Sending

/-- `Communication::received`: the sender and the branch that is taken, with its data. -/
def StructCanFrame.received (frame : StructCanFrame) : Option (Byte × Reception) :=
  let msgType : Byte := (frame.canId &&& 0x000000FF).setWidth 8
  let sender : Byte := ((frame.canId &&& 0x0000FF00) >>> 8).setWidth 8
  let data := frame.data
  let reception : Option Reception :=
    if msgType = canWakeupBroadcast then
      some .wakeupBroadcast
    else if msgType = canCalibReady then
      some (.calibReady (ofValueBytes (data 0) (data 1) (data 2) (data 3)))
    else if msgType = canCalibLedOn then
      some .calibLedOn
    else if msgType = canIsHubNode then
      some .isHubNode
    else if msgType = canFrequentData then
      some (.frequentData [data 0, data 1, data 2, data 3])
    else if msgType = canNoLongerIsHubNode then
      some .noLongerIsHubNode
    else if msgType = canCommandsRequest then
      some (.commandsRequest (.ofBuffer data))
    else if msgType = canCommandsResponse then
      some
        (.commandsResponse (ofValueBytes (data 0) (data 1) (data 2) (data 3)))
    else if msgType = canConsensus then
      some (.consensus ((List.range 7).map data))
    else if msgType = canDoConsensus then
      some .doConsensus
    else
      none
  reception.map (sender, ·)

section Identifiers

variable (nodeId destination messageType : Byte)

/-- The identifier without the flag of its format. -/
def identifierOf : Identifier :=
  .extended
    (destination.setWidth 29 <<< 16 ||| nodeId.setWidth 29 <<< 8 |||
      messageType.setWidth 29)

theorem canId_identifierOf :
    (identifierOf nodeId destination messageType).canId =
      canMessageId nodeId destination messageType := by
  unfold identifierOf Identifier.canId canMessageId
  refine congrArg (· ||| canEffFlag) (BitVec.eq_of_getLsbD_eq ?_)
  intro index inRange
  interval_cases index <;> simp

/-- The destination goes to the first two registers, the sender and the type to the others. -/
theorem prepareId_fields :
    prepareId true
        (destination.setWidth 32 <<< 16 ||| nodeId.setWidth 32 <<< 8 |||
          messageType.setWidth 32) =
      { sidh := extendedSidh (destination.setWidth 16)
        sidl := extendedSidl (destination.setWidth 16)
        eid8 := nodeId
        eid0 := messageType } := by
  have upper :
      ((destination.setWidth 32 <<< 16 ||| nodeId.setWidth 32 <<< 8 |||
          messageType.setWidth 32) >>> 16).setWidth 16 =
        destination.setWidth 16 := by
    refine BitVec.eq_of_getLsbD_eq ?_
    intro index inRange
    interval_cases index <;> simp
  have eid8 :
      ((((destination.setWidth 32 <<< 16 ||| nodeId.setWidth 32 <<< 8 |||
          messageType.setWidth 32) &&& 0x0FFFF).setWidth 16 : BitVec 16) >>>
            8).setWidth 8 =
        nodeId := by
    refine BitVec.eq_of_getLsbD_eq ?_
    intro index inRange
    interval_cases index <;> simp
  have eid0 :
      ((((destination.setWidth 32 <<< 16 ||| nodeId.setWidth 32 <<< 8 |||
          messageType.setWidth 32) &&& 0x0FFFF).setWidth 16 : BitVec 16) &&&
            0xFF).setWidth 8 =
        messageType := by
    refine BitVec.eq_of_getLsbD_eq ?_
    intro index inRange
    interval_cases index <;> simp
  unfold prepareId
  simp only [↓reduceIte, upper, eid8, eid0]

theorem registers_identifierOf :
    (identifierOf nodeId destination messageType).registers =
      { sidh := extendedSidh (destination.setWidth 16)
        sidl := extendedSidl (destination.setWidth 16)
        eid8 := nodeId
        eid0 := messageType } := by
  have widened :
      (destination.setWidth 29 <<< 16 ||| nodeId.setWidth 29 <<< 8 |||
          messageType.setWidth 29).setWidth 32 =
        destination.setWidth 32 <<< 16 ||| nodeId.setWidth 32 <<< 8 |||
          messageType.setWidth 32 := by
    refine BitVec.eq_of_getLsbD_eq ?_
    intro index inRange
    interval_cases index <;> simp
  show prepareId true (BitVec.setWidth 32 (_ ||| _ ||| _)) = _
  rw [widened]
  exact prepareId_fields nodeId destination messageType

/-- What `received` reads as the type. -/
theorem type_canMessageId :
    (canMessageId nodeId destination messageType &&& 0x000000FF).setWidth 8 =
      messageType := by
  unfold canMessageId canEffFlag
  refine BitVec.eq_of_getLsbD_eq ?_
  intro index inRange
  interval_cases index <;> simp

/-- What `received` reads as the sender. -/
theorem sender_canMessageId :
    ((canMessageId nodeId destination messageType &&& 0x0000FF00) >>>
        8).setWidth 8 =
      nodeId := by
  unfold canMessageId canEffFlag
  refine BitVec.eq_of_getLsbD_eq ?_
  intro index inRange
  interval_cases index <;> simp

end Identifiers

section Filters

/-- The registers of a destination. -/
def destinationRegisters (destination : Byte) : Byte × Byte :=
  (extendedSidh (destination.setWidth 16), extendedSidl (destination.setWidth 16))

/-- They determine it, and the masks cover them. -/
theorem destinationRegisters_covered :
    ∀ destination : Byte,
      (destinationRegisters destination).1 &&& 0x07 =
          (destinationRegisters destination).1 ∧
        (destinationRegisters destination).2 &&& 0xEB =
          (destinationRegisters destination).2 ∧
        ((destinationRegisters destination).1 <<< 5 |||
            ((destinationRegisters destination).2 >>> 3 &&& 0x1C) |||
            ((destinationRegisters destination).2 &&& 0x03)) =
          destination := by
  decide +kernel

/-- The registers of the masks. -/
theorem prepareId_mask :
    prepareId true 0x00FF0000 =
      { sidh := 0x07, sidl := 0xEB, eid8 := 0, eid0 := 0 } := by
  decide

/-- Two bytes inside a mask agree there only if they are the same. -/
theorem agree_iff
    {mask first second : Byte}
    (firstInside : first &&& mask = first)
    (secondInside : second &&& mask = second) :
    (first ^^^ second) &&& mask = 0 ↔ first = second := by
  have distributed :
      (first ^^^ second) &&& mask = (first &&& mask) ^^^ (second &&& mask) := by
    refine BitVec.eq_of_getLsbD_eq ?_
    intro index _
    simp [Bool.and_xor_distrib_right]
  rw [distributed, firstInside, secondInside]
  exact BitVec.xor_eq_zero_iff

/-- A filter for a destination passes what is for it. -/
theorem passes_destination_iff (filtered nodeId destination messageType : Byte) :
    (prepareId true 0x00FF0000).Passes
        (prepareId true (filtered.setWidth 32 <<< 16))
        (identifierOf nodeId destination messageType).registers ↔
      destination = filtered := by
  have filter := prepareId_fields 0 filtered 0
  have noFields :
      filtered.setWidth 32 <<< 16 ||| (0 : Byte).setWidth 32 <<< 8 |||
          (0 : Byte).setWidth 32 =
        filtered.setWidth 32 <<< 16 := by
    simp
  rw [noFields] at filter
  rw [filter, prepareId_mask, registers_identifierOf]
  obtain ⟨sidh, sidl, restored⟩ := destinationRegisters_covered destination
  obtain ⟨filterSidh, filterSidl, filterRestored⟩ :=
    destinationRegisters_covered filtered
  unfold IdRegisters.Passes
  constructor
  · rintro ⟨sameSidh, sameSidl, -⟩
    have first :
        (destinationRegisters destination).1 =
          (destinationRegisters filtered).1 :=
      (agree_iff sidh filterSidh).mp sameSidh
    have second :
        (destinationRegisters destination).2 =
          (destinationRegisters filtered).2 :=
      (agree_iff sidl filterSidl).mp sameSidl
    rw [← restored, ← filterRestored, first, second]
  · rintro rfl
    exact
      ⟨(agree_iff sidh sidh).mpr rfl, (agree_iff sidl sidl).mpr rfl,
        BitVec.and_zero, BitVec.and_zero⟩

/-- A filter for standard identifiers passes none of the firmware. -/
theorem not_passes_standard (nodeId destination messageType : Byte) :
    ¬ (prepareId true 0x00FF0000).Passes (prepareId false 0)
        (identifierOf nodeId destination messageType).registers := by
  have marked :
      ∀ destination : Byte,
        ((destinationRegisters destination).2 ^^^ 0) &&& 0xEB ≠ 0 := by
    decide +kernel
  have filter :
      prepareId false 0 = { sidh := 0, sidl := 0, eid8 := 0, eid0 := 0 } := by
    decide
  rw [prepareId_mask, filter, registers_identifierOf]
  rintro ⟨-, passes, -⟩
  exact marked destination passes

/-- A node keeps the frames for everybody and the frames for itself. -/
theorem accepts_iff (receiver nodeId destination messageType : Byte) :
    (Filters.init receiver).Accepts
        (identifierOf nodeId destination messageType).registers ↔
      destination = 0 ∨ destination = receiver := by
  have everybody :=
    passes_destination_iff 0 nodeId destination messageType
  have itself :=
    passes_destination_iff receiver nodeId destination messageType
  have none := not_passes_standard nodeId destination messageType
  have noDestination : (0 : Byte).setWidth 32 <<< 16 = 0 := by decide
  rw [noDestination] at everybody
  unfold Filters.Accepts Filters.init Filters.reset
  simp only [everybody, itself, none, or_false, or_self]

end Filters

section Delivery

/-- The four bytes of the union give its value back. -/
theorem ofValueBytes_valueBytes (value : BitVec 32) :
    ofValueBytes (convertionByte value 0) (convertionByte value 1)
        (convertionByte value 2) (convertionByte value 3) =
      value := by
  have byte :
      ∀ index,
        convertionByte value index = responseByte value (8 * index) := by
    intro index
    refine BitVec.eq_of_getLsbD_eq ?_
    intro position inByte
    rw [getLsbD_responseByte]
    simp [convertionByte, inByte]
  unfold ofValueBytes
  rw [byte, byte, byte, byte]
  exact joinResponse_bytes value

/-- A word that was stored is read again. -/
theorem read_word
    (value : BitVec 32)
    {stored data : FrameData}
    (same : ∀ index < 4, data index = storeBytes (valueBytes value) stored index) :
    ofValueBytes (data 0) (data 1) (data 2) (data 3) = value := by
  rw [same 0 (by decide), same 1 (by decide), same 2 (by decide),
    same 3 (by decide)]
  exact ofValueBytes_valueBytes value

namespace Sending

variable (nodeId : Byte) (sendingFrame : StructCanFrame)

/-- The type of a frame. -/
def messageType : Sending → Byte
  | .broadcastWakeup => canWakeupBroadcast
  | .calibReady _ => canCalibReady
  | .calibLedOn => canCalibLedOn
  | .doConsensus => canDoConsensus
  | .consensus _ => canConsensus
  | .broadcastIsHubNode => canIsHubNode
  | .broadcastNoLongerIsHubNode => canNoLongerIsHubNode
  | .frequentDataToHub _ _ => canFrequentData
  | .commandRequest _ _ => canCommandsRequest
  | .commandResponse _ _ => canCommandsResponse

/-- Every frame is short, and its identifier says who sends what to whom. -/
theorem frame_header (sending : Sending) :
    (sending.frame nodeId sendingFrame).canId =
        (identifierOf nodeId sending.destination sending.messageType).canId ∧
      (sending.frame nodeId sendingFrame).canDlc.toNat ≤ canMaxDlen := by
  rw [canId_identifierOf]
  cases sending with
  | broadcastWakeup | calibLedOn | doConsensus | broadcastIsHubNode
  | broadcastNoLongerIsHubNode =>
      exact ⟨rfl, Nat.zero_le _⟩
  | calibReady | frequentDataToHub | commandResponse =>
      refine ⟨rfl, ?_⟩
      show (4 : Byte).toNat ≤ canMaxDlen
      decide
  | commandRequest =>
      refine ⟨rfl, ?_⟩
      show (6 : Byte).toNat ≤ canMaxDlen
      decide
  | consensus =>
      refine ⟨rfl, ?_⟩
      show (7 : Byte).toNat ≤ canMaxDlen
      decide

/-- What is read of a frame is received as what it means. -/
theorem received_frame
    (sending : Sending)
    (data : FrameData)
    (same :
      ∀ index < (sending.frame nodeId sendingFrame).canDlc.toNat,
        data index = (sending.frame nodeId sendingFrame).data index) :
    StructCanFrame.received
        { canId :=
            canMessageId nodeId sending.destination sending.messageType
          canDlc := (sending.frame nodeId sendingFrame).canDlc
          data := data } =
      some (nodeId, sending.meaning) := by
  unfold StructCanFrame.received
  simp only [type_canMessageId, sender_canMessageId]
  cases sending with
  | broadcastWakeup | calibLedOn | doConsensus | broadcastIsHubNode
  | broadcastNoLongerIsHubNode =>
      rfl
  | calibReady value =>
      rw [read_word value same]
      rfl
  | commandResponse sender value =>
      rw [read_word value same]
      rfl
  | frequentDataToHub hubNode packet =>
      have bytes :
          ∀ index < 4, data index = packet.toByteArray.getD index 0 := by
        intro index inPacket
        rw [same index inPacket]
        exact if_pos inPacket
      rw [bytes 0 (by decide), bytes 1 (by decide), bytes 2 (by decide),
        bytes 3 (by decide)]
      rfl
  | commandRequest destination command =>
      have read : Command.ofBuffer data = command := by
        refine Command.ofBuffer_bytes command ?_
        intro index inCommand
        rw [same index inCommand]
        have inArray : index < command.toCharArray.length := inCommand
        refine (if_pos inArray).trans ?_
        interval_cases index <;> rfl
      rw [read]
      rfl
  | consensus encoded =>
      have bytes : (List.range 7).map data = (List.range 7).map encoded := by
        refine List.map_congr_left fun index member => ?_
        exact same index (List.mem_range.mp member)
      rw [bytes]
      rfl

end Sending

/--
Whatever a node sends, whatever its `sendingFrame` holds, is kept by exactly the
controllers of the nodes it is for, and what such a node reads, over whatever its own
frame holds, is received as what was meant, from the node that sent it.
-/
theorem delivered
    (nodeId receiver : Byte)
    (sending : Sending)
    (sendingFrame memory : StructCanFrame) :
    ∃ bus,
      sendMessage (sending.frame nodeId sendingFrame) = some bus ∧
        ((Filters.init receiver).Accepts bus.id ↔
          sending.destination = 0 ∨ sending.destination = receiver) ∧
        (MCP2515.readMessage bus memory).bind StructCanFrame.received =
          some (nodeId, sending.meaning) := by
  obtain ⟨canId, short⟩ := sending.frame_header nodeId sendingFrame
  have sent :=
    sendMessage_identifier
      (identifierOf nodeId sending.destination sending.messageType) short
      (sending.frame nodeId sendingFrame).data
  rw [← canId] at sent
  refine ⟨_, sent, accepts_iff receiver nodeId _ _, ?_⟩
  rw [readMessage_sent _ short, canId_identifierOf]
  refine sending.received_frame nodeId sendingFrame _ ?_
  intro index inData
  exact if_pos inData

end Delivery

end DistributedLighting
