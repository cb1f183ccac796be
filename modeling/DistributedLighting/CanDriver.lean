import DistributedLighting.DutyCycleFrames

namespace DistributedLighting

/-!
# The CAN controller

The vendored driver of the MCP2515 spreads the identifier of a frame over four
registers, writes masks and filters the same way, and puts the identifier together
again on the other side.  The controller itself is taken as documented: it copies the
registers of a frame into those of every node on the bus, and drops there what no
filter passes.
-/

/-- `struct can_frame` -/
structure StructCanFrame where
  canId : BitVec 32
  canDlc : Byte
  data : FrameData

namespace MCP2515

/-- `CAN_EFF_FLAG` -/
def canEffFlag : BitVec 32 := 0x80000000

/-- `CAN_RTR_FLAG` -/
def canRtrFlag : BitVec 32 := 0x40000000

/-- `CAN_SFF_MASK` -/
def canSffMask : BitVec 32 := 0x000007FF

/-- `CAN_EFF_MASK` -/
def canEffMask : BitVec 32 := 0x1FFFFFFF

/-- `CAN_MAX_DLEN` -/
def canMaxDlen : Nat := 8

/-- `TXB_EXIDE_MASK` -/
def txbExideMask : Byte := 0x08

/-- The four registers of an identifier, a mask or a filter. -/
structure IdRegisters where
  sidh : Byte
  sidl : Byte
  eid8 : Byte
  eid0 : Byte
  deriving DecidableEq

/-- `buffer[MCP_SIDH]` of an extended identifier, from its upper half. -/
def extendedSidh (canid : BitVec 16) : Byte :=
  (canid >>> 5).setWidth 8

/-- `buffer[MCP_SIDL]` of an extended identifier, from its upper half. -/
def extendedSidl (canid : BitVec 16) : Byte :=
  ((canid &&& 0x03).setWidth 8 + ((canid &&& 0x1C) <<< 3).setWidth 8) |||
    txbExideMask

/-- `MCP2515::prepareId` -/
def prepareId
    (ext : Bool)
    (id : BitVec 32) : IdRegisters :=
  let canid := (id &&& 0x0FFFF).setWidth 16
  if ext then
    let upper := (id >>> 16).setWidth 16
    { sidh := extendedSidh upper
      sidl := extendedSidl upper
      eid8 := (canid >>> 8).setWidth 8
      eid0 := (canid &&& 0xFF).setWidth 8 }
  else
    { sidh := (canid >>> 3).setWidth 8
      sidl := ((canid &&& 0x07) <<< 5).setWidth 8
      eid8 := 0
      eid0 := 0 }

/-- A frame as it is on the bus: the registers that are copied. -/
structure BusFrame where
  id : IdRegisters
  dlc : Byte
  rtr : Bool
  payload : List Byte

/-- `MCP2515::sendMessage` for a free buffer; a frame that is too long is refused. -/
def sendMessage (frame : StructCanFrame) : Option BusFrame :=
  if frame.canDlc.toNat > canMaxDlen then
    none
  else
    let ext := decide (frame.canId &&& canEffFlag ≠ 0)
    let rtr := decide (frame.canId &&& canRtrFlag ≠ 0)
    let id := frame.canId &&& (if ext then canEffMask else canSffMask)
    some
      { id := prepareId ext id
        dlc := frame.canDlc
        rtr := rtr
        payload := (List.range frame.canDlc.toNat).map frame.data }

/-- The identifier that `MCP2515::readMessage` puts together. -/
def IdRegisters.read (registers : IdRegisters) : BitVec 32 :=
  let id :=
    (registers.sidh.setWidth 32 <<< 3) + (registers.sidl.setWidth 32 >>> 5)
  if registers.sidl &&& txbExideMask = txbExideMask then
    let id := (id <<< 2) + (registers.sidl &&& 0x03).setWidth 32
    let id := (id <<< 8) + registers.eid8.setWidth 32
    let id := (id <<< 8) + registers.eid0.setWidth 32
    id ||| canEffFlag
  else
    id

/-- `MCP2515::readMessage`, into a frame that holds something already. -/
def readMessage
    (bus : BusFrame)
    (frame : StructCanFrame) : Option StructCanFrame :=
  let dlc := bus.dlc &&& 0x0F
  if dlc.toNat > canMaxDlen then
    none
  else
    some
      { canId := if bus.rtr then bus.id.read ||| canRtrFlag else bus.id.read
        canDlc := dlc
        data := fun index =>
          if index < dlc.toNat then
            bus.payload.getD index 0
          else
            frame.data index }

/-- A filter passes the identifiers that agree with it where its mask has a bit. -/
def IdRegisters.Passes (mask filter registers : IdRegisters) : Prop :=
  (registers.sidh ^^^ filter.sidh) &&& mask.sidh = 0 ∧
    (registers.sidl ^^^ filter.sidl) &&& mask.sidl = 0 ∧
    (registers.eid8 ^^^ filter.eid8) &&& mask.eid8 = 0 ∧
    (registers.eid0 ^^^ filter.eid0) &&& mask.eid0 = 0

instance (mask filter registers : IdRegisters) :
    Decidable (mask.Passes filter registers) :=
  inferInstanceAs (Decidable (_ ∧ _ ∧ _ ∧ _))

section Identifiers

/-- A mask of a few bits reads these bits. -/
theorem and_setWidth
    {width : Nat}
    (canid : BitVec 16)
    (mask : BitVec width) :
    canid &&& mask.setWidth 16 =
      (canid.setWidth width).setWidth 16 &&& mask.setWidth 16 := by
  refine BitVec.eq_of_getLsbD_eq ?_
  intro index inRange
  simp only [BitVec.getLsbD_and, BitVec.getLsbD_setWidth, inRange,
    decide_true, Bool.true_and]
  by_cases inMask : index < width
  · simp [inMask]
  · simp [BitVec.getLsbD_of_ge mask index (Nat.not_lt.mp inMask)]

/-- The second register holds the lower five bits of the upper half. -/
theorem extendedSidl_setWidth (canid : BitVec 16) :
    extendedSidl canid = extendedSidl ((canid.setWidth 5).setWidth 16) := by
  have low := and_setWidth canid 0x03#5
  have middle := and_setWidth canid 0x1C#5
  unfold extendedSidl
  exact congrArg₂
    (fun first second : BitVec 16 =>
      (first.setWidth 8 + (second <<< 3).setWidth 8) ||| txbExideMask)
    low middle

/-- What the second register gives back, for each of the five bits. -/
theorem read_extendedSidl :
    ∀ low : BitVec 5,
      ((extendedSidl (low.setWidth 16)).setWidth 32 >>> 5).toNat =
          low.toNat / 4 ∧
        ((extendedSidl (low.setWidth 16) &&& 0x03).setWidth 32).toNat =
          low.toNat % 4 ∧
        extendedSidl (low.setWidth 16) &&& txbExideMask = txbExideMask := by
  decide

/-- An extended identifier survives its four registers. -/
theorem read_extended (id : BitVec 29) :
    (prepareId true (id.setWidth 32)).read =
      id.setWidth 32 ||| canEffFlag := by
  have inRange := id.isLt
  have upper :
      ((id.setWidth 32 >>> 16).setWidth 16).toNat = id.toNat / 2 ^ 16 := by
    simp only [BitVec.toNat_setWidth, BitVec.toNat_ushiftRight,
      Nat.shiftRight_eq_div_pow]
    omega
  obtain ⟨middle, low, isExtended⟩ :=
    read_extendedSidl
      ((((id.setWidth 32 >>> 16).setWidth 16 : BitVec 16)).setWidth 5)
  rw [← extendedSidl_setWidth] at middle low isExtended
  have lowBits :
      (((id.setWidth 32 >>> 16).setWidth 16 : BitVec 16).setWidth 5).toNat =
        id.toNat / 2 ^ 16 % 2 ^ 5 := by
    rw [BitVec.toNat_setWidth, upper]
  have sidh :
      ((extendedSidh ((id.setWidth 32 >>> 16).setWidth 16)).setWidth 32 <<<
          3).toNat =
        id.toNat / 2 ^ 16 / 32 * 8 := by
    unfold extendedSidh
    simp only [BitVec.toNat_shiftLeft, BitVec.toNat_setWidth,
      BitVec.toNat_ushiftRight, Nat.shiftRight_eq_div_pow,
      Nat.shiftLeft_eq]
    omega
  have lower :
      ((id.setWidth 32 &&& 0x0FFFF).setWidth 16 : BitVec 16).toNat =
        id.toNat % 2 ^ 16 := by
    have mask : (0x0FFFF : BitVec 32).toNat = 2 ^ 16 - 1 := rfl
    rw [BitVec.toNat_setWidth, BitVec.toNat_and, mask,
      Nat.and_two_pow_sub_one_eq_mod, BitVec.toNat_setWidth]
    omega
  have eid8 :
      (((((id.setWidth 32 &&& 0x0FFFF).setWidth 16 : BitVec 16) >>>
          8).setWidth 8 : Byte).setWidth 32).toNat =
        id.toNat % 2 ^ 16 / 2 ^ 8 := by
    rw [BitVec.toNat_setWidth, BitVec.toNat_setWidth, BitVec.toNat_ushiftRight,
      Nat.shiftRight_eq_div_pow, lower]
    omega
  have eid0 :
      (((((id.setWidth 32 &&& 0x0FFFF).setWidth 16 : BitVec 16) &&&
          0xFF).setWidth 8 : Byte).setWidth 32).toNat =
        id.toNat % 2 ^ 8 := by
    have mask : (0xFF : BitVec 16).toNat = 2 ^ 8 - 1 := rfl
    rw [BitVec.toNat_setWidth, BitVec.toNat_setWidth, BitVec.toNat_and, mask,
      Nat.and_two_pow_sub_one_eq_mod, lower]
    omega
  unfold prepareId IdRegisters.read
  simp only [↓reduceIte, isExtended]
  congr 1
  refine BitVec.eq_of_toNat_eq ?_
  rw [lowBits] at middle low
  simp only [BitVec.toNat_add, BitVec.toNat_shiftLeft, Nat.shiftLeft_eq, sidh,
    middle, low, eid8, eid0]
  rw [BitVec.toNat_setWidth]
  omega

/-- What the second register of a standard identifier gives back. -/
theorem read_standardSidl :
    ∀ low : BitVec 3,
      ((((low.setWidth 16 &&& 0x07) <<< 5 : BitVec 16).setWidth 8).setWidth
            32 >>> 5).toNat =
          low.toNat ∧
        ((low.setWidth 16 &&& 0x07) <<< 5 : BitVec 16).setWidth 8 &&&
            txbExideMask ≠
          txbExideMask := by
  decide

/-- A standard identifier survives its two registers. -/
theorem read_standard (id : BitVec 11) :
    (prepareId false (id.setWidth 32)).read = id.setWidth 32 := by
  have inRange := id.isLt
  have lower :
      ((id.setWidth 32 &&& 0x0FFFF).setWidth 16 : BitVec 16).toNat =
        id.toNat := by
    have mask : (0x0FFFF : BitVec 32).toNat = 2 ^ 16 - 1 := rfl
    rw [BitVec.toNat_setWidth, BitVec.toNat_and, mask,
      Nat.and_two_pow_sub_one_eq_mod, BitVec.toNat_setWidth]
    omega
  have low :=
    and_setWidth ((id.setWidth 32 &&& 0x0FFFF).setWidth 16) 0x07#3
  have lowBits :
      (((id.setWidth 32 &&& 0x0FFFF).setWidth 16 : BitVec 16).setWidth
          3).toNat =
        id.toNat % 2 ^ 3 := by
    rw [BitVec.toNat_setWidth, lower]
  obtain ⟨sidl, notExtended⟩ :=
    read_standardSidl
      (((id.setWidth 32 &&& 0x0FFFF).setWidth 16 : BitVec 16).setWidth 3)
  have mask : (0x07#3).setWidth 16 = (0x07 : BitVec 16) := rfl
  rw [mask] at low
  rw [← low] at sidl notExtended
  rw [lowBits] at sidl
  have sidh :
      (((((id.setWidth 32 &&& 0x0FFFF).setWidth 16 : BitVec 16) >>>
          3).setWidth 8).setWidth 32 <<< 3).toNat =
        id.toNat / 8 * 8 := by
    simp only [BitVec.toNat_shiftLeft, BitVec.toNat_setWidth _ (BitVec.setWidth _ _),
      BitVec.toNat_setWidth _ (_ >>> _), BitVec.toNat_ushiftRight,
      Nat.shiftRight_eq_div_pow, Nat.shiftLeft_eq, lower]
    omega
  unfold prepareId IdRegisters.read
  simp only [Bool.false_eq_true, ↓reduceIte, notExtended]
  refine BitVec.eq_of_toNat_eq ?_
  rw [BitVec.toNat_add, sidh, sidl, BitVec.toNat_setWidth]
  omega

end Identifiers

section Frames

/-- The identifiers of the bus, eleven or twenty-nine bits long. -/
inductive Identifier where
  | standard (id : BitVec 11)
  | extended (id : BitVec 29)

/-- The identifier as `can_id` holds it. -/
def Identifier.canId : Identifier → BitVec 32
  | .standard id => id.setWidth 32
  | .extended id => id.setWidth 32 ||| canEffFlag

/-- The registers of an identifier. -/
def Identifier.registers : Identifier → IdRegisters
  | .standard id => prepareId false (id.setWidth 32)
  | .extended id => prepareId true (id.setWidth 32)

theorem Identifier.read_registers (identifier : Identifier) :
    identifier.registers.read = identifier.canId := by
  cases identifier with
  | standard id => exact read_standard id
  | extended id => exact read_extended id

/-- A mask of a word, seen by an identifier that is shorter. -/
theorem setWidth_and_word
    {width : Nat}
    (id : BitVec width)
    (mask : BitVec 32) :
    id.setWidth 32 &&& mask = (id &&& mask.setWidth width).setWidth 32 := by
  refine BitVec.eq_of_getLsbD_eq ?_
  intro index inRange
  simp only [BitVec.getLsbD_and, BitVec.getLsbD_setWidth, inRange,
    decide_true, Bool.true_and]
  by_cases inMask : index < width
  · simp [inMask]
  · simp [BitVec.getLsbD_of_ge id index (Nat.not_lt.mp inMask)]

/-- What the driver sends for a frame that is not too long. -/
theorem sendMessage_identifier
    (identifier : Identifier)
    {canDlc : Byte}
    (short : canDlc.toNat ≤ canMaxDlen)
    (data : FrameData) :
    sendMessage { canId := identifier.canId, canDlc := canDlc, data := data } =
      some
        { id := identifier.registers
          dlc := canDlc
          rtr := false
          payload := (List.range canDlc.toNat).map data } := by
  unfold sendMessage
  rw [if_neg (Nat.not_lt.mpr short)]
  cases identifier with
  | standard id =>
      have eff : id.setWidth 32 &&& canEffFlag = 0 := by
        rw [setWidth_and_word]
        exact congrArg (·.setWidth 32) (BitVec.and_zero (x := id))
      have rtr : id.setWidth 32 &&& canRtrFlag = 0 := by
        rw [setWidth_and_word]
        exact congrArg (·.setWidth 32) (BitVec.and_zero (x := id))
      have sff : id.setWidth 32 &&& canSffMask = id.setWidth 32 := by
        rw [setWidth_and_word]
        exact congrArg (·.setWidth 32) (BitVec.and_allOnes (x := id))
      simp [Identifier.canId, Identifier.registers, eff, rtr, sff]
  | extended id =>
      have eff : (id.setWidth 32 ||| canEffFlag) &&& canEffFlag ≠ 0 := by
        have none : id.setWidth 32 &&& canEffFlag = 0 := by
          rw [setWidth_and_word]
          exact congrArg (·.setWidth 32) (BitVec.and_zero (x := id))
        rw [BitVec.and_or_distrib_right, none]
        decide
      have rtr : (id.setWidth 32 ||| canEffFlag) &&& canRtrFlag = 0 := by
        have none : id.setWidth 32 &&& canRtrFlag = 0 := by
          rw [setWidth_and_word]
          exact congrArg (·.setWidth 32) (BitVec.and_zero (x := id))
        rw [BitVec.and_or_distrib_right, none]
        decide
      have masked :
          (id.setWidth 32 ||| canEffFlag) &&& canEffMask = id.setWidth 32 := by
        have all : id.setWidth 32 &&& canEffMask = id.setWidth 32 := by
          rw [setWidth_and_word]
          exact congrArg (·.setWidth 32) (BitVec.and_allOnes (x := id))
        have none : canEffFlag &&& canEffMask = 0#32 := by decide
        rw [BitVec.and_or_distrib_right, all, none, BitVec.or_zero]
      simp only [Identifier.canId, Identifier.registers, eff, rtr, masked,
        ne_eq, not_true_eq_false, not_false_eq_true, decide_true,
        decide_false, ↓reduceIte]

/-- What was sent is read again, over what the frame held before. -/
theorem readMessage_sent
    (identifier : Identifier)
    {canDlc : Byte}
    (short : canDlc.toNat ≤ canMaxDlen)
    (data : FrameData)
    (frame : StructCanFrame) :
    readMessage
        { id := identifier.registers
          dlc := canDlc
          rtr := false
          payload := (List.range canDlc.toNat).map data }
        frame =
      some
        { canId := identifier.canId
          canDlc := canDlc
          data := fun index =>
            if index < canDlc.toNat then data index else frame.data index } := by
  have dlc : canDlc &&& 0x0F = canDlc := by
    refine BitVec.eq_of_toNat_eq ?_
    have mask : (0x0F : Byte).toNat = 2 ^ 4 - 1 := rfl
    rw [BitVec.toNat_and, mask, Nat.and_two_pow_sub_one_eq_mod]
    unfold canMaxDlen at short
    omega
  unfold readMessage
  simp only [dlc]
  rw [if_neg (Nat.not_lt.mpr short), identifier.read_registers]
  refine congrArg some ?_
  simp only [Bool.false_eq_true, ↓reduceIte, StructCanFrame.mk.injEq, true_and]
  funext index
  by_cases inData : index < canDlc.toNat
  · simp [inData]
  · simp [inData]

/--
Every data frame that the driver sends, with a standard or an extended identifier, is
read as it was sent, up to the bytes behind its length, which the reader keeps.
-/
theorem readMessage_sendMessage
    (identifier : Identifier)
    {canDlc : Byte}
    (short : canDlc.toNat ≤ canMaxDlen)
    (data : FrameData)
    (frame : StructCanFrame) :
    ((sendMessage
          { canId := identifier.canId, canDlc := canDlc, data := data }).bind
        (readMessage · frame)) =
      some
        { canId := identifier.canId
          canDlc := canDlc
          data := fun index =>
            if index < canDlc.toNat then data index else frame.data index } := by
  rw [sendMessage_identifier identifier short]
  exact readMessage_sent identifier short data frame

/-- The longest frame with the largest identifier. -/
theorem readMessage_sendMessage_full :
    ((sendMessage
          { canId := (Identifier.extended 0x1FFFFFFF).canId
            canDlc := 8
            data := BitVec.ofNat 8 }).bind
        (readMessage · { canId := 0, canDlc := 0, data := fun _ => 0xFF })) =
      some
        { canId := (Identifier.extended 0x1FFFFFFF).canId
          canDlc := 8
          data := fun index =>
            if index < 8 then BitVec.ofNat 8 index else 0xFF } :=
  readMessage_sendMessage (.extended 0x1FFFFFFF) (by decide) (BitVec.ofNat 8)
    { canId := 0, canDlc := 0, data := fun _ => 0xFF }

end Frames

end MCP2515

end DistributedLighting
