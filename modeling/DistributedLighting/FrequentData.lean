import DistributedLighting.CalibrationFSM
import DistributedLighting.CommandRelay
import DistributedLighting.Controller

namespace DistributedLighting

/-!
# Frequent data on its way to the PC

After each sample a node reports its illuminance and its PWM value.  The hub writes
its own packet to the serial port; any other node sends it in a CAN frame, which the
hub copies behind a sync byte.  The illuminance travels in tenths of a lux as an
unsigned integer of 16 bits.  The product that is cut to this integer is one of
single precision: rounding can carry it up to a whole number, and the PC then reads
more light than there was.
-/

/-- The members of `SerialFrequentDataPacket`. -/
structure SerialFrequentDataPacket where
  node : Byte
  /-- The illuminance times 10. -/
  iluminanceShort : BitVec 16
  pwm : SignedChar

/--
`valueBytes[index]` of the union `Convertion` in `serialComm.h`, whose `value16b` has
32 bits; the lowest byte comes first.
-/
def convertionByte
    (value16b : BitVec 32)
    (index : Nat) : Byte :=
  (value16b >>> (8 * index)).setWidth 8

/-- `Serial.write` of an `int8_t`, which is promoted to an `int` on the way. -/
def writtenByte (value : SignedChar) : Byte :=
  (value.toBitVec.signExtend 16).setWidth 8

/-- `Luminaire::getVoltage`, with what `analogRead` returns. -/
def Luminaire.getVoltage
    {K : Type}
    [Field K]
    (analogRead : Fin 1024) : K :=
  (analogRead.val : K) * (5 : Nat) / (1024 : Nat)

namespace SerialFrequentDataPacket

variable (packet : SerialFrequentDataPacket)

/-- `SerialFrequentDataPacket(uint8_t node, float iluminance, uint8_t pwm)` -/
def new
    {K : Type}
    [Field K] [LinearOrder K] [IsStrictOrderedRing K] [FloorRing K]
    (outOfRange : K → Int)
    (node : Byte)
    (iluminance : K)
    (pwm : Byte) : SerialFrequentDataPacket where
  node := node
  iluminanceShort :=
    BitVec.ofInt 16
      (IntegerType.uint16.convert outOfRange (toSingle (iluminance * (10 : Nat))))
  pwm := Int8.ofBitVec pwm

/-- `SerialFrequentDataPacket::toByteArray` -/
def toByteArray : List Byte :=
  let value16b := packet.iluminanceShort.setWidth 32
  [packet.node, convertionByte value16b 0, convertionByte value16b 1,
    packet.pwm.toBitVec]

/-- `SerialFrequentDataPacket::sendOnSerial` -/
def sendOnSerial : List Byte :=
  let value16b := packet.iluminanceShort.setWidth 32
  [255, byteOf 'F', packet.node, convertionByte value16b 0,
    convertionByte value16b 1, writtenByte packet.pwm]

/-- The frame of `Communication::sendFrequentDataToHub`. -/
def canMessage : CanMessage :=
  let data := fun index => packet.toByteArray.getD index 0
  .frequentData (data 0) (data 1) (data 2) (data 3)

end SerialFrequentDataPacket

section Sending

variable {K : Type} [Field K] [LinearOrder K] [IsStrictOrderedRing K] [FloorRing K]
    (outOfRange : K → Int) (voltageToLux : K → K) (glob : Glob)
    (light : LightControl K)

/-- `frequentDataPacket` in `sendFrequentData`. -/
def frequentDataPacket : SerialFrequentDataPacket :=
  let iluminance := voltageToLux light.measuredVoltage
  let pwm :=
    BitVec.ofInt 8 (IntegerType.uint8.convert outOfRange light.controller.u)
  .new outOfRange (BitVec.ofNat 8 glob.nodeId) iluminance pwm

/-- `sendFrequentData`: what it writes to the serial port, and what it sends. -/
def sendFrequentData : List Byte × List (Nat × CanMessage) :=
  if glob.hubNode ≠ 0 then
    let packet := frequentDataPacket outOfRange voltageToLux glob light
    if glob.hubNode = glob.nodeId then
      (packet.sendOnSerial, [])
    else
      ([], [(glob.hubNode, packet.canMessage)])
  else
    ([], [])

end Sending

section Bytes

/-- The bits of a byte of the union. -/
theorem getLsbD_convertionByte
    (value : BitVec 16)
    {index : Nat}
    (inValue : index < 2)
    (position : Nat) :
    (convertionByte (value.setWidth 32) index).getLsbD position =
      (decide (position < 8) && value.getLsbD (8 * index + position)) := by
  simp only [convertionByte, BitVec.getLsbD_setWidth, BitVec.getLsbD_ushiftRight]
  by_cases low : position < 8
  · have inWord : 8 * index + position < 32 := by omega
    simp only [low, inWord, decide_true, Bool.true_and]
  · simp only [low, decide_false, Bool.false_and]

/-- The union stores the low byte first. -/
theorem convertionByte_zero (value : BitVec 16) :
    convertionByte (value.setWidth 32) 0 = lowByte value := by
  refine BitVec.eq_of_getLsbD_eq fun position _ => ?_
  rw [getLsbD_convertionByte value (by decide), getLsbD_lowByte, Nat.mul_zero,
    Nat.zero_add]

theorem convertionByte_one (value : BitVec 16) :
    convertionByte (value.setWidth 32) 1 = highByte value := by
  refine BitVec.eq_of_getLsbD_eq fun position _ => ?_
  rw [getLsbD_convertionByte value (by decide), getLsbD_highByte]

/-- Extending the sign changes none of the bits that are written. -/
theorem writtenByte_eq (value : SignedChar) :
    writtenByte value = value.toBitVec := by
  refine BitVec.eq_of_getLsbD_eq fun position inRange => ?_
  have inWord : position < 16 := by omega
  simp only [writtenByte, BitVec.getLsbD_setWidth, BitVec.getLsbD_signExtend,
    inRange, inWord, decide_true, Bool.true_and, if_true]

end Bytes

section Routes

variable {K : Type} [Zero K] [Add K] (union : FloatTo4Bytes K) (hub : HubNode K)
    (sender : Nat) (reading : BitVec 32)

/-- The hub writes the bytes of the frame as they are. -/
theorem HubNode.messageBytes_received (data0 data1 data2 data3 : Byte) :
    Server.messageBytes
        (hub.received union sender reading
          (.frequentData data0 data1 data2 data3)).serial =
      [syncByte, byteOf 'F', data0, data1, data2, data3] := by
  simp only [HubNode.received, Server.messageBytes, List.flatMap_singleton, Message.bytes,
    lowByte_joinBytes, highByte_joinBytes]

variable (packet : SerialFrequentDataPacket)

namespace SerialFrequentDataPacket

/-- A packet that comes in a frame is written like one of the hub's own. -/
theorem messageBytes_received :
    Server.messageBytes (hub.received union sender reading packet.canMessage).serial =
      packet.sendOnSerial := by
  rw [canMessage, HubNode.messageBytes_received, sendOnSerial, writtenByte_eq]
  rfl

/-- The message that the bytes of a packet are. -/
def message : Message :=
  .frequentData packet.node packet.iluminanceShort packet.pwm.toBitVec

theorem bytes_message : packet.message.bytes = packet.sendOnSerial := by
  simp only [sendOnSerial, message, Message.bytes, convertionByte_zero,
    convertionByte_one, writtenByte_eq, syncByte]

/-- The PC reads the six bytes of a packet as one message. -/
theorem handleReadSerial_sendOnSerial
    {server : Server}
    (finished : server.unfinishedSerialString = []) :
    server.handleReadSerial packet.sendOnSerial =
      server.perform
        (.receivedFrequentData packet.node packet.pwm.toBitVec
          (toSingle ((packet.iluminanceShort.toNat : ℚ) / 10))) := by
  rw [Server.handleReadSerial_of_finished finished, ← bytes_message,
    ← List.append_nil packet.message.bytes,
    Server.readFrom_message packet.message [] (fun ends => ends.elim)]
  rfl

end SerialFrequentDataPacket

end Routes

section Sending

variable {K : Type}
    [Field K] [LinearOrder K] [IsStrictOrderedRing K] [FloorRing K]
    (outOfRange : K → Int) (voltageToLux : K → K) (glob : Glob)
    (light : LightControl K)

/-- What the hub writes for the frequent data of a node: its own, or from a frame. -/
def hubWrites
    (union : FloatTo4Bytes K)
    (hub : HubNode K)
    (sender : Nat)
    (reading : BitVec 32)
    (sent : List Byte × List (Nat × CanMessage)) : List Byte :=
  sent.1 ++
    sent.2.flatMap fun message =>
      Server.messageBytes (hub.received union sender reading message.2).serial

/-- Whichever node is the hub, it writes the packet of the node that has sampled. -/
theorem hubWrites_sendFrequentData
    (union : FloatTo4Bytes K)
    (hub : HubNode K)
    (sender : Nat)
    (reading : BitVec 32)
    (present : glob.hubNode ≠ 0) :
    hubWrites union hub sender reading
        (sendFrequentData outOfRange voltageToLux glob light) =
      (frequentDataPacket outOfRange voltageToLux glob light).sendOnSerial := by
  unfold sendFrequentData
  rw [if_pos present]
  by_cases own : glob.hubNode = glob.nodeId
  · simp only [if_pos own, hubWrites, List.flatMap_nil, List.append_nil]
  · simp only [if_neg own, hubWrites, List.flatMap_singleton, List.nil_append]
    exact
      SerialFrequentDataPacket.messageBytes_received union hub sender reading _

/-- The PWM value of the packet is the one that the LED has. -/
theorem pwm_frequentDataPacket
    (expectedVoltage voltage luxRefAfterConsensus residualRead : K)
    (samplingTime : BitVec 32) :
    let ran :=
      light.control outOfRange expectedVoltage voltage luxRefAfterConsensus
        residualRead samplingTime
    ((frequentDataPacket outOfRange voltageToLux glob ran.1).pwm.toBitVec.toNat :
        Int) =
      ran.2 := by
  intro ran
  have written : ran.2 = truncate ran.1.controller.u :=
    light.controller.calcPwm_eq_truncate _
  have bounded : 0 ≤ ran.2 ∧ ran.2 ≤ 255 :=
    LightControl.control_mem outOfRange expectedVoltage voltage
      luxRefAfterConsensus residualRead light samplingTime
  have holds : IntegerType.uint8.Holds ran.1.controller.u := by
    rw [written] at bounded
    exact bounded
  have converted :
      IntegerType.uint8.convert outOfRange ran.1.controller.u = ran.2 := by
    rw [IntegerType.convert_of_holds _ holds, written]
  change
    ((BitVec.ofInt 8
      (IntegerType.uint8.convert outOfRange ran.1.controller.u)).toNat : Int) = _
  rw [converted, BitVec.toNat_ofInt]
  omega

end Sending

section Illuminance

variable {K : Type}
    [Field K] [LinearOrder K] [IsStrictOrderedRing K] [FloorRing K]
    (outOfRange : K → Int) (node pwm : Byte) {iluminance : K}

/--
What the PC must get from a sample: on both routes the same six bytes, and from them
the node, the PWM value and an illuminance less than 0.1 below the one sampled.
-/
structure Faithful (iluminance : K) : Prop where
  sameBytes :
    ∀ (union : FloatTo4Bytes K) (hub : HubNode K) (sender : Nat)
      (reading : BitVec 32),
      Server.messageBytes
          (hub.received union sender reading
            (SerialFrequentDataPacket.new outOfRange node iluminance
              pwm).canMessage).serial =
        (SerialFrequentDataPacket.new outOfRange node iluminance pwm).sendOnSerial
  received :
    ∃ decoded : ℚ,
      (∀ server : Server,
        server.unfinishedSerialString = [] →
        server.handleReadSerial
            (SerialFrequentDataPacket.new outOfRange node iluminance
              pwm).sendOnSerial =
          server.perform (.receivedFrequentData node pwm decoded)) ∧
        (decoded : K) ≤ iluminance ∧ iluminance - decoded < 1 / 10

/-- The tenths of a lux in the packet. -/
def tenths (iluminance : K) : Nat :=
  (SerialFrequentDataPacket.new outOfRange node iluminance
    pwm).iluminanceShort.toNat

/-- A product that fits into 16 bits is cut to an integer. -/
theorem tenths_eq
    (nonneg : 0 ≤ iluminance)
    (fits : toSingle (iluminance * 10) < 65536) :
    (tenths outOfRange node pwm iluminance : Int) = ⌊toSingle (iluminance * 10)⌋ := by
  have zero : IsSingle (((0 : Int) : K)) := isSingle_intCast (by decide)
  have scaled : 0 ≤ toSingle (iluminance * 10) := by
    rw [Int.cast_zero] at zero
    exact zero.le_toSingle (by positivity)
  have holds := (IntegerType.holds_uint16_iff scaled).mpr fits
  have converted :
      IntegerType.uint16.convert outOfRange (toSingle (iluminance * 10)) =
        ⌊toSingle (iluminance * 10)⌋ := by
    rw [IntegerType.convert_of_holds _ holds, truncate_of_nonneg scaled]
  have floored : 0 ≤ ⌊toSingle (iluminance * 10)⌋ := Int.floor_nonneg.mpr scaled
  have below : ⌊toSingle (iluminance * 10)⌋ < 65536 :=
    Int.floor_lt.mpr (by push_cast; exact fits)
  unfold tenths SerialFrequentDataPacket.new
  dsimp only
  rw [Nat.cast_ofNat, converted, BitVec.toNat_ofInt]
  omega

/-- Both routes bring the node, the PWM value and the tenths of a lux to the PC. -/
theorem faithful_iff_tenths :
    Faithful outOfRange node pwm iluminance ↔
      toSingle ((tenths outOfRange node pwm iluminance : K) / 10) ≤ iluminance ∧
        iluminance - toSingle ((tenths outOfRange node pwm iluminance : K) / 10) <
          1 / 10 := by
  have cast :
      ((toSingle ((tenths outOfRange node pwm iluminance : ℚ) / 10) : ℚ) : K) =
        toSingle ((tenths outOfRange node pwm iluminance : K) / 10) := by
    rw [ratCast_toSingle]
    push_cast
    rfl
  constructor
  · rintro ⟨-, decoded, reads, near⟩
    have read := reads ⟨[], [], []⟩ rfl
    rw [SerialFrequentDataPacket.handleReadSerial_sendOnSerial _ rfl] at read
    have same :
        toSingle ((tenths outOfRange node pwm iluminance : ℚ) / 10) = decoded := by
      have actions := congrArg Server.actions read
      simp only [Server.actions_perform, List.nil_append, List.cons.injEq,
        ServerAction.receivedFrequentData.injEq] at actions
      exact actions.1.2.2
    rw [← cast, same]
    exact near
  · intro near
    refine
      ⟨fun union hub sender reading =>
          SerialFrequentDataPacket.messageBytes_received union hub sender reading _,
        toSingle ((tenths outOfRange node pwm iluminance : ℚ) / 10),
        fun server finished =>
          SerialFrequentDataPacket.handleReadSerial_sendOnSerial _ finished, ?_⟩
    rw [cast]
    exact near

/-- No 16-bit integer of tenths comes near an illuminance that does not fit. -/
theorem not_faithful_of_le
    (beyond : 65536 ≤ iluminance * 10) :
    ¬ Faithful outOfRange node pwm iluminance := by
  rw [faithful_iff_tenths]
  rintro ⟨-, near⟩
  have stored : tenths outOfRange node pwm iluminance ≤ 65535 :=
    Nat.le_of_lt_succ
      (SerialFrequentDataPacket.new outOfRange node iluminance
        pwm).iluminanceShort.isLt
  have bounded : (tenths outOfRange node pwm iluminance : K) ≤ 65535 :=
    mod_cast stored
  have largest : IsSingle (13107 / 2 : K) :=
    isSingle_iff.mpr ⟨13107, -1, by decide, by decide, by norm_num⟩
  have decoded :
      toSingle ((tenths outOfRange node pwm iluminance : K) / 10) ≤ 13107 / 2 :=
    largest.toSingle_le (by linarith)
  linarith

omit outOfRange node pwm

/-- A product that rounding carries out of 16 bits is out of them already. -/
theorem le_of_le_toSingle
    (single : IsSingle iluminance)
    (beyond : 65536 ≤ toSingle (iluminance * 10)) :
    65536 ≤ iluminance * 10 := by
  by_contra! within
  have large : 4096 ≤ iluminance := by
    by_contra! small
    have bound : IsSingle ((40960 : Int) : K) := isSingle_intCast (by decide)
    have rounded : toSingle (iluminance * 10) ≤ ((40960 : Int) : K) :=
      bound.toSingle_le (by push_cast; linarith)
    push_cast at rounded
    linarith
  obtain ⟨multiple, steps⟩ :
      ∃ multiple : Int, iluminance = multiple * 2 ^ (-11 : Int) := by
    refine single.exists_eq_mul ?_
    rw [abs_of_nonneg (by linarith)]
    norm_num
    exact large
  have count : multiple ≤ 13421772 := by
    have counted : (multiple : K) * 10 < ((65536 * 2048 : Int) : K) := by
      rw [steps] at within
      norm_num at within ⊢
      linarith
    have integers : multiple * 10 < 65536 * 2048 := mod_cast counted
    omega
  have last : IsSingle (16777215 / 256 : K) :=
    isSingle_iff.mpr ⟨16777215, -8, by decide, by decide, by norm_num⟩
  have rounded : toSingle (iluminance * 10) ≤ 16777215 / 256 := by
    refine last.toSingle_le ?_
    have counted : (multiple : K) ≤ ((13421772 : Int) : K) := Int.cast_le.mpr count
    rw [steps]
    norm_num at counted ⊢
    linarith
  linarith

/-- No power of two is, or comes just before, a multiple of ten. -/
theorem two_pow_mod_ten (exponent : Nat) :
    2 ^ (exponent + 1) % 10 = 2 ∨ 2 ^ (exponent + 1) % 10 = 4 ∨
      2 ^ (exponent + 1) % 10 = 6 ∨ 2 ^ (exponent + 1) % 10 = 8 := by
  induction exponent with
  | zero => decide
  | succ exponent inductionHypothesis =>
      rw [pow_succ]
      omega

/-- The places that single precision keeps of tenths of a lux. -/
theorem lastPlace_tenths
    {count : Nat}
    (positive : 0 < count)
    (short : count ≤ 65535) :
    lastPlace ((count : K) / 10) ≤ -11 ∧
      2 ^ (lastPlace ((count : K) / 10) + 23) ≤ (count : K) / 10 := by
  have counted : (1 : K) ≤ count := mod_cast positive
  have bounded : (count : K) ≤ 65535 := mod_cast short
  have lux : |(count : K) / 10| = (count : K) / 10 := abs_of_nonneg (by linarith)
  have nonzero : (count : K) / 10 ≠ 0 := (by linarith : 0 < (count : K) / 10).ne'
  have normal : -27 ≤ lastPlace ((count : K) / 10) := by
    refine le_lastPlace ?_
    rw [lux]
    norm_num
    linarith
  refine ⟨lastPlace_le nonzero (by decide) ?_, ?_⟩
  · rw [lux]
    norm_num
    linarith
  · exact (zpow_lastPlace_le nonzero (by omega)).trans_eq lux

/--
The product has three more places than the tenths.  Where it is rounded to less than
a whole number, it is four of their last places below.
-/
theorem le_sub_of_cut
    {count : Nat}
    {place : Int}
    (short : count ≤ 65535)
    (large : 2 ^ (place + 23) ≤ iluminance)
    (cut : toSingle (iluminance * 10) < count + 1) :
    iluminance * 10 ≤ count + 1 - 4 * 2 ^ place := by
  have power : (0 : K) < 2 ^ (place + 23) := by positivity
  have product : |iluminance * 10| = iluminance * 10 := abs_of_nonneg (by linarith)
  have wide : place + 3 ≤ lastPlace (iluminance * 10) := by
    refine le_lastPlace ?_
    have eightfold : (2 : K) ^ (place + 3 + 23) = 2 ^ (place + 23) * 8 := by
      rw [show place + 3 + 23 = place + 23 + 3 by ring, zpow_add₀ two_ne_zero]
      norm_num
    rw [product, eightfold]
    linarith
  have within : iluminance * 10 < 65536 := by
    by_contra! beyond
    have bound : IsSingle ((65536 : Int) : K) := isSingle_intCast (by decide)
    have rounded : ((65536 : Int) : K) ≤ toSingle (iluminance * 10) :=
      bound.le_toSingle (by push_cast; exact beyond)
    have bounded : (count : K) ≤ 65535 := mod_cast short
    push_cast at rounded
    linarith
  have whole : lastPlace (iluminance * 10) ≤ 0 := by
    refine lastPlace_le (by linarith : 0 < iluminance * 10).ne' (by decide) ?_
    rw [product]
    norm_num
    linarith
  obtain ⟨multiple, one⟩ := exists_zpow_eq_mul (K := K) whole
  rw [zpow_zero] at one
  have next :
      (count : K) + 1 =
        ((count + 1) * multiple : Int) * 2 ^ lastPlace (iluminance * 10) := by
    push_cast
    rw [mul_assoc, ← one, mul_one]
  have below := le_sub_of_toSingle_lt (next ▸ cut)
  have eightfold : 8 * (2 : K) ^ place ≤ 2 ^ lastPlace (iluminance * 10) := by
    calc
      8 * (2 : K) ^ place = 2 ^ (place + 3) := by
        rw [zpow_add₀ two_ne_zero]
        norm_num
        ring
      _ ≤ 2 ^ lastPlace (iluminance * 10) := zpow_le_zpow_right₀ one_le_two wide
  rw [← next] at below
  linarith

/--
Tenths that are not above the illuminance leave out less than a tenth.  Both the
illuminance and what the PC makes of the tenths are multiples of the same power of
two, and no multiple of it lies just above a tenth.
-/
theorem sub_toSingle_lt
    {count : Nat}
    (single : IsSingle iluminance)
    (short : count ≤ 65535)
    (counted : (count : K) ≤ iluminance * 10)
    (cut : toSingle (iluminance * 10) < count + 1) :
    iluminance - toSingle ((count : K) / 10) < 1 / 10 := by
  by_contra! far
  rcases Nat.eq_zero_or_pos count with rfl | positive
  · have zero : IsSingle ((0 : Int) : K) := isSingle_intCast (by decide)
    have one : IsSingle ((1 : Int) : K) := isSingle_intCast (by decide)
    rw [Int.cast_zero] at zero
    rw [Nat.cast_zero, zero_div, zero.toSingle_eq] at far
    have rounded : ((1 : Int) : K) ≤ toSingle (iluminance * 10) :=
      one.le_toSingle (by push_cast; linarith)
    push_cast at rounded cut
    linarith
  · obtain ⟨small, first⟩ := lastPlace_tenths (K := K) positive short
    have decoded := (abs_le.mp (abs_toSingle_sub_le ((count : K) / 10))).1
    have power : (0 : K) < 2 ^ lastPlace ((count : K) / 10) := by positivity
    have large : 2 ^ (lastPlace ((count : K) / 10) + 23) ≤ iluminance := by linarith
    have below := le_sub_of_cut short large cut
    obtain ⟨sampled, steps⟩ :=
      single.exists_eq_mul (large.trans (le_abs_self iluminance))
    obtain ⟨exponent, exponent_eq⟩ :
        ∃ exponent : Nat, lastPlace ((count : K) / 10) = -((exponent + 1 : Nat) : Int) :=
      ⟨(-lastPlace ((count : K) / 10) - 1).toNat, by omega⟩
    have unit : (2 : K) ^ lastPlace ((count : K) / 10) * 2 ^ (exponent + 1) = 1 := by
      rw [exponent_eq, zpow_neg, zpow_natCast]
      exact inv_mul_cancel₀ (by positivity)
    -- In units of the last place both ten times the difference and a whole lux are integers.
    have difference :
        ((10 * (sampled - roundHalfEven
            ((count : K) / 10 / 2 ^ lastPlace ((count : K) / 10))) : Int) : K) *
            2 ^ lastPlace ((count : K) / 10) =
          10 * (iluminance - toSingle ((count : K) / 10)) := by
      rw [toSingle_eq]
      conv_rhs => rw [steps]
      push_cast
      ring
    have lower : ((2 ^ (exponent + 1) : Int) : K) ≤
        ((10 * (sampled - roundHalfEven
          ((count : K) / 10 / 2 ^ lastPlace ((count : K) / 10))) : Int) : K) := by
      refine le_of_mul_le_mul_right ?_ power
      rw [difference, Int.cast_pow, Int.cast_ofNat, mul_comm, unit]
      linarith
    have upper : ((10 * (sampled - roundHalfEven
          ((count : K) / 10 / 2 ^ lastPlace ((count : K) / 10))) : Int) : K) ≤
        ((2 ^ (exponent + 1) + 1 : Int) : K) := by
      refine le_of_mul_le_mul_right ?_ power
      rw [difference, Int.cast_add, Int.cast_pow, Int.cast_ofNat, Int.cast_one, add_mul,
        mul_comm _ ((2 : K) ^ lastPlace _), unit, one_mul]
      linarith
    rw [Int.cast_le] at lower upper
    have digit := two_pow_mod_ten exponent
    have casts : ((2 ^ (exponent + 1) : Nat) : Int) = 2 ^ (exponent + 1) := by push_cast; rfl
    omega

/--
On both routes the PC gets the node, the PWM value and an illuminance less than 0.1
below the one sampled, exactly where ten times the illuminance, as it is rounded, is
less than 2 ^ 16 and has not been carried up to a whole number; such a number does
no harm if the PC makes the very illuminance of it.
-/
theorem faithful_iff
    (outOfRange : K → Int)
    (node pwm : Byte)
    (nonneg : 0 ≤ iluminance)
    (single : IsSingle iluminance) :
    Faithful outOfRange node pwm iluminance ↔
      toSingle (iluminance * 10) < 65536 ∧
        ((⌊toSingle (iluminance * 10)⌋ : K) ≤ iluminance * 10 ∨
          iluminance = toSingle ((⌊toSingle (iluminance * 10)⌋ : K) / 10)) := by
  rcases le_or_gt 65536 (toSingle (iluminance * 10)) with beyond | fits
  · exact
      iff_of_false
        (not_faithful_of_le outOfRange node pwm (le_of_le_toSingle single beyond))
        fun condition => absurd condition.1 (not_lt.mpr beyond)
  have cut := tenths_eq outOfRange node pwm nonneg fits
  have above : toSingle (iluminance * 10) <
      ((tenths outOfRange node pwm iluminance : Int) : K) + 1 := by
    rw [cut]
    exact Int.lt_floor_add_one _
  rw [Int.cast_natCast] at above
  rw [faithful_iff_tenths, and_iff_right fits, ← cut, Int.cast_natCast]
  rcases le_or_gt (tenths outOfRange node pwm iluminance : K) (iluminance * 10) with
    counted | carried
  · have short : tenths outOfRange node pwm iluminance ≤ 65535 :=
      Nat.le_of_lt_succ
        (SerialFrequentDataPacket.new outOfRange node iluminance
          pwm).iluminanceShort.isLt
    exact
      iff_of_true
        ⟨single.toSingle_le (by linarith), sub_toSingle_lt single short counted above⟩
        (.inl counted)
  · have up : iluminance ≤ toSingle ((tenths outOfRange node pwm iluminance : K) / 10) :=
      single.le_toSingle (by linarith)
    rw [or_iff_right (not_le.mpr carried)]
    constructor
    · exact fun near => le_antisymm up near.1
    · intro same
      rw [← same]
      exact ⟨le_rfl, by norm_num⟩

end Illuminance

/-- The light of an office reaches the PC. -/
theorem faithful_iff_office :
    Faithful (fun _ => 0) 255 200 (toSingle (3217 / 6) : ℚ) :=
  (faithful_iff (fun _ => 0) 255 200 (by decide +kernel) (isSingle_toSingle _)).mpr
    (by decide +kernel)

/-- A bright light at a sensor with slope -1 and offset 2. -/
theorem voltageToLux_bright :
    Luminaire.voltageToLux (fun exponent : ℝ => 10 ^ exponent) (Real.logb 10) (-1) 2
        (Luminaire.getVoltage 1023) =
      10230 := by
  have resistance :
      (10 : ℝ) * (5 - Luminaire.getVoltage 1023) / Luminaire.getVoltage 1023 =
        10 / 1023 := by
    simp only [Luminaire.getVoltage]
    norm_num
  have exponent :
      (Real.logb 10 (10 / 1023) - 2) / -1 = 2 - Real.logb 10 (10 / 1023) := by
    ring
  simp only [Luminaire.voltageToLux]
  rw [resistance, exponent, Real.rpow_sub (by norm_num),
    Real.rpow_logb (by norm_num) (by norm_num) (by norm_num)]
  norm_num

/-- The sensor can report more light than a packet can carry. -/
theorem not_faithful_bright :
    ¬ ∃ outOfRange : ℝ → Int,
        Faithful outOfRange 1 255
          (Luminaire.voltageToLux (fun exponent : ℝ => 10 ^ exponent)
            (Real.logb 10) (-1) 2 (Luminaire.getVoltage 1023)) := by
  rintro ⟨outOfRange, faithful⟩
  rw [voltageToLux_bright] at faithful
  exact not_faithful_of_le outOfRange 1 255 (by norm_num) faithful

/-- The single-precision number next to 1.7 is sent as 17 tenths. -/
example : tenths (fun _ => 0) 1 255 (14260633 / 2 ^ 23 : ℚ) = 17 := by
  decide +kernel

end DistributedLighting
