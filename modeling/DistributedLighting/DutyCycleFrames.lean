import Mathlib

namespace DistributedLighting

/-!
# Duty-cycle vectors on the wire

`Communication::sendConsensusDutyCycle` splits a vector over several CAN frames
of three entries each.  An entry travels as a 16-bit integer in two bytes, byte
6 of a frame says which triple it carries, and the last frame of a vector keeps
the bytes of the previous one wherever the vector has ended.
-/

/-- One byte of a CAN frame or of the serial line. -/
abbrev Byte := BitVec 8

/-- The data bytes of a CAN frame; positions 0 to 7 exist on the wire. -/
abbrev FrameData := Nat → Byte

/-- The arrays of the firmware hold this many nodes. -/
def maxNumNodes : Nat := 7

section Codec

variable {K : Type} [Field K] [LinearOrder K] [FloorRing K]

/-- The `round` of the Arduino core: to the nearest integer, halves away from zero. -/
def roundHalfAway (value : K) : Int :=
  if 0 ≤ value then
    round value
  else
    -round (-value)

/-- `int16_t aux = round(val * 32767 / 300.0)` -/
def encodeDutyCycle (value : K) : BitVec 16 :=
  BitVec.ofInt 16 (roundHalfAway (value * 32767 / 300))

/-- `(aux >> 8) & 0xFF` -/
def highByte (aux : BitVec 16) : Byte :=
  (aux.sshiftRight 8 &&& 0xFF#16).setWidth 8

/-- `aux & 0xFF` -/
def lowByte (aux : BitVec 16) : Byte :=
  (aux &&& 0xFF#16).setWidth 8

/-- `(uint16_t)(data[i * 2]) << 8 | (uint16_t)(data[i * 2 + 1])` -/
def joinBytes (high low : Byte) : BitVec 16 :=
  high.setWidth 16 <<< 8 ||| low.setWidth 16

/-- `aux * 300.0 / 32767` -/
def decodeDutyCycle (high low : Byte) : K :=
  ((joinBytes high low).toInt : K) * 300 / 32767

/-- The range of the encoding. -/
def InRange (value : K) : Prop := |value| ≤ 300

/-- Half a quantisation step of the encoding. -/
def halfStep (K : Type) [Field K] : K := 150 / 32767

/-- What a receiver decodes when `value` was encoded. -/
def quantised (value : K) : K :=
  decodeDutyCycle
    (highByte (encodeDutyCycle value))
    (lowByte (encodeDutyCycle value))

end Codec

/-- The bits of the low byte. -/
theorem getLsbD_lowByte
    (aux : BitVec 16)
    (position : Nat) :
    (lowByte aux).getLsbD position =
      (decide (position < 8) && aux.getLsbD position) := by
  have mask : ∀ position, position < 8 → (0xFF#16).getLsbD position = true := by
    decide
  simp only [lowByte, BitVec.getLsbD_setWidth, BitVec.getLsbD_and]
  by_cases low : position < 8
  · simp only [low, mask position low, decide_true, Bool.true_and, Bool.and_true]
  · simp only [low, decide_false, Bool.false_and]

/-- The bits of the high byte. -/
theorem getLsbD_highByte
    (aux : BitVec 16)
    (position : Nat) :
    (highByte aux).getLsbD position =
      (decide (position < 8) && aux.getLsbD (8 + position)) := by
  have mask : ∀ position, position < 8 → (0xFF#16).getLsbD position = true := by
    decide
  simp only [highByte, BitVec.getLsbD_setWidth, BitVec.getLsbD_and,
    BitVec.getLsbD_sshiftRight]
  by_cases low : position < 8
  · have inWord : 8 + position < 16 := by omega
    have notBeyond : ¬ 16 ≤ position := by omega
    simp [low, mask position low, inWord, notBeyond]
  · simp only [low, decide_false, Bool.false_and]

/-- Splitting a 16-bit integer into bytes and joining them loses nothing. -/
theorem joinBytes_split (aux : BitVec 16) :
    joinBytes (highByte aux) (lowByte aux) = aux := by
  refine BitVec.eq_of_getLsbD_eq fun index inRange => ?_
  simp only [joinBytes, BitVec.getLsbD_or, BitVec.getLsbD_shiftLeft,
    BitVec.getLsbD_setWidth, getLsbD_highByte, getLsbD_lowByte]
  by_cases low : index < 8
  · simp [low, inRange]
  · have shifted : index - 8 < 8 := by omega
    have restored : 8 + (index - 8) = index := by omega
    have inWord : index - 8 < 16 := by omega
    simp [low, inRange, inWord, shifted, restored]

/-- Joining two bytes and splitting them again loses nothing. -/
theorem lowByte_joinBytes (high low : Byte) :
    lowByte (joinBytes high low) = low := by
  refine BitVec.eq_of_getLsbD_eq fun position inRange => ?_
  have inWord : position < 16 := by omega
  rw [getLsbD_lowByte]
  simp [joinBytes, inRange, inWord]

theorem highByte_joinBytes (high low : Byte) :
    highByte (joinBytes high low) = high := by
  refine BitVec.eq_of_getLsbD_eq fun position inRange => ?_
  have inWord : 8 + position < 16 := by omega
  rw [getLsbD_highByte]
  simp [joinBytes, inRange, inWord]

section Rounding

variable {K : Type}
    [Field K] [LinearOrder K] [IsStrictOrderedRing K] [FloorRing K]

/-- Rounding moves a value by at most one half. -/
theorem abs_roundHalfAway_sub_le (value : K) :
    |(roundHalfAway value : K) - value| ≤ 1 / 2 := by
  unfold roundHalfAway
  split
  · rw [abs_sub_comm]
    exact abs_sub_round value
  · have mirrored :
        ((-round (-value) : Int) : K) - value =
          -value - (round (-value) : Int) := by
      push_cast
      ring
    rw [mirrored]
    exact abs_sub_round (-value)

/-- Rounding treats both signs alike. -/
theorem roundHalfAway_neg (value : K) :
    roundHalfAway (-value) = -roundHalfAway value := by
  unfold roundHalfAway
  rcases lt_trichotomy value 0 with negative | zero | positive
  · rw [if_pos (neg_nonneg.mpr negative.le), if_neg (not_le.mpr negative), neg_neg]
  · simp [zero]
  · rw [if_neg (by linarith), if_pos positive.le, neg_neg]

theorem roundHalfAway_nonneg
    {value : K}
    (nonneg : 0 ≤ value) :
    0 ≤ roundHalfAway value := by
  rw [roundHalfAway, if_pos nonneg, round_eq]
  exact Int.floor_nonneg.mpr (by linarith)

theorem roundHalfAway_nonpos
    {value : K}
    (nonpos : value ≤ 0) :
    roundHalfAway value ≤ 0 := by
  have mirrored := roundHalfAway_nonneg (neg_nonneg.mpr nonpos)
  rw [roundHalfAway_neg] at mirrored
  omega

/-- Integers are rounded to themselves. -/
theorem roundHalfAway_intCast (value : Int) :
    roundHalfAway (value : K) = value := by
  unfold roundHalfAway
  split
  · exact round_intCast value
  · rw [← Int.cast_neg, round_intCast, neg_neg]

/-- Rounding keeps the order. -/
theorem roundHalfAway_mono : Monotone (roundHalfAway : K → Int) := by
  have above :
      ∀ {first second : K},
        0 ≤ first → first ≤ second → roundHalfAway first ≤ roundHalfAway second := by
    intro first second nonneg ordered
    rw [roundHalfAway, roundHalfAway, if_pos nonneg,
      if_pos (nonneg.trans ordered), round_eq, round_eq]
    exact Int.floor_mono (by linarith)
  intro first second ordered
  rcases le_total 0 first with nonneg | nonpos
  · exact above nonneg ordered
  · rcases le_total 0 second with secondNonneg | secondNonpos
    · exact (roundHalfAway_nonpos nonpos).trans (roundHalfAway_nonneg secondNonneg)
    · have mirrored := above (neg_nonneg.mpr secondNonpos) (neg_le_neg ordered)
      rw [roundHalfAway_neg, roundHalfAway_neg] at mirrored
      omega

/-- Rounding keeps a value within integer bounds. -/
theorem abs_roundHalfAway_le
    {value : K}
    {bound : Nat}
    (within : |value| ≤ bound) :
    |roundHalfAway value| ≤ bound := by
  obtain ⟨lower, upper⟩ := abs_le.mp within
  rw [abs_le]
  constructor
  · rw [← roundHalfAway_intCast (K := K) (-bound)]
    exact roundHalfAway_mono (by push_cast; exact lower)
  · rw [← roundHalfAway_intCast (K := K) bound]
    exact roundHalfAway_mono (by push_cast; exact upper)

end Rounding

section Encoding

variable {K : Type}
    [Field K] [LinearOrder K] [IsStrictOrderedRing K] [FloorRing K]

/-- In the range of the protocol, encoding is rounding without wrap-around. -/
theorem toInt_encodeDutyCycle
    {value : K}
    (within : |value| ≤ 300) :
    (encodeDutyCycle value).toInt =
      roundHalfAway (value * 32767 / 300) := by
  have scaled : |value * 32767 / 300| ≤ ((32767 : Nat) : K) := by
    have range := abs_le.mp within
    rw [abs_le]
    push_cast
    constructor <;> linarith [range.1, range.2]
  have bounded := abs_le.mp (abs_roundHalfAway_le scaled)
  unfold encodeDutyCycle
  rw [BitVec.toInt_ofInt]
  exact Int.bmod_eq_of_le (by omega) (by omega)

/-- What a receiver decodes is the rounded value, scaled back. -/
theorem quantised_eq
    {value : K}
    (within : InRange value) :
    quantised value =
      (roundHalfAway (value * 32767 / 300) : K) * 300 / 32767 := by
  unfold quantised decodeDutyCycle
  rw [joinBytes_split, toInt_encodeDutyCycle within]

/-- Encoding and decoding moves a value by at most half a quantisation step. -/
theorem abs_quantised_sub_le
    {value : K}
    (within : |value| ≤ 300) :
    |quantised value - value| ≤ 150 / 32767 := by
  have near :=
    abs_le.mp (abs_roundHalfAway_sub_le (value * 32767 / 300))
  rw [quantised_eq within, abs_le]
  constructor <;> linarith [near.1, near.2]

/-- A value and what it is decoded to are never on different sides of zero. -/
theorem sign_quantised
    {value : K}
    (within : InRange value) :
    quantised value = 0 ∨
      SignType.sign (quantised value) = SignType.sign value := by
  rcases lt_trichotomy value 0 with negative | zero | positive
  · have rounded : (roundHalfAway (value * 32767 / 300) : K) ≤ 0 :=
      Int.cast_nonpos.mpr (roundHalfAway_nonpos (by linarith))
    have nonpos : quantised value ≤ 0 := by
      rw [quantised_eq within]
      linarith
    rcases nonpos.eq_or_lt with none | below
    · exact .inl none
    · exact .inr (by rw [sign_neg below, sign_neg negative])
  · subst zero
    left
    simp [quantised_eq within, roundHalfAway]
  · have rounded : (0 : K) ≤ roundHalfAway (value * 32767 / 300) :=
      Int.cast_nonneg (roundHalfAway_nonneg (by linarith))
    have nonneg : 0 ≤ quantised value := by
      rw [quantised_eq within]
      linarith
    rcases nonneg.eq_or_lt with none | above
    · exact .inl none.symm
    · exact .inr (by rw [sign_pos above, sign_pos positive])

/-- What any two bytes are decoded to is encoded as the integer in them. -/
theorem encodeDutyCycle_decodeDutyCycle (high low : Byte) :
    encodeDutyCycle (decodeDutyCycle high low : K) = joinBytes high low := by
  have unscaled :
      (decodeDutyCycle high low : K) * 32767 / 300 = (joinBytes high low).toInt := by
    unfold decodeDutyCycle
    field_simp
  unfold encodeDutyCycle
  rw [unscaled, roundHalfAway_intCast, BitVec.ofInt_toInt]

/-- Larger values are decoded to values that are no smaller. -/
theorem quantised_monotoneOn :
    MonotoneOn (quantised : K → K) {value | InRange value} := by
  intro first firstWithin second secondWithin ordered
  have rounded :
      (roundHalfAway (first * 32767 / 300) : K) ≤ roundHalfAway (second * 32767 / 300) :=
    Int.cast_le.mpr (roundHalfAway_mono (by linarith))
  rw [quantised_eq firstWithin, quantised_eq secondWithin]
  linarith

/--
The codec is exact to half a quantisation step and keeps the sign and the order of
what it encodes; no two bytes are changed by decoding and encoding them again.
-/
theorem dutyCycle_codec :
    (∀ value : K,
        InRange value →
          |quantised value - value| ≤ halfStep K ∧
            (quantised value = 0 ∨
              SignType.sign (quantised value) = SignType.sign value)) ∧
      (∀ high low : Byte,
          highByte (encodeDutyCycle (decodeDutyCycle high low : K)) = high ∧
            lowByte (encodeDutyCycle (decodeDutyCycle high low : K)) = low) ∧
        MonotoneOn (quantised : K → K) {value | InRange value} := by
  refine ⟨?_, ?_, quantised_monotoneOn⟩
  · intro value within
    exact ⟨abs_quantised_sub_le within, sign_quantised within⟩
  · intro high low
    rw [encodeDutyCycle_decodeDutyCycle]
    exact ⟨highByte_joinBytes high low, lowByte_joinBytes high low⟩

/-- A negative value with a fraction, and the integer next to it. -/
theorem dutyCycle_codec_third :
    (highByte (encodeDutyCycle (-100 / 3 : ℚ)) = 0xF1 ∧
        lowByte (encodeDutyCycle (-100 / 3 : ℚ)) = 0xC7) ∧
      |quantised (-100 / 3 : ℚ) - -100 / 3| ≤ halfStep ℚ ∧
      highByte (encodeDutyCycle (decodeDutyCycle 0xF1 0xC7 : ℚ)) = 0xF1 ∧
      quantised (-100 / 3 : ℚ) ≤ quantised (-33 : ℚ) := by
  obtain ⟨near, again, ordered⟩ := dutyCycle_codec (K := ℚ)
  have third : InRange (-100 / 3 : ℚ) := by norm_num [InRange, abs_le]
  have integer : InRange (-33 : ℚ) := by norm_num [InRange, abs_le]
  exact
    ⟨by decide +kernel, (near _ third).1, (again _ _).1,
      ordered third integer (by norm_num)⟩

end Encoding

section Sending

variable {K : Type} [Field K] [LinearOrder K] [FloorRing K]

/-- Write one encoded entry into position `i` of a frame's triple. -/
def putDutyCycle
    (data : FrameData)
    (i : Nat)
    (value : K) : FrameData :=
  let aux := encodeDutyCycle value
  Function.update
    (Function.update data (i * 2) (highByte aux))
    (i * 2 + 1) (lowByte aux)

/-- One pass of the inner loop; `break` and skipping agree, as the bound stays violated. -/
def fillEntry
    (numTotalNodes : Nat)
    (val : Nat → K)
    (msgI : Nat)
    (data : FrameData)
    (i : Nat) : FrameData :=
  if msgI * 3 + i ≥ numTotalNodes then
    data
  else
    putDutyCycle data i (val (msgI * 3 + i))

/-- Prepare frame `msgI` of a vector in the sending buffer. -/
def fillFrame
    (numTotalNodes : Nat)
    (val : Nat → K)
    (data : FrameData)
    (msgI : Nat) : FrameData :=
  Function.update
    ([0, 1, 2].foldl (fillEntry numTotalNodes val msgI) data)
    6 (BitVec.ofNat 8 msgI)

/-- The sending buffer after the first `count` frames of a vector. -/
def sendingFrameAfter
    (numTotalNodes : Nat)
    (val : Nat → K)
    (data : FrameData) : Nat → FrameData
  | 0 => data
  | count + 1 =>
      fillFrame numTotalNodes val
        (sendingFrameAfter numTotalNodes val data count) count

/-- Each message can send three values of the duty-cycle vector. -/
def numMessages (numTotalNodes : Nat) : Nat :=
  (numTotalNodes - 1) / 3 + 1

/-- `Communication::sendConsensusDutyCycle`: the buffer it leaves and the frames it sends. -/
def sendConsensusDutyCycle
    (numTotalNodes : Nat)
    (val : Nat → K)
    (data : FrameData) : FrameData × List FrameData :=
  (sendingFrameAfter numTotalNodes val data (numMessages numTotalNodes),
    (List.range (numMessages numTotalNodes)).map fun msgI =>
      sendingFrameAfter numTotalNodes val data (msgI + 1))

@[simp] theorem length_sendConsensusDutyCycle
    (numTotalNodes : Nat)
    (val : Nat → K)
    (data : FrameData) :
    (sendConsensusDutyCycle numTotalNodes val data).2.length =
      numMessages numTotalNodes := by
  simp [sendConsensusDutyCycle]

theorem numMessages_pos (numTotalNodes : Nat) :
    0 < numMessages numTotalNodes :=
  Nat.succ_pos _

end Sending

section Receiving

variable {K : Type} [Field K] [LinearOrder K] [FloorRing K]

/-- `msgI * 3 + i` in the receiver's 8-bit arithmetic. -/
def posInVector (data : FrameData) (i : Nat) : Nat :=
  ((data 6).toNat * 3 + i) % 256

/-- The entry a receiver decodes from position `i` of a frame's triple. -/
def entryValue (data : FrameData) (i : Nat) : K :=
  decodeDutyCycle (data (i * 2)) (data (i * 2 + 1))

/-- What one frame adds to entry `slot` of the receiver's vector. -/
def contribution
    (numTotalNodes : Nat)
    (data : FrameData)
    (slot : Nat) : K :=
  ([0, 1, 2].map fun i =>
    if posInVector data i ≤ numTotalNodes ∧ posInVector data i = slot then
      entryValue data i
    else
      0).sum

/-- Byte 6 of a prepared frame is its index. -/
theorem sendingFrameAfter_index
    (numTotalNodes : Nat)
    (val : Nat → K)
    (data : FrameData)
    (msgI : Nat) :
    sendingFrameAfter numTotalNodes val data (msgI + 1) 6 =
      BitVec.ofNat 8 msgI := by
  simp [sendingFrameAfter, fillFrame]

/-- Filling one position of a triple leaves the other positions alone. -/
theorem entryValue_fillEntry_other
    (numTotalNodes : Nat)
    (val : Nat → K)
    (msgI : Nat)
    (data : FrameData)
    {i k : Nat}
    (different : k ≠ i) :
    (entryValue (fillEntry numTotalNodes val msgI data k) i : K) =
      entryValue data i := by
  unfold fillEntry
  split
  · rfl
  · unfold entryValue putDutyCycle
    simp only [Function.update_apply]
    rw [if_neg (by omega), if_neg (by omega),
      if_neg (by omega), if_neg (by omega)]

/-- Filling a position inside the vector stores the encoded entry there. -/
theorem entryValue_fillEntry_self
    {numTotalNodes : Nat}
    (val : Nat → K)
    {msgI i : Nat}
    (data : FrameData)
    (inVector : msgI * 3 + i < numTotalNodes) :
    (entryValue (fillEntry numTotalNodes val msgI data i) i : K) =
      quantised (val (msgI * 3 + i)) := by
  have inside : ¬ msgI * 3 + i ≥ numTotalNodes := by omega
  unfold fillEntry
  rw [if_neg inside]
  simp [entryValue, putDutyCycle, quantised]

/-- A prepared frame decodes to the quantised entries that belong to it. -/
theorem entryValue_sendingFrameAfter
    {numTotalNodes : Nat}
    (val : Nat → K)
    (data : FrameData)
    {msgI i : Nat}
    (inTriple : i < 3)
    (inVector : msgI * 3 + i < numTotalNodes) :
    (entryValue
        (sendingFrameAfter numTotalNodes val data (msgI + 1)) i : K) =
      quantised (val (msgI * 3 + i)) := by
  have indexApart :
      ∀ buffer : FrameData,
        (entryValue
            (Function.update buffer 6 (BitVec.ofNat 8 msgI)) i : K) =
          entryValue buffer i := by
    intro buffer
    unfold entryValue
    rw [Function.update_of_ne (by omega), Function.update_of_ne (by omega)]
  unfold sendingFrameAfter fillFrame
  rw [indexApart]
  simp only [List.foldl_cons, List.foldl_nil]
  interval_cases i
  · rw [entryValue_fillEntry_other _ _ _ _ (by decide),
      entryValue_fillEntry_other _ _ _ _ (by decide),
      entryValue_fillEntry_self _ _ inVector]
  · rw [entryValue_fillEntry_other _ _ _ _ (by decide),
      entryValue_fillEntry_self _ _ inVector]
  · rw [entryValue_fillEntry_self _ _ inVector]

/-- Frame `msgI` of a vector contributes to an entry exactly when the entry is in its triple. -/
theorem contribution_sendingFrameAfter
    {numTotalNodes : Nat}
    (fits : numTotalNodes ≤ maxNumNodes)
    (val : Nat → K)
    (data : FrameData)
    {msgI slot : Nat}
    (inRange : msgI < numMessages numTotalNodes)
    (inVector : slot < numTotalNodes) :
    contribution numTotalNodes
        (sendingFrameAfter numTotalNodes val data (msgI + 1)) slot =
      if msgI = slot / 3 then quantised (val slot) else (0 : K) := by
  unfold maxNumNodes at fits
  unfold numMessages at inRange
  have small : msgI ≤ 2 := by omega
  have position :
      ∀ i,
        i < 3 →
        posInVector
            (sendingFrameAfter numTotalNodes val data (msgI + 1)) i =
          msgI * 3 + i := by
    intro i inTriple
    unfold posInVector
    rw [sendingFrameAfter_index, BitVec.toNat_ofNat]
    omega
  have value :
      ∀ i,
        i < 3 →
        (if msgI * 3 + i ≤ numTotalNodes ∧ msgI * 3 + i = slot then
            (entryValue
              (sendingFrameAfter numTotalNodes val data (msgI + 1)) i : K)
          else
            0) =
          if msgI * 3 + i = slot then quantised (val slot) else 0 := by
    intro i inTriple
    by_cases here : msgI * 3 + i = slot
    · have within : msgI * 3 + i ≤ numTotalNodes := by omega
      rw [if_pos ⟨within, here⟩, if_pos here,
        entryValue_sendingFrameAfter val data inTriple (by omega), here]
    · rw [if_neg (fun both => here both.2), if_neg here]
  unfold contribution
  simp only [List.map_cons, List.map_nil, List.sum_cons, List.sum_nil,
    position 0 (by omega), position 1 (by omega), position 2 (by omega),
    value 0 (by omega), value 1 (by omega), value 2 (by omega)]
  by_cases own : msgI = slot / 3
  · have offset : slot % 3 < 3 := Nat.mod_lt _ (by omega)
    have decomposed : slot = msgI * 3 + slot % 3 := by omega
    generalize slot % 3 = i at offset decomposed
    subst decomposed
    rw [if_pos own]
    interval_cases i <;> simp
  · rw [if_neg own, if_neg (by omega), if_neg (by omega), if_neg (by omega)]
    simp

/-- The frames of one vector together contribute the quantised vector. -/
theorem sum_contribution_sendConsensusDutyCycle
    {numTotalNodes : Nat}
    (fits : numTotalNodes ≤ maxNumNodes)
    (val : Nat → K)
    (data : FrameData)
    {slot : Nat}
    (inVector : slot < numTotalNodes) :
    ((sendConsensusDutyCycle numTotalNodes val data).2.map fun frame =>
        (contribution numTotalNodes frame slot : K)).sum =
      quantised (val slot) := by
  have owner : slot / 3 < numMessages numTotalNodes := by
    unfold numMessages
    omega
  have perFrame :
      ∀ msgI ∈ List.range (numMessages numTotalNodes),
        contribution numTotalNodes
            (sendingFrameAfter numTotalNodes val data (msgI + 1)) slot =
          if msgI = slot / 3 then quantised (val slot) else (0 : K) :=
    fun msgI member =>
      contribution_sendingFrameAfter fits val data
        (List.mem_range.mp member) inVector
  unfold sendConsensusDutyCycle
  rw [List.map_map, Function.comp_def, List.map_congr_left perFrame]
  have single :=
    Finset.sum_ite_eq' (Finset.range (numMessages numTotalNodes))
      (slot / 3) (fun _ => (quantised (val slot) : K))
  rw [if_pos (Finset.mem_range.mpr owner)] at single
  exact single

end Receiving

end DistributedLighting
