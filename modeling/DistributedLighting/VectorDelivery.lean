import DistributedLighting.ConsensusAverage

namespace DistributedLighting

/-!
# Delivery of one duty-cycle vector

The frames that `sendConsensusDutyCycle` makes of a vector reach the
`CAN_CONSENSUS` branch of `received`.  The receiver takes every position up to and
including `numTotalNodes`, while the sender stops before it: unless the vector fills
its last frame, the receiver also writes the entry behind the vector, with whatever
the sending buffer holds there.
-/

section Writes

variable {K : Type} [Field K]

/-- The indices of `receivedDutyCycle` that `received` writes for one frame, in order. -/
def frameWrites (numTotalNodes : Nat) (data : FrameData) : List Nat :=
  ([0, 1, 2].map (posInVector data)).filter (· ≤ numTotalNodes)

/-- The indices written for a list of frames. -/
def drainWrites (numTotalNodes : Nat) (frames : List FrameData) : List Nat :=
  frames.flatMap (frameWrites numTotalNodes)

/-- One received position adds to its entry of the array and to no other. -/
theorem receiveEntry_receivedDutyCycle
    (overrun : Nat → K → Nat)
    (numTotalNodes : Nat)
    (data : FrameData)
    (c : Consensus K)
    (i : Nat)
    {slot : Nat}
    (inArray : slot < maxNumNodes) :
    (receiveEntry overrun numTotalNodes data c i).receivedDutyCycle slot =
      c.receivedDutyCycle slot +
        if posInVector data i ≤ numTotalNodes ∧
            posInVector data i = slot then
          entryValue data i
        else
          0 := by
  unfold receiveEntry
  by_cases stored : posInVector data i ≤ numTotalNodes
  · by_cases inside : posInVector data i < maxNumNodes
    · by_cases here : posInVector data i = slot
      · subst here
        simp [stored, inside]
      · have elsewhere : slot ≠ posInVector data i := Ne.symm here
        simp [stored, inside, here, elsewhere]
    · have elsewhere : posInVector data i ≠ slot := by
        rintro rfl
        exact inside inArray
      simp [stored, inside, elsewhere]
  · simp [stored]

/-- A frame adds its contributions to the array, whatever else it overwrites. -/
theorem receivedConsensus_receivedDutyCycle
    (overrun : Nat → K → Nat)
    (data : FrameData)
    (node : Firmware K)
    {slot : Nat}
    (inArray : slot < maxNumNodes) :
    (receivedConsensus overrun data node).consensus.receivedDutyCycle slot =
      node.consensus.receivedDutyCycle slot +
        contribution node.numTotalNodes data slot := by
  unfold receivedConsensus contribution
  simp only [List.foldl_cons, List.foldl_nil, List.map_cons, List.map_nil,
    List.sum_cons, List.sum_nil,
    receiveEntry_receivedDutyCycle overrun _ data _ _ inArray]
  ring

/-- So do several frames. -/
theorem drain_receivedDutyCycle
    (overrun : Nat → K → Nat)
    (node : Firmware K)
    (frames : List FrameData)
    {slot : Nat}
    (inArray : slot < maxNumNodes) :
    (drain overrun node frames).consensus.receivedDutyCycle slot =
      node.consensus.receivedDutyCycle slot +
        (frames.map fun data =>
          contribution node.numTotalNodes data slot).sum := by
  induction frames generalizing node with
  | nil =>
      exact (add_zero _).symm
  | cons data rest inductionHypothesis =>
      have size :
          (receivedConsensus overrun data node).numTotalNodes =
            node.numTotalNodes := by
        obtain ⟨received, count, isReceived⟩ :=
          receivedConsensus_eq overrun data node
        rw [isReceived]
        rfl
      have later :=
        inductionHypothesis (receivedConsensus overrun data node)
      rw [size, receivedConsensus_receivedDutyCycle _ _ _ inArray] at later
      rw [List.map_cons, List.sum_cons, ← add_assoc]
      exact later

/-- Without a write to an index a frame contributes nothing to it. -/
theorem contribution_of_not_written
    {numTotalNodes slot : Nat}
    {data : FrameData}
    (notWritten : slot ∉ frameWrites numTotalNodes data) :
    contribution numTotalNodes data slot = (0 : K) := by
  have notHere :
      ∀ i ∈ [0, 1, 2],
        ¬ (posInVector data i ≤ numTotalNodes ∧
          posInVector data i = slot) := by
    rintro i inTriple ⟨stored, rfl⟩
    exact
      notWritten
        (List.mem_filter.mpr
          ⟨List.mem_map_of_mem inTriple, decide_eq_true stored⟩)
  unfold contribution
  refine List.sum_eq_zero ?_
  intro value isValue
  obtain ⟨i, inTriple, rfl⟩ := List.mem_map.mp isValue
  exact if_neg (notHere i inTriple)

/-- An index of the array that is not written keeps its value. -/
theorem drain_receivedDutyCycle_of_not_written
    (overrun : Nat → K → Nat)
    (node : Firmware K)
    (frames : List FrameData)
    {slot : Nat}
    (inArray : slot < maxNumNodes)
    (notWritten : slot ∉ drainWrites node.numTotalNodes frames) :
    (drain overrun node frames).consensus.receivedDutyCycle slot =
      node.consensus.receivedDutyCycle slot := by
  have nothing :
      (frames.map fun data =>
          (contribution node.numTotalNodes data slot : K)).sum = 0 := by
    refine List.sum_eq_zero ?_
    intro value isValue
    obtain ⟨data, inFrames, rfl⟩ := List.mem_map.mp isValue
    refine contribution_of_not_written fun written => notWritten ?_
    exact List.mem_flatMap.mpr ⟨data, inFrames, written⟩
  rw [drain_receivedDutyCycle overrun node frames inArray, nothing, add_zero]

end Writes

section Delivery

variable {K : Type} [Field K] [LinearOrder K] [FloorRing K]

/-- The frames of a vector write its entries and, unless they are full, the one behind it. -/
theorem drainWrites_sendConsensusDutyCycle
    {numTotalNodes : Nat}
    (positive : 0 < numTotalNodes)
    (fits : numTotalNodes ≤ maxNumNodes)
    (val : Nat → K)
    (data : FrameData) :
    drainWrites numTotalNodes
        (sendConsensusDutyCycle numTotalNodes val data).2 =
      List.range numTotalNodes ++
        if 3 ∣ numTotalNodes then [] else [numTotalNodes] := by
  unfold maxNumNodes at fits
  have perFrame :
      ∀ msgI ∈ List.range (numMessages numTotalNodes),
        frameWrites numTotalNodes
            (sendingFrameAfter numTotalNodes val data (msgI + 1)) =
          ([0, 1, 2].map (msgI * 3 + ·)).filter (· ≤ numTotalNodes) := by
    intro msgI inRange
    have small : msgI ≤ 2 := by
      rw [List.mem_range, numMessages] at inRange
      omega
    have position :
        ∀ i ∈ [0, 1, 2],
          posInVector
              (sendingFrameAfter numTotalNodes val data (msgI + 1)) i =
            msgI * 3 + i := by
      intro i inTriple
      have below : i ≤ 2 := by
        simp only [List.mem_cons, List.not_mem_nil, or_false] at inTriple
        omega
      unfold posInVector
      rw [sendingFrameAfter_index, BitVec.toNat_ofNat]
      omega
    unfold frameWrites
    rw [List.map_congr_left position]
  unfold drainWrites sendConsensusDutyCycle
  rw [List.flatMap_map, List.flatMap_congr perFrame]
  clear perFrame
  interval_cases numTotalNodes <;> decide

/-- What the delivery of a vector is meant to do. -/
structure DeliversVector
    (overrun : Nat → K → Nat)
    (node : Firmware K)
    (val : Nat → K)
    (data : FrameData) : Prop where
  adds :
    ∀ j < node.numTotalNodes,
      (drain overrun node
          (sendConsensusDutyCycle node.numTotalNodes val
            data).2).consensus.receivedDutyCycle j =
        node.consensus.receivedDutyCycle j + quantised (val j)
  once :
    ∀ j < node.numTotalNodes,
      (drainWrites node.numTotalNodes
        (sendConsensusDutyCycle node.numTotalNodes val data).2).count j = 1
  inVector :
    ∀ index ∈
        drainWrites node.numTotalNodes
          (sendConsensusDutyCycle node.numTotalNodes val data).2,
      index < node.numTotalNodes
  counted :
    (drain overrun node
        (sendConsensusDutyCycle node.numTotalNodes val
          data).2).consensus.numberOfMsgReceived =
      node.consensus.numberOfMsgReceived +
        (sendConsensusDutyCycle node.numTotalNodes val data).2.length
  expected :
    (consensusInit node).consensus.numberOfMsgExpected =
      (sendConsensusDutyCycle node.numTotalNodes val data).2.length *
        (node.numTotalNodes - 1)

/-- The entries of the vector arrive in every registry. -/
theorem receivedDutyCycle_of_sent
    (overrun : Nat → K → Nat)
    (node : Firmware K)
    (fits : node.numTotalNodes ≤ maxNumNodes)
    (val : Nat → K)
    (data : FrameData)
    {j : Nat}
    (inVector : j < node.numTotalNodes) :
    (drain overrun node
        (sendConsensusDutyCycle node.numTotalNodes val
          data).2).consensus.receivedDutyCycle j =
      node.consensus.receivedDutyCycle j + quantised (val j) := by
  rw [drain_receivedDutyCycle overrun node _
      (lt_of_lt_of_le inVector fits),
    sum_contribution_sendConsensusDutyCycle fits val data inVector]

/-- A vector is delivered as it is meant to be exactly if it fills its frames. -/
theorem deliversVector_iff
    (overrun : Nat → K → Nat)
    (node : Firmware K)
    (positive : 0 < node.numTotalNodes)
    (fits : node.numTotalNodes ≤ maxNumNodes)
    (val : Nat → K)
    (data : FrameData) :
    DeliversVector overrun node val data ↔ 3 ∣ node.numTotalNodes := by
  have writes :=
    drainWrites_sendConsensusDutyCycle positive fits val data
  constructor
  · intro delivers
    by_contra partly
    have inVector := delivers.inVector
    rw [writes, if_neg partly] at inVector
    exact
      absurd (inVector node.numTotalNodes (by simp)) (lt_irrefl _)
  · intro full
    rw [if_pos full, List.append_nil] at writes
    have spare : node.numTotalNodes < maxNumNodes := by
      unfold maxNumNodes at fits ⊢
      omega
    refine ⟨?_, ?_, ?_, ?_, ?_⟩
    · intro j inVector
      exact receivedDutyCycle_of_sent overrun node fits val data inVector
    · intro j inVector
      rw [writes]
      exact
        List.count_eq_one_of_mem List.nodup_range
          (List.mem_range.mpr inVector)
    · intro index written
      rw [writes] at written
      exact List.mem_range.mp written
    · rw [drain_within overrun node spare, collect_numberOfMsgReceived]
    · rw [length_sendConsensusDutyCycle]
      rfl

/-- Three nodes fill the frame of their vectors. -/
theorem deliversVector_iff_three :
    DeliversVector (fun count _ => count)
        (Firmware.calibrated 3 0 (fun _ _ => 1) (fun _ => 0) (0 : ℚ))
        (fun j => 10 * j) (fun _ => 0) :=
  (deliversVector_iff _ _ (by decide) (by decide) _ _).mpr (dvd_refl 3)

/-- With seven nodes the write behind the vector is behind the array. -/
theorem not_deliversVector_seven :
    maxNumNodes ∈
        drainWrites 7
          (sendConsensusDutyCycle 7 (fun _ => (50 : ℚ)) (fun _ => 0)).2 ∧
      ¬ DeliversVector (fun count _ => count)
        (Firmware.calibrated 7 0 (fun _ _ => 1) (fun _ => 0) (0 : ℚ))
        (fun _ => 50) (fun _ => 0) := by
  have behind :
      7 ∈
        drainWrites 7
          (sendConsensusDutyCycle 7 (fun _ => (50 : ℚ)) (fun _ => 0)).2 := by
    rw [drainWrites_sendConsensusDutyCycle (by decide) (by decide)]
    decide
  refine ⟨behind, ?_⟩
  intro delivers
  exact absurd (delivers.inVector 7 behind) (by decide)

end Delivery

end DistributedLighting
