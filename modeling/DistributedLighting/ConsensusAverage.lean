import DistributedLighting.Consensus

namespace DistributedLighting

/-!
# One exchange of proposals

In a round every node sends its proposal and receives the frames of all its
peers once, in any order and spread over any number of main-loop iterations.
The node divides by the number of messages it counted plus one, which is the
number of nodes only while a proposal fits into one frame.
-/

section Delivery

variable {K : Type} [Field K]

/-- The drain of the main loop, when the queue holds consensus frames. -/
def drain
    (overrun : Nat → K → Nat)
    (node : Firmware K)
    (frames : List FrameData) : Firmware K :=
  frames.foldl (fun node data => receivedConsensus overrun data node) node

theorem drain_append
    (overrun : Nat → K → Nat)
    (node : Firmware K)
    (first second : List FrameData) :
    drain overrun node (first ++ second) =
      drain overrun (drain overrun node first) second :=
  List.foldl_append

/-- Draining only touches the received vector and the counter. -/
theorem drain_eq
    (overrun : Nat → K → Nat)
    (node : Firmware K)
    (frames : List FrameData) :
    ∃ received count,
      drain overrun node frames = node.setReceived received count := by
  induction frames generalizing node with
  | nil =>
      exact ⟨_, _, rfl⟩
  | cons data rest inductionHypothesis =>
      obtain ⟨received, count, frame⟩ :=
        receivedConsensus_eq overrun data node
      obtain ⟨lastReceived, lastCount, frames⟩ :=
        inductionHypothesis (node.setReceived received count)
      refine ⟨lastReceived, lastCount, ?_⟩
      rw [drain, List.foldl_cons, frame]
      exact frames

/-- Draining does not end the wait, nor change what is awaited. -/
theorem drain_waiting
    (overrun : Nat → K → Nat)
    (node : Firmware K)
    (frames : List FrameData) :
    (drain overrun node frames).consensus.consensusState =
        node.consensus.consensusState ∧
      (drain overrun node frames).consensus.numberOfMsgExpected =
        node.consensus.numberOfMsgExpected := by
  obtain ⟨received, count, drained⟩ := drain_eq overrun node frames
  rw [drained]
  exact ⟨rfl, rfl⟩

/-- Draining counts the frames and adds up what they carry. -/
theorem drain_within
    (overrun : Nat → K → Nat)
    (node : Firmware K)
    (spare : node.numTotalNodes < maxNumNodes)
    (frames : List FrameData) :
    drain overrun node frames =
      node.collect
        (fun slot =>
          (frames.map fun data =>
            contribution node.numTotalNodes data slot).sum)
        frames.length := by
  unfold drain
  induction frames generalizing node with
  | nil =>
      exact (collect_zero node).symm
  | cons data rest inductionHypothesis =>
      rw [List.foldl_cons, receivedConsensus_within overrun data spare,
        inductionHypothesis (node.collect _ 1) spare, collect_collect]
      simp only [collect_numTotalNodes, List.map_cons, List.sum_cons,
        List.length_cons, Nat.add_comm 1]

/-- The positions of a frame that fall behind the array. -/
def overruns (numTotalNodes : Nat) (data : FrameData) : Nat :=
  ([0, 1, 2].filter fun i =>
    posInVector data i ≤ numTotalNodes ∧
      ¬ posInVector data i < maxNumNodes).length

/-- A write behind the array that moves the counter far off. -/
def farOff (count : Nat) (_value : K) : Nat :=
  count + 1000

/-- With such a write every position behind the array counts a thousand times. -/
theorem drain_farOff
    (node : Firmware K)
    (frames : List FrameData) :
    (drain farOff node frames).consensus.numberOfMsgReceived =
      node.consensus.numberOfMsgReceived + frames.length +
        1000 * (frames.map (overruns node.numTotalNodes)).sum := by
  have entry :
      ∀ (size : Nat) (data : FrameData) (c : Consensus K) (i : Nat),
        (receiveEntry farOff size data c i).numberOfMsgReceived =
          c.numberOfMsgReceived +
            if posInVector data i ≤ size ∧
                ¬ posInVector data i < maxNumNodes then 1000 else 0 := by
    intro size data c i
    unfold receiveEntry farOff
    by_cases stored : posInVector data i ≤ size <;>
      by_cases inside : posInVector data i < maxNumNodes <;>
        simp [stored, inside]
  have frame :
      ∀ (node : Firmware K) (data : FrameData),
        (receivedConsensus farOff data node).consensus.numberOfMsgReceived =
          node.consensus.numberOfMsgReceived + 1 +
            1000 * overruns node.numTotalNodes data := by
    intro node data
    simp only [receivedConsensus, List.foldl_cons, List.foldl_nil, entry,
      overruns, List.filter_cons, List.filter_nil, decide_eq_true_eq]
    split_ifs <;> simp
  induction frames generalizing node with
  | nil =>
      simp [drain]
  | cons data rest inductionHypothesis =>
      have size :
          (receivedConsensus farOff data node).numTotalNodes =
            node.numTotalNodes :=
        rfl
      have rest := inductionHypothesis (receivedConsensus farOff data node)
      rw [frame, size] at rest
      rw [drain, List.foldl_cons]
      refine rest.trans ?_
      simp only [List.length_cons, List.map_cons, List.sum_cons]
      ring

end Delivery

section Loops

variable {K : Type} [Field K] [LinearOrder K] [FloorRing K]

/-- One iteration of the main loop: drain the queue, then `consensus_main`. -/
def mainLoop
    (overrun : Nat → K → Nat)
    (node : Firmware K)
    (frames : List FrameData) : Firmware K :=
  (consensusMain (drain overrun node frames)).1

/-- A node that has not sent yet sends the same proposal whatever it has received. -/
theorem mainLoop_first
    (overrun : Nat → K → Nat)
    (node : Firmware K)
    (frames : List FrameData) :
    mainLoop overrun node frames =
      consensusMainWait
        ((consensusMainSend node).1.setReceived
          (drain overrun node frames).consensus.receivedDutyCycle
          (drain overrun node frames).consensus.numberOfMsgReceived) := by
  obtain ⟨received, count, drained⟩ := drain_eq overrun node frames
  rw [mainLoop, consensusMain, drained, consensusMainSend_setReceived]
  rfl

/-- While waiting, an iteration drains the queue and looks at the count. -/
theorem mainLoop_waiting
    (overrun : Nat → K → Nat)
    {node : Firmware K}
    (waiting :
      node.consensus.consensusState = .waitingReciveDutyCycle)
    (frames : List FrameData) :
    mainLoop overrun node frames =
      consensusMainWait (drain overrun node frames) := by
  refine consensusMain_of_waiting ?_
  rw [(drain_waiting overrun node frames).1]
  exact waiting

/-- A waiting node keeps waiting as long as no iteration finds the awaited count. -/
theorem foldl_mainLoop_waiting
    (overrun : Nat → K → Nat)
    {node : Firmware K}
    (waiting :
      node.consensus.consensusState = .waitingReciveDutyCycle)
    {batches : List (List FrameData)}
    (notFull :
      ∀ batch rest,
        batches = batch ++ rest →
        batch ≠ [] →
        (drain overrun node batch.flatten).consensus.numberOfMsgReceived ≠
          node.consensus.numberOfMsgExpected) :
    batches.foldl (mainLoop overrun) node =
      drain overrun node batches.flatten := by
  induction batches generalizing node with
  | nil =>
      rfl
  | cons batch rest inductionHypothesis =>
      have frame := drain_waiting overrun node batch
      have count := notFull [batch] rest rfl (by simp)
      rw [List.flatten_singleton, ← frame.2] at count
      rw [List.foldl_cons, mainLoop_waiting overrun waiting,
        consensusMainWait_of_not_full (frame.1.trans waiting) count,
        List.flatten_cons, drain_append]
      refine inductionHypothesis (frame.1.trans waiting) ?_
      intro batches last split _
      have further :=
        notFull (batch :: batches) last (by simp [split]) (by simp)
      rwa [List.flatten_cons, drain_append, ← frame.2] at further

end Loops

section Peers

/-- The peers of a node, in index order. -/
def peers {N : Nat} (node : Fin N) : List (Fin N) :=
  (List.finRange N).filter fun peer => peer ≠ node

/-- Summing over a node's peers. -/
theorem sum_peers
    {N : Nat}
    {Value : Type}
    [AddCommMonoid Value]
    (n : Fin N)
    (value : Fin N → Value) :
    ((peers n).map value).sum = ∑ peer ∈ Finset.univ.erase n, value peer := by
  have distinct : (peers n).Nodup := (List.nodup_finRange N).filter _
  rw [← List.sum_toFinset value distinct]
  congr 1
  ext peer
  simp [peers]

/-- A node has all other nodes as peers. -/
theorem length_peers {N : Nat} (n : Fin N) :
    (peers n).length = N - 1 := by
  have total := sum_peers n (fun _ => 1)
  simpa [Finset.card_erase_of_mem] using total

end Peers

section Rounds

variable {K : Type} [Field K] [LinearOrder K] [FloorRing K]

/-- The duty cycles a node proposes: `dutyCycleBest` when it sends. -/
def proposalOf (node : Firmware K) : Nat → K :=
  (consensusMainSend node).1.consensus.dutyCycleBest

/--
A round: nodes with equal registries that are about to propose, and for each of
them the frames of all its peers, in the order and in the main-loop iterations
in which they arrive.  The first iteration is the one in which the node sends
its own proposal; the later ones are those that find frames in the queue.
-/
structure Round (K : Type) [Field K] [LinearOrder K] [FloorRing K] (N : Nat) where
  node : Fin N → Firmware K
  first : Fin N → List FrameData
  later : Fin N → List (List FrameData)
  nonempty : 1 ≤ N
  fits : N ≤ maxNumNodes
  registry : ∀ n, (node n).numTotalNodes = N
  proposing :
    ∀ n,
      (node n).consensus.consensusState = .iterate ∨
        (node n).consensus.consensusState = .sendingDutyCycle
  expected :
    ∀ n,
      (node n).consensus.numberOfMsgExpected = numMessages N * (N - 1)
  noneReceived : ∀ n, (node n).consensus.numberOfMsgReceived = 0
  cleared :
    ∀ n, ∀ slot < N, (node n).consensus.receivedDutyCycle slot = 0
  bounded :
    ∀ n, ∀ slot < N, |proposalOf (node n) slot| ≤ 300
  busy : ∀ n, ∀ batch ∈ later n, batch ≠ []
  exchanged :
    ∀ n,
      (first n ++ (later n).flatten).Perm
        ((peers n).flatMap fun peer => (consensusMainSend (node peer)).2)

namespace Round

variable {N : Nat}

/-- The proposal a node sends in the round. -/
def proposal (round : Round K N) (n : Fin N) : Nat → K :=
  proposalOf (round.node n)

/-- The exact arithmetic mean of the proposals. -/
def mean (round : Round K N) (slot : Nat) : K :=
  (∑ n, round.proposal n slot) / N

/-- The quantisation error of the proposals a node receives. -/
def peerError (round : Round K N) (n : Fin N) (slot : Nat) : K :=
  ∑ peer ∈ Finset.univ.erase n,
    (quantised (round.proposal peer slot) - round.proposal peer slot)

/-- The node after the main-loop iterations of the round. -/
def after
    (overrun : Nat → K → Nat)
    (round : Round K N)
    (n : Fin N) : Firmware K :=
  (round.later n).foldl (mainLoop overrun)
    (mainLoop overrun (round.node n) (round.first n))

/-- Every node completes the round with averages close to the mean and to each other. -/
structure AveragesAgree
    (overrun : Nat → K → Nat)
    (round : Round K N) : Prop where
  updated :
    ∀ n,
      (round.after overrun n).consensus.consensusState ≠
        .waitingReciveDutyCycle
  nearMean :
    ∀ n, ∀ slot < N,
      |(round.after overrun n).consensus.dutyCycleAv slot -
          round.mean slot| ≤ halfStep K
  nearEachOther :
    ∀ n m, ∀ slot < N,
      |(round.after overrun n).consensus.dutyCycleAv slot -
          (round.after overrun m).consensus.dutyCycleAv slot| ≤
        2 * halfStep K

/-- The frames a node of the round sends are its proposal. -/
theorem sent
    (round : Round K N)
    (n : Fin N) :
    (consensusMainSend (round.node n)).2 =
      (sendConsensusDutyCycle N (round.proposal n)
        (round.node n).sendingFrame).2 := by
  obtain ⟨proposal, buffer, sent⟩ :=
    consensusMainSend_of_proposing (round.proposing n)
  rw [Round.proposal, proposalOf, sent, round.registry n]

/-- Each node receives its peers' quantised proposals. -/
theorem sum_contribution_exchanged
    (round : Round K N)
    (n : Fin N)
    {slot : Nat}
    (inVector : slot < N) :
    ((round.first n ++ (round.later n).flatten).map fun data =>
        (contribution N data slot : K)).sum =
      ∑ peer ∈ Finset.univ.erase n,
        quantised (round.proposal peer slot) := by
  rw [((round.exchanged n).map _).sum_eq, List.map_flatMap,
    List.flatMap_def, List.sum_flatten, List.map_map, ← sum_peers]
  congr 2
  funext peer
  simp only [Function.comp_apply, round.sent peer]
  exact sum_contribution_sendConsensusDutyCycle round.fits _ _ inVector

/-- Each node receives as many frames as it expects. -/
theorem length_exchanged (round : Round K N) (n : Fin N) :
    (round.first n).length + ((round.later n).flatten).length =
      numMessages N * (N - 1) := by
  rw [← List.length_append, (round.exchanged n).length_eq,
    List.length_flatMap]
  simp only [round.sent, length_sendConsensusDutyCycle, List.map_const',
    List.sum_replicate, smul_eq_mul, length_peers]
  exact Nat.mul_comm _ _

/-- The node between its own transmission and the first look at the count. -/
def waitingNode
    (overrun : Nat → K → Nat)
    (round : Round K N)
    (n : Fin N) : Firmware K :=
  (consensusMainSend (round.node n)).1.setReceived
    (drain overrun (round.node n)
      (round.first n)).consensus.receivedDutyCycle
    (drain overrun (round.node n)
      (round.first n)).consensus.numberOfMsgReceived

/-- Sending leaves the node waiting for the count it expected before. -/
theorem waitingNode_waiting
    (overrun : Nat → K → Nat)
    (round : Round K N)
    (n : Fin N) :
    (round.waitingNode overrun n).consensus.consensusState =
        .waitingReciveDutyCycle ∧
      (round.waitingNode overrun n).consensus.numberOfMsgExpected =
        numMessages N * (N - 1) ∧
      (round.waitingNode overrun n).numTotalNodes = N ∧
      (round.waitingNode overrun n).consensus.dutyCycleBest =
        round.proposal n := by
  obtain ⟨proposal, buffer, sent⟩ :=
    consensusMainSend_of_proposing (round.proposing n)
  unfold waitingNode Round.proposal proposalOf
  rw [sent]
  exact ⟨rfl, round.expected n, round.registry n, rfl⟩

/-- The iterations of the round, seen from the waiting node. -/
theorem after_eq
    (overrun : Nat → K → Nat)
    (round : Round K N)
    (n : Fin N) :
    round.after overrun n =
      (round.later n).foldl (mainLoop overrun)
        (consensusMainWait (round.waitingNode overrun n)) := by
  rw [after, mainLoop_first]
  rfl

/-- Below seven nodes, waiting ends in the iteration that drains the last frame. -/
theorem after_of_spare
    (overrun : Nat → K → Nat)
    (round : Round K N)
    (spare : N < maxNumNodes)
    (n : Fin N) :
    round.after overrun n =
      consensusMainWait
        (drain overrun (round.waitingNode overrun n)
          (round.later n).flatten) := by
  obtain ⟨waiting, expected, size, _⟩ := round.waitingNode_waiting overrun n
  have total := round.length_exchanged n
  have counted :
      ∀ frames,
        (drain overrun (round.waitingNode overrun n)
            frames).consensus.numberOfMsgReceived =
          (round.first n).length + frames.length := by
    intro frames
    rw [drain_within overrun _ (by rw [size]; exact spare),
      collect_numberOfMsgReceived]
    unfold waitingNode
    rw [drain_within overrun (round.node n)
      (by rw [round.registry n]; exact spare)]
    simp only [Firmware.setReceived, collect_numberOfMsgReceived,
      round.noneReceived, Nat.zero_add]
  rw [after_eq]
  rcases List.eq_nil_or_concat (round.later n) with none | ⟨earlier, last, split⟩
  · rw [none]
    rfl
  · have lastBusy : last ≠ [] :=
      round.busy n last (by simp [split])
    have lastPositive := List.length_pos_iff.mpr lastBusy
    have flattened :
        (round.later n).flatten = earlier.flatten ++ last := by
      simp [split]
    have lengths := congrArg List.length flattened
    rw [List.length_append] at lengths
    have notYet := counted []
    rw [List.length_nil] at notYet
    rw [split, List.concat_eq_append, List.foldl_append,
      consensusMainWait_of_not_full waiting
        (by rw [expected, ← total]; exact ne_of_eq_of_ne notYet (by omega)),
      foldl_mainLoop_waiting overrun waiting]
    · rw [List.foldl_cons, List.foldl_nil,
        mainLoop_waiting overrun
          ((drain_waiting overrun _ _).1.trans waiting),
        ← drain_append]
      simp
    · intro batch rest division _
      have within : batch.flatten.length ≤ earlier.flatten.length := by
        rw [division, List.flatten_append, List.length_append]
        omega
      rw [counted, expected, ← total]
      omega

/-- Below seven nodes the update divides the sum of the proposals by the message count. -/
theorem dutyCycleAv_after
    (overrun : Nat → K → Nat)
    (round : Round K N)
    (spare : N < maxNumNodes)
    (n : Fin N)
    {slot : Nat}
    (inVector : slot < N) :
    (round.after overrun n).consensus.consensusState ≠
        .waitingReciveDutyCycle ∧
      (round.after overrun n).consensus.dutyCycleAv slot =
        (∑ peer ∈ Finset.univ.erase n,
              quantised (round.proposal peer slot) +
            round.proposal n slot) /
          ((numMessages N * (N - 1) : Nat) + 1) := by
  obtain ⟨waiting, expected, size, best⟩ :=
    round.waitingNode_waiting overrun n
  have spareNode : (round.node n).numTotalNodes < maxNumNodes := by
    rw [round.registry n]
    exact spare
  have early :
      (round.waitingNode overrun n).consensus.receivedDutyCycle slot =
          ((round.first n).map fun data =>
            contribution N data slot).sum ∧
        (round.waitingNode overrun n).consensus.numberOfMsgReceived =
          (round.first n).length := by
    unfold waitingNode
    rw [drain_within overrun _ spareNode, round.registry n]
    simp only [Firmware.setReceived, collect_receivedDutyCycle,
      collect_numberOfMsgReceived, round.cleared n slot inVector,
      round.noneReceived n, zero_add, and_self]
  obtain ⟨full, isFull⟩ :
      ∃ full,
        full =
          drain overrun (round.waitingNode overrun n)
            (round.later n).flatten :=
    ⟨_, rfl⟩
  have collected := isFull
  rw [drain_within overrun _ (by rw [size]; exact spare), size] at collected
  have received :
      full.consensus.receivedDutyCycle slot =
        ∑ peer ∈ Finset.univ.erase n,
          quantised (round.proposal peer slot) := by
    rw [collected, collect_receivedDutyCycle, early.1,
      ← round.sum_contribution_exchanged n inVector, List.map_append,
      List.sum_append]
  have count :
      full.consensus.numberOfMsgReceived = numMessages N * (N - 1) := by
    rw [collected, collect_numberOfMsgReceived, early.2,
      round.length_exchanged]
  have unchanged :
      full.consensus.consensusState = .waitingReciveDutyCycle ∧
        full.consensus.numberOfMsgExpected = numMessages N * (N - 1) ∧
        full.numTotalNodes = N ∧
        full.consensus.dutyCycleBest = round.proposal n := by
    rw [collected]
    exact ⟨waiting, expected, size, best⟩
  obtain ⟨stillWaiting, stillExpected, sameSize, sameBest⟩ := unchanged
  rw [after_of_spare overrun round spare n, ← isFull,
    consensusMainWait_of_full stillWaiting
      (count.trans stillExpected.symm)]
  refine ⟨consensusUpdate_not_waiting _, ?_⟩
  rw [consensusUpdate_dutyCycleAv _ (by simpa [sameSize] using inVector)]
  simp only [received, count, sameBest]

/-- With seven nodes the write behind the array can leave a count that is never awaited. -/
theorem waiting_after_of_full_registry
    (round : Round K N)
    (filled : N = maxNumNodes)
    (n : Fin N) :
    (round.after farOff n).consensus.consensusState =
      .waitingReciveDutyCycle := by
  obtain ⟨waiting, expected, size, _⟩ :=
    round.waitingNode_waiting (farOff (K := K)) n
  have total := round.length_exchanged n
  have counted :
      ∀ frames,
        (drain farOff (round.waitingNode farOff n)
            frames).consensus.numberOfMsgReceived =
          (round.first n).length + frames.length +
            1000 * ((round.first n ++ frames).map (overruns N)).sum := by
    intro frames
    rw [drain_farOff, size]
    unfold waitingNode
    simp only [Firmware.setReceived, drain_farOff, round.noneReceived,
      round.registry, List.map_append, List.sum_append]
    ring
  -- The third frame of any peer reaches position seven.
  obtain ⟨peer, different⟩ : ∃ peer : Fin N, peer ≠ n := by
    refine ⟨⟨if n.val = 0 then 1 else 0, ?_⟩, ?_⟩
    · unfold maxNumNodes at filled
      split <;> omega
    · rw [Ne, Fin.ext_iff]
      dsimp only
      split <;> omega
  have index :
      ∀ size,
        sendingFrameAfter size (round.proposal peer)
          (round.node peer).sendingFrame 3 6 = 2#8 :=
    fun size => sendingFrameAfter_index size _ _ 2
  have delivered :
      sendingFrameAfter N (round.proposal peer)
          (round.node peer).sendingFrame 3 ∈
        round.first n ++ (round.later n).flatten := by
    refine (round.exchanged n).mem_iff.mpr ?_
    refine List.mem_flatMap.mpr ⟨peer, by simp [peers, different], ?_⟩
    rw [round.sent peer]
    refine List.mem_map.mpr ⟨2, ?_, rfl⟩
    simp [filled, numMessages, maxNumNodes]
  have overrunning :
      1 ≤
        ((round.first n ++ (round.later n).flatten).map
          (overruns N)).sum := by
    refine Nat.le_trans ?_
      (List.le_sum_of_mem (List.mem_map_of_mem delivered))
    simp only [overruns, posInVector, index, filled]
    decide
  -- A complete count without an overrun would need frames that are still missing.
  have never :
      ∀ frames rest,
        (round.later n).flatten = frames ++ rest →
        (drain farOff (round.waitingNode farOff n)
            frames).consensus.numberOfMsgReceived ≠
          (round.waitingNode farOff n).consensus.numberOfMsgExpected := by
    intro frames rest split full
    rw [counted, expected, ← total] at full
    have lengths := congrArg List.length split
    rw [List.length_append] at lengths
    have small :
        numMessages N * (N - 1) = 18 := by
      rw [filled]
      rfl
    have noOverrun :
        ((round.first n ++ frames).map (overruns N)).sum = 0 := by
      omega
    have restEmpty : rest = [] := by
      refine List.length_eq_zero_iff.mp ?_
      omega
    rw [split, restEmpty, List.append_nil] at overrunning
    omega
  have start := never [] (round.later n).flatten rfl
  rw [after_eq, consensusMainWait_of_not_full waiting start,
    foldl_mainLoop_waiting farOff waiting]
  · exact (drain_waiting farOff _ _).1.trans waiting
  · intro batch rest split _
    refine never batch.flatten rest.flatten ?_
    rw [split, List.flatten_append]

/-- The sum of all proposals, in terms of what one node receives and its own. -/
theorem received_add_own
    (round : Round K N)
    (n : Fin N)
    (slot : Nat) :
    ∑ peer ∈ Finset.univ.erase n, quantised (round.proposal peer slot) +
        round.proposal n slot =
      ∑ m, round.proposal m slot + round.peerError n slot := by
  have total :=
    Finset.sum_erase_add Finset.univ
      (fun m => round.proposal m slot) (Finset.mem_univ n)
  rw [peerError, Finset.sum_sub_distrib, ← total]
  ring

end Round

end Rounds

section Agreement

variable {K : Type}
    [Field K] [LinearOrder K] [IsStrictOrderedRing K] [FloorRing K]

namespace Round

variable {N : Nat}

/-- Each proposal a node receives is off by at most half a quantisation step. -/
theorem abs_peerError_le
    (round : Round K N)
    (n : Fin N)
    {slot : Nat}
    (inVector : slot < N) :
    |round.peerError n slot| ≤ ((N - 1 : Nat) : K) * halfStep K := by
  calc
    |round.peerError n slot|
      ≤ ∑ peer ∈ Finset.univ.erase n,
          |quantised (round.proposal peer slot) -
            round.proposal peer slot| :=
        Finset.abs_sum_le_sum_abs _ _
    _ ≤ ∑ _peer ∈ Finset.univ.erase n, halfStep K :=
        Finset.sum_le_sum fun peer _ =>
          abs_quantised_sub_le (round.bounded peer slot inVector)
    _ = ((N - 1 : Nat) : K) * halfStep K := by
        simp [Finset.card_erase_of_mem]

/-- Closeness to the mean gives closeness to each other. -/
theorem averagesAgree_of_nearMean
    {overrun : Nat → K → Nat}
    {round : Round K N}
    (updated :
      ∀ n,
        (round.after overrun n).consensus.consensusState ≠
          .waitingReciveDutyCycle)
    (nearMean :
      ∀ n, ∀ slot < N,
        |(round.after overrun n).consensus.dutyCycleAv slot -
            round.mean slot| ≤ halfStep K) :
    AveragesAgree overrun round where
  updated := updated
  nearMean := nearMean
  nearEachOther := by
    intro n m slot inVector
    have first := abs_le.mp (nearMean n slot inVector)
    have second := abs_le.mp (nearMean m slot inVector)
    rw [abs_le]
    constructor <;> linarith [first.1, first.2, second.1, second.2]

/-- With up to three nodes the message count plus one is the number of nodes. -/
theorem averagesAgree_of_le_three
    (overrun : Nat → K → Nat)
    (round : Round K N)
    (few : N ≤ 3) :
    AveragesAgree overrun round := by
  have positive := round.nonempty
  have spare : N < maxNumNodes := by
    unfold maxNumNodes
    omega
  refine averagesAgree_of_nearMean
    (fun n =>
      (round.dutyCycleAv_after overrun spare n n.isLt).1) ?_
  intro n slot inVector
  have divisor : ((numMessages N * (N - 1) : Nat) : K) + 1 = N := by
    have count : numMessages N * (N - 1) + 1 = N := by
      have single : numMessages N = 1 := by
        unfold numMessages
        omega
      rw [single]
      omega
    exact_mod_cast count
  have size : (0 : K) < N := by exact_mod_cast positive
  have error := round.abs_peerError_le n inVector
  have fewer : ((N - 1 : Nat) : K) ≤ N := by
    exact_mod_cast Nat.sub_le N 1
  have step : (0 : K) ≤ halfStep K := by
    unfold halfStep
    positivity
  rw [(round.dutyCycleAv_after overrun spare n inVector).2,
    received_add_own, divisor, mean, add_div, add_sub_cancel_left,
    abs_div, Nat.abs_cast, div_le_iff₀ size]
  calc
    |round.peerError n slot| ≤ ((N - 1 : Nat) : K) * halfStep K := error
    _ ≤ N * halfStep K := mul_le_mul_of_nonneg_right fewer step
    _ = halfStep K * N := mul_comm _ _

/-- From four to six nodes the divisor is `2 * N - 1`, which only a small mean survives. -/
theorem averagesAgree_iff_of_two_messages
    (overrun : Nat → K → Nat)
    (round : Round K N)
    (several : 3 < N)
    (spare : N < maxNumNodes) :
    AveragesAgree overrun round ↔
      ∀ n, ∀ slot < N,
        |(N - 1) * round.mean slot - round.peerError n slot| ≤
          (2 * N - 1) * halfStep K := by
  have divisor :
      ((numMessages N * (N - 1) : Nat) : K) + 1 = 2 * N - 1 := by
    have double : numMessages N = 2 := by
      unfold numMessages
      unfold maxNumNodes at spare
      omega
    rw [double, Nat.cast_mul, Nat.cast_sub (by omega)]
    push_cast
    ring
  have large : (3 : K) < N := by exact_mod_cast several
  have size : (N : K) ≠ 0 := by linarith
  have positive : (0 : K) < 2 * N - 1 := by linarith
  have deviation :
      ∀ n, ∀ slot < N,
        (round.after overrun n).consensus.dutyCycleAv slot -
            round.mean slot =
          -((N - 1) * round.mean slot - round.peerError n slot) /
            (2 * N - 1) := by
    intro n slot inVector
    have nonzero := ne_of_gt positive
    rw [(round.dutyCycleAv_after overrun spare n inVector).2,
      received_add_own, divisor, mean]
    field_simp
    ring
  have near :
      ∀ n, ∀ slot < N,
        (|(round.after overrun n).consensus.dutyCycleAv slot -
              round.mean slot| ≤ halfStep K ↔
          |(N - 1) * round.mean slot - round.peerError n slot| ≤
            (2 * N - 1) * halfStep K) := by
    intro n slot inVector
    rw [deviation n slot inVector, abs_div, abs_neg, abs_of_pos positive,
      div_le_iff₀ positive, mul_comm (halfStep K)]
  constructor
  · intro agree n slot inVector
    exact (near n slot inVector).mp (agree.nearMean n slot inVector)
  · intro small
    exact averagesAgree_of_nearMean
      (fun n => (round.dutyCycleAv_after overrun spare n n.isLt).1)
      (fun n slot inVector =>
        (near n slot inVector).mpr (small n slot inVector))

/--
The average is the mean exactly while a proposal fits into one frame; beyond
that it is near the mean only if the mean itself is as good as zero, and with a
full registry the write behind the array may keep the node waiting.
-/
theorem averagesAgree_iff
    (round : Round K N) :
    (∀ overrun, AveragesAgree overrun round) ↔
      N ≤ 3 ∨
        N < maxNumNodes ∧
          ∀ n, ∀ slot < N,
            |(N - 1) * round.mean slot - round.peerError n slot| ≤
              (2 * N - 1) * halfStep K := by
  constructor
  · intro agree
    by_cases few : N ≤ 3
    · exact .inl few
    · rcases Nat.lt_or_eq_of_le round.fits with spare | filled
      · exact .inr
          ⟨spare,
            (averagesAgree_iff_of_two_messages farOff
              round (by omega) spare).mp (agree _)⟩
      · have waits :=
          waiting_after_of_full_registry round filled
            ⟨0, by omega⟩
        exact absurd waits ((agree _).updated _)
  · rintro (few | ⟨spare, small⟩) overrun
    · exact averagesAgree_of_le_three overrun round few
    · by_cases few : N ≤ 3
      · exact averagesAgree_of_le_three overrun round few
      · exact
          (averagesAgree_iff_of_two_messages overrun round
            (by omega) spare).mpr small

/-- A round in which every node proposes the same duty cycle for every luminaire. -/
def uniform
    (N : Nat)
    (nonempty : 1 ≤ N)
    (fits : N ≤ maxNumNodes)
    (value : K)
    (bounded : InRange value) : Round K N where
  node := fun n =>
    let node := Firmware.calibrated N n (fun _ _ => 1) (fun _ => 0) 1
    { node with
      consensus :=
        { node.consensus with
          consensusState := .sendingDutyCycle
          numberOfMsgExpected := numMessages N * (N - 1)
          dutyCycleBest := fun _ => value } }
  first := fun n =>
    (peers n).flatMap fun _ =>
      (sendConsensusDutyCycle N (fun _ => value) (fun _ => 0)).2
  later := fun _ => []
  nonempty := nonempty
  fits := fits
  registry := fun _ => rfl
  proposing := fun _ => .inr rfl
  expected := fun _ => rfl
  noneReceived := fun _ => rfl
  cleared := fun _ _ _ => rfl
  bounded := fun _ _ _ => bounded
  busy := fun _ _ member => absurd member (List.not_mem_nil)
  exchanged := by
    intro n
    rw [List.flatten_nil, List.append_nil]
    exact .refl _

/-- Half power and full power can be encoded. -/
theorem inRange_50 : InRange (50 : ℚ) := by
  rw [InRange, abs_le]
  constructor <;> norm_num

theorem inRange_100 : InRange (100 : ℚ) := by
  rw [InRange, abs_le]
  constructor <;> norm_num

/-- Two nodes that both propose half power agree on half power. -/
theorem averagesAgree_uniform_two :
    AveragesAgree farOff
      (uniform 2 (by decide) (by decide) (50 : ℚ) inRange_50) :=
  (averagesAgree_iff _).mpr (.inl (by decide)) farOff

/-- Four nodes that all propose full power do not compute full power. -/
theorem uniform_four_average :
    ¬ ∀ overrun,
        AveragesAgree overrun
          (uniform 4 (by decide) (by decide) (100 : ℚ) inRange_100) := by
  intro agree
  have small :=
    (averagesAgree_iff_of_two_messages (fun count _ => count) _
      (by decide) (by decide)).mp (agree _) 0 0 (by decide)
  have mean :
      (uniform 4 (by decide) (by decide) (100 : ℚ) inRange_100).mean 0 =
        100 := by
    simp [Round.mean, Round.proposal, proposalOf, consensusMainSend, uniform]
  have error :=
    abs_peerError_le
      (uniform 4 (by decide) (by decide) (100 : ℚ) inRange_100)
      0 (show 0 < 4 by decide)
  rw [mean] at small
  have upper := (abs_le.mp error).2
  have lower := (abs_le.mp small).2
  unfold halfStep at upper lower
  norm_num at upper lower
  linarith

end Round

end Agreement

end DistributedLighting
