import DistributedLighting.ConsensusOptimum
import DistributedLighting.Runs

namespace DistributedLighting

open BoxedHalfspace

/-!
# Proposals and the range of their encoding

A proposal travels as 16-bit integers that stand for values between -300 and 300.
`check_feasibility` bounds the node's own entry; the other entries are only kept
small by the cost.  In every state that a node reaches from `Consensus::init` the
proposal fits the encoding if some vector that satisfies the constraints is so cheap
that no vector beyond the range competes with it, and it does not fit if only vectors
beyond the range do.
-/

section Fitting

variable {K : Type} [Field K] [LinearOrder K] [FloorRing K]

/-- The encoding of a value does not wrap, and its decoding is near. -/
structure FitsEncoding (value : K) : Prop where
  inRange : InRange value
  encoded :
    (encodeDutyCycle value).toInt = roundHalfAway (value * 32767 / 300)
  decoded : |quantised value - value| ≤ halfStep K

/-- The vector that `consensus_main` passes to `sendConsensusDutyCycle`, if it does. -/
def proposal (node : Firmware K) : Option (Nat → K) :=
  match node.consensus.consensusState with
  | .iterate => some (consensusIterate node).consensus.dutyCycleBest
  | .sendingDutyCycle => some node.consensus.dutyCycleBest
  | _ => none

/-- What the iteration sends is that vector. -/
theorem frames_consensusMain (node : Firmware K) :
    (consensusMain node).2 =
      match proposal node with
      | some vector =>
          (sendConsensusDutyCycle node.numTotalNodes vector
            node.sendingFrame).2
      | none => [] := by
  unfold consensusMain consensusMainSend proposal
  cases state : node.consensus.consensusState <;>
    simp [state, consensusIterate]

theorem fitsEncoding_iff
    [IsStrictOrderedRing K]
    (value : K) :
    FitsEncoding value ↔ InRange value :=
  ⟨FitsEncoding.inRange, fun inRange =>
    ⟨inRange, toInt_encodeDutyCycle inRange, abs_quantised_sub_le inRange⟩⟩

end Fitting

section Competition

variable {K : Type} [Field K] [LinearOrder K] {node : Firmware K}

/-- The entries of a vector for the other nodes are in range. -/
def OthersInRange (node : Firmware K) (vector : Nat → K) : Prop :=
  ∀ i < node.numTotalNodes, i ≠ node.consensus.nodeIdx → InRange (vector i)

/--
Some vector satisfies the constraints so cheaply that every vector that passes
`check_feasibility`, costs no more and costs less than the initial `costBest`, is in
range.
-/
def Modest (node : Firmware K) : Prop :=
  ∃ vector,
    Feasible node.support (localProblem node) vector ∧
      ∀ other,
        checkFeasibility node other = true →
          evaluateCost node other < initialCostBest K →
            evaluateCost node other ≤ evaluateCost node vector →
              OthersInRange node other

/--
Some vector satisfies the constraints so cheaply that no vector that passes
`check_feasibility` and costs no more is in range.
-/
def Excessive (node : Firmware K) : Prop :=
  ∃ vector,
    Feasible node.support (localProblem node) vector ∧
      evaluateCost node vector < initialCostBest K ∧
      ∀ other,
        checkFeasibility node other = true →
          evaluateCost node other ≤ evaluateCost node vector →
            ¬ OthersInRange node other

variable [IsStrictOrderedRing K]

/-- What passes `check_feasibility` has its own entry in range. -/
theorem inRange_own
    {vector : Nat → K}
    (passes : checkFeasibility node vector = true) :
    InRange (vector node.consensus.nodeIdx) := by
  obtain ⟨lower, upper, -⟩ := (checkFeasibility_iff vector).mp passes
  rw [InRange, abs_le]
  constructor <;> linarith

variable (normed : node.Normed)
    (penalised : 0 < node.consensus.rho)
include normed penalised

/-- Cheaper vectors are near the unconstrained minimiser, so a ball within the range does. -/
theorem modest_of_ball
    (vector : Nat → K)
    (radius : K)
    (nonneg : 0 ≤ radius)
    (feasible : Feasible node.support (localProblem node) vector)
    (near :
      distance node.support vector (unconstrained node) ≤ radius ^ 2)
    (within :
      ∀ i < node.numTotalNodes,
        i ≠ node.consensus.nodeIdx → |unconstrained node i| + radius ≤ 300) :
    Modest node := by
  refine ⟨vector, feasible, fun other _ _ cheaper i inVector isOther => ?_⟩
  rw [evaluateCost_le_iff normed penalised] at cheaper
  have entry :
      (other i - unconstrained node i) ^ 2 ≤
        distance node.support other (unconstrained node) := by
    rw [sq]
    exact
      Finset.single_le_sum
        (f := fun i =>
          (other i - unconstrained node i) * (other i - unconstrained node i))
        (fun i _ => mul_self_nonneg _) (Finset.mem_range.mpr inVector)
  have apart : |other i - unconstrained node i| ≤ radius :=
    abs_le_of_sq_le_sq (entry.trans (cheaper.trans near)) nonneg
  calc
    |other i| = |unconstrained node i + (other i - unconstrained node i)| := by
      rw [add_sub_cancel]
    _ ≤ |unconstrained node i| + |other i - unconstrained node i| := abs_add_le _ _
    _ ≤ |unconstrained node i| + radius := by linarith
    _ ≤ 300 := within i inVector isOther

variable (crossed : 0 < node.consensus.kinormKiiDiff)
include crossed

/-- A vector beyond the range that does not compete is not proposed. -/
theorem Modest.inRange
    (modest : Modest node) :
    ∀ i < node.numTotalNodes,
      InRange ((consensusIterate node).consensus.dutyCycleBest i) := by
  intro i inVector
  rcases consensusIterate_cases node with
    ⟨placeholder, -⟩ | ⟨earlier, chosen, later, split, first, copied⟩
  · rw [placeholder i inVector, InRange, abs_neg, abs_one]
    norm_num
  · rw [copied i inVector]
    by_cases own : i = node.consensus.nodeIdx
    · rw [own]
      exact inRange_own first.passes
    · obtain ⟨vector, feasible, inRange⟩ := modest
      obtain ⟨candidate, among, satisfies, least⟩ :=
        exists_optimal_candidate normed crossed penalised
      have cheaper : evaluateCost node chosen ≤ evaluateCost node vector :=
        (first.le (split ▸ among) (checkFeasibility_of_feasible satisfies)).trans
          (least vector feasible)
      exact inRange chosen first.passes first.affordable cheaper i inVector own

/-- Where only vectors beyond the range compete, one of them is proposed. -/
theorem Excessive.not_inRange
    (excessive : Excessive node) :
    ¬ ∀ i < node.numTotalNodes,
        InRange ((consensusIterate node).consensus.dutyCycleBest i) := by
  intro inRange
  obtain ⟨vector, feasible, affordable, beyond⟩ := excessive
  obtain ⟨passes, least, -⟩ :=
    consensusIterate_optimal normed crossed penalised ⟨vector, feasible, affordable⟩
  exact
    beyond _ passes (least vector feasible) fun i inVector _ => inRange i inVector

end Competition

/-- What a node with an initialised consensus does and receives. -/
inductive ConsensusEvent (K : Type) where
  /-- `consensus_main()` -/
  | main
  /-- `CAN_CONSENSUS` with any data -/
  | consensusFrame (data : FrameData)
  /-- `CAN_DO_CONSENSUS` -/
  | doConsensusFrame
  /-- an `O`, `U`, `c` or `o` command for this node -/
  | command (set : SetCommand K)

namespace ConsensusEvent

variable {K : Type} [Field K] [LinearOrder K] [FloorRing K]

/-- The node after an event. -/
def next
    (overrun : Nat → K → Nat)
    (node : Firmware K) : ConsensusEvent K → Option (Firmware K)
  | .main => some (consensusMain node).1
  | .consensusFrame data => some (receivedConsensus overrun data node)
  | .doConsensusFrame => some (consensusInit node)
  | .command set => some (executeCommand node set).1

/-- Events come in any order. -/
def Anytime (_ : Firmware K) (_ : ConsensusEvent K) : Prop := True

instance (node : Firmware K) (event : ConsensusEvent K) :
    Decidable (Anytime node event) :=
  .isTrue trivial

end ConsensusEvent

section Gains

variable {K : Type} [Field K] {node : Firmware K}

/-- Some gain from another node's luminaire is not zero. -/
def Firmware.CrossGain (node : Firmware K) : Prop :=
  ∃ j < node.numTotalNodes,
    j ≠ node.nodeIndex ∧ node.gainMatrix node.nodeIndex j ≠ 0

/-- After `consensus_main` there is nothing left to send. -/
theorem consensusMain_settled
    [LinearOrder K] [FloorRing K]
    (settled : node.consensus.consensusState ≠ .sendingDutyCycle) :
    (consensusMain node).1.consensus.consensusState ≠ .sendingDutyCycle := by
  have updated :
      ∀ node : Firmware K,
        (consensusUpdate node).consensus.consensusState ≠
          .sendingDutyCycle := by
    intro node
    by_cases last : node.consensus.numIter + 1 = maxIter
    · simp [consensusUpdate_last last]
    · simp [consensusUpdate_next node last]
  have waits :
      ∀ {node : Firmware K},
        node.consensus.consensusState ≠ .sendingDutyCycle →
          (consensusMainWait node).consensus.consensusState ≠
            .sendingDutyCycle := by
    intro node settled
    unfold consensusMainWait
    dsimp only
    split
    · exact updated _
    · split
      · exact updated node
      · exact settled
  apply waits
  by_cases iterating : node.consensus.consensusState = .iterate
  · obtain ⟨vector, buffer, sent⟩ :=
      consensusMainSend_of_proposing (.inl iterating)
    rw [sent]
    exact ConsensusState.noConfusion
  · unfold consensusMainSend
    rw [if_neg iterating, if_neg settled]
    exact settled

/-- `Consensus::init` on a row with a cross gain makes `kinormKiiDiff` positive. -/
theorem kinormKiiDiff_consensusInit_pos
    [LinearOrder K] [IsStrictOrderedRing K]
    (inRegistry : node.nodeIndex < node.numTotalNodes)
    (crossGain : node.CrossGain) :
    0 < (consensusInit node).consensus.kinormKiiDiff := by
  obtain ⟨j, inVector, other, nonzero⟩ := crossGain
  have isDiff :
      (consensusInit node).consensus.kinormKiiDiff =
        ∑ i ∈ (Finset.range node.numTotalNodes).erase node.nodeIndex,
          (consensusInit node).consensus.ki i *
            (consensusInit node).consensus.ki i := by
    rw [(normed_consensusInit inRegistry).kinormKiiDiff,
      (normed_consensusInit inRegistry).kiNorm]
    unfold multiplyTwoArrays
    rw [← Finset.add_sum_erase _ _
      (Finset.mem_range.mpr (normed_consensusInit inRegistry).ownIn), sq]
    exact add_sub_cancel_left _ _
  rw [isDiff]
  refine Finset.sum_pos' (fun i _ => mul_self_nonneg _) ⟨j, ?_, ?_⟩
  · exact
      Finset.mem_erase.mpr ⟨other, Finset.mem_range.mpr inVector⟩
  · have isGain :
        (consensusInit node).consensus.ki j =
          percentGain (node.gainMatrix node.nodeIndex j) :=
      if_pos inVector
    rw [isGain, percentGain]
    refine mul_self_pos.mpr (div_ne_zero (mul_ne_zero nonzero ?_) ?_) <;>
      norm_num

end Gains

section Runs

variable {K : Type} [Field K] [LinearOrder K] {node after : Firmware K}

/-- What holds of a node from `Consensus::init` on. -/
structure Proposing (node : Firmware K) : Prop where
  inRegistry : node.nodeIndex < node.numTotalNodes
  crossGain : node.CrossGain
  normed : node.Normed
  crossed : 0 < node.consensus.kinormKiiDiff
  penalised : 0 < node.consensus.rho
  settled : node.consensus.consensusState ≠ .sendingDutyCycle

/-- It is about the gains and the state of the machine. -/
theorem Proposing.congr
    (proposing : Proposing node)
    (same : SameGains node after)
    (settled : after.consensus.consensusState ≠ .sendingDutyCycle) :
    Proposing after := by
  obtain ⟨inRegistry, crossGain, normed, crossed, penalised, -⟩ := proposing
  refine ⟨?_, ?_, ⟨?_, ?_, ?_⟩, ?_, ?_, settled⟩
  · rw [same.nodeIndex, same.numTotalNodes]
    exact inRegistry
  · unfold Firmware.CrossGain
    rw [same.numTotalNodes, same.nodeIndex, same.gainMatrix]
    exact crossGain
  · rw [same.nodeIdx, same.numTotalNodes]
    exact normed.ownIn
  · rw [same.kiNorm, same.numTotalNodes, same.ki]
    exact normed.kiNorm
  · rw [same.kinormKiiDiff, same.kiNorm, same.ki, same.nodeIdx]
    exact normed.kinormKiiDiff
  · rw [same.kinormKiiDiff]
    exact crossed
  · rw [same.rho]
    exact penalised

variable [IsStrictOrderedRing K]

theorem proposing_consensusInit
    (inRegistry : node.nodeIndex < node.numTotalNodes)
    (crossGain : node.CrossGain)
    (penalised : 0 < node.consensus.rho) :
    Proposing (consensusInit node) where
  inRegistry := inRegistry
  crossGain := crossGain
  normed := normed_consensusInit inRegistry
  crossed := kinormKiiDiff_consensusInit_pos inRegistry crossGain
  penalised := penalised
  settled := ConsensusState.noConfusion

variable [FloorRing K]

/-- Every event keeps it. -/
theorem proposing_next
    {overrun : Nat → K → Nat}
    {event : ConsensusEvent K}
    (proposing : Proposing node)
    (taken : ConsensusEvent.next overrun node event = some after) :
    Proposing after := by
  cases event with
  | main =>
      obtain ⟨⟩ := taken
      exact
        proposing.congr (sameGains_consensusMain node)
          (consensusMain_settled proposing.settled)
  | consensusFrame data =>
      obtain ⟨⟩ := taken
      obtain ⟨received, count, isReceived⟩ :=
        receivedConsensus_eq overrun data node
      rw [isReceived]
      exact
        proposing.congr ⟨rfl, rfl, rfl, rfl, rfl, rfl, rfl, rfl⟩
          proposing.settled
  | doConsensusFrame =>
      obtain ⟨⟩ := taken
      exact
        proposing_consensusInit proposing.inRegistry proposing.crossGain
          proposing.penalised
  | command set =>
      obtain ⟨⟩ := taken
      obtain ⟨luminaire, restarted | kept⟩ := executeCommand_cases node set
      · have lit : Proposing (consensusInit { node with luminaire }) :=
          proposing_consensusInit proposing.inRegistry proposing.crossGain
            proposing.penalised
        rw [restarted]
        exact lit
      · rw [kept]
        exact
          proposing.congr ⟨rfl, rfl, rfl, rfl, rfl, rfl, rfl, rfl⟩
            proposing.settled

theorem proposing_of_run
    {overrun : Nat → K → Nat}
    (inRegistry : node.nodeIndex < node.numTotalNodes)
    (crossGain : node.CrossGain)
    (penalised : 0 < node.consensus.rho)
    (run :
      Run (ConsensusEvent.next overrun) ConsensusEvent.Anytime
        (consensusInit node) after) :
    Proposing after :=
  run.invariant Proposing
    (proposing_consensusInit inRegistry crossGain penalised)
    fun holds _ taken => proposing_next holds taken

/-- Everything that a node is about to send fits its encoding. -/
def ProposalFits (node : Firmware K) : Prop :=
  ∀ vector,
    proposal node = some vector →
      ∀ i < node.numTotalNodes, FitsEncoding (vector i)

/--
In every state that a node reaches from `Consensus::init`, the entries that
`consensus_main` passes to `sendConsensusDutyCycle` fit their encoding if the node,
where it iterates, is modest.  They do not if it iterates and is excessive.
-/
theorem proposalFits_of_modest
    {overrun : Nat → K → Nat}
    (inRegistry : node.nodeIndex < node.numTotalNodes)
    (crossGain : node.CrossGain)
    (penalised : 0 < node.consensus.rho)
    (run :
      Run (ConsensusEvent.next overrun) ConsensusEvent.Anytime
        (consensusInit node) after) :
    ((after.consensus.consensusState = .iterate → Modest after) →
        ProposalFits after) ∧
      (after.consensus.consensusState = .iterate →
        Excessive after → ¬ ProposalFits after) := by
  have proposing := proposing_of_run inRegistry crossGain penalised run
  constructor
  · intro modest vector isProposal i inVector
    rw [fitsEncoding_iff]
    unfold proposal at isProposal
    split at isProposal
    · rename_i iterating
      obtain ⟨⟩ := isProposal
      exact
        (modest iterating).inRange proposing.normed proposing.penalised
          proposing.crossed i inVector
    · rename_i sending
      exact absurd sending proposing.settled
    · cases isProposal
  · intro iterating excessive fits
    refine
      excessive.not_inRange proposing.normed proposing.penalised proposing.crossed
        fun i inVector => ?_
    have isProposal :
        proposal after = some (consensusIterate after).consensus.dutyCycleBest := by
      unfold proposal
      rw [iterating]
    exact (fits _ isProposal i inVector).inRange

/-- A calibrated node to whose desk another luminaire contributes a tenth of its own. -/
def weakNeighbour : Firmware ℚ :=
  Firmware.calibrated 2 0 (fun i j => if i = j then 1 else 1 / 10)
    (fun _ => 0) 0

/-- The node after a command for the reference of an empty desk. -/
def weakNeighbourAt (luxNonOccupied : ℚ) : Firmware ℚ :=
  (executeCommand (consensusInit weakNeighbour) (.U luxNonOccupied)).1

theorem run_weakNeighbourAt (luxNonOccupied : ℚ) :
    Run (ConsensusEvent.next fun count _ => count) ConsensusEvent.Anytime
      (consensusInit weakNeighbour) (weakNeighbourAt luxNonOccupied) :=
  .step (.command (.U luxNonOccupied)) .refl trivial rfl

/-- A reference that the own luminaire reaches lets the node ask for little else. -/
theorem proposalFits_weakNeighbour : ProposalFits (weakNeighbourAt 40) := by
  have crossGain : weakNeighbour.CrossGain :=
    ⟨1, by decide, by decide, by decide +kernel⟩
  have proposing : Proposing (weakNeighbourAt 40) :=
    proposing_of_run (by decide) crossGain (by decide +kernel) (run_weakNeighbourAt 40)
  have modest : Modest (weakNeighbourAt 40) :=
    modest_of_ball proposing.normed proposing.penalised
      (fun i => if i = 0 then 16 else 0) 16 (by decide)
      ⟨by decide +kernel, by decide +kernel, by decide +kernel⟩
      (by decide +kernel) (by decide +kernel)
  exact
    (proposalFits_of_modest (by decide) crossGain (by decide +kernel)
      (run_weakNeighbourAt 40)).1 fun _ => modest

/--
With twice the light of the own luminaire, the node asks its neighbour for ten times
what there is; the receivers decode a negative duty cycle.
-/
theorem not_fitsEncoding_weakNeighbour :
    (∀ i j, 0 ≤ weakNeighbour.gainMatrix i j) ∧
      weakNeighbour.CrossGain ∧
      ∃ vector,
        Run (ConsensusEvent.next fun count _ => count)
            ConsensusEvent.Anytime
            (consensusInit weakNeighbour) (weakNeighbourAt 510) ∧
          proposal (weakNeighbourAt 510) = some vector ∧
          vector 1 = 1000 ∧
          ¬ FitsEncoding (vector 1) ∧
          quantised (vector 1) < -200 := by
  have tenfold :
      (consensusIterate (weakNeighbourAt 510)).consensus.dutyCycleBest 1 =
        1000 := by
    decide +kernel
  refine
    ⟨?_, ⟨1, by decide, by decide, by decide +kernel⟩, _,
      run_weakNeighbourAt 510, rfl, tenfold, ?_, by decide +kernel⟩
  · intro i j
    have isGain :
        weakNeighbour.gainMatrix i j = if i = j then 1 else 1 / 10 := rfl
    rw [isGain]
    split_ifs <;> norm_num
  · rw [fitsEncoding_iff, tenfold, InRange]
    norm_num

end Runs

end DistributedLighting
