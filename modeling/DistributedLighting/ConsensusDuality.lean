import DistributedLighting.ConsensusOptimum
import DistributedLighting.LockstepConsensus
import DistributedLighting.ProximalStep
import DistributedLighting.SetPoints

namespace DistributedLighting

open BoxedHalfspace

/-!
# What the consensus converges to

The multipliers of all nodes together stay near zero: only the quantisation of the
proposals moves their sum.  As every proposal is a proximal step, what all nodes
pay together exceeds the cost of any vector that lights all desks by no more than
what the nodes still disagree about.
-/

section Task

variable {K : Type}

/-- What a node optimises, which a run does not change. -/
structure SameTask (node after : Firmware K) : Prop where
  gains : SameGains node after
  residualArray : after.residualArray = node.residualArray
  cost : after.luminaire.cost = node.luminaire.cost
  liRef : after.consensus.liRef = node.consensus.liRef

theorem SameTask.refl (node : Firmware K) : SameTask node node :=
  ⟨.refl node, rfl, rfl, rfl⟩

theorem SameTask.trans
    {node middle after : Firmware K}
    (first : SameTask node middle)
    (second : SameTask middle after) :
    SameTask node after where
  gains := first.gains.trans second.gains
  residualArray := second.residualArray.trans first.residualArray
  cost := second.cost.trans first.cost
  liRef := second.liRef.trans first.liRef

variable [Field K]

/-- Nodes with one estimate have one task. -/
theorem sameTask_of_estimate
    {node after : Firmware K}
    (same : after.estimate = node.estimate) :
    SameTask node after := by
  have reads :
      ∀ node : Firmware K,
        SameTask node.estimate node ∧ SameTask node node.estimate :=
    fun _ =>
      ⟨⟨⟨rfl, rfl, rfl, rfl, rfl, rfl, rfl, rfl⟩, rfl, rfl, rfl⟩,
        ⟨⟨rfl, rfl, rfl, rfl, rfl, rfl, rfl, rfl⟩, rfl, rfl, rfl⟩⟩
  exact (reads node).2.trans (same ▸ (reads after).1)

/-- A round does not change the task. -/
theorem sameTask_lockstepRound
    [LinearOrder K] [FloorRing K]
    {N : Nat}
    (nodes : Fin N → Firmware K)
    (n : Fin N) :
    SameTask (nodes n) (lockstepRound nodes n) := by
  have proposed :
      SameTask (nodes n)
        ((consensusIterate (nodes n)).setReceived (heard nodes n)
          (numMessages N * (N - 1))) :=
    ⟨⟨rfl, rfl, rfl, rfl, rfl, rfl, rfl, rfl⟩, rfl, rfl, rfl⟩
  refine proposed.trans ⟨sameGains_consensusUpdate _, ?_, ?_, ?_⟩
  · unfold lockstepRound consensusUpdate
    dsimp only
    split <;> rfl
  · unfold lockstepRound consensusUpdate
    dsimp only
    split <;> rfl
  · exact (sameReference_consensusUpdate _).liRef

/-- All rounds have the task of the restart. -/
theorem sameTask_lockstep
    [LinearOrder K] [FloorRing K]
    {N : Nat}
    (nodes : Fin N → Firmware K)
    (rounds : Nat)
    (n : Fin N) :
    SameTask (consensusInit (nodes n)) (lockstep nodes rounds n) := by
  induction rounds with
  | zero =>
      exact .refl _
  | succ rounds inductionHypothesis =>
      exact inductionHypothesis.trans (sameTask_lockstepRound _ n)

end Task

section Update

variable {K : Type} [Field K]

/-- The multiplier that `UPDATE_STATE` computes from the average it computes. -/
theorem consensusUpdate_lagrangeMultipliers
    (node : Firmware K)
    {slot : Nat}
    (inVector : slot < node.numTotalNodes) :
    (consensusUpdate node).consensus.lagrangeMultipliers slot =
      node.consensus.lagrangeMultipliers slot +
        node.consensus.rho *
          (node.consensus.dutyCycleBest slot -
            (consensusUpdate node).consensus.dutyCycleAv slot) := by
  by_cases last : node.consensus.numIter + 1 = maxIter <;>
    simp [consensusUpdate, last, inVector]

theorem consensusUpdate_dutyCycleBest (node : Firmware K) :
    (consensusUpdate node).consensus.dutyCycleBest =
      node.consensus.dutyCycleBest := by
  by_cases last : node.consensus.numIter + 1 = maxIter <;>
    simp [consensusUpdate, last]

variable [LinearOrder K] [FloorRing K] {N : Nat} {nodes : Fin N → Firmware K}

theorem lockstepRound_dutyCycleBest (n : Fin N) :
    (lockstepRound nodes n).consensus.dutyCycleBest = proposalAt (nodes n) :=
  consensusUpdate_dutyCycleBest _

theorem lockstepRound_lagrangeMultipliers
    (size : ∀ n, (nodes n).numTotalNodes = N)
    (n : Fin N)
    {slot : Nat}
    (inVector : slot < N) :
    (lockstepRound nodes n).consensus.lagrangeMultipliers slot =
      (nodes n).consensus.lagrangeMultipliers slot +
        (nodes n).consensus.rho *
          (proposalAt (nodes n) slot -
            (lockstepRound nodes n).consensus.dutyCycleAv slot) := by
  have inNode :
      slot <
        ((consensusIterate (nodes n)).setReceived (heard nodes n)
          (numMessages N * (N - 1))).numTotalNodes := by
    show slot < (nodes n).numTotalNodes
    rw [size]
    exact inVector
  exact consensusUpdate_lagrangeMultipliers _ inNode

/-- While a proposal fits into one frame, the count of frames is the count of peers. -/
theorem numMessages_of_single
    (single : N ≤ 3) :
    numMessages N = 1 := by
  unfold numMessages
  omega

/-- Then the average is taken over all nodes. -/
theorem lockstepRound_dutyCycleAv
    (size : ∀ n, (nodes n).numTotalNodes = N)
    (single : N ≤ 3)
    (n : Fin N)
    {slot : Nat}
    (inVector : slot < N) :
    (lockstepRound nodes n).consensus.dutyCycleAv slot =
      (heard nodes n slot + proposalAt (nodes n) slot) / N := by
  have inNode :
      slot <
        ((consensusIterate (nodes n)).setReceived (heard nodes n)
          (numMessages N * (N - 1))).numTotalNodes := by
    show slot < (nodes n).numTotalNodes
    rw [size]
    exact inVector
  have divisor :
      (((numMessages N * (N - 1) : Nat) : K) + 1) = (N : K) := by
    rw [numMessages_of_single single, one_mul, ← Nat.cast_succ,
      Nat.succ_eq_add_one, Nat.sub_add_cancel (by omega)]
  refine (consensusUpdate_dutyCycleAv _ inNode).trans ?_
  show (heard nodes n slot + proposalAt (nodes n) slot) / _ = _
  exact congrArg _ divisor

end Update

section Multipliers

variable {K : Type} [Field K] [LinearOrder K] [IsStrictOrderedRing K]
    [FloorRing K] {N : Nat} {nodes : Fin N → Firmware K}

/-- The sum of all nodes' multipliers of one duty cycle. -/
def multiplierSum (nodes : Fin N → Firmware K) (slot : Nat) : K :=
  ∑ n, (nodes n).consensus.lagrangeMultipliers slot

omit [IsStrictOrderedRing K] in
/-- What all nodes hear together is every other proposal once for each node. -/
theorem sum_heard (slot : Nat) :
    ∑ n, heard nodes n slot =
      ((N : K) - 1) * ∑ n, quantised (proposalAt (nodes n) slot) := by
  unfold heard
  simp only [Finset.sum_erase_eq_sub (Finset.mem_univ _),
    Finset.sum_sub_distrib, Finset.sum_const, Finset.card_univ,
    Fintype.card_fin, nsmul_eq_mul]
  ring

omit [IsStrictOrderedRing K] in
/-- A round moves the sum of the multipliers by the quantisation errors only. -/
theorem multiplierSum_lockstepRound
    (size : ∀ n, (nodes n).numTotalNodes = N)
    (single : N ≤ 3)
    {rho : K}
    (common : ∀ n, (nodes n).consensus.rho = rho)
    {slot : Nat}
    (inVector : slot < N) :
    multiplierSum (lockstepRound nodes) slot =
      multiplierSum nodes slot +
        rho * (((N : K) - 1) / N *
          ∑ n,
            (proposalAt (nodes n) slot -
              quantised (proposalAt (nodes n) slot))) := by
  have nonzero : (N : K) ≠ 0 := Nat.cast_ne_zero.mpr (by omega)
  unfold multiplierSum
  simp only [lockstepRound_lagrangeMultipliers size _ inVector,
    lockstepRound_dutyCycleAv size single _ inVector, common,
    Finset.sum_add_distrib, ← Finset.mul_sum, Finset.sum_sub_distrib,
    ← Finset.sum_div, sum_heard]
  field_simp
  ring

/-- The sum of the multipliers after some rounds, with every proposal in range. -/
theorem abs_multiplierSum_lockstep_le
    (size : ∀ n, (nodes n).numTotalNodes = N)
    (single : N ≤ 3)
    {rho : K}
    (nonneg : 0 ≤ rho)
    (common : ∀ n, (nodes n).consensus.rho = rho)
    {slot : Nat}
    (inVector : slot < N)
    {rounds : Nat}
    (within :
      ∀ round < rounds, ∀ n,
        InRange (proposalAt (lockstep nodes round n) slot)) :
    |multiplierSum (lockstep nodes rounds) slot| ≤
      rounds * (rho * (((N : K) - 1) * halfStep K)) := by
  have positive : (0 : K) < N := Nat.cast_pos.mpr (by omega)
  have atLeastOne : (0 : K) ≤ N - 1 := by
    have one : (1 : K) ≤ N := Nat.one_le_cast.mpr (by omega)
    linarith
  induction rounds with
  | zero =>
      have started : multiplierSum (lockstep nodes 0) slot = 0 := by
        refine Finset.sum_eq_zero fun n _ => ?_
        show (consensusInit (nodes n)).consensus.lagrangeMultipliers slot = 0
        simp [consensusInit, size, inVector]
      simp [started]
  | succ rounds inductionHypothesis =>
      have task := sameTask_lockstep nodes rounds
      have earlier :=
        inductionHypothesis fun round before =>
          within round (Nat.lt_succ_of_lt before)
      have errors :
          |∑ n,
              (proposalAt (lockstep nodes rounds n) slot -
                quantised (proposalAt (lockstep nodes rounds n) slot))| ≤
            N * halfStep K := by
        calc
          _ ≤ ∑ n,
                |proposalAt (lockstep nodes rounds n) slot -
                  quantised (proposalAt (lockstep nodes rounds n) slot)| :=
            Finset.abs_sum_le_sum_abs _ _
          _ ≤ ∑ _n : Fin N, halfStep K := by
            refine Finset.sum_le_sum fun n _ => ?_
            rw [abs_sub_comm]
            exact abs_quantised_sub_le (within rounds (Nat.lt_succ_self _) n)
          _ = N * halfStep K := by
            simp
      show |multiplierSum (lockstepRound (lockstep nodes rounds)) slot| ≤ _
      rw [multiplierSum_lockstepRound
        (fun n => (task n).gains.numTotalNodes.trans (size n)) single
        (fun n => (task n).gains.rho.trans (common n)) inVector]
      refine (abs_add_le _ _).trans ?_
      have moved :
          |rho * (((N : K) - 1) / N *
              ∑ n,
                (proposalAt (lockstep nodes rounds n) slot -
                  quantised (proposalAt (lockstep nodes rounds n) slot)))| ≤
            rho * (((N : K) - 1) * halfStep K) := by
        rw [abs_mul, abs_mul, abs_of_nonneg nonneg,
          abs_of_nonneg (div_nonneg atLeastOne positive.le)]
        refine mul_le_mul_of_nonneg_left ?_ nonneg
        calc
          _ ≤ ((N : K) - 1) / N * (N * halfStep K) :=
            mul_le_mul_of_nonneg_left errors
              (div_nonneg atLeastOne positive.le)
          _ = ((N : K) - 1) * halfStep K := by
            field_simp
      push_cast
      linarith

end Multipliers

section Certificate

variable {K : Type} [Field K] [LinearOrder K] [IsStrictOrderedRing K]
    {node : Firmware K}

/-- What a node pays for a vector of duty cycles: its own entry, at its own cost. -/
def ownCost (node : Firmware K) : Nat → K := fun i =>
  if i = node.consensus.nodeIdx then node.luminaire.cost else 0

omit [LinearOrder K] [IsStrictOrderedRing K] in
theorem dot_ownCost
    (ownIn : node.consensus.nodeIdx < node.numTotalNodes)
    (vector : Nat → K) :
    dot node.support (ownCost node) vector =
      node.luminaire.cost * vector node.consensus.nodeIdx := by
  unfold dot ownCost
  simp only [ite_mul, zero_mul, Finset.sum_ite_eq']
  exact if_pos (Finset.mem_range.mpr ownIn)

omit [LinearOrder K] [IsStrictOrderedRing K] in
/-- `evaluate_cost` is the objective of a proximal step, up to a constant. -/
theorem evaluateCost_eq_objective
    (ownIn : node.consensus.nodeIdx < node.numTotalNodes)
    (vector : Nat → K) :
    evaluateCost node vector =
      ProximalStep.objective node.support
          (ownCost node + node.consensus.lagrangeMultipliers)
          node.consensus.dutyCycleAv node.consensus.rho vector -
        dot node.support node.consensus.lagrangeMultipliers
          node.consensus.dutyCycleAv := by
  rw [evaluateCost_eq_sum ownIn]
  unfold ProximalStep.objective distance dot
  rw [Finset.mul_sum, ← Finset.sum_add_distrib, ← Finset.sum_sub_distrib]
  refine Finset.sum_congr rfl fun i _ => ?_
  unfold costShare ownCost
  simp only [Pi.add_apply]
  split_ifs <;> ring

/-- A proposal that satisfies the constraints costs no more than any other vector that does. -/
theorem proposalAt_least
    (normed : node.Normed)
    (crossed : 0 < node.consensus.kinormKiiDiff)
    (penalised : 0 < node.consensus.rho)
    (feasible :
      Feasible node.support (localProblem node) (proposalAt node))
    {vector : Nat → K}
    (also : Feasible node.support (localProblem node) vector) :
    evaluateCost node (proposalAt node) ≤ evaluateCost node vector := by
  unfold proposalAt at feasible ⊢
  have affordable :
      evaluateCost node (consensusIterate node).consensus.dutyCycleBest <
        100000 := by
    rcases consensusIterate_cases node with
      ⟨placeholder, _⟩ | ⟨earlier, chosen, later, _, first, copied⟩
    · have passes := checkFeasibility_of_feasible feasible
      rw [checkFeasibility_placeholder normed placeholder] at passes
      cases passes
    · rw [evaluateCost_congr normed.ownIn copied]
      exact first.affordable
  exact
    (consensusIterate_optimal normed crossed penalised
      ⟨_, feasible, affordable⟩).2.1 vector also

omit [IsStrictOrderedRing K] in
/-- Nodes with one task have one feasible region. -/
theorem feasible_of_task
    {node after : Firmware K}
    (task : SameTask node after)
    {vector : Nat → K}
    (feasible : Feasible after.support (localProblem after) vector) :
    Feasible node.support (localProblem node) vector := by
  have support : after.support = node.support :=
    congrArg Finset.range task.gains.numTotalNodes
  have problem : localProblem after = localProblem node := by
    unfold localProblem
    rw [task.gains.ki, task.liRef, task.residualArray, task.gains.nodeIdx]
  rw [← support, ← problem]
  exact feasible

variable {N : Nat} {nodes : Fin N → Firmware K}

/-- Nodes that know their index, with the constants of `Consensus::init`, about to iterate. -/
structure Tuned (nodes : Fin N → Firmware K) : Prop where
  size : ∀ n, (nodes n).numTotalNodes = N
  index : ∀ n, (nodes n).consensus.nodeIdx = n
  normed : ∀ n, (nodes n).Normed
  crossed : ∀ n, 0 < (nodes n).consensus.kinormKiiDiff
  penalised : ∀ n, 0 < (nodes n).consensus.rho

/-- All desks are lit and all duty cycles are percentages. -/
def LightsAll (nodes : Fin N → Firmware K) (vector : Nat → K) : Prop :=
  ∀ n, Feasible (nodes n).support (localProblem (nodes n)) vector

omit [IsStrictOrderedRing K] in
/-- Vectors that light all desks are percentages. -/
theorem LightsAll.percentage
    (tuned : Tuned nodes)
    {vector : Nat → K}
    (lights : LightsAll nodes vector)
    {slot : Nat}
    (inVector : slot < N) :
    0 ≤ vector slot ∧ vector slot ≤ 100 := by
  obtain ⟨lower, upper, _⟩ := lights ⟨slot, inVector⟩
  have own :
      (localProblem (nodes ⟨slot, inVector⟩)).own = slot :=
    tuned.index ⟨slot, inVector⟩
  rw [own] at lower upper
  exact ⟨lower, upper⟩

omit [IsStrictOrderedRing K] in
/-- Feasibility only depends on the entries in use. -/
theorem feasible_congr
    (ownIn : node.consensus.nodeIdx < node.numTotalNodes)
    {first second : Nat → K}
    (same : ∀ i < node.numTotalNodes, first i = second i)
    (feasible : Feasible node.support (localProblem node) first) :
    Feasible node.support (localProblem node) second := by
  have own : second node.consensus.nodeIdx = first node.consensus.nodeIdx :=
    (same _ ownIn).symm
  have light :
      dot node.support second (localProblem node).normal =
        dot node.support first (localProblem node).normal :=
    Finset.sum_congr rfl fun i member => by
      rw [same i (Finset.mem_range.mp member)]
  constructor
  · exact feasible.lower.trans_eq own.symm
  · exact own.trans_le feasible.upper
  · rw [light]
    exact feasible.bound

variable [FloorRing K]

/--
How much the proposals of a round may cost beyond a vector that lights all desks:
the new multipliers and the movement of the averages against the distance.
-/
def disagreement (nodes : Fin N → Firmware K) (vector : Nat → K) : K :=
  ∑ n, ∑ slot ∈ Finset.range N,
    ((lockstepRound nodes n).consensus.lagrangeMultipliers slot +
        (nodes n).consensus.rho *
          ((lockstepRound nodes n).consensus.dutyCycleAv slot -
            (nodes n).consensus.dutyCycleAv slot)) *
      (vector slot - proposalAt (nodes n) slot)

/-- The proposals of a round cost no more than any vector that lights all desks, but for that. -/
theorem cost_proposals_le
    (tuned : Tuned nodes)
    (exact :
      ∀ n,
        Feasible (nodes n).support (localProblem (nodes n))
          (proposalAt (nodes n)))
    {vector : Nat → K}
    (lights : LightsAll nodes vector) :
    ∑ n, (nodes n).luminaire.cost * proposalAt (nodes n) n ≤
      ∑ n, (nodes n).luminaire.cost * vector n +
        disagreement nodes vector := by
  have support :
      ∀ n, (nodes n).support = Finset.range N :=
    fun n => congrArg Finset.range (tuned.size n)
  have steps :=
    ProximalStep.sum_cost_le
      (fun n => convex_feasible (nodes n).support (localProblem (nodes n)))
      exact
      (fun n vector also => by
        have least :=
          proposalAt_least (tuned.normed n) (tuned.crossed n)
            (tuned.penalised n) (exact n) also
        rw [evaluateCost_eq_objective (tuned.normed n).ownIn,
          evaluateCost_eq_objective (tuned.normed n).ownIn,
          sub_le_sub_iff_right, support n] at least
        exact least)
      lights
  have paid :
      ∀ (n : Fin N) (vector : Nat → K),
        dot (Finset.range N) (ownCost (nodes n)) vector =
          (nodes n).luminaire.cost * vector n := by
    intro n vector
    rw [← support n, dot_ownCost (tuned.normed n).ownIn, tuned.index n]
  simp only [paid] at steps
  refine steps.trans (le_of_eq (congrArg _ ?_))
  refine Finset.sum_congr rfl fun n _ => ?_
  refine Finset.sum_congr rfl fun slot member => ?_
  have updated :=
    lockstepRound_lagrangeMultipliers tuned.size n
      (Finset.mem_range.mp member)
  rw [updated]
  unfold ProximalStep.gradient
  simp only [Pi.sub_apply]
  ring

omit [IsStrictOrderedRing K] in
/-- Where a round proposes what is averaged already, only the multipliers disagree. -/
theorem disagreement_of_agreed
    (tuned : Tuned nodes)
    {agreed : Nat → K}
    (averages :
      ∀ n, ∀ slot < N, (nodes n).consensus.dutyCycleAv slot = agreed slot)
    (proposals : ∀ n, ∀ slot < N, proposalAt (nodes n) slot = agreed slot)
    (vector : Nat → K) :
    disagreement nodes vector =
      ∑ slot ∈ Finset.range N,
        multiplierSum nodes slot * (vector slot - agreed slot) := by
  unfold disagreement multiplierSum
  rw [Finset.sum_comm]
  refine Finset.sum_congr rfl fun slot member => ?_
  have inVector := Finset.mem_range.mp member
  rw [Finset.sum_mul]
  refine Finset.sum_congr rfl fun n _ => ?_
  rw [lockstepRound_lagrangeMultipliers tuned.size n inVector,
    averages n slot inVector, proposals n slot inVector]
  ring

end Certificate

namespace Net

variable {K : Type} [Field K] [LinearOrder K] [IsStrictOrderedRing K]
    [FloorRing K] {N : Nat}

variable {overrun : Nat → K → Nat}
    {starter : Fin N}
    {start net : Net K N}

/--
Between the rounds of a run the multipliers of all nodes together are as near to zero
as the quantisation of the proposals so far allows.
-/
theorem multiplierSum_of_run
    (single : N ≤ 3)
    (launched : Launched overrun starter start)
    (run : Run (next overrun) Undisturbed start net)
    {rho : K}
    (nonneg : 0 ≤ rho)
    (common : ∀ n, (start.node n).consensus.rho = rho)
    {rounds : Nat}
    (between : net.BetweenRounds rounds)
    {slot : Nat}
    (inVector : slot < N)
    (within :
      ∀ round < rounds, ∀ n,
        InRange (proposalAt (lockstep start.node round n) slot)) :
    |multiplierSum net.node slot| ≤
      rounds * (rho * (((N : K) - 1) * halfStep K)) := by
  have spare : N < maxNumNodes := by
    unfold maxNumNodes
    omega
  have same :
      multiplierSum net.node slot =
        multiplierSum (lockstep start.node rounds) slot := by
    refine Finset.sum_congr rfl fun n _ => ?_
    have estimate := between.estimate spare launched run n
    exact
      congrArg (fun node => node.consensus.lagrangeMultipliers slot) estimate
  rw [same]
  exact
    abs_multiplierSum_lockstep_le (size_of_launched launched) single nonneg
      common inVector within

/-- The settings of a network whose nodes are to agree. -/
structure Indexed (start : Net K N) : Prop where
  index : ∀ n, (start.node n).nodeIndex = n
  crossed :
    ∀ n, 0 < (consensusInit (start.node n)).consensus.kinormKiiDiff
  penalised : ∀ n, 0 < (start.node n).consensus.rho

omit [IsStrictOrderedRing K] in
/-- In all rounds of a run the nodes are tuned. -/
theorem Indexed.tuned
    (indexed : Indexed start)
    (launched : Launched overrun starter start)
    (rounds : Nat) :
    Tuned (lockstep start.node rounds) := by
  have task := sameTask_lockstep start.node rounds
  have size := size_of_launched launched
  have index :
      ∀ n, (lockstep start.node rounds n).consensus.nodeIdx = n :=
    fun n => (task n).gains.nodeIdx.trans (indexed.index n)
  have registry :
      ∀ n, (lockstep start.node rounds n).numTotalNodes = N :=
    fun n => (task n).gains.numTotalNodes.trans (size n)
  constructor
  · exact registry
  · exact index
  · intro n
    have normed : (consensusInit (start.node n)).Normed :=
      normed_consensusInit (by rw [indexed.index n, size n]; exact n.isLt)
    have gains := (task n).gains
    constructor
    · rw [index n, registry n]
      exact n.isLt
    · rw [gains.kiNorm, gains.numTotalNodes, gains.ki]
      exact normed.kiNorm
    · rw [gains.kinormKiiDiff, gains.kiNorm, gains.ki, gains.nodeIdx]
      exact normed.kinormKiiDiff
  · intro n
    rw [(task n).gains.kinormKiiDiff]
    exact indexed.crossed n
  · intro n
    rw [(task n).gains.rho]
    exact indexed.penalised n

/--
After every round of a run the proposals of the round cost no more than any vector
that lights all desks, but for what the nodes still disagree about.
-/
theorem cost_of_run
    (spare : N < maxNumNodes)
    (launched : Launched overrun starter start)
    (run : Run (next overrun) Undisturbed start net)
    (indexed : Indexed start)
    {rounds : Nat}
    (between : net.BetweenRounds (rounds + 1))
    (exact :
      ∀ n,
        Feasible (net.node n).support (localProblem (net.node n))
          (net.node n).consensus.dutyCycleBest)
    {vector : Nat → K}
    (lights : LightsAll net.node vector) :
    ∑ n, (net.node n).luminaire.cost *
          (net.node n).consensus.dutyCycleBest n ≤
      ∑ n, (net.node n).luminaire.cost * vector n +
        disagreement (lockstep start.node rounds) vector := by
  have estimate := between.estimate spare launched run
  have task :
      ∀ n, SameTask (lockstep start.node rounds n) (net.node n) :=
    fun n =>
      (sameTask_lockstepRound _ n).trans (sameTask_of_estimate (estimate n))
  have proposed :
      ∀ n,
        (net.node n).consensus.dutyCycleBest =
          proposalAt (lockstep start.node rounds n) := by
    intro n
    rw [← lockstepRound_dutyCycleBest]
    exact congrArg (fun node => node.consensus.dutyCycleBest) (estimate n)
  have certificate :=
    cost_proposals_le (indexed.tuned launched rounds)
      (fun n => by
        rw [← proposed n]
        exact feasible_of_task (task n) (exact n))
      (fun n => feasible_of_task (task n) (lights n))
  simp only [proposed, (task _).cost]
  exact certificate

/--
Nodes that have agreed, so that a round proposes what they average already, have
agreed on a vector that is as cheap as any that lights all desks, up to the
quantisation of the proposals so far.
-/
theorem agreement_of_run
    (single : N ≤ 3)
    (launched : Launched overrun starter start)
    (run : Run (next overrun) Undisturbed start net)
    (indexed : Indexed start)
    {rho : K}
    (common : ∀ n, (start.node n).consensus.rho = rho)
    {rounds : Nat}
    (between : net.BetweenRounds rounds)
    (within :
      ∀ round < rounds, ∀ n, ∀ slot < N,
        InRange (proposalAt (lockstep start.node round n) slot))
    {agreed vector : Nat → K}
    (averages :
      ∀ n, ∀ slot < N,
        (net.node n).consensus.dutyCycleAv slot = agreed slot)
    (proposals : ∀ n, ∀ slot < N, proposalAt (net.node n) slot = agreed slot)
    (exact : LightsAll net.node agreed)
    (lights : LightsAll net.node vector) :
    ∑ n : Fin N, (net.node n).luminaire.cost * agreed n ≤
      ∑ n : Fin N, (net.node n).luminaire.cost * vector n +
        N * (100 * (rounds * (rho * (((N : K) - 1) * halfStep K)))) := by
  have spare : N < maxNumNodes := by
    unfold maxNumNodes
    omega
  have estimate := between.estimate spare launched run
  have tuned := indexed.tuned launched rounds
  have task :
      ∀ n, SameTask (lockstep start.node rounds n) (net.node n) :=
    fun n => sameTask_of_estimate (estimate n)
  have idealAverages :
      ∀ n, ∀ slot < N,
        (lockstep start.node rounds n).consensus.dutyCycleAv slot =
          agreed slot := by
    intro n slot inVector
    rw [← averages n slot inVector]
    exact
      congrArg (fun node => node.consensus.dutyCycleAv slot)
        (estimate n).symm
  have idealProposals :
      ∀ n, ∀ slot < N,
        proposalAt (lockstep start.node rounds n) slot = agreed slot := by
    intro n slot inVector
    rw [← proposals n slot inVector,
      (estimate_consensusIterate (estimate n)).1]
  have idealExact : LightsAll (lockstep start.node rounds) agreed :=
    fun n => feasible_of_task (task n) (exact n)
  have idealLights : LightsAll (lockstep start.node rounds) vector :=
    fun n => feasible_of_task (task n) (lights n)
  have certificate :=
    cost_proposals_le tuned
      (fun n =>
        feasible_congr (tuned.normed n).ownIn
          (fun slot inVector => by
            rw [tuned.size n] at inVector
            exact (idealProposals n slot inVector).symm)
          (idealExact n))
      idealLights
  rw [disagreement_of_agreed tuned idealAverages idealProposals]
    at certificate
  simp only [fun n => idealProposals n n n.isLt] at certificate
  simp only [fun n => (task n).cost]
  refine certificate.trans (add_le_add le_rfl ?_)
  -- Every duty cycle is a percentage, so that the sum of its multipliers bounds its share.
  have share :
      ∀ slot ∈ Finset.range N,
        multiplierSum (lockstep start.node rounds) slot *
            (vector slot - agreed slot) ≤
          100 * (rounds * (rho * (((N : K) - 1) * halfStep K))) := by
    intro slot member
    have inVector := Finset.mem_range.mp member
    have bounded :=
      abs_multiplierSum_lockstep_le (size_of_launched launched) single
        (by
          rw [← common ⟨slot, inVector⟩]
          exact (indexed.penalised _).le)
        common inVector
        (fun round before n => within round before n slot inVector)
    have inside := idealLights.percentage tuned inVector
    have alsoInside := idealExact.percentage tuned inVector
    have near : |vector slot - agreed slot| ≤ 100 := by
      rw [abs_le]
      constructor <;> linarith [inside.1, inside.2, alsoInside.1, alsoInside.2]
    calc
      _ ≤ |multiplierSum (lockstep start.node rounds) slot *
            (vector slot - agreed slot)| := le_abs_self _
      _ = |vector slot - agreed slot| *
            |multiplierSum (lockstep start.node rounds) slot| := by
        rw [abs_mul, mul_comm]
      _ ≤ 100 * (rounds * (rho * (((N : K) - 1) * halfStep K))) :=
        mul_le_mul near bounded (abs_nonneg _) (by norm_num)
  refine (Finset.sum_le_sum share).trans (le_of_eq ?_)
  rw [Finset.sum_const, Finset.card_range, nsmul_eq_mul]

section Examples

/-- A round of two nodes: the first to send is the last to complete it. -/
def oneRound (first second : Fin 2) : List (Action ℚ 2) :=
  drainAndStart first 1 ++ transmitFrames first 1 ++ [⟨first, .endMain⟩] ++
    drainAndStart second 1 ++ transmitFrames second 1 ++
    [⟨second, .endMain⟩] ++
    drainAndStart first 1 ++ [⟨first, .endMain⟩]

/-- Two nodes after one round. -/
theorem multiplierSum_of_run_two_nodes :
    ∃ net,
      Run (next fun count _ => count) Undisturbed (occupied 2 0) net ∧
        net.BetweenRounds 1 ∧
        |multiplierSum net.node 0| ≤
          (1 : Nat) * (7 / 100 * (((2 : Nat) - 1) * halfStep ℚ)) := by
  obtain ⟨net, run, observed⟩ :=
    exists_run_of_observed
      (next fun count _ => count)
      Undisturbed
      (occupied 2 0)
      (oneRound 1 0)
      (fun net => decide (net.BetweenRounds 1))
      (by decide +kernel)
  have between := of_decide_eq_true observed
  have within :
      ∀ n : Fin 2,
        |proposalAt (lockstep (occupied 2 0).node 0 n) 0| ≤ 300 := by
    decide +kernel
  refine ⟨net, run, between, ?_⟩
  refine
    multiplierSum_of_run (by decide) (launched_occupied 2 0 _) run
      (by norm_num) (by decide +kernel) between (by decide) ?_
  intro round before n
  rw [Nat.lt_one_iff] at before
  subst before
  exact within n

/-- The constraints of all nodes, as `check_feasibility` computes them without tolerance. -/
def lightsAllExactly
    {N : Nat}
    (nodes : Fin N → Firmware ℚ)
    (vector : Fin N → Nat → ℚ) : Bool :=
  decide
    (∀ n,
      0 ≤ vector n (nodes n).consensus.nodeIdx ∧
        vector n (nodes n).consensus.nodeIdx ≤ 100 ∧
        (nodes n).consensus.liRef -
            (nodes n).residualArray (nodes n).consensus.nodeIdx ≤
          multiplyTwoArrays (nodes n).numTotalNodes (vector n)
            (nodes n).consensus.ki)

theorem feasible_of_lightsAllExactly
    {N : Nat}
    {nodes : Fin N → Firmware ℚ}
    {vector : Fin N → Nat → ℚ}
    (lights : lightsAllExactly nodes vector = true)
    (n : Fin N) :
    Feasible (nodes n).support (localProblem (nodes n)) (vector n) := by
  obtain ⟨lower, upper, bound⟩ := of_decide_eq_true lights n
  exact ⟨lower, upper, bound⟩

theorem indexed_occupied : Indexed (occupied 2 0) where
  index := by decide +kernel
  crossed := by decide +kernel
  penalised := by decide +kernel

/-- Two nodes after one round, against full light on all desks. -/
theorem cost_of_run_two_nodes :
    ∃ net,
      Run (next fun count _ => count) Undisturbed (occupied 2 0) net ∧
        net.BetweenRounds 1 ∧
        ∑ n, (net.node n).luminaire.cost *
              (net.node n).consensus.dutyCycleBest n ≤
          ∑ n : Fin 2, (net.node n).luminaire.cost * 100 +
            disagreement (lockstep (occupied 2 0).node 0) fun _ => 100 := by
  obtain ⟨net, run, observed⟩ :=
    exists_run_of_observed
      (next fun count _ => count)
      Undisturbed
      (occupied 2 0)
      (oneRound 1 0)
      (fun net =>
        decide (net.BetweenRounds 1) &&
          (lightsAllExactly net.node
              (fun n => (net.node n).consensus.dutyCycleBest) &&
            lightsAllExactly net.node fun _ _ => 100))
      (by decide +kernel)
  rw [Bool.and_eq_true, Bool.and_eq_true, decide_eq_true_eq] at observed
  obtain ⟨between, exact, lights⟩ := observed
  have feasible := feasible_of_lightsAllExactly exact
  have lightsAll : LightsAll net.node fun _ => 100 :=
    feasible_of_lightsAllExactly lights
  have bound :=
    cost_of_run (by decide) (launched_occupied 2 0 _) run indexed_occupied
      between feasible lightsAll
  exact ⟨net, run, between, bound⟩

/-- Freshly calibrated nodes in daylight that is enough for both desks. -/
def daylit : Net ℚ 2 :=
  { idle 2 with
    node := fun n =>
      .calibrated 2 n (fun i j => if i = j then 2 else 1 / 2)
        (fun _ => 40) 1 }

/-- The cost of a node has just been changed. -/
def daylitRestarted (starter : Fin 2) : Net ℚ 2 :=
  daylit.execute starter (.c 2)

theorem launched_daylit (overrun : Nat → ℚ → Nat) :
    Launched overrun 0 (daylitRestarted 0) := by
  refine ⟨daylit, .c 2, ?_, by decide +kernel, rfl⟩
  exact
    { registry := fun _ => rfl
      off := fun _ => rfl
      quiet := rfl
      notSending := fun _ _ sending => by cases sending
      noneCompleted := fun _ => rfl
      noneCounted := fun _ => rfl
      noRestart := fun _ => rfl }

/-- In daylight both nodes propose darkness, which is what they average after a round. -/
theorem agreement_of_run_daylit :
    ∃ net,
      Run (next fun count _ => count) Undisturbed
          (daylitRestarted 0) net ∧
        net.BetweenRounds 1 ∧
        ∑ n : Fin 2, (net.node n).luminaire.cost * 0 ≤
          ∑ n : Fin 2, (net.node n).luminaire.cost * 100 +
            (2 : Nat) *
              (100 * ((1 : Nat) *
                (7 / 100 * (((2 : Nat) - 1) * halfStep ℚ)))) := by
  obtain ⟨net, run, observed⟩ :=
    exists_run_of_observed
      (next fun count _ => count)
      Undisturbed
      (daylitRestarted 0)
      (oneRound 1 0)
      (fun net =>
        decide
            (net.BetweenRounds 1 ∧
              (∀ n : Fin 2, ∀ slot : Fin 2,
                (net.node n).consensus.dutyCycleAv slot = 0) ∧
              ∀ n : Fin 2, ∀ slot : Fin 2,
                proposalAt (net.node n) slot = 0) &&
          (lightsAllExactly net.node (fun _ _ => 0) &&
            lightsAllExactly net.node fun _ _ => 100))
      (by decide +kernel)
  rw [Bool.and_eq_true, Bool.and_eq_true, decide_eq_true_eq] at observed
  obtain ⟨⟨between, averages, proposals⟩, exact, lights⟩ := observed
  have within :
      ∀ n slot : Fin 2,
        |proposalAt (lockstep (daylitRestarted 0).node 0 n) slot| ≤
          300 := by
    decide +kernel
  have indexed : Indexed (daylitRestarted 0) :=
    ⟨by decide +kernel, by decide +kernel, by decide +kernel⟩
  have darkness : LightsAll net.node fun _ => 0 :=
    feasible_of_lightsAllExactly exact
  have lightsAll : LightsAll net.node fun _ => 100 :=
    feasible_of_lightsAllExactly lights
  have common : ∀ n, ((daylitRestarted 0).node n).consensus.rho = 7 / 100 := by
    decide +kernel
  have bound :=
    agreement_of_run (by decide) (launched_daylit _) run indexed common
      between
      (fun round before n slot inVector => by
        rw [Nat.lt_one_iff] at before
        subst before
        exact within n ⟨slot, inVector⟩)
      (fun n slot inVector => averages n ⟨slot, inVector⟩)
      (fun n slot inVector => proposals n ⟨slot, inVector⟩)
      darkness lightsAll
  exact ⟨net, run, between, bound⟩

end Examples

end Net

end DistributedLighting
