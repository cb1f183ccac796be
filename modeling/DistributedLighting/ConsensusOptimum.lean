import DistributedLighting.Consensus
import DistributedLighting.BoxedHalfspace

namespace DistributedLighting

open BoxedHalfspace

/-!
# The optimum of one consensus iteration

`Consensus::consensus_iterate` minimises the augmented Lagrangian over the vectors
whose own entry is a percentage and that light the node's desk enough.  Up to a
constant the Lagrangian is the squared distance to the unconstrained minimiser,
so that the six candidates are the nearest points of the faces of a boxed
half-space.
-/

section Selection

variable {K : Type} [Field K] [LinearOrder K] {node : Firmware K}

/-- What `check_feasibility` allows. -/
theorem checkFeasibility_iff (vector : Nat → K) :
    checkFeasibility node vector = true ↔
      0 - 1 / 100 ≤ vector node.consensus.nodeIdx ∧
        vector node.consensus.nodeIdx ≤ 100 + 1 / 100 ∧
        node.consensus.liRef -
              node.residualArray node.consensus.nodeIdx - 1 / 100 ≤
          multiplyTwoArrays node.numTotalNodes vector
            node.consensus.ki := by
  rw [← not_lt, ← not_lt, ← not_lt]
  unfold checkFeasibility
  simp only [gt_iff_lt]
  split_ifs with below above dark
  · exact iff_of_false not_false fun passes => passes.1 below
  · exact iff_of_false not_false fun passes => passes.2.1 above
  · exact iff_of_false not_false fun passes => passes.2.2 dark
  · exact iff_of_true rfl ⟨below, above, dark⟩

/--
The first of the cheapest candidates that pass `check_feasibility`, when it costs
less than `limit`.
-/
structure FirstCheapest
    (node : Firmware K)
    (limit : K)
    (earlier : List (Nat → K))
    (chosen : Nat → K)
    (later : List (Nat → K)) : Prop where
  passes : checkFeasibility node chosen = true
  affordable : evaluateCost node chosen < limit
  earlierMore :
    ∀ other ∈ earlier,
      checkFeasibility node other = true →
        evaluateCost node chosen < evaluateCost node other
  laterNotLess :
    ∀ other ∈ later,
      checkFeasibility node other = true →
        evaluateCost node chosen ≤ evaluateCost node other

/-- Copy the entries in use of one vector over another. -/
def Firmware.copyOver
    (node : Firmware K)
    (source destination : Nat → K) : Nat → K := fun i =>
  if i < node.numTotalNodes then source i else destination i

theorem considerCandidate_kept
    {best : (Nat → K) × K}
    {candidate : Nat → K}
    (kept :
      checkFeasibility node candidate = true →
        best.2 ≤ evaluateCost node candidate) :
    considerCandidate node best candidate = best := by
  unfold considerCandidate
  by_cases passes : checkFeasibility node candidate = true
  · rw [if_pos passes]
    exact if_neg (not_lt_of_ge (kept passes))
  · exact if_neg passes

theorem considerCandidate_replaced
    {best : (Nat → K) × K}
    {candidate : Nat → K}
    (passes : checkFeasibility node candidate = true)
    (less : evaluateCost node candidate < best.2) :
    considerCandidate node best candidate =
      (node.copyOver candidate best.1, evaluateCost node candidate) := by
  unfold considerCandidate
  rw [if_pos passes]
  exact if_pos less

/-- What is left after some candidates: what was there, or the first of the cheapest. -/
theorem foldl_considerCandidate
    (candidates : List (Nat → K))
    (best : (Nat → K) × K) :
    (candidates.foldl (considerCandidate node) best = best ∧
        ∀ candidate ∈ candidates,
          checkFeasibility node candidate = true →
            best.2 ≤ evaluateCost node candidate) ∨
      ∃ earlier chosen later,
        candidates = earlier ++ chosen :: later ∧
          FirstCheapest node best.2 earlier chosen later ∧
          ∀ i < node.numTotalNodes,
            (candidates.foldl (considerCandidate node) best).1 i =
              chosen i := by
  induction candidates generalizing best with
  | nil =>
      exact .inl ⟨rfl, fun _ inNil => absurd inNil List.not_mem_nil⟩
  | cons candidate rest inductionHypothesis =>
      rw [List.foldl_cons]
      by_cases replaced :
          checkFeasibility node candidate = true ∧
            evaluateCost node candidate < best.2
      · obtain ⟨passes, less⟩ := replaced
        rw [considerCandidate_replaced passes less]
        rcases
            inductionHypothesis
              (node.copyOver candidate best.1,
                evaluateCost node candidate) with
          ⟨same, notLess⟩ | ⟨earlier, chosen, later, split, first, copied⟩
        · refine .inr ⟨[], candidate, rest, rfl, ?_, ?_⟩
          · exact
              ⟨passes, less, fun _ inNil => absurd inNil List.not_mem_nil,
                notLess⟩
          · intro i inVector
            rw [same]
            exact if_pos inVector
        · refine
            .inr
              ⟨candidate :: earlier, chosen, later, by rw [split]; rfl, ?_,
                copied⟩
          refine
            ⟨first.passes, first.affordable.trans less, ?_,
              first.laterNotLess⟩
          intro other inEarlier passesOther
          rcases List.mem_cons.mp inEarlier with rfl | inRest
          · exact first.affordable
          · exact first.earlierMore other inRest passesOther
      · have kept :
            checkFeasibility node candidate = true →
              best.2 ≤ evaluateCost node candidate :=
          fun passes => not_lt.mp fun less => replaced ⟨passes, less⟩
        rw [considerCandidate_kept kept]
        rcases inductionHypothesis best with
          ⟨same, notLess⟩ | ⟨earlier, chosen, later, split, first, copied⟩
        · refine .inl ⟨same, ?_⟩
          intro other inCandidates passes
          rcases List.mem_cons.mp inCandidates with rfl | inRest
          · exact kept passes
          · exact notLess other inRest passes
        · refine
            .inr
              ⟨candidate :: earlier, chosen, later, by rw [split]; rfl, ?_,
                copied⟩
          refine
            ⟨first.passes, first.affordable, ?_, first.laterNotLess⟩
          intro other inEarlier passesOther
          rcases List.mem_cons.mp inEarlier with rfl | inRest
          · exact lt_of_lt_of_le first.affordable (kept passesOther)
          · exact first.earlierMore other inRest passesOther

/-- What an iteration leaves: the placeholder, or the first of the cheapest candidates. -/
theorem consensusIterate_cases (node : Firmware K) :
    ((∀ i < node.numTotalNodes,
          (consensusIterate node).consensus.dutyCycleBest i = -1) ∧
        ∀ candidate ∈ candidates node,
          checkFeasibility node candidate = true →
            100000 ≤ evaluateCost node candidate) ∨
      ∃ earlier chosen later,
        candidates node = earlier ++ chosen :: later ∧
          FirstCheapest node 100000 earlier chosen later ∧
          ∀ i < node.numTotalNodes,
            (consensusIterate node).consensus.dutyCycleBest i =
              chosen i := by
  rcases
      foldl_considerCandidate (candidates node)
        (node.copyOver (fun _ => -1) node.consensus.dutyCycleBest,
          100000) with
    ⟨same, dear⟩ | chosen
  · refine .inl ⟨?_, dear⟩
    intro i inVector
    exact (congrFun (congrArg Prod.fst same) i).trans (if_pos inVector)
  · exact .inr chosen

/-- The chosen candidate costs no more than any other that passes. -/
theorem FirstCheapest.le
    {limit : K}
    {earlier later : List (Nat → K)}
    {chosen other : Nat → K}
    (first : FirstCheapest node limit earlier chosen later)
    (among : other ∈ earlier ++ chosen :: later)
    (passes : checkFeasibility node other = true) :
    evaluateCost node chosen ≤ evaluateCost node other := by
  rcases List.mem_append.mp among with inEarlier | inRest
  · exact le_of_lt (first.earlierMore other inEarlier passes)
  rcases List.mem_cons.mp inRest with rfl | inLater
  · exact le_rfl
  · exact first.laterNotLess other inLater passes

end Selection

section Lagrangian

variable {K : Type} [Field K]

/-- The constants that `Consensus::init` derives from the gain row. -/
structure Firmware.Normed (node : Firmware K) : Prop where
  ownIn : node.consensus.nodeIdx < node.numTotalNodes
  kiNorm :
    node.consensus.kiNorm =
      multiplyTwoArrays node.numTotalNodes node.consensus.ki
        node.consensus.ki
  kinormKiiDiff :
    node.consensus.kinormKiiDiff =
      node.consensus.kiNorm - node.consensus.ki node.consensus.nodeIdx ^ 2

/-- The entries of the vectors in use. -/
def Firmware.support (node : Firmware K) : Finset Nat :=
  Finset.range node.numTotalNodes

/-- The constraints of the node: its duty cycle is a percentage, its desk is lit. -/
def localProblem (node : Firmware K) : Problem Nat K where
  normal := node.consensus.ki
  bound :=
    node.consensus.liRef - node.residualArray node.consensus.nodeIdx
  own := node.consensus.nodeIdx
  lower := 0
  upper := fullDutyCycle K

/-- The minimiser of the cost without any constraint. -/
def unconstrained (node : Firmware K) : Nat → K := fun i =>
  1 / node.consensus.rho * iterateZ node i

variable {node : Firmware K}

theorem normed_consensusInit (inRegistry : node.nodeIndex < node.numTotalNodes) :
    (consensusInit node).Normed where
  ownIn := inRegistry
  kiNorm := rfl
  kinormKiiDiff := rfl

theorem Firmware.Normed.own_mem (normed : node.Normed) :
    (localProblem node).own ∈ node.support :=
  Finset.mem_range.mpr normed.ownIn

theorem Firmware.Normed.crossNorm_eq (normed : node.Normed) :
    (localProblem node).crossNorm node.support =
      node.consensus.kinormKiiDiff := by
  rw [normed.kinormKiiDiff, normed.kiNorm]
  rfl

/-- The six candidates are the nearest points of the six faces. -/
theorem candidates_eq [LinearOrder K] (normed : node.Normed) :
    candidates node =
      faces.map
        ((localProblem node).corner node.support (unconstrained node)) := by
  have scaled :
      dot node.support (unconstrained node) node.consensus.ki =
        1 / node.consensus.rho *
          multiplyTwoArrays node.numTotalNodes (iterateZ node)
            node.consensus.ki := by
    unfold dot unconstrained multiplyTwoArrays Firmware.support
    rw [Finset.mul_sum]
    refine Finset.sum_congr rfl fun i _ => ?_
    ring
  have norm :
      dot node.support node.consensus.ki node.consensus.ki =
        node.consensus.kiNorm :=
    normed.kiNorm.symm
  have onPlane :
      (localProblem node).onPlane node.support (unconstrained node) =
        fun i =>
          1 / node.consensus.rho * iterateZ node i -
            node.consensus.ki i / node.consensus.kiNorm *
              (node.residualArray node.consensus.nodeIdx -
                  node.consensus.liRef +
                1 / node.consensus.rho *
                  multiplyTwoArrays node.numTotalNodes (iterateZ node)
                    node.consensus.ki) := by
    funext i
    unfold Problem.onPlane Problem.deficit localProblem
    simp only [scaled, norm]
    unfold unconstrained
    ring
  have pinnedOnPlane :
      ∀ value offset : K,
        offset = value * node.consensus.ki node.consensus.nodeIdx →
          (localProblem node).pinnedOnPlane node.support
              (unconstrained node) value =
            Function.update
              (fun i =>
                1 / node.consensus.rho * iterateZ node i -
                    node.consensus.ki i / node.consensus.kinormKiiDiff *
                      (node.residualArray node.consensus.nodeIdx -
                          node.consensus.liRef +
                        offset) +
                  node.consensus.ki i /
                      (node.consensus.rho *
                        node.consensus.kinormKiiDiff) *
                    (node.consensus.ki node.consensus.nodeIdx *
                        iterateZ node node.consensus.nodeIdx -
                      multiplyTwoArrays node.numTotalNodes (iterateZ node)
                        node.consensus.ki))
              node.consensus.nodeIdx value := by
    intro value offset isOffset
    unfold Problem.pinnedOnPlane Problem.lack Problem.deficit
    rw [normed.crossNorm_eq]
    unfold localProblem
    simp only [scaled]
    congr 1
    funext i
    unfold unconstrained
    rw [isOffset, ← div_div]
    ring
  have lower :=
    pinnedOnPlane 0 0 (zero_mul _).symm
  have upper :=
    pinnedOnPlane 100 (100 * node.consensus.ki node.consensus.nodeIdx) rfl
  unfold candidates faces
  simp only [List.map_cons, List.map_nil, Problem.corner, onPlane]
  rw [show (localProblem node).lower = 0 from rfl,
    show (localProblem node).upper = 100 from rfl, lower, upper]
  rfl

theorem corner_mem_candidates
    [LinearOrder K]
    (normed : node.Normed)
    (face : Face) :
    (localProblem node).corner node.support (unconstrained node) face ∈
      candidates node := by
  rw [candidates_eq normed]
  exact List.mem_map_of_mem (mem_faces face)

theorem evaluateCost_eq_sum
    (ownIn : node.consensus.nodeIdx < node.numTotalNodes)
    (vector : Nat → K) :
    evaluateCost node vector =
      ∑ i ∈ node.support, costShare node vector i := by
  unfold evaluateCost costShare multiplyTwoArrays Firmware.support
  rw [Finset.sum_add_distrib, Finset.sum_add_distrib,
    Finset.sum_ite_eq', if_pos (Finset.mem_range.mpr ownIn),
    ← Finset.mul_sum]

/-- Moving one entry away from the unconstrained minimiser costs its square. -/
theorem costShare_eq
    [CharZero K]
    (nonzero : node.consensus.rho ≠ 0)
    (vector : Nat → K)
    (i : Nat) :
    costShare node vector i =
      costShare node (unconstrained node) i +
        node.consensus.rho / 2 *
          ((vector i - unconstrained node i) *
            (vector i - unconstrained node i)) := by
  have scaled :
      node.consensus.rho * unconstrained node i = iterateZ node i := by
    unfold unconstrained
    rw [← mul_assoc, mul_one_div_cancel nonzero, one_mul]
  unfold iterateZ at scaled
  unfold costShare
  by_cases own : i = node.consensus.nodeIdx
  · rw [own, Function.update_self] at scaled
    rw [if_pos own, if_pos own, own]
    linear_combination
      (vector node.consensus.nodeIdx -
        unconstrained node node.consensus.nodeIdx) * scaled
  · rw [Function.update_of_ne own] at scaled
    rw [if_neg own, if_neg own]
    linear_combination (vector i - unconstrained node i) * scaled

/-- The cost exceeds that of the unconstrained minimiser by a multiple of the distance. -/
theorem evaluateCost_eq
    [CharZero K]
    (normed : node.Normed)
    (nonzero : node.consensus.rho ≠ 0)
    (vector : Nat → K) :
    evaluateCost node vector =
      evaluateCost node (unconstrained node) +
        node.consensus.rho / 2 *
          distance node.support vector (unconstrained node) := by
  rw [evaluateCost_eq_sum normed.ownIn, evaluateCost_eq_sum normed.ownIn]
  unfold distance dot
  rw [Finset.mul_sum, ← Finset.sum_add_distrib]
  exact Finset.sum_congr rfl fun i _ => costShare_eq nonzero vector i

/-- The cost only depends on the entries in use. -/
theorem evaluateCost_congr
    (ownIn : node.consensus.nodeIdx < node.numTotalNodes)
    {first second : Nat → K}
    (same : ∀ i < node.numTotalNodes, first i = second i) :
    evaluateCost node first = evaluateCost node second := by
  rw [evaluateCost_eq_sum ownIn, evaluateCost_eq_sum ownIn]
  refine Finset.sum_congr rfl fun i inSupport => ?_
  unfold costShare
  rw [same i (Finset.mem_range.mp inSupport)]

/-- So does the feasibility check. -/
theorem checkFeasibility_congr
    [LinearOrder K]
    (ownIn : node.consensus.nodeIdx < node.numTotalNodes)
    {first second : Nat → K}
    (same : ∀ i < node.numTotalNodes, first i = second i) :
    checkFeasibility node first = checkFeasibility node second := by
  have light :
      multiplyTwoArrays node.numTotalNodes first node.consensus.ki =
        multiplyTwoArrays node.numTotalNodes second node.consensus.ki :=
    Finset.sum_congr rfl fun i inRange => by
      rw [same i (Finset.mem_range.mp inRange)]
  simp only [checkFeasibility, light, same node.consensus.nodeIdx ownIn]

end Lagrangian

section Optimum

variable {K : Type} [Field K] [LinearOrder K] [IsStrictOrderedRing K]
    {node : Firmware K}

/-- A vector that satisfies the constraints exactly passes with the tolerance. -/
theorem checkFeasibility_of_feasible
    {vector : Nat → K}
    (feasible : Feasible node.support (localProblem node) vector) :
    checkFeasibility node vector = true := by
  obtain ⟨lower, upper, bound⟩ := feasible
  have lower : 0 ≤ vector node.consensus.nodeIdx := lower
  have upper : vector node.consensus.nodeIdx ≤ 100 := upper
  have bound :
      node.consensus.liRef - node.residualArray node.consensus.nodeIdx ≤
        multiplyTwoArrays node.numTotalNodes vector node.consensus.ki :=
    bound
  rw [checkFeasibility_iff]
  refine ⟨?_, ?_, ?_⟩ <;> linarith

/-- The placeholder does not pass. -/
theorem checkFeasibility_placeholder
    (normed : node.Normed)
    {vector : Nat → K}
    (placeholder : ∀ i < node.numTotalNodes, vector i = -1) :
    checkFeasibility node vector = false := by
  rw [Bool.eq_false_iff, ne_eq, checkFeasibility_iff,
    placeholder _ normed.ownIn]
  rintro ⟨lower, -, -⟩
  linarith

/-- A vector satisfies the equations of a face and costs no more than any that does. -/
structure FaceMinimiser
    (node : Firmware K)
    (face : Face)
    (vector : Nat → K) : Prop where
  onFace : OnFace node.support (localProblem node) vector face
  least :
    ∀ other,
      OnFace node.support (localProblem node) other face →
        evaluateCost node vector ≤ evaluateCost node other

section Faces

variable (normed : node.Normed)
    (crossed : 0 < node.consensus.kinormKiiDiff)
    (penalised : 0 < node.consensus.rho)
include normed penalised

/-- Cheaper means nearer to the unconstrained minimiser. -/
theorem evaluateCost_le_iff (first second : Nat → K) :
    evaluateCost node first ≤ evaluateCost node second ↔
      distance node.support first (unconstrained node) ≤
        distance node.support second (unconstrained node) := by
  rw [evaluateCost_eq normed (ne_of_gt penalised) first,
    evaluateCost_eq normed (ne_of_gt penalised) second,
    add_le_add_iff_left]
  exact mul_le_mul_iff_right₀ (half_pos penalised)

include crossed

/-- One of the candidates satisfies the constraints and is the cheapest that does. -/
theorem exists_optimal_candidate :
    ∃ candidate ∈ candidates node,
      Feasible node.support (localProblem node) candidate ∧
        ∀ vector,
          Feasible node.support (localProblem node) vector →
            evaluateCost node candidate ≤ evaluateCost node vector := by
  rw [← normed.crossNorm_eq] at crossed
  obtain ⟨face, nearest⟩ :=
    exists_nearest_face normed.own_mem crossed
      (show (0 : K) ≤ 100 by norm_num)
  refine
    ⟨(localProblem node).corner node.support (unconstrained node) face,
      ?_, nearest.feasible, ?_⟩
  · exact corner_mem_candidates normed face
  · intro vector feasible
    rw [evaluateCost_le_iff normed penalised]
    exact nearest.least vector feasible

/--
Where some vector that satisfies the constraints costs less than the initial
`costBest`, an iteration leaves one that passes and costs no more than any that
satisfies them; the candidates contain the optimum.
-/
theorem consensusIterate_optimal
    (affordable :
      ∃ vector,
        Feasible node.support (localProblem node) vector ∧
          evaluateCost node vector < 100000) :
    checkFeasibility node (consensusIterate node).consensus.dutyCycleBest =
        true ∧
      (∀ vector,
        Feasible node.support (localProblem node) vector →
          evaluateCost node (consensusIterate node).consensus.dutyCycleBest ≤
            evaluateCost node vector) ∧
      ∃ candidate ∈ candidates node,
        Feasible node.support (localProblem node) candidate ∧
          ∀ vector,
            Feasible node.support (localProblem node) vector →
              evaluateCost node candidate ≤ evaluateCost node vector := by
  obtain ⟨candidate, among, feasible, least⟩ :=
    exists_optimal_candidate normed crossed penalised
  have passes := checkFeasibility_of_feasible feasible
  refine ⟨?_, ?_, candidate, among, feasible, least⟩
  all_goals
    rcases consensusIterate_cases node with
      ⟨-, dear⟩ | ⟨earlier, chosen, later, split, first, copied⟩
  · obtain ⟨vector, satisfies, cheap⟩ := affordable
    exact
      absurd ((dear candidate among passes).trans (least vector satisfies))
        (not_le_of_gt cheap)
  · rw [checkFeasibility_congr normed.ownIn copied]
    exact first.passes
  · obtain ⟨vector, satisfies, cheap⟩ := affordable
    exact
      absurd ((dear candidate among passes).trans (least vector satisfies))
        (not_le_of_gt cheap)
  · intro vector satisfies
    rw [evaluateCost_congr normed.ownIn copied]
    exact (first.le (split ▸ among) passes).trans (least vector satisfies)

/-- The nearest point of a face is its minimiser. -/
theorem faceMinimiser_corner (face : Face) :
    FaceMinimiser node face
      ((localProblem node).corner node.support (unconstrained node)
        face) := by
  rw [← normed.crossNorm_eq] at crossed
  have norm := ne_of_gt (norm_pos crossed)
  refine
    ⟨onFace_corner normed.own_mem (ne_of_gt crossed) norm _ face, ?_⟩
  intro other onFace
  rw [evaluateCost_le_iff normed penalised,
    distance_onFace normed.own_mem (ne_of_gt crossed) norm onFace]
  exact le_add_of_nonneg_right (distance_nonneg _ _)

/-- In the entries in use a face has no other minimiser. -/
theorem FaceMinimiser.eq_corner
    {face : Face}
    {vector : Nat → K}
    (minimiser : FaceMinimiser node face vector) :
    ∀ i < node.numTotalNodes,
      vector i =
        (localProblem node).corner node.support (unconstrained node)
          face i := by
  intro i inVector
  have least :=
    minimiser.least _
      (faceMinimiser_corner normed crossed penalised face).onFace
  rw [evaluateCost_le_iff normed penalised] at least
  rw [← normed.crossNorm_eq] at crossed
  exact
    BoxedHalfspace.eq_corner normed.own_mem crossed minimiser.onFace least
      (Finset.mem_range.mpr inVector)

/-- So it costs and passes as the nearest point does. -/
theorem FaceMinimiser.same_corner
    {face : Face}
    {vector : Nat → K}
    (minimiser : FaceMinimiser node face vector) :
    evaluateCost node vector =
        evaluateCost node
          ((localProblem node).corner node.support (unconstrained node)
            face) ∧
      checkFeasibility node vector =
        checkFeasibility node
          ((localProblem node).corner node.support (unconstrained node)
            face) :=
  have same := minimiser.eq_corner normed crossed penalised
  ⟨evaluateCost_congr normed.ownIn same,
    checkFeasibility_congr normed.ownIn same⟩

/-- A proposal that passes is the minimiser of some face. -/
theorem exists_faceMinimiser_of_passes
    (passes :
      checkFeasibility node (consensusIterate node).consensus.dutyCycleBest =
        true) :
    ∃ face vector,
      FaceMinimiser node face vector ∧
        checkFeasibility node vector = true ∧
        evaluateCost node vector < 100000 := by
  rcases consensusIterate_cases node with
    ⟨placeholder, -⟩ | ⟨earlier, chosen, later, split, first, -⟩
  · rw [checkFeasibility_placeholder normed placeholder] at passes
    exact absurd passes Bool.false_ne_true
  · have among : chosen ∈ candidates node := by
      rw [split]
      exact List.mem_append_right earlier List.mem_cons_self
    rw [candidates_eq normed] at among
    obtain ⟨face, -, rfl⟩ := List.mem_map.mp among
    exact
      ⟨face, _, faceMinimiser_corner normed crossed penalised face,
        first.passes, first.affordable⟩

/--
An iteration leaves a proposal that passes exactly if the minimiser of some face
passes and costs less than the initial `costBest`.
-/
theorem checkFeasibility_consensusIterate_iff :
    checkFeasibility node (consensusIterate node).consensus.dutyCycleBest =
        true ↔
      ∃ face vector,
        FaceMinimiser node face vector ∧
          checkFeasibility node vector = true ∧
          evaluateCost node vector < 100000 := by
  constructor
  · exact exists_faceMinimiser_of_passes normed crossed penalised
  · rintro ⟨face, vector, minimiser, passes, affordable⟩
    obtain ⟨cost, check⟩ := minimiser.same_corner normed crossed penalised
    rw [check] at passes
    rw [cost] at affordable
    rcases consensusIterate_cases node with
      ⟨-, dear⟩ | ⟨earlier, chosen, later, -, first, copied⟩
    · exact
        absurd (dear _ (corner_mem_candidates normed face) passes)
          (not_le_of_gt affordable)
    · rw [checkFeasibility_congr normed.ownIn copied]
      exact first.passes

/--
However its gains and its averages, a node has a reference from which on nothing
affordable passes and the placeholder is left.
-/
theorem exists_reference_placeholder :
    ∃ reference,
      ∀ liRef ≥ reference,
        let dark :=
          { node with consensus := { node.consensus with liRef := liRef } }
        checkFeasibility dark (consensusIterate dark).consensus.dutyCycleBest =
          false := by
  let light (vector : Nat → K) : K :=
    multiplyTwoArrays node.numTotalNodes vector node.consensus.ki
  let radius : K :=
    (100000 - evaluateCost node (unconstrained node)) /
      (node.consensus.rho / 2)
  refine
    ⟨light (unconstrained node) + 1 + radius * node.consensus.kiNorm +
      node.residualArray node.consensus.nodeIdx + 1, ?_⟩
  intro liRef above dark
  have normedDark : dark.Normed :=
    ⟨normed.ownIn, normed.kiNorm, normed.kinormKiiDiff⟩
  rw [← Bool.not_eq_true]
  intro left
  obtain ⟨face, vector, -, passes, affordable⟩ :=
    exists_faceMinimiser_of_passes normedDark crossed penalised left
  obtain ⟨-, -, lit⟩ := (checkFeasibility_iff vector).mp passes
  have lit :
      liRef - node.residualArray node.consensus.nodeIdx - 1 / 100 ≤
        light vector :=
    lit
  have near :
      distance node.support vector (unconstrained node) ≤ radius := by
    have affordable : evaluateCost node vector < 100000 := affordable
    rw [evaluateCost_eq normed (ne_of_gt penalised)] at affordable
    rw [le_div_iff₀ (half_pos penalised)]
    linarith
  have apart :
      (light vector - light (unconstrained node)) ^ 2 ≤
        radius * node.consensus.kiNorm := by
    have norm :
        dot node.support node.consensus.ki node.consensus.ki =
          node.consensus.kiNorm :=
      normed.kiNorm.symm
    have squared :=
      dot_sub_sq_le node.support vector (unconstrained node)
        node.consensus.ki
    rw [norm] at squared
    have nonneg : 0 ≤ node.consensus.kiNorm :=
      norm ▸ Finset.sum_nonneg fun _ _ => mul_self_nonneg _
    exact squared.trans (mul_le_mul_of_nonneg_right near nonneg)
  have small :=
    sq_nonneg (light vector - light (unconstrained node) - 1 / 2)
  linarith

end Faces

/-- A node whose two gains are equal, with a reference for an empty desk. -/
def equalGains (luxNonOccupied : ℚ) : Firmware ℚ :=
  (executeCommand
    (Firmware.calibrated 2 0 (fun _ _ => 1) (fun _ => 0) 0)
    (.U luxNonOccupied)).1

/-- A common reference has an optimal proposal. -/
theorem consensusIterate_optimal_forty :
    checkFeasibility (equalGains 40)
          (consensusIterate (equalGains 40)).consensus.dutyCycleBest =
        true ∧
      (∀ vector,
        Feasible (equalGains 40).support (localProblem (equalGains 40))
            vector →
          evaluateCost (equalGains 40)
              (consensusIterate (equalGains 40)).consensus.dutyCycleBest ≤
            evaluateCost (equalGains 40) vector) ∧
      ∃ candidate ∈ candidates (equalGains 40),
        Feasible (equalGains 40).support (localProblem (equalGains 40))
            candidate ∧
          ∀ vector,
            Feasible (equalGains 40).support
                (localProblem (equalGains 40)) vector →
              evaluateCost (equalGains 40) candidate ≤
                evaluateCost (equalGains 40) vector :=
  consensusIterate_optimal
    (normed_consensusInit (by decide))
    (by decide +kernel)
    (by decide +kernel)
    ⟨fun _ => 10, ⟨by decide +kernel, by decide +kernel, by decide +kernel⟩,
      by decide +kernel⟩

/-- For a common reference the cheapest vector on the illuminance plane is affordable. -/
theorem checkFeasibility_consensusIterate_iff_forty :
    checkFeasibility (equalGains 40)
        (consensusIterate (equalGains 40)).consensus.dutyCycleBest =
      true :=
  (checkFeasibility_consensusIterate_iff
      (normed_consensusInit (by decide))
      (by decide +kernel)
      (by decide +kernel)).mpr
    ⟨.plane, _,
      faceMinimiser_corner
        (normed_consensusInit (by decide))
        (by decide +kernel)
        (by decide +kernel)
        .plane,
      by decide +kernel,
      by decide +kernel⟩

/-- For a million lux every candidate is too dear and the placeholder survives. -/
theorem placeholder_survives_million :
    2 ≤ (equalGains 1000000).numTotalNodes ∧
      (equalGains 1000000).Normed ∧
      0 < (equalGains 1000000).consensus.kinormKiiDiff ∧
      0 < (equalGains 1000000).consensus.rho ∧
      checkFeasibility (equalGains 1000000)
          (consensusIterate (equalGains 1000000)).consensus.dutyCycleBest =
        false ∧
      ∀ i < (equalGains 1000000).numTotalNodes,
        (consensusMainSend (equalGains 1000000)).1.consensus.dutyCycleBest
            i =
          -1 := by
  refine
    ⟨by decide, normed_consensusInit (by decide), by decide +kernel,
      by decide +kernel, by decide +kernel, ?_⟩
  intro i inVector
  have two : i < 2 := inVector
  interval_cases i <;> decide +kernel

end Optimum

end DistributedLighting
