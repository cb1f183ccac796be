import DistributedLighting.BoxedHalfspace

namespace DistributedLighting

/-!
# Proximal steps that agree

A proximal step minimises a linear cost plus a penalty for leaving a centre, over
a convex set.  Its result satisfies a variational inequality; adding up the
inequalities of several players bounds how far their results are from the best
vector that all of them allow, by what the players disagree about.
-/

namespace ProximalStep

open BoxedHalfspace (dot distance distance_nonneg)

variable {ι K : Type} [Field K]

section Objective

variable (support : Finset ι)

/-- The linear cost of a vector and the penalty for its distance from the centre. -/
def objective
    (linear centre : ι → K)
    (penalty : K)
    (vector : ι → K) : K :=
  dot support linear vector +
    penalty / ((2 : Nat) : K) * distance support vector centre

/-- The gradient of the objective. -/
def gradient
    (linear centre : ι → K)
    (penalty : K)
    (vector : ι → K) : ι → K := fun i =>
  linear i + penalty * (vector i - centre i)

/-- The objective along a segment. -/
theorem objective_along
    [CharZero K]
    (linear centre : ι → K)
    (penalty : K)
    (first second : ι → K)
    (along : K) :
    objective support linear centre penalty
        (first + along • (second - first)) =
      objective support linear centre penalty first +
        along *
          dot support (gradient linear centre penalty first)
            (second - first) +
        along ^ 2 * (penalty / 2 * distance support second first) := by
  unfold objective gradient distance dot
  simp only [Finset.mul_sum, ← Finset.sum_add_distrib]
  refine Finset.sum_congr rfl fun i _ => ?_
  simp only [Pi.add_apply, Pi.smul_apply, Pi.sub_apply, smul_eq_mul]
  ring

end Objective

variable [LinearOrder K] [IsStrictOrderedRing K] {support : Finset ι}

/-- A parabola through zero that is not negative just above zero does not start downwards. -/
theorem slope_nonneg
    {slope bend : K}
    (above :
      ∀ along, 0 < along → along ≤ 1 → 0 ≤ along * slope + along ^ 2 * bend) :
    0 ≤ slope := by
  by_contra negative
  rw [not_le] at negative
  rcases le_or_gt bend 0 with flat | bent
  · have atOne := above 1 one_pos le_rfl
    linarith
  · -- Half way to the other zero the parabola is below zero.
    have positive : 0 < min 1 (-slope / (2 * bend)) :=
      lt_min one_pos (div_pos (neg_pos.mpr negative) (by linarith))
    have atMin := above _ positive (min_le_left _ _)
    have short : min 1 (-slope / (2 * bend)) * (2 * bend) ≤ -slope := by
      rw [← le_div_iff₀ (by linarith)]
      exact min_le_right _ _
    nlinarith [mul_le_mul_of_nonneg_left short positive.le]

/-- What minimises the objective over a convex set satisfies the variational inequality. -/
theorem variational
    {allowed : Set (ι → K)}
    {linear centre best : ι → K}
    {penalty : K}
    (convex : Convex K allowed)
    (inside : best ∈ allowed)
    (least :
      ∀ vector ∈ allowed,
        objective support linear centre penalty best ≤
          objective support linear centre penalty vector)
    {vector : ι → K}
    (also : vector ∈ allowed) :
    0 ≤
      dot support (gradient linear centre penalty best) (vector - best) := by
  have above :
      ∀ along,
        0 < along →
        along ≤ 1 →
        0 ≤
          along *
              dot support (gradient linear centre penalty best)
                (vector - best) +
            along ^ 2 * (penalty / 2 * distance support vector best) := by
    intro along positive within
    have between :=
      convex.add_smul_sub_mem inside also ⟨positive.le, within⟩
    have notBetter := least _ between
    rw [objective_along] at notBetter
    linarith
  exact slope_nonneg above

/--
Players that each take a proximal step of their cost plus their multipliers pay
together no more than for any vector all of them allow, but for the correlation of
their new prices with how far that vector is from their results.
-/
theorem sum_cost_le
    {Player : Type}
    [Fintype Player]
    {allowed : Player → Set (ι → K)}
    {cost multiplier centre best : Player → ι → K}
    {penalty : Player → K}
    (convex : ∀ player, Convex K (allowed player))
    (inside : ∀ player, best player ∈ allowed player)
    (least :
      ∀ player, ∀ vector ∈ allowed player,
        objective support (cost player + multiplier player) (centre player)
            (penalty player) (best player) ≤
          objective support (cost player + multiplier player)
            (centre player) (penalty player) vector)
    {vector : ι → K}
    (common : ∀ player, vector ∈ allowed player) :
    ∑ player, dot support (cost player) (best player) ≤
      ∑ player, dot support (cost player) vector +
        ∑ player,
          dot support
            (gradient (multiplier player) (centre player) (penalty player)
              (best player))
            (vector - best player) := by
  rw [← Finset.sum_add_distrib]
  refine Finset.sum_le_sum fun player _ => ?_
  have inequality :=
    variational (convex player) (inside player) (least player)
      (common player)
  have split :
      dot support
          (gradient (cost player + multiplier player) (centre player)
            (penalty player) (best player))
          (vector - best player) =
        dot support (cost player) vector -
            dot support (cost player) (best player) +
          dot support
            (gradient (multiplier player) (centre player) (penalty player)
              (best player))
            (vector - best player) := by
    unfold gradient dot
    rw [← Finset.sum_sub_distrib, ← Finset.sum_add_distrib]
    refine Finset.sum_congr rfl fun i _ => ?_
    simp only [Pi.add_apply, Pi.sub_apply]
    ring
  rw [split] at inequality
  linarith

end ProximalStep

end DistributedLighting
