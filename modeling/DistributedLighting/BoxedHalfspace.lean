import Mathlib

namespace DistributedLighting

/-!
# The nearest point of a boxed half-space

A vector is constrained in one coordinate to an interval and as a whole to a
half-space.  Turning some of the constraints into equations gives six faces, each
with one nearest point to a given target.  One of these six points is feasible and
nearest of all feasible points.  Its multipliers say so; which point it is follows
from the slope of the distance as a function of the constrained coordinate.
-/

namespace BoxedHalfspace

section Points

variable {ι K : Type} [Field K] (support : Finset ι)

/-- The scalar product over the coordinates in use. -/
def dot (first second : ι → K) : K :=
  ∑ i ∈ support, first i * second i

/-- The squared distance over the coordinates in use. -/
def distance (first second : ι → K) : K :=
  dot support (fun i => first i - second i) fun i => first i - second i

/-- What the vectors are constrained by. -/
structure Problem (ι K : Type) where
  /-- The normal of the half-space. -/
  normal : ι → K
  /-- The least scalar product with the normal. -/
  bound : K
  /-- The coordinate that is constrained to an interval. -/
  own : ι
  lower : K
  upper : K

/-- Which constraints are turned into equations. -/
inductive Face where
  | free
  | plane
  | lower
  | upper
  | planeLower
  | planeUpper
  deriving Repr, DecidableEq

/-- All faces, in the order of fewer and then more equations. -/
def faces : List Face :=
  [.free, .plane, .lower, .upper, .planeLower, .planeUpper]

/-- The vectors that satisfy the equations of a face. -/
def OnFace
    (problem : Problem ι K)
    (vector : ι → K) : Face → Prop
  | .free => True
  | .plane => dot support vector problem.normal = problem.bound
  | .lower => vector problem.own = problem.lower
  | .upper => vector problem.own = problem.upper
  | .planeLower =>
      vector problem.own = problem.lower ∧
        dot support vector problem.normal = problem.bound
  | .planeUpper =>
      vector problem.own = problem.upper ∧
        dot support vector problem.normal = problem.bound

namespace Problem

variable (problem : Problem ι K) (target : ι → K)

/-- What the target lacks of the bound. -/
def deficit : K :=
  problem.bound - dot support target problem.normal

/-- The squared norm of the normal without its own coordinate. -/
def crossNorm : K :=
  dot support problem.normal problem.normal -
    problem.normal problem.own ^ 2

/-- What the target lacks of the bound with another value of its own coordinate. -/
def lack (value : K) : K :=
  problem.deficit support target +
    problem.normal problem.own * (target problem.own - value)

/-- The point of the boundary plane that is nearest to the target. -/
def onPlane : ι → K := fun i =>
  target i +
    problem.normal i / dot support problem.normal problem.normal *
      problem.deficit support target

variable [DecidableEq ι]

/-- The point with a given own coordinate that is nearest to the target. -/
def pinned (value : K) : ι → K :=
  Function.update target problem.own value

/-- The point of the plane with a given own coordinate that is nearest to the target. -/
def pinnedOnPlane (value : K) : ι → K :=
  Function.update
    (fun i =>
      target i +
        problem.normal i / problem.crossNorm support *
          problem.lack support target value)
    problem.own value

/-- The nearest point of a face. -/
def corner : Face → ι → K
  | .free => target
  | .plane => problem.onPlane support target
  | .lower => problem.pinned target problem.lower
  | .upper => problem.pinned target problem.upper
  | .planeLower => problem.pinnedOnPlane support target problem.lower
  | .planeUpper => problem.pinnedOnPlane support target problem.upper

end Problem

end Points

theorem mem_faces (face : Face) : face ∈ faces := by
  cases face <;> decide

theorem pinned_own
    {ι K : Type}
    [DecidableEq ι]
    {problem : Problem ι K}
    {target : ι → K}
    (value : K) :
    problem.pinned target value problem.own = value :=
  Function.update_self ..

section Products

variable {ι K : Type} [Field K]
    {support : Finset ι} {problem : Problem ι K} {target : ι → K}

/-- Moving along a vector changes a scalar product by a multiple. -/
theorem dot_add_mul
    (vector direction normal : ι → K)
    (factor : K) :
    dot support (fun i => vector i + direction i * factor) normal =
      dot support vector normal + factor * dot support direction normal := by
  unfold dot
  rw [Finset.mul_sum, ← Finset.sum_add_distrib]
  refine Finset.sum_congr rfl fun i _ => ?_
  ring

/-- The nearest point of the plane lies on the plane. -/
theorem dot_onPlane
    (target : ι → K)
    (nonzero : dot support problem.normal problem.normal ≠ 0) :
    dot support (problem.onPlane support target) problem.normal =
      problem.bound := by
  have moved :
      problem.onPlane support target = fun i =>
        target i +
          problem.normal i *
            (problem.deficit support target /
              dot support problem.normal problem.normal) := by
    funext i
    unfold Problem.onPlane
    ring
  rw [moved, dot_add_mul, div_mul_cancel₀ _ nonzero]
  unfold Problem.deficit
  ring

/-- The distance by way of another point. -/
theorem distance_eq_add
    (vector best target : ι → K) :
    distance support vector target =
      distance support best target +
        2 *
          dot support (fun i => best i - target i)
            (fun i => vector i - best i) +
        distance support vector best := by
  unfold distance dot
  rw [Finset.mul_sum, ← Finset.sum_add_distrib, ← Finset.sum_add_distrib]
  refine Finset.sum_congr rfl fun i _ => ?_
  ring

variable [DecidableEq ι]

/-- Changing one coordinate changes a scalar product by its share. -/
theorem dot_update
    {own : ι}
    (ownIn : own ∈ support)
    (vector normal : ι → K)
    (value : K) :
    dot support (Function.update vector own value) normal =
      dot support vector normal + (value - vector own) * normal own := by
  unfold dot
  rw [← Finset.add_sum_erase support _ ownIn,
    ← Finset.add_sum_erase support (fun i => vector i * normal i) ownIn,
    Function.update_self]
  have rest :
      ∀ i ∈ support.erase own,
        Function.update vector own value i * normal i =
          vector i * normal i := by
    intro i inRest
    rw [Function.update_of_ne (Finset.ne_of_mem_erase inRest)]
  rw [Finset.sum_congr rfl rest]
  ring

theorem dot_pinned
    (ownIn : problem.own ∈ support)
    (value : K) :
    dot support (problem.pinned target value) problem.normal =
      problem.bound - problem.lack support target value := by
  unfold Problem.pinned Problem.lack Problem.deficit
  rw [dot_update ownIn]
  ring

theorem dot_pinnedOnPlane
    (target : ι → K)
    (ownIn : problem.own ∈ support)
    (nonzero : problem.crossNorm support ≠ 0)
    (value : K) :
    dot support (problem.pinnedOnPlane support target value)
        problem.normal =
      problem.bound := by
  have moved :
      (fun i =>
          target i +
            problem.normal i / problem.crossNorm support *
              problem.lack support target value) =
        fun i =>
          target i +
            problem.normal i *
              (problem.lack support target value /
                problem.crossNorm support) := by
    funext i
    ring
  have norm :
      dot support problem.normal problem.normal =
        problem.crossNorm support + problem.normal problem.own ^ 2 := by
    unfold Problem.crossNorm
    ring
  have share :
      problem.lack support target value / problem.crossNorm support *
          problem.crossNorm support =
        problem.lack support target value :=
    div_mul_cancel₀ _ nonzero
  unfold Problem.pinnedOnPlane
  rw [moved, dot_update ownIn, dot_add_mul, norm, mul_add, share]
  unfold Problem.lack Problem.deficit
  ring

/--
A point differs from the target by a multiple of the normal and, in its own
coordinate, by another amount.
-/
def Multipliers
    (support : Finset ι)
    (problem : Problem ι K)
    (target best : ι → K)
    (plane hold : K) : Prop :=
  ∀ i ∈ support,
    best i - target i =
      problem.normal i * plane + if i = problem.own then hold else 0

/-- The multipliers weigh how far another vector is from the point. -/
theorem dot_of_multipliers
    (ownIn : problem.own ∈ support)
    {best : ι → K}
    {plane hold : K}
    (multipliers : Multipliers support problem target best plane hold)
    (vector : ι → K) :
    dot support (fun i => best i - target i) (fun i => vector i - best i) =
      plane *
          (dot support vector problem.normal -
            dot support best problem.normal) +
        hold * (vector problem.own - best problem.own) := by
  have split :
      ∀ i ∈ support,
        (best i - target i) * (vector i - best i) =
          plane * (vector i * problem.normal i) -
              plane * (best i * problem.normal i) +
            if i = problem.own then hold * (vector i - best i) else 0 := by
    intro i inSupport
    rw [multipliers i inSupport]
    split_ifs <;> ring
  unfold dot
  rw [Finset.sum_congr rfl split, Finset.sum_add_distrib,
    Finset.sum_sub_distrib, ← Finset.mul_sum, ← Finset.mul_sum,
    Finset.sum_ite_eq', if_pos ownIn]
  ring

/-- The target itself needs no multipliers. -/
theorem multipliers_target : Multipliers support problem target target 0 0 := by
  intro i _
  rw [sub_self, mul_zero, zero_add, ite_self]

theorem multipliers_onPlane :
    Multipliers support problem target (problem.onPlane support target)
      (problem.deficit support target /
        dot support problem.normal problem.normal) 0 := by
  intro i _
  rw [ite_self]
  unfold Problem.onPlane
  ring

theorem multipliers_pinned (value : K) :
    Multipliers support problem target (problem.pinned target value)
      0 (value - target problem.own) := by
  intro i _
  rw [mul_zero, zero_add]
  unfold Problem.pinned
  by_cases own : i = problem.own
  · rw [if_pos own, own, Function.update_self]
  · rw [if_neg own, Function.update_of_ne own, sub_self]

theorem multipliers_pinnedOnPlane (value : K) :
    Multipliers support problem target
      (problem.pinnedOnPlane support target value)
      (problem.lack support target value / problem.crossNorm support)
      (value - target problem.own -
        problem.normal problem.own * problem.lack support target value /
          problem.crossNorm support) := by
  intro i _
  unfold Problem.pinnedOnPlane
  by_cases own : i = problem.own
  · rw [if_pos own, own, Function.update_self]
    ring
  · rw [if_neg own, Function.update_of_ne own]
    ring

theorem pinnedOnPlane_own (value : K) :
    problem.pinnedOnPlane support target value problem.own = value :=
  Function.update_self ..

section Corners

variable (ownIn : problem.own ∈ support)
    (crossed : problem.crossNorm support ≠ 0)
    (nonzero : dot support problem.normal problem.normal ≠ 0)
include ownIn crossed nonzero

/-- The nearest point of a face lies on it. -/
theorem onFace_corner
    (target : ι → K)
    (face : Face) :
    OnFace support problem (problem.corner support target face) face := by
  cases face with
  | free => exact trivial
  | plane => exact dot_onPlane target nonzero
  | lower => exact pinned_own _
  | upper => exact pinned_own _
  | planeLower =>
      exact ⟨pinnedOnPlane_own _, dot_pinnedOnPlane target ownIn crossed _⟩
  | planeUpper =>
      exact ⟨pinnedOnPlane_own _, dot_pinnedOnPlane target ownIn crossed _⟩

/-- Its multipliers do not see the vectors of the face. -/
theorem dot_corner
    {face : Face}
    {vector : ι → K}
    (onFace : OnFace support problem vector face) :
    dot support
        (fun i => problem.corner support target face i - target i)
        (fun i => vector i - problem.corner support target face i) =
      0 := by
  have itself := onFace_corner ownIn crossed nonzero target face
  cases face with
  | free =>
      refine (dot_of_multipliers ownIn multipliers_target vector).trans ?_
      ring
  | plane =>
      have bounds :
          dot support vector problem.normal =
            dot support (problem.onPlane support target) problem.normal :=
        onFace.trans itself.symm
      refine (dot_of_multipliers ownIn multipliers_onPlane vector).trans ?_
      rw [bounds]
      ring
  | lower | upper =>
      have own := onFace.trans itself.symm
      refine
        (dot_of_multipliers ownIn (multipliers_pinned _) vector).trans ?_
      rw [own]
      unfold Problem.corner
      ring
  | planeLower | planeUpper =>
      have own := onFace.1.trans itself.1.symm
      have bounds := onFace.2.trans itself.2.symm
      refine
        (dot_of_multipliers ownIn
          (multipliers_pinnedOnPlane _) vector).trans ?_
      rw [own, bounds]
      unfold Problem.corner
      ring

/-- On a face the distance to the target is that to the nearest point and more. -/
theorem distance_onFace
    {face : Face}
    {vector : ι → K}
    (onFace : OnFace support problem vector face) :
    distance support vector target =
      distance support (problem.corner support target face) target +
        distance support vector (problem.corner support target face) := by
  rw [distance_eq_add vector (problem.corner support target face) target,
    dot_corner ownIn crossed nonzero onFace]
  ring

end Corners

end Products

section Ordered

variable {ι K : Type} [Field K] [LinearOrder K] [IsStrictOrderedRing K]
    {support : Finset ι} {problem : Problem ι K} {target best : ι → K}

/-- The vectors that satisfy all constraints. -/
structure Feasible
    (support : Finset ι)
    (problem : Problem ι K)
    (vector : ι → K) : Prop where
  lower : problem.lower ≤ vector problem.own
  upper : vector problem.own ≤ problem.upper
  bound : problem.bound ≤ dot support vector problem.normal

/-- The feasible vectors are convex. -/
theorem convex_feasible
    (support : Finset ι)
    (problem : Problem ι K) :
    Convex K {vector | Feasible support problem vector} := by
  rintro first ⟨firstLower, firstUpper, firstBound⟩ second
    ⟨secondLower, secondUpper, secondBound⟩ share rest shareNonneg restNonneg
    whole
  have mixed :
      dot support (share • first + rest • second) problem.normal =
        share * dot support first problem.normal +
          rest * dot support second problem.normal := by
    unfold dot
    rw [Finset.mul_sum, Finset.mul_sum, ← Finset.sum_add_distrib]
    refine Finset.sum_congr rfl fun i _ => ?_
    simp only [Pi.add_apply, Pi.smul_apply, smul_eq_mul]
    ring
  have mean :
      ∀ value : K, value = share * value + rest * value := by
    intro value
    rw [← add_mul, whole, one_mul]
  constructor
  · rw [mean problem.lower]
    exact
      add_le_add
        (mul_le_mul_of_nonneg_left firstLower shareNonneg)
        (mul_le_mul_of_nonneg_left secondLower restNonneg)
  · rw [mean problem.upper]
    exact
      add_le_add
        (mul_le_mul_of_nonneg_left firstUpper shareNonneg)
        (mul_le_mul_of_nonneg_left secondUpper restNonneg)
  · rw [mean problem.bound, mixed]
    exact
      add_le_add
        (mul_le_mul_of_nonneg_left firstBound shareNonneg)
        (mul_le_mul_of_nonneg_left secondBound restNonneg)

/-- A vector is feasible and as near as any feasible one. -/
structure Nearest
    (support : Finset ι)
    (problem : Problem ι K)
    (target best : ι → K) : Prop where
  feasible : Feasible support problem best
  least :
    ∀ vector,
      Feasible support problem vector →
        distance support best target ≤ distance support vector target

/-- Distances are not negative. -/
theorem distance_nonneg (first second : ι → K) :
    0 ≤ distance support first second :=
  Finset.sum_nonneg fun _ _ => mul_self_nonneg _

/-- Near vectors have near scalar products. -/
theorem dot_sub_sq_le
    (support : Finset ι)
    (first second normal : ι → K) :
    (dot support first normal - dot support second normal) ^ 2 ≤
      distance support first second * dot support normal normal := by
  have difference :
      dot support first normal - dot support second normal =
        ∑ i ∈ support, (first i - second i) * normal i := by
    unfold dot
    rw [← Finset.sum_sub_distrib]
    exact Finset.sum_congr rfl fun i _ => (sub_mul ..).symm
  unfold distance dot at *
  simp only [difference, ← sq]
  exact Finset.sum_mul_sq_le_sq_mul_sq support _ normal

/-- The slope of the distance, as a function of the own coordinate. -/
def slope
    (support : Finset ι)
    (problem : Problem ι K)
    (target : ι → K)
    (value : K) : K :=
  value - target problem.own -
    problem.normal problem.own *
        max (problem.lack support target value) 0 /
      problem.crossNorm support

/-- Where the target satisfies the bound, the slope vanishes at the target. -/
theorem slope_target
    (satisfied : problem.deficit support target ≤ 0) :
    slope support problem target (target problem.own) = 0 := by
  have lack :
      problem.lack support target (target problem.own) =
        problem.deficit support target := by
    unfold Problem.lack
    ring
  unfold slope
  rw [lack, max_eq_right satisfied]
  ring

section Slope

variable (positive : 0 < problem.crossNorm support)
include positive

/-- The norm of the whole normal is positive, too. -/
theorem norm_pos : 0 < dot support problem.normal problem.normal := by
  have norm :
      dot support problem.normal problem.normal =
        problem.crossNorm support + problem.normal problem.own ^ 2 := by
    unfold Problem.crossNorm
    ring
  rw [norm]
  exact add_pos_of_pos_of_nonneg positive (sq_nonneg _)

/-- The slope grows with the own coordinate. -/
theorem slope_mono
    (target : ι → K)
    {first second : K}
    (ordered : first ≤ second) :
    slope support problem target first ≤
      slope support problem target second := by
  have share :
      problem.normal problem.own *
          max (problem.lack support target second) 0 ≤
        problem.normal problem.own *
          max (problem.lack support target first) 0 := by
    have apart :
        problem.lack support target first -
            problem.lack support target second =
          problem.normal problem.own * (second - first) := by
      unfold Problem.lack
      ring
    rcases le_total 0 (problem.normal problem.own) with up | down
    · have less :
          problem.lack support target second ≤
            problem.lack support target first :=
        sub_nonneg.mp
          (apart ▸ mul_nonneg up (sub_nonneg.mpr ordered))
      exact
        mul_le_mul_of_nonneg_left (max_le_max less le_rfl) up
    · have more :
          problem.lack support target first ≤
            problem.lack support target second :=
        sub_nonpos.mp
          (apart ▸
            mul_nonpos_of_nonpos_of_nonneg down (sub_nonneg.mpr ordered))
      exact
        mul_le_mul_of_nonpos_left (max_le_max more le_rfl) down
  have divided := div_le_div_of_nonneg_right share (le_of_lt positive)
  unfold slope
  linarith

/-- Where it does not, the slope vanishes at the nearest point of the plane. -/
theorem slope_onPlane
    (missing : 0 ≤ problem.deficit support target) :
    slope support problem target
        (problem.onPlane support target problem.own) = 0 := by
  have norm := norm_pos positive
  have lack :
      problem.lack support target
          (problem.onPlane support target problem.own) =
        problem.crossNorm support *
          (problem.deficit support target /
            dot support problem.normal problem.normal) := by
    unfold Problem.lack Problem.onPlane Problem.crossNorm
    field_simp
    ring
  have nonneg :
      0 ≤
        problem.crossNorm support *
          (problem.deficit support target /
            dot support problem.normal problem.normal) :=
    mul_nonneg (le_of_lt positive) (div_nonneg missing (le_of_lt norm))
  have share := ne_of_gt positive
  unfold slope
  rw [lack, max_eq_left nonneg]
  unfold Problem.onPlane
  field_simp
  ring

end Slope

variable [DecidableEq ι]

/--
A feasible point whose difference from the target is a nonnegative multiple of
the normal, none off the plane, and otherwise holds its own coordinate against an
end of the interval, is nearest.
-/
theorem nearest_of_multipliers
    (ownIn : problem.own ∈ support)
    (plane hold : K)
    (multipliers : Multipliers support problem target best plane hold)
    (nonneg : 0 ≤ plane)
    (complementary :
      plane * (dot support best problem.normal - problem.bound) = 0)
    (holds :
      ∀ value,
        problem.lower ≤ value →
          value ≤ problem.upper → 0 ≤ hold * (value - best problem.own))
    (feasible : Feasible support problem best) :
    Nearest support problem target best where
  feasible := feasible
  least := by
    intro vector other
    have share := dot_of_multipliers ownIn multipliers vector
    have beyond :
        0 ≤ plane * (dot support vector problem.normal - problem.bound) :=
      mul_nonneg nonneg (sub_nonneg.mpr other.bound)
    have held :=
      holds (vector problem.own) other.lower other.upper
    have apart : 0 ≤ distance support vector best :=
      distance_nonneg vector best
    rw [mul_sub] at complementary beyond
    rw [distance_eq_add vector best target, share, mul_sub]
    linarith

section Corners

variable (ownIn : problem.own ∈ support)
    (positive : 0 < problem.crossNorm support)
include ownIn positive

/-- With the own coordinate held at an end, one of the two pinned points is nearest. -/
theorem nearest_pinned
    {value : K}
    (above : problem.lower ≤ value)
    (below : value ≤ problem.upper)
    (holds :
      ∀ other,
        problem.lower ≤ other →
          other ≤ problem.upper →
            0 ≤ slope support problem target value * (other - value)) :
    Nearest support problem target (problem.pinned target value) ∨
      Nearest support problem target
        (problem.pinnedOnPlane support target value) := by
  rcases le_total (problem.lack support target value) 0 with enough | missing
  · left
    have isSlope :
        slope support problem target value = value - target problem.own := by
      unfold slope
      rw [max_eq_right enough]
      ring
    rw [isSlope] at holds
    apply nearest_of_multipliers ownIn 0 _ (multipliers_pinned value)
    · exact le_rfl
    · exact zero_mul _
    · rw [pinned_own]
      exact holds
    · refine ⟨?_, ?_, ?_⟩
      · rw [pinned_own]
        exact above
      · rw [pinned_own]
        exact below
      · rw [dot_pinned ownIn]
        linarith
  · right
    have onBound :=
      dot_pinnedOnPlane target ownIn (ne_of_gt positive) value
    have isSlope :
        slope support problem target value =
          value - target problem.own -
            problem.normal problem.own *
                problem.lack support target value /
              problem.crossNorm support := by
      unfold slope
      rw [max_eq_left missing]
    rw [isSlope] at holds
    apply
      nearest_of_multipliers ownIn _ _ (multipliers_pinnedOnPlane value)
    · exact div_nonneg missing (le_of_lt positive)
    · rw [onBound, sub_self, mul_zero]
    · rw [pinnedOnPlane_own]
      exact holds
    · refine ⟨?_, ?_, le_of_eq onBound.symm⟩
      · rw [pinnedOnPlane_own]
        exact above
      · rw [pinnedOnPlane_own]
        exact below

/-- The nearest point of one of the faces is nearest of all feasible points. -/
theorem exists_nearest_face (ordered : problem.lower ≤ problem.upper) :
    ∃ face,
      Nearest support problem target (problem.corner support target face) := by
  by_cases atLower : 0 ≤ slope support problem target problem.lower
  · have holds :
        ∀ other,
          problem.lower ≤ other →
            other ≤ problem.upper →
              0 ≤
                slope support problem target problem.lower *
                  (other - problem.lower) :=
      fun other above _ => mul_nonneg atLower (sub_nonneg.mpr above)
    rcases nearest_pinned ownIn positive le_rfl ordered holds with
      pinned | onPlane
    · exact ⟨.lower, pinned⟩
    · exact ⟨.planeLower, onPlane⟩
  by_cases atUpper : slope support problem target problem.upper ≤ 0
  · have holds :
        ∀ other,
          problem.lower ≤ other →
            other ≤ problem.upper →
              0 ≤
                slope support problem target problem.upper *
                  (other - problem.upper) :=
      fun other _ below =>
        mul_nonneg_of_nonpos_of_nonpos atUpper (sub_nonpos.mpr below)
    rcases nearest_pinned ownIn positive ordered le_rfl holds with
      pinned | onPlane
    · exact ⟨.upper, pinned⟩
    · exact ⟨.planeUpper, onPlane⟩
  -- The slope changes its sign inside the interval.
  push Not at atLower atUpper
  have inside :
      ∀ {root : K},
        slope support problem target root = 0 →
          problem.lower ≤ root ∧ root ≤ problem.upper := by
    intro root vanishes
    constructor
    · by_contra early
      have less := slope_mono positive target (le_of_not_ge early)
      rw [vanishes] at less
      exact not_lt_of_ge less atLower
    · by_contra late
      have more := slope_mono positive target (le_of_not_ge late)
      rw [vanishes] at more
      exact not_lt_of_ge more atUpper
  have noHold :
      ∀ (point : ι → K) (value : K),
        0 ≤ (0 : K) * (value - point problem.own) := by
    intro point value
    rw [zero_mul]
  rcases le_total (problem.deficit support target) 0 with satisfied | missing
  · obtain ⟨above, below⟩ := inside (slope_target satisfied)
    refine ⟨.free, nearest_of_multipliers ownIn 0 0 multipliers_target ?_ ?_ ?_ ?_⟩
    · exact le_rfl
    · exact zero_mul _
    · exact fun value _ _ => noHold target value
    · exact ⟨above, below, sub_nonpos.mp satisfied⟩
  · obtain ⟨above, below⟩ := inside (slope_onPlane positive missing)
    have norm := norm_pos positive
    have onBound :
        dot support (problem.corner support target .plane) problem.normal =
          problem.bound :=
      dot_onPlane target (ne_of_gt norm)
    refine ⟨.plane, nearest_of_multipliers ownIn _ 0 multipliers_onPlane ?_ ?_ ?_ ?_⟩
    · exact div_nonneg missing (le_of_lt norm)
    · rw [onBound, sub_self, mul_zero]
    · exact fun value _ _ => noHold _ value
    · exact ⟨above, below, le_of_eq onBound.symm⟩

/-- The nearest point of a face is the only one as near to the target. -/
theorem eq_corner
    {face : Face}
    {vector : ι → K}
    (onFace : OnFace support problem vector face)
    (near :
      distance support vector target ≤
        distance support (problem.corner support target face) target)
    {i : ι}
    (inSupport : i ∈ support) :
    vector i = problem.corner support target face i := by
  have norm := ne_of_gt (norm_pos positive)
  rw [distance_onFace ownIn (ne_of_gt positive) norm onFace] at near
  have vanishes :
      distance support vector (problem.corner support target face) = 0 :=
    le_antisymm (nonpos_of_add_le_right near) (distance_nonneg _ _)
  have each :=
    (Finset.sum_eq_zero_iff_of_nonneg fun _ _ => mul_self_nonneg _).mp
      vanishes i inSupport
  exact sub_eq_zero.mp (mul_self_eq_zero.mp each)

end Corners

end Ordered

end BoxedHalfspace

end DistributedLighting
