import Mathlib

namespace DistributedLighting

/-!
# Means that grow term by term

A mean over consecutive terms follows from the mean over one term less: weighted by
its count, plus the next term.  An update that adds anything but the next term
misses the mean.
-/

section

variable {K : Type} [Field K] [CharZero K] (term : Nat → K) (first count : Nat)

/-- The mean over `count` terms from `first` on. -/
def mean : K :=
  (∑ t ∈ Finset.Ico first (first + count), term t) / count

/-- The mean is nothing but the sum, weighted by the count. -/
theorem mean_mul_count :
    mean term first count * count =
      ∑ t ∈ Finset.Ico first (first + count), term t := by
  cases count with
  | zero => simp [mean]
  | succ count => exact div_mul_cancel₀ _ (Nat.cast_ne_zero.mpr count.succ_ne_zero)

/-- One more term. -/
theorem mean_succ :
    mean term first (count + 1) =
      (mean term first count * count + term (first + count)) /
        ((count + 1 : Nat) : K) := by
  rw [mean_mul_count, mean, ← Nat.add_assoc,
    Finset.sum_Ico_succ_top (Nat.le_add_right first count)]

/-- An update by some value gives the next mean only if the value is the next term. -/
theorem update_eq_mean_iff (value : K) :
    (mean term first count * count + value) / ((count + 1 : Nat) : K) =
        mean term first (count + 1) ↔
      value = term (first + count) := by
  rw [mean_succ, div_left_inj' (Nat.cast_ne_zero.mpr count.succ_ne_zero),
    add_right_inj]

omit [CharZero K] in
/-- The mean of one term. -/
theorem mean_one : mean term first 1 = term first := by
  simp [mean]

end

section Order

variable {K : Type} [Field K] [LinearOrder K] [IsStrictOrderedRing K]
    {term : Nat → K} {first count : Nat} {running value : K}

/-- A running mean that has fallen behind never catches up with terms left out. -/
theorem update_eq_mean_iff_of_le
    (some : 0 < count)
    (behind : running ≤ mean term first count)
    (less : value ≤ term (first + count)) :
    (running * count + value) / ((count + 1 : Nat) : K) ≤
        mean term first (count + 1) ∧
      ((running * count + value) / ((count + 1 : Nat) : K) =
          mean term first (count + 1) ↔
        running = mean term first count ∧ value = term (first + count)) := by
  have weight : (0 : K) < count := Nat.cast_pos.mpr some
  have total : (0 : K) < ((count + 1 : Nat) : K) := Nat.cast_pos.mpr count.succ_pos
  have weighted : running * count ≤ mean term first count * count :=
    mul_le_mul_of_nonneg_right behind weight.le
  rw [mean_succ, div_le_div_iff_of_pos_right total, div_left_inj' total.ne',
    add_eq_add_iff_eq_and_eq weighted less, mul_left_inj' weight.ne']
  exact ⟨add_le_add weighted less, Iff.rfl⟩

end Order

end DistributedLighting
