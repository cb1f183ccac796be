import Mathlib

namespace DistributedLighting

/-!
# Rings of the latest terms

A ring of cells that is written round and round holds the latest terms of a
sequence, each in the cell of its number modulo the capacity.  In the order of the
cells they add up to the same sum as in the order of the terms.
-/

namespace RingWindow

variable {α : Type} {capacity count : Nat} {term other : Nat → α} {cell : Nat → α}

/-- The cells hold the latest of the first `count` terms. -/
def Holds
    (capacity : Nat)
    (term : Nat → α)
    (count : Nat)
    (cell : Nat → α) : Prop :=
  ∀ t < count, count ≤ t + capacity → cell (t % capacity) = term t

/-- Of no terms there is nothing to hold. -/
theorem Holds.empty : Holds capacity term 0 cell :=
  fun t before => absurd before (Nat.not_lt_zero t)

/-- Only the terms so far matter. -/
theorem Holds.congr
    (holds : Holds capacity term count cell)
    (agree : ∀ t < count, other t = term t) :
    Holds capacity other count cell := by
  intro t before latest
  rw [agree t before]
  exact holds t before latest

/-- Two of the latest terms never share a cell. -/
theorem mod_ne_mod
    {t : Nat}
    (before : t < count)
    (latest : count + 1 ≤ t + capacity) :
    t % capacity ≠ count % capacity := by
  intro same
  have apart :=
    Nat.mod_injOn_Ico (count + 1 - capacity) capacity
      (Finset.mem_coe.mpr (Finset.mem_Ico.mpr ⟨by omega, by omega⟩))
      (Finset.mem_coe.mpr (Finset.mem_Ico.mpr ⟨by omega, by omega⟩))
      same
  omega

/-- The next term goes over the oldest one. -/
theorem Holds.write
    (holds : Holds capacity term count cell) :
    Holds capacity term (count + 1)
      (Function.update cell (count % capacity) (term count)) := by
  intro t before latest
  rcases Nat.lt_succ_iff_lt_or_eq.mp before with older | newest
  · rw [Function.update_of_ne (mod_ne_mod older latest)]
    exact holds t older (by omega)
  · subst newest
    exact Function.update_self _ _ _

/-- The cells in use add up to the latest terms. -/
theorem Holds.sum_eq
    [AddCommMonoid α]
    (holds : Holds capacity term count cell) :
    ∑ i ∈ Finset.range (min count capacity), cell i =
      ∑ t ∈ Finset.Ico (count - capacity)
          (count - capacity + min count capacity),
        term t := by
  rcases le_total count capacity with filling | full
  · rw [min_eq_left filling, Nat.sub_eq_zero_of_le filling, Nat.zero_add,
      ← Finset.range_eq_Ico]
    refine Finset.sum_congr rfl fun t member => ?_
    have before := Finset.mem_range.mp member
    have held := holds t before (by omega)
    rwa [Nat.mod_eq_of_lt (by omega)] at held
  · -- Once the ring is full, the numbers of the terms run once through the cells.
    rw [min_eq_right full, ← Nat.image_Ico_mod (count - capacity) capacity,
      Finset.sum_image (Nat.mod_injOn_Ico _ _)]
    refine Finset.sum_congr rfl fun t member => ?_
    obtain ⟨latest, before⟩ := Finset.mem_Ico.mp member
    exact holds t (by omega) (by omega)

/-- An index that wraps at the capacity stays at the cell of the next term. -/
theorem succ_mod_eq (positive : 0 < capacity) (count : Nat) :
    (count + 1) % capacity =
      if count % capacity + 1 ≥ capacity then 0 else count % capacity + 1 := by
  have below := Nat.mod_lt count positive
  rw [← Nat.mod_add_mod]
  split
  · have wraps : count % capacity + 1 = capacity := by omega
    rw [wraps, Nat.mod_self]
  · exact Nat.mod_eq_of_lt (by omega)

/-- The largest index so far tells how many cells are in use. -/
theorem min_succ_eq (positive : 0 < capacity) (count : Nat) :
    min (count + 1) capacity =
      max (count % capacity + 1) (min count capacity) := by
  have below := Nat.mod_lt count positive
  rcases lt_or_ge count capacity with filling | full
  · rw [Nat.mod_eq_of_lt filling]
    omega
  · omega

end RingWindow

end DistributedLighting
