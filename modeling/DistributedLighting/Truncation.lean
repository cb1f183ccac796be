import Mathlib

namespace DistributedLighting

/-!
# From numbers to the integers of a machine

A conversion to an integer type drops the fraction.  Where the type cannot hold the
result the language defines none, and the platform decides what is stored: it is a
parameter here, so that no theorem can rest on it.  Arithmetic on the integers
themselves keeps the low bits of its result.
-/

section

variable {K : Type} [Field K] [LinearOrder K] [FloorRing K]

/-- A number without its fraction. -/
def truncate (value : K) : Int :=
  if 0 ≤ value then ⌊value⌋ else ⌈value⌉

/-- The range of an integer type. -/
structure IntegerType where
  low : Int
  high : Int

namespace IntegerType

/-- Eight bits without a sign. -/
def uint8 : IntegerType where
  low := 0
  high := 255

/-- Sixteen bits with a sign. -/
def int16 : IntegerType where
  low := -32768
  high := 32767

/-- Sixteen bits without a sign. -/
def uint16 : IntegerType where
  low := 0
  high := 65535

variable (type : IntegerType)

/-- The type has a value for the number. -/
def Holds (value : K) : Prop :=
  type.low ≤ truncate value ∧ truncate value ≤ type.high

instance (value : K) : Decidable (type.Holds value) :=
  inferInstanceAs (Decidable (_ ∧ _))

/-- The conversion of a number; `outOfRange` is what the platform stores otherwise. -/
def convert
    (outOfRange : K → Int)
    (value : K) : Int :=
  if type.Holds value then truncate value else outOfRange value

/-- Within the range the platform has no say. -/
theorem convert_of_holds
    {value : K}
    (holds : type.Holds value)
    (outOfRange : K → Int) :
    type.convert outOfRange value = truncate value :=
  if_pos holds

/-- The type has the integer among its values. -/
def Contains (value : Int) : Prop :=
  type.low ≤ value ∧ value ≤ type.high

instance (value : Int) : Decidable (type.Contains value) :=
  inferInstanceAs (Decidable (_ ∧ _))

end IntegerType

/-- The difference of two sixteen-bit integers; an overflow wraps around. -/
def subInt16 (left right : Int) : Int :=
  (BitVec.ofInt 16 (left - right)).toInt

/-- Only an overflow changes a difference. -/
theorem subInt16_eq_iff {left right : Int} :
    subInt16 left right = left - right ↔ IntegerType.int16.Contains (left - right) := by
  simp only [subInt16, BitVec.toInt_ofInt, IntegerType.Contains, IntegerType.int16]
  constructor
  · intro kept
    have low := Int.le_bmod (x := left - right) (m := 2 ^ 16) (by decide)
    have high := Int.bmod_lt (x := left - right) (m := 2 ^ 16) (by decide)
    omega
  · rintro ⟨low, high⟩
    exact Int.bmod_eq_of_le (by omega) (by omega)

end

section

variable {K : Type}
    [Field K] [LinearOrder K] [IsStrictOrderedRing K] [FloorRing K]
    {value : K}

omit [IsStrictOrderedRing K] in
/-- From zero on, dropping the fraction rounds down. -/
theorem truncate_of_nonneg (nonneg : 0 ≤ value) :
    truncate value = ⌊value⌋ :=
  if_pos nonneg

omit [IsStrictOrderedRing K] in
/-- Below zero, dropping the fraction rounds up. -/
theorem truncate_of_neg (negative : value < 0) :
    truncate value = ⌈value⌉ :=
  if_neg (not_le.mpr negative)

/-- Zero is all that is left of a number between -1 and 1. -/
theorem truncate_neg_iff : truncate value < 0 ↔ value ≤ -1 := by
  rcases le_or_gt 0 value with nonneg | negative
  · have floored : 0 ≤ ⌊value⌋ := Int.floor_nonneg.mpr nonneg
    rw [truncate_of_nonneg nonneg]
    constructor
    · exact fun below => absurd floored (not_le.mpr below)
    · intro below
      linarith
  · have below : ⌈value⌉ ≤ -1 ↔ value ≤ -1 := by
      rw [Int.ceil_le]
      push_cast
      exact Iff.rfl
    rw [truncate_of_neg negative, ← below]
    omega

/-- Dropping the fraction keeps a number between zero and an integer there. -/
theorem truncate_mem
    {high : Nat}
    (nonneg : 0 ≤ value)
    (bounded : value ≤ high) :
    0 ≤ truncate value ∧ truncate value ≤ high := by
  rw [truncate_of_nonneg nonneg]
  refine ⟨Int.floor_nonneg.mpr nonneg, ?_⟩
  rw [← Int.floor_natCast (R := K) high]
  exact Int.floor_le_floor bounded

omit [IsStrictOrderedRing K] in
/-- An unsigned type holds the numbers from zero on that end before its range does. -/
theorem IntegerType.holds_uint16_iff (nonneg : 0 ≤ value) :
    uint16.Holds value ↔ value < 65536 := by
  have floored : 0 ≤ ⌊value⌋ := Int.floor_nonneg.mpr nonneg
  have below : ⌊value⌋ < 65536 ↔ value < 65536 := by
    rw [Int.floor_lt]
    push_cast
    exact Iff.rfl
  unfold Holds
  rw [truncate_of_nonneg nonneg, ← below]
  simp only [uint16]
  omega

end

end DistributedLighting
