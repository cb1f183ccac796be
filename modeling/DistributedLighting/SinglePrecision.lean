import Mathlib

namespace DistributedLighting

/-!
# Rounding to single precision

A single-precision number is an integer of 24 bits times a power of two.  Every
operation on such numbers rounds its result to the nearest one, and to the even one
of two that are equally near.  There is no largest number here: what exceeds the
format is out of the range of everything that its numbers are converted to.
-/

section Definitions

variable {K : Type} [Field K] [LinearOrder K] [FloorRing K]

/-- The base of the format. -/
def radix : Nat := 2

/-- To the nearest integer, ties to even. -/
def roundHalfEven (value : K) : Int :=
  let down := value - ⌊value⌋
  let up := ⌊value⌋ + 1 - value
  if down < up ∨ (down = up ∧ ⌊value⌋ % 2 = 0) then
    ⌊value⌋
  else
    ⌊value⌋ + 1

variable [IsStrictOrderedRing K]

/-- The exponent of the last place that single precision keeps of a number. -/
def lastPlace (value : K) : Int :=
  max (Int.log 2 |value|) (-126) - 23

/-- The nearest single-precision number. -/
def toSingle (value : K) : K :=
  roundHalfEven (value / (radix : K) ^ lastPlace value) *
    (radix : K) ^ lastPlace value

omit [LinearOrder K] [FloorRing K] [IsStrictOrderedRing K] in
/-- A number of single precision. -/
def IsSingle (value : K) : Prop :=
  ∃ significand exponent : Int,
    |significand| < 2 ^ 24 ∧
      -149 ≤ exponent ∧ value = significand * (radix : K) ^ exponent

omit [LinearOrder K] [FloorRing K] [IsStrictOrderedRing K] in
@[simp]
theorem cast_radix : (radix : K) = 2 :=
  Nat.cast_ofNat

omit [IsStrictOrderedRing K] in
theorem toSingle_eq (value : K) :
    toSingle value =
      roundHalfEven (value / 2 ^ lastPlace value) * 2 ^ lastPlace value := by
  rw [toSingle, cast_radix]

omit [LinearOrder K] [FloorRing K] [IsStrictOrderedRing K] in
theorem isSingle_iff {value : K} :
    IsSingle value ↔
      ∃ significand exponent : Int,
        |significand| < 2 ^ 24 ∧ -149 ≤ exponent ∧ value = significand * 2 ^ exponent := by
  simp only [IsSingle, cast_radix]

end Definitions

section Integers

variable {K : Type} [Field K] [LinearOrder K] [IsStrictOrderedRing K] [FloorRing K]

/-- Rounding to an integer is off by a half at most. -/
theorem abs_roundHalfEven_sub_le (value : K) :
    |(roundHalfEven value : K) - value| ≤ 1 / 2 := by
  have floor := Int.floor_le value
  have above := Int.lt_floor_add_one value
  simp only [roundHalfEven]
  split_ifs with near
  · have half : value - ⌊value⌋ ≤ ⌊value⌋ + 1 - value :=
      near.elim le_of_lt fun tie => tie.1.le
    rw [abs_le]
    constructor <;> linarith
  · rw [not_or, not_lt] at near
    rw [Int.cast_add, Int.cast_one, abs_le]
    constructor <;> linarith [near.1]

/-- No integer is nearer. -/
theorem abs_roundHalfEven_sub_le_abs
    (value : K)
    (integer : Int) :
    |(roundHalfEven value : K) - value| ≤ |(integer : K) - value| := by
  have near := abs_le.mp (abs_roundHalfEven_sub_le value)
  rcases lt_trichotomy integer (roundHalfEven value) with below | same | above
  · have apart : (integer : K) + 1 ≤ roundHalfEven value := mod_cast below
    rw [abs_of_nonpos (a := (integer : K) - value) (by linarith), abs_le]
    constructor <;> linarith
  · rw [same]
  · have apart : (roundHalfEven value : K) + 1 ≤ integer := mod_cast above
    rw [abs_of_nonneg (a := (integer : K) - value) (by linarith), abs_le]
    constructor <;> linarith

end Integers

section Places

variable {K : Type} [Field K] [LinearOrder K] [IsStrictOrderedRing K] [FloorRing K]
    {value : K} {place : Int}

/-- Twenty-four places fit between the first and the last one. -/
theorem abs_lt_zpow_lastPlace (value : K) :
    |value| < 2 ^ (lastPlace value + 24) := by
  have bounded : |value| < ((2 : Nat) : K) ^ (Int.log 2 |value| + 1) :=
    Int.lt_zpow_succ_log_self (by decide) _
  have place : Int.log 2 |value| + 1 ≤ lastPlace value + 24 := by
    unfold lastPlace
    omega
  rw [Nat.cast_ofNat] at bounded
  exact bounded.trans_le (zpow_le_zpow_right₀ one_le_two place)

/-- Beyond the last of all places, the first one is in use. -/
theorem zpow_lastPlace_le
    (nonzero : value ≠ 0)
    (normal : -149 < lastPlace value) :
    2 ^ (lastPlace value + 23) ≤ |value| := by
  have positive : 0 < |value| := abs_pos.mpr nonzero
  have first : lastPlace value + 23 = Int.log 2 |value| := by
    unfold lastPlace at normal ⊢
    omega
  have bounded : ((2 : Nat) : K) ^ Int.log 2 |value| ≤ |value| :=
    Int.zpow_log_le_self (by decide) positive
  rw [first]
  rwa [Nat.cast_ofNat] at bounded

/-- A larger number ends with a larger place. -/
theorem le_lastPlace
    (large : 2 ^ (place + 23) ≤ |value|) :
    place ≤ lastPlace value := by
  have power : (0 : K) < 2 ^ (place + 23) := by positivity
  have first : place + 23 ≤ Int.log 2 |value| := by
    refine (Int.zpow_le_iff_le_log (by decide) (power.trans_le large)).mp ?_
    rwa [Nat.cast_ofNat]
  unfold lastPlace
  omega

theorem lastPlace_le
    (nonzero : value ≠ 0)
    (normal : -149 ≤ place)
    (small : |value| < 2 ^ (place + 24)) :
    lastPlace value ≤ place := by
  have first : Int.log 2 |value| < place + 24 := by
    refine (Int.lt_zpow_iff_log_lt (by decide) (abs_pos.mpr nonzero)).mp ?_
    rwa [Nat.cast_ofNat]
  unfold lastPlace
  omega

omit [LinearOrder K] [IsStrictOrderedRing K] [FloorRing K] in
/-- A power of two from a place on is a multiple of the place. -/
theorem exists_zpow_eq_mul
    [CharZero K]
    {exponent : Int}
    (beyond : place ≤ exponent) :
    ∃ multiple : Int, (2 : K) ^ exponent = multiple * 2 ^ place := by
  refine ⟨2 ^ (exponent - place).toNat, ?_⟩
  rw [Int.cast_pow, Int.cast_ofNat, ← zpow_natCast, ← zpow_add₀ two_ne_zero,
    Int.toNat_of_nonneg (by omega), Int.sub_add_cancel]

omit [FloorRing K] in
/-- A single-precision number is a multiple of each place that leaves it 24 bits. -/
theorem IsSingle.exists_eq_mul
    (single : IsSingle value)
    (large : 2 ^ (place + 23) ≤ |value|) :
    ∃ multiple : Int, value = multiple * 2 ^ place := by
  obtain ⟨significand, exponent, short, -, rfl⟩ := isSingle_iff.mp single
  have power : (0 : K) < 2 ^ exponent := by positivity
  have bounded : (2 : K) ^ (place + 23) < 2 ^ (24 + exponent) := by
    rw [abs_mul, abs_of_pos power] at large
    have digits : |(significand : K)| < 2 ^ 24 := mod_cast short
    calc
      (2 : K) ^ (place + 23) ≤ |(significand : K)| * 2 ^ exponent := large
      _ < 2 ^ 24 * 2 ^ exponent := mul_lt_mul_of_pos_right digits power
      _ = 2 ^ (24 + exponent) := by
        rw [zpow_add₀ two_ne_zero]
        norm_cast
  have beyond : place ≤ exponent := by
    have exponents := (zpow_lt_zpow_iff_right₀ one_lt_two).mp bounded
    omega
  obtain ⟨multiple, power_eq⟩ := exists_zpow_eq_mul (K := K) beyond
  refine ⟨significand * multiple, ?_⟩
  rw [power_eq, Int.cast_mul, mul_assoc]

end Places

section Nearest

variable {K : Type} [Field K] [LinearOrder K] [IsStrictOrderedRing K] [FloorRing K]
    {number value : K}

/-- The error of rounding to the places of a number, as a multiple of the last one. -/
theorem abs_mul_zpow_sub (value integer : K) :
    |integer * 2 ^ lastPlace value - value| =
      |integer - value / 2 ^ lastPlace value| * 2 ^ lastPlace value := by
  have power : (0 : K) < 2 ^ lastPlace value := by positivity
  rw [← abs_of_pos power, ← abs_mul, abs_of_pos power, sub_mul,
    div_mul_cancel₀ _ power.ne']

/-- Rounding is off by half of the last place at most. -/
theorem abs_toSingle_sub_le (value : K) :
    |toSingle value - value| ≤ 2 ^ lastPlace value / 2 := by
  have power : (0 : K) ≤ 2 ^ lastPlace value := by positivity
  have near :=
    mul_le_mul_of_nonneg_right
      (abs_roundHalfEven_sub_le (value / 2 ^ lastPlace value)) power
  rw [toSingle_eq, abs_mul_zpow_sub]
  linarith

/-- No multiple of the last place is nearer. -/
theorem abs_toSingle_sub_le_mul
    (value : K)
    (multiple : Int) :
    |toSingle value - value| ≤ |multiple * 2 ^ lastPlace value - value| := by
  rw [toSingle_eq, abs_mul_zpow_sub, abs_mul_zpow_sub]
  exact
    mul_le_mul_of_nonneg_right (abs_roundHalfEven_sub_le_abs _ multiple) (by positivity)

omit [LinearOrder K] [IsStrictOrderedRing K] [FloorRing K] in
/-- Every number of the format is a multiple of the last of all places. -/
theorem IsSingle.exists_eq_mul_last
    [CharZero K]
    (single : IsSingle number) :
    ∃ multiple : Int, number = multiple * 2 ^ (-149 : Int) := by
  obtain ⟨significand, exponent, -, least, rfl⟩ := isSingle_iff.mp single
  obtain ⟨multiple, power⟩ := exists_zpow_eq_mul (K := K) least
  refine ⟨significand * multiple, ?_⟩
  rw [power, Int.cast_mul, mul_assoc]

/-- No single-precision number is nearer. -/
theorem abs_toSingle_sub_le_abs
    (single : IsSingle number)
    (value : K) :
    |toSingle value - value| ≤ |number - value| := by
  rcases eq_or_ne value 0 with rfl | nonzero
  · have zero := abs_toSingle_sub_le_mul (0 : K) 0
    rw [Int.cast_zero, zero_mul, sub_self, abs_zero] at zero
    exact zero.trans (abs_nonneg _)
  rcases le_or_gt (2 ^ (lastPlace value + 23)) |number| with large | small
  · obtain ⟨multiple, rfl⟩ := single.exists_eq_mul large
    exact abs_toSingle_sub_le_mul value multiple
  have least : -149 ≤ lastPlace value := by
    unfold lastPlace
    omega
  rcases eq_or_lt_of_le least with last | normal
  · obtain ⟨multiple, rfl⟩ := single.exists_eq_mul_last
    rw [last]
    exact abs_toSingle_sub_le_mul value multiple
  · -- The first number with these places lies between the two.
    have first := zpow_lastPlace_le nonzero normal
    obtain ⟨multiple, power⟩ :
        ∃ multiple : Int,
          (2 : K) ^ (lastPlace value + 23) = multiple * 2 ^ lastPlace value :=
      exists_zpow_eq_mul (by omega)
    have bounds := abs_lt.mp small
    rcases le_or_gt 0 value with nonneg | negative
    · rw [abs_of_nonneg nonneg] at first
      calc
        |toSingle value - value| ≤ |multiple * 2 ^ lastPlace value - value| :=
          abs_toSingle_sub_le_mul value multiple
        _ = value - 2 ^ (lastPlace value + 23) := by
          rw [← power, abs_of_nonpos (by linarith), neg_sub]
        _ ≤ value - number := by linarith
        _ ≤ |number - value| := by
          rw [abs_sub_comm]
          exact le_abs_self _
    · rw [abs_of_neg negative] at first
      calc
        |toSingle value - value| ≤ |(-multiple : Int) * 2 ^ lastPlace value - value| :=
          abs_toSingle_sub_le_mul value (-multiple)
        _ = -2 ^ (lastPlace value + 23) - value := by
          rw [Int.cast_neg, neg_mul, ← power, abs_of_nonneg (by linarith)]
        _ ≤ number - value := by linarith
        _ ≤ |number - value| := le_abs_self _

/-- Rounding does not cross a number of the format. -/
theorem IsSingle.le_toSingle
    (single : IsSingle number)
    (le : number ≤ value) :
    number ≤ toSingle value := by
  have near := abs_toSingle_sub_le_abs single value
  rw [abs_of_nonpos (a := number - value) (by linarith), abs_le] at near
  linarith [near.1]

theorem IsSingle.toSingle_le
    (single : IsSingle number)
    (le : value ≤ number) :
    toSingle value ≤ number := by
  have near := abs_toSingle_sub_le_abs single value
  rw [abs_of_nonneg (a := number - value) (by linarith), abs_le] at near
  linarith [near.2]

/-- Rounding keeps the numbers of the format. -/
theorem IsSingle.toSingle_eq (single : IsSingle number) :
    toSingle number = number :=
  le_antisymm (single.toSingle_le le_rfl) (single.le_toSingle le_rfl)

omit [LinearOrder K] [IsStrictOrderedRing K] [FloorRing K] in
/-- Integers of 24 bits are in the format. -/
theorem isSingle_intCast
    {integer : Int}
    (short : |integer| < 2 ^ 24) :
    IsSingle (integer : K) :=
  isSingle_iff.mpr ⟨integer, 0, short, by decide, by rw [zpow_zero, mul_one]⟩

/-- Rounding gives a number of the format, also where it carries into a new place. -/
theorem isSingle_toSingle (value : K) :
    IsSingle (toSingle value) := by
  rw [isSingle_iff, toSingle_eq]
  have least : -149 ≤ lastPlace value := by
    unfold lastPlace
    omega
  have power : (0 : K) < 2 ^ lastPlace value := by positivity
  have scaled : |value / 2 ^ lastPlace value| < 2 ^ 24 := by
    rw [abs_div, abs_of_pos power, div_lt_iff₀ power]
    calc
      |value| < 2 ^ (lastPlace value + 24) := abs_lt_zpow_lastPlace value
      _ = 2 ^ 24 * 2 ^ lastPlace value := by
        rw [zpow_add₀ two_ne_zero, mul_comm]
        norm_cast
  have bounded : |roundHalfEven (value / 2 ^ lastPlace value)| ≤ 2 ^ 24 := by
    have near := abs_le.mp (abs_roundHalfEven_sub_le (value / 2 ^ lastPlace value))
    have within := abs_lt.mp scaled
    have below : ((roundHalfEven (value / 2 ^ lastPlace value) : Int) : K) <
        ((2 ^ 24 + 1 : Int) : K) := by
      push_cast
      linarith [near.2, within.2]
    have above : ((-(2 ^ 24 + 1) : Int) : K) <
        ((roundHalfEven (value / 2 ^ lastPlace value) : Int) : K) := by
      push_cast
      linarith [near.1, within.1]
    rw [Int.cast_lt] at below above
    rw [abs_le]
    omega
  rcases lt_or_eq_of_le bounded with short | carried
  · exact ⟨_, _, short, least, rfl⟩
  · obtain ⟨half, halved⟩ :
        ∃ half, roundHalfEven (value / 2 ^ lastPlace value) = 2 * half := by
      rcases abs_choice (roundHalfEven (value / 2 ^ lastPlace value)) with same | negated
      · exact ⟨2 ^ 23, by omega⟩
      · exact ⟨-2 ^ 23, by omega⟩
    refine ⟨half, lastPlace value + 1, ?_, by omega, ?_⟩
    · rw [halved, abs_mul] at carried
      rw [abs_two] at carried
      omega
    · rw [halved, zpow_add₀ two_ne_zero, zpow_one, Int.cast_mul, Int.cast_ofNat]
      ring

/-- What is rounded below a multiple of the last place is half a place below it. -/
theorem le_sub_of_toSingle_lt
    {multiple : Int}
    (below : toSingle value < multiple * 2 ^ lastPlace value) :
    value ≤ multiple * 2 ^ lastPlace value - 2 ^ lastPlace value / 2 := by
  have power : (0 : K) < 2 ^ lastPlace value := by positivity
  have near := (abs_le.mp (abs_toSingle_sub_le value)).1
  have apart : ((roundHalfEven (value / 2 ^ lastPlace value) + 1 : Int) : K) ≤ multiple := by
    rw [toSingle_eq] at below
    have integers := lt_of_mul_lt_mul_right below power.le
    exact_mod_cast integers
  have placed := mul_le_mul_of_nonneg_right apart power.le
  rw [Int.cast_add, Int.cast_one, add_mul, one_mul] at placed
  rw [toSingle_eq] at near
  linarith

end Nearest

section Casts

variable {K : Type} [Field K] [LinearOrder K] [IsStrictOrderedRing K] [FloorRing K]

theorem roundHalfEven_ratCast (value : ℚ) :
    roundHalfEven (value : K) = roundHalfEven value := by
  have nearer :
      (value : K) - ⌊value⌋ < ⌊value⌋ + 1 - value ↔ value - ⌊value⌋ < ⌊value⌋ + 1 - value := by
    rw [← Rat.cast_lt (K := K)]
    push_cast
    rfl
  have tie :
      (value : K) - ⌊value⌋ = ⌊value⌋ + 1 - value ↔ value - ⌊value⌋ = ⌊value⌋ + 1 - value := by
    rw [← Rat.cast_inj (α := K)]
    push_cast
    rfl
  simp only [roundHalfEven, Rat.floor_cast, nearer, tie]

theorem lastPlace_ratCast (value : ℚ) :
    lastPlace (value : K) = lastPlace value := by
  rcases eq_or_ne value 0 with rfl | nonzero
  · simp [lastPlace]
  have positive : 0 < |value| := abs_pos.mpr nonzero
  have cast : ((|value| : ℚ) : K) = |(value : K)| := Rat.cast_abs value
  have positiveCast : 0 < |(value : K)| := cast ▸ Rat.cast_pos.mpr positive
  have first : Int.log 2 |(value : K)| = Int.log 2 |value| := by
    have low : ((2 : Nat) : ℚ) ^ Int.log 2 |value| ≤ |value| :=
      Int.zpow_log_le_self (by decide) positive
    have high : |value| < ((2 : Nat) : ℚ) ^ (Int.log 2 |value| + 1) :=
      Int.lt_zpow_succ_log_self (by decide) _
    rw [← Rat.cast_le (K := K), cast] at low
    rw [← Rat.cast_lt (K := K), cast] at high
    push_cast at low high
    have above := (Int.zpow_le_iff_le_log (by decide) positiveCast).mp
      (by rwa [Nat.cast_ofNat] : ((2 : Nat) : K) ^ Int.log 2 |value| ≤ |(value : K)|)
    have below := (Int.lt_zpow_iff_log_lt (by decide) positiveCast).mp
      (by rwa [Nat.cast_ofNat] :
        |(value : K)| < ((2 : Nat) : K) ^ (Int.log 2 |value| + 1))
    omega
  rw [lastPlace, lastPlace, first]

/-- Rounding looks the same in every field. -/
theorem ratCast_toSingle (value : ℚ) :
    ((toSingle value : ℚ) : K) = toSingle (value : K) := by
  have scaled :
      (value : K) / 2 ^ lastPlace value = ((value / 2 ^ lastPlace value : ℚ) : K) := by
    push_cast
    rfl
  rw [toSingle_eq, toSingle_eq, lastPlace_ratCast, scaled, roundHalfEven_ratCast]
  push_cast
  rfl

end Casts

end DistributedLighting
