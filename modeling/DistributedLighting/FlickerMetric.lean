import DistributedLighting.Controller
import DistributedLighting.RunningMean

namespace DistributedLighting

/-!
# The flicker metric

`Metrics::updateMetrics` runs after every sample.  It keeps a mean of how fast the
light swings: a sample counts when the light turns, that is, when the differences to
the sample before and before that one differ in sign.  The metric follows its
definition sample by sample; a wrong term in it is never made up for at once.
-/

/-- What one `updateMetrics` reads from the luminaire. -/
structure Sample (K : Type) where
  /-- `voltageToLux(getVoltage())` -/
  lux : K
  samplingTime : BitVec 32
  luxRefAfterConsensus : K
  /-- `controller.u` -/
  u : K

/-- The members of `Metrics`. -/
structure Metrics (K : Type) where
  numberOfSamples : BitVec 32
  previousLuxSamples : Nat → K
  currentLux : K
  energyConsumedSinceLastReset : K
  flickerError : K
  visibilityError : K

namespace Metrics

section Definitions

variable {K : Type} [Field K] [LinearOrder K] [FloorRing K]

/-- `Metrics::resetMetrics`, and the metrics after boot. -/
def resetMetrics (K : Type) [Field K] : Metrics K where
  numberOfSamples := 0
  previousLuxSamples := fun _ => 0
  currentLux := 0
  energyConsumedSinceLastReset := 0
  flickerError := 0
  visibilityError := 0

/-- `Metrics::powerConsumption`, with a `nominalPower` of 1. -/
def powerConsumption (u : K) : K :=
  1 * u / maxPwm

/-- `Metrics::energyConsumption` -/
def energyConsumption (sample : Sample K) : K :=
  powerConsumption sample.u * (sample.samplingTime.toNat : K) / microsPerSecond

/--
`Metrics::visibilityErrorUpdate`; a counter at its last value makes the divisor
zero, where the quotient is 0 here.
-/
def visibilityErrorUpdate
    (metrics : Metrics K)
    (luxRefAfterConsensus : K) : Metrics K :=
  let newSample := max 0 (luxRefAfterConsensus - metrics.currentLux)
  { metrics with
    visibilityError :=
      (metrics.visibilityError * (metrics.numberOfSamples.toNat : K) + newSample) /
        ((metrics.numberOfSamples + 1).toNat : K) }

/-- `int flickerFlag`, from the two differences. -/
def flickerFlag
    (outOfRange : K → Int)
    (difference earlier : K) : Int :=
  IntegerType.int16.convert outOfRange (difference * earlier)

/--
`newSample` of `flickerErrorUpdate`.  Twice the sampling time is an `unsigned long`,
and a division by zero has no value.
-/
def newFlicker
    (outOfRange : K → Int)
    (difference earlier : K)
    (samplingTime : BitVec 32) : Option K :=
  if flickerFlag outOfRange difference earlier < 0 then
    if 2 * samplingTime = 0 then
      none
    else
      some
        ((|difference| + |earlier|) /
          (((2 * samplingTime).toNat : K) / microsPerSecond))
  else
    some 0

/-- The end of `flickerErrorUpdate`: the samples move on. -/
def remember (metrics : Metrics K) : Metrics K :=
  { metrics with
    previousLuxSamples :=
      Function.update
        (Function.update metrics.previousLuxSamples 1 (metrics.previousLuxSamples 0))
        0 metrics.currentLux }

/-- `flickerError` with one more term, weighted by the counter. -/
def addFlicker
    (metrics : Metrics K)
    (newSample : K) : Metrics K :=
  { metrics with
    flickerError :=
      (metrics.flickerError * ((metrics.numberOfSamples - 2).toNat : K) +
          newSample) /
        ((metrics.numberOfSamples - 1).toNat : K) }

/-- `Metrics::flickerErrorUpdate` -/
def flickerErrorUpdate
    (outOfRange : K → Int)
    (metrics : Metrics K)
    (samplingTime : BitVec 32) : Option (Metrics K) :=
  if metrics.numberOfSamples ≥ 3 then
    (newFlicker outOfRange
        (metrics.currentLux - metrics.previousLuxSamples 0)
        (metrics.previousLuxSamples 0 - metrics.previousLuxSamples 1)
        samplingTime).map
      fun newSample => (metrics.addFlicker newSample).remember
  else
    some metrics.remember

/-- The start of `updateMetrics`: the light and the energy. -/
def measure
    (metrics : Metrics K)
    (sample : Sample K) : Metrics K :=
  { metrics with
    currentLux := sample.lux
    energyConsumedSinceLastReset :=
      metrics.energyConsumedSinceLastReset + energyConsumption sample }

/-- `Metrics::updateMetrics` -/
def updateMetrics
    (outOfRange : K → Int)
    (metrics : Metrics K)
    (sample : Sample K) : Option (Metrics K) :=
  ((metrics.measure sample).flickerErrorUpdate outOfRange
      sample.samplingTime).map
    fun updated =>
      let seen := updated.visibilityErrorUpdate sample.luxRefAfterConsensus
      { seen with numberOfSamples := seen.numberOfSamples + 1 }

/-- The metrics after the samples 1 to `count` of a history since `resetMetrics`. -/
def afterUpdates
    (outOfRange : K → Int)
    (history : Nat → Sample K) : Nat → Option (Metrics K)
  | 0 => some (resetMetrics K)
  | count + 1 =>
      (afterUpdates outOfRange history count).bind
        fun metrics => metrics.updateMetrics outOfRange (history (count + 1))

end Definitions

end Metrics

section Definition

variable {K : Type} [Field K] [LinearOrder K] (history : Nat → Sample K) (t : Nat)

/-- `l_t - l_(t-1)` -/
def luxStep : K :=
  (history t).lux - (history (t - 1)).lux

/-- The light turns at a sample. -/
def Swings : Prop :=
  luxStep history t * luxStep history (t - 1) < 0

instance : Decidable (Swings history t) :=
  inferInstanceAs (Decidable (_ < _))

/-- The flicker at a sample, in lux a second. -/
def flicker : K :=
  if Swings history t then
    (|luxStep history t| + |luxStep history (t - 1)|) /
      ((2 : Nat) * (((history t).samplingTime.toNat : K) / microsPerSecond))
  else
    0

/-- The mean of the flicker over the samples 3 to `t`. -/
def flickerMean : K :=
  mean (flicker history) 3 (t - 2)

end Definition

namespace Metrics

section Runs

variable {K : Type}
    [Field K] [LinearOrder K] [FloorRing K]
    {outOfRange : K → Int} {history : Nat → Sample K} {count : Nat}
    {metrics after : Metrics K}

/-- The metrics after `count` samples of a history. -/
structure Recorded
    (history : Nat → Sample K)
    (count : Nat)
    (metrics : Metrics K) : Prop where
  numberOfSamples : metrics.numberOfSamples = BitVec.ofNat 32 count
  previous : 0 < count → metrics.previousLuxSamples 0 = (history count).lux
  beforePrevious :
    1 < count → metrics.previousLuxSamples 1 = (history (count - 1)).lux

omit [LinearOrder K] [FloorRing K] in
theorem recorded_resetMetrics : (resetMetrics K).Recorded history 0 where
  numberOfSamples := rfl
  previous := fun some => absurd some (Nat.lt_irrefl 0)
  beforePrevious := fun some => absurd some (by decide)

/-- An update counts its sample and moves the samples on. -/
theorem updateMetrics_fields
    {sample : Sample K}
    (updated : metrics.updateMetrics outOfRange sample = some after) :
    after.numberOfSamples = metrics.numberOfSamples + 1 ∧
      after.previousLuxSamples 0 = sample.lux ∧
      after.previousLuxSamples 1 = metrics.previousLuxSamples 0 := by
  simp only [updateMetrics, flickerErrorUpdate] at updated
  split at updated
  · simp only [Option.map_map, Option.map_eq_some_iff] at updated
    obtain ⟨newSample, -, rfl⟩ := updated
    exact ⟨rfl, rfl, rfl⟩
  · simp only [Option.map_some, Option.some.injEq] at updated
    subst updated
    exact ⟨rfl, rfl, rfl⟩

/-- The metric after an update: from the third earlier sample on, one more term. -/
theorem flickerError_updateMetrics
    (metrics : Metrics K)
    (sample : Sample K) :
    (metrics.updateMetrics outOfRange sample).map flickerError =
      if metrics.numberOfSamples ≥ 3 then
        (newFlicker outOfRange
            (sample.lux - metrics.previousLuxSamples 0)
            (metrics.previousLuxSamples 0 - metrics.previousLuxSamples 1)
            sample.samplingTime).map
          fun newSample => (metrics.addFlicker newSample).flickerError
      else
        some metrics.flickerError := by
  have measured :
      (metrics.measure sample).numberOfSamples ≥ 3 ↔
        metrics.numberOfSamples ≥ 3 :=
    Iff.rfl
  simp only [updateMetrics, flickerErrorUpdate, measured]
  split
  · simp only [Option.map_map]
    rfl
  · rfl

/-- An update records its sample. -/
theorem Recorded.updateMetrics
    (recorded : metrics.Recorded history count)
    (updated :
      metrics.updateMetrics outOfRange (history (count + 1)) = some after) :
    after.Recorded history (count + 1) := by
  obtain ⟨numberOfSamples, previous, beforePrevious⟩ := updateMetrics_fields updated
  refine ⟨?_, fun _ => ?_, fun two => ?_⟩
  · rw [numberOfSamples, recorded.numberOfSamples, BitVec.ofNat_add]
    rfl
  · exact previous
  · rw [beforePrevious]
    exact recorded.previous (by omega)

/-- The metrics record every history. -/
theorem recorded_of_afterUpdates
    (ran : afterUpdates outOfRange history count = some metrics) :
    metrics.Recorded history count := by
  induction count generalizing metrics with
  | zero =>
      simp only [afterUpdates, Option.some.injEq] at ran
      subst ran
      exact recorded_resetMetrics
  | succ count inductionHypothesis =>
      obtain ⟨before, earlier, updated⟩ := Option.bind_eq_some_iff.mp ran
      exact (inductionHypothesis earlier).updateMetrics updated

omit [Field K] [LinearOrder K] [FloorRing K] in
/-- The counter of recorded metrics, as long as it has not wrapped around. -/
theorem Recorded.toNat_numberOfSamples
    (recorded : metrics.Recorded history count)
    (counted : count < 2 ^ 32) :
    metrics.numberOfSamples.toNat = count := by
  rw [recorded.numberOfSamples, BitVec.toNat_ofNat, Nat.mod_eq_of_lt counted]

/-- From the fourth sample on, the counter lets the metric take one more term. -/
theorem Recorded.flickerError_of_le
    (recorded : metrics.Recorded history count)
    (counted : count < 2 ^ 32)
    (some : 3 ≤ count) :
    (metrics.updateMetrics outOfRange (history (count + 1))).map flickerError =
      (newFlicker outOfRange (luxStep history (count + 1)) (luxStep history count)
          (history (count + 1)).samplingTime).map
        fun newSample =>
          (metrics.flickerError * ((count - 2 : Nat) : K) + newSample) /
            ((count - 2 + 1 : Nat) : K) := by
  have number := recorded.toNat_numberOfSamples counted
  have eligible : metrics.numberOfSamples ≥ 3 := by
    rw [ge_iff_le, BitVec.le_def, number]
    exact some
  have weight : (metrics.numberOfSamples - 2).toNat = count - 2 := by
    rw [BitVec.toNat_sub_of_le (by bv_omega), number]
    rfl
  have divisor : (metrics.numberOfSamples - 1).toNat = count - 2 + 1 := by
    rw [BitVec.toNat_sub_of_le (by bv_omega), number]
    change count - 1 = count - 2 + 1
    omega
  rw [flickerError_updateMetrics, if_pos eligible, recorded.previous (by omega),
    recorded.beforePrevious (by omega)]
  simp only [addFlicker, weight, divisor]
  rfl

/-- The first three samples leave the metric at zero. -/
theorem exists_afterUpdates_of_le
    (outOfRange : K → Int)
    (history : Nat → Sample K)
    (few : count ≤ 3) :
    (afterUpdates outOfRange history count).map flickerError = some 0 := by
  induction count with
  | zero => rfl
  | succ count inductionHypothesis =>
      obtain ⟨before, earlier, zero⟩ :=
        Option.map_eq_some_iff.mp (inductionHypothesis (by omega))
      have number :=
        (recorded_of_afterUpdates earlier).toNat_numberOfSamples (by omega)
      have early : ¬ before.numberOfSamples ≥ 3 := by
        rw [ge_iff_le, BitVec.le_def, number]
        change ¬ 3 ≤ count
        omega
      rw [afterUpdates, earlier, Option.bind_some, flickerError_updateMetrics,
        if_neg early, zero]

end Runs

section Terms

variable {K : Type}
    [Field K] [LinearOrder K] [IsStrictOrderedRing K] [FloorRing K]
    {outOfRange : K → Int} {difference earlier : K} {samplingTime : BitVec 32}

/-- Where the light stands still, the flag is zero on every platform. -/
theorem flickerFlag_eq_zero
    (still : difference * earlier = 0) :
    flickerFlag outOfRange difference earlier = 0 := by
  have truncated : truncate (difference * earlier) = 0 := by
    rw [still, truncate_of_nonneg le_rfl, Int.floor_zero]
  have holds : IntegerType.int16.Holds (difference * earlier) := by
    unfold IntegerType.Holds
    rw [truncated]
    decide
  exact (IntegerType.int16.convert_of_holds holds outOfRange).trans truncated

/-- For a product that an `int` holds, the flag misses what lies between -1 and 0. -/
theorem flickerFlag_neg_iff
    (holds : IntegerType.int16.Holds (difference * earlier)) :
    flickerFlag outOfRange difference earlier < 0 ↔
      difference * earlier ≤ -1 := by
  unfold flickerFlag
  rw [IntegerType.int16.convert_of_holds holds, truncate_neg_iff]

omit [FloorRing K] in
/-- Only where the light stands still is there no amplitude. -/
theorem amplitude_pos
    (moves : difference * earlier ≠ 0) :
    0 < |difference| + |earlier| :=
  add_pos_of_pos_of_nonneg (abs_pos.mpr (left_ne_zero_of_mul moves))
    (abs_nonneg earlier)

/-- The doubled sampling time fits an `unsigned long` below half of its range. -/
theorem toNat_doubled_eq_iff :
    (2 * samplingTime).toNat = 2 * samplingTime.toNat ↔
      samplingTime.toNat < 2 ^ 31 := by
  have doubled :
      (2 * samplingTime).toNat = 2 * samplingTime.toNat % 2 ^ 32 := by
    rw [BitVec.toNat_mul]
    rfl
  rw [doubled]
  omega

/-- Where the flag is negative, the new sample is positive if it exists at all. -/
theorem newFlicker_of_flag
    {newSample : K}
    (flagged : flickerFlag outOfRange difference earlier < 0)
    (found :
      newFlicker outOfRange difference earlier samplingTime = some newSample) :
    newSample =
        (|difference| + |earlier|) /
          (((2 * samplingTime).toNat : K) / microsPerSecond) ∧
      0 < newSample := by
  rw [newFlicker, if_pos flagged] at found
  split at found
  · cases found
  · rename_i divides
    have moves : difference * earlier ≠ 0 := fun still =>
      absurd (flickerFlag_eq_zero still) (ne_of_lt flagged)
    have divisor : (0 : K) < (2 * samplingTime).toNat :=
      Nat.cast_pos.mpr
        (Nat.pos_of_ne_zero fun zero => divides (BitVec.eq_of_toNat_eq zero))
    have shape := (Option.some.inj found).symm
    refine ⟨shape, ?_⟩
    rw [shape]
    exact div_pos (amplitude_pos moves) (div_pos divisor microsPerSecond_pos)

end Terms

section Definition

variable {K : Type}
    [Field K] [LinearOrder K] [IsStrictOrderedRing K] [FloorRing K]
    (outOfRange : K → Int) (history : Nat → Sample K) (t : Nat)

/-- The flag at a sample is negative where the light turns, and only there. -/
def FlagAgrees : Prop :=
  flickerFlag outOfRange (luxStep history t) (luxStep history (t - 1)) < 0 ↔
    Swings history t

instance : Decidable (FlagAgrees outOfRange history t) :=
  inferInstanceAs (Decidable (_ ↔ _))

/--
What a sample must be like for the metric to follow its definition: the third one is
no turn, and a later one has a flag that agrees and, at a turn, a sampling time that
can be doubled.
-/
def SwingSeen : Prop :=
  if t = 3 then
    ¬ Swings history t
  else
    FlagAgrees outOfRange history t ∧
      (Swings history t → (history t).samplingTime.toNat < 2 ^ 31)

instance : Decidable (SwingSeen outOfRange history t) :=
  inferInstanceAs
    (Decidable
      (if t = 3 then
        ¬ Swings history t
      else
        FlagAgrees outOfRange history t ∧
          (Swings history t → (history t).samplingTime.toNat < 2 ^ 31)))

/-- After `t` samples the metric is the mean of the flicker. -/
def FlickerIsMean : Prop :=
  (afterUpdates outOfRange history t).map flickerError =
    some (flickerMean history t)

instance : Decidable (FlickerIsMean outOfRange history t) :=
  inferInstanceAs (Decidable (_ = _))

variable {outOfRange history t}

omit [FloorRing K] in
/-- Over different times the same amplitude makes different flicker. -/
theorem perSecond_inj
    {amplitude : K}
    (positive : 0 < amplitude)
    {time other : Nat} :
    amplitude / ((time : K) / microsPerSecond) =
        amplitude / ((other : K) / microsPerSecond) ↔
      time = other := by
  constructor
  · intro same
    rw [div_eq_mul_inv amplitude, div_eq_mul_inv amplitude] at same
    have times := inv_injective (mul_left_cancel₀ positive.ne' same)
    exact Nat.cast_injective ((div_left_inj' microsPerSecond_pos.ne').mp times)
  · intro same
    rw [same]

omit [FloorRing K] [IsStrictOrderedRing K] in
/-- The flicker at a turn, with the doubled time in microseconds. -/
theorem flicker_of_swings (swings : Swings history t) :
    flicker history t =
      (|luxStep history t| + |luxStep history (t - 1)|) /
        (((2 * (history t).samplingTime.toNat : Nat) : K) / microsPerSecond) := by
  rw [flicker, if_pos swings, Nat.cast_mul, mul_div_assoc]

omit [FloorRing K] in
/-- A turn flickers. -/
theorem flicker_pos
    (swings : Swings history t)
    (elapsed : 0 < (history t).samplingTime) :
    0 < flicker history t := by
  have positive : 0 < (history t).samplingTime.toNat := BitVec.lt_def.mp elapsed
  have doubled : (0 : K) < (2 * (history t).samplingTime.toNat : Nat) :=
    Nat.cast_pos.mpr (Nat.mul_pos Nat.two_pos positive)
  rw [flicker_of_swings swings]
  exact
    div_pos (amplitude_pos (ne_of_lt swings)) (div_pos doubled microsPerSecond_pos)

/-- At a turn, the flag and the doubled sampling time decide over the new sample. -/
theorem newFlicker_eq_iff_of_swings
    (swings : Swings history t)
    (elapsed : 0 < (history t).samplingTime) :
    newFlicker outOfRange (luxStep history t) (luxStep history (t - 1))
          (history t).samplingTime =
        some (flicker history t) ↔
      flickerFlag outOfRange (luxStep history t) (luxStep history (t - 1)) < 0 ∧
        (history t).samplingTime.toNat < 2 ^ 31 := by
  have amplitude := amplitude_pos (ne_of_lt swings)
  constructor
  · intro found
    by_cases flagged :
        flickerFlag outOfRange (luxStep history t) (luxStep history (t - 1)) < 0
    · have shape := (newFlicker_of_flag flagged found).1
      rw [flicker_of_swings swings, perSecond_inj amplitude] at shape
      exact ⟨flagged, toNat_doubled_eq_iff.mp shape.symm⟩
    · rw [newFlicker, if_neg flagged, Option.some.injEq] at found
      exact absurd found (flicker_pos swings elapsed).ne
  · rintro ⟨flagged, short⟩
    have doubled := toNat_doubled_eq_iff.mpr short
    have positive : 0 < (history t).samplingTime.toNat := BitVec.lt_def.mp elapsed
    have divides : 2 * (history t).samplingTime ≠ 0 := by
      intro zero
      rw [zero] at doubled
      change 0 = _ at doubled
      omega
    rw [newFlicker, if_pos flagged, if_neg divides, flicker_of_swings swings,
      doubled]

/-- Elsewhere, the flag alone decides. -/
theorem newFlicker_eq_iff_of_not_swings
    (calm : ¬ Swings history t) :
    newFlicker outOfRange (luxStep history t) (luxStep history (t - 1))
          (history t).samplingTime =
        some (flicker history t) ↔
      ¬ flickerFlag outOfRange (luxStep history t)
          (luxStep history (t - 1)) < 0 := by
  have none : flicker history t = 0 := if_neg calm
  rw [none]
  constructor
  · intro found flagged
    exact absurd (newFlicker_of_flag flagged found).2 (lt_irrefl 0)
  · intro unflagged
    rw [newFlicker, if_neg unflagged]

/-- The new sample is the flicker where the flag agrees and the time can be doubled. -/
theorem newFlicker_eq_iff
    (elapsed : 0 < (history t).samplingTime) :
    newFlicker outOfRange (luxStep history t) (luxStep history (t - 1))
          (history t).samplingTime =
        some (flicker history t) ↔
      FlagAgrees outOfRange history t ∧
        (Swings history t → (history t).samplingTime.toNat < 2 ^ 31) := by
  unfold FlagAgrees
  by_cases swings : Swings history t
  · rw [newFlicker_eq_iff_of_swings swings elapsed]
    simp only [swings, iff_true, true_implies]
  · rw [newFlicker_eq_iff_of_not_swings swings]
    simp only [swings, iff_false, false_implies, and_true]

/-- The first mean is the flicker of the third sample, which the metric leaves out. -/
theorem flickerIsMean_three
    (elapsed : 0 < (history 3).samplingTime) :
    FlickerIsMean outOfRange history 3 ↔ SwingSeen outOfRange history 3 := by
  have first : flickerMean history 3 = flicker history 3 :=
    mean_one (flicker history) 3
  have zero := exists_afterUpdates_of_le outOfRange history (le_refl 3)
  unfold FlickerIsMean SwingSeen
  rw [first, zero, Option.some.injEq, if_pos rfl]
  constructor
  · intro calm swings
    exact absurd calm (flicker_pos swings elapsed).ne
  · exact fun calm => (if_neg calm).symm

/-- Once the metric is the mean, the next sample decides whether it stays so. -/
theorem FlickerIsMean.succ_iff
    (isMean : FlickerIsMean outOfRange history t)
    (eligible : 3 ≤ t)
    (counted : t < 2 ^ 32)
    (elapsed : 0 < (history (t + 1)).samplingTime) :
    FlickerIsMean outOfRange history (t + 1) ↔
      SwingSeen outOfRange history (t + 1) := by
  obtain ⟨metrics, ran, error⟩ := Option.map_eq_some_iff.mp isMean
  have recorded := recorded_of_afterUpdates ran
  have position : 3 + (t - 2) = t + 1 := by omega
  have next : flickerMean history (t + 1) = mean (flicker history) 3 (t - 2 + 1) := by
    unfold flickerMean
    rw [show t + 1 - 2 = t - 2 + 1 by omega]
  have update :=
    update_eq_mean_iff (flicker history) 3 (t - 2)
  rw [position] at update
  have fourth : t + 1 ≠ 3 := by omega
  unfold FlickerIsMean SwingSeen
  rw [if_neg fourth, afterUpdates, ran, Option.bind_some,
    recorded.flickerError_of_le counted eligible, error, next, flickerMean,
    ← newFlicker_eq_iff elapsed, Option.map_eq_some_iff]
  simp only [update]
  exact ⟨fun ⟨_, found, same⟩ => same ▸ found, fun found => ⟨_, found, rfl⟩⟩

/-- From the third sample to the `m`-th. -/
def Throughout
    (holds : Nat → Prop)
    (m : Nat) : Prop :=
  ∀ t, 3 ≤ t → t ≤ m → holds t

omit [FloorRing K] [IsStrictOrderedRing K] [LinearOrder K] [Field K] in
theorem throughout_three {holds : Nat → Prop} :
    Throughout holds 3 ↔ holds 3 := by
  constructor
  · exact fun all => all 3 le_rfl le_rfl
  · intro third t some below
    rwa [Nat.le_antisymm below some]

omit [FloorRing K] [IsStrictOrderedRing K] [LinearOrder K] [Field K] in
theorem throughout_succ
    {holds : Nat → Prop}
    (eligible : 3 ≤ t) :
    Throughout holds (t + 1) ↔ Throughout holds t ∧ holds (t + 1) := by
  constructor
  · exact fun all =>
      ⟨fun k some below => all k some (Nat.le_succ_of_le below),
        all (t + 1) (Nat.le_succ_of_le eligible) le_rfl⟩
  · rintro ⟨earlier, last⟩ k some below
    rcases Nat.le_succ_iff.mp below with old | rfl
    · exact earlier k some old
    · exact last

/-- The metric is the mean throughout where every sample is seen as it should be. -/
theorem throughout_flickerIsMean_iff
    {m : Nat}
    (eligible : 3 ≤ m)
    (counted : m ≤ 2 ^ 32)
    (elapsed : Throughout (fun t => 0 < (history t).samplingTime) m) :
    Throughout (FlickerIsMean outOfRange history) m ↔
      Throughout (SwingSeen outOfRange history) m := by
  induction m, eligible using Nat.le_induction with
  | base =>
      rw [throughout_three, throughout_three]
      exact flickerIsMean_three (throughout_three.mp elapsed)
  | succ t some inductionHypothesis =>
      have times := (throughout_succ some).mp elapsed
      rw [throughout_succ some, throughout_succ some,
        ← inductionHypothesis (by omega) times.1]
      exact and_congr_right fun means =>
        (means t some le_rfl).succ_iff some (by omega) times.2

/-- The machine can hold what an update computes from the sample. -/
def Fits
    (history : Nat → Sample K)
    (t : Nat) : Prop :=
  IntegerType.int16.Holds (luxStep history t * luxStep history (t - 1)) ∧
    (history t).samplingTime.toNat < 2 ^ 31

omit [FloorRing K] in
theorem flicker_nonneg
    (elapsed : 0 < (history t).samplingTime) :
    0 ≤ flicker history t := by
  by_cases swings : Swings history t
  · exact (flicker_pos swings elapsed).le
  · rw [flicker, if_neg swings]

/-- Where everything fits, an update can only leave flicker out. -/
theorem Fits.exists_newFlicker
    (fits : Fits history t)
    (outOfRange : K → Int)
    (elapsed : 0 < (history t).samplingTime) :
    ∃ newSample,
      newFlicker outOfRange (luxStep history t) (luxStep history (t - 1))
          (history t).samplingTime = some newSample ∧
        newSample ≤ flicker history t := by
  by_cases flagged :
      flickerFlag outOfRange (luxStep history t) (luxStep history (t - 1)) < 0
  · have below := (flickerFlag_neg_iff fits.1).mp flagged
    have swings : Swings history t := lt_of_le_of_lt below (by norm_num)
    exact
      ⟨flicker history t,
        (newFlicker_eq_iff_of_swings swings elapsed).mpr ⟨flagged, fits.2⟩, le_rfl⟩
  · exact ⟨0, if_neg flagged, flicker_nonneg elapsed⟩

/-- The metric has not overtaken the mean, and equals it if every sample is seen. -/
def Behind
    (outOfRange : K → Int)
    (history : Nat → Sample K)
    (t : Nat) : Prop :=
  ∃ metrics, afterUpdates outOfRange history t = some metrics ∧
    metrics.flickerError ≤ flickerMean history t ∧
    (metrics.flickerError = flickerMean history t ↔
      Throughout (SwingSeen outOfRange history) t)

/-- What an update leaves out is missing from then on. -/
theorem Behind.succ
    (behind : Behind outOfRange history t)
    (eligible : 3 ≤ t)
    (counted : t < 2 ^ 32)
    (fits : Fits history (t + 1))
    (elapsed : 0 < (history (t + 1)).samplingTime) :
    Behind outOfRange history (t + 1) := by
  obtain ⟨metrics, ran, below, seen⟩ := behind
  obtain ⟨newSample, found, less⟩ := fits.exists_newFlicker outOfRange elapsed
  have recorded := recorded_of_afterUpdates ran
  have updated :
      (metrics.updateMetrics outOfRange (history (t + 1))).map flickerError =
        some
          ((metrics.flickerError * ((t - 2 : Nat) : K) + newSample) /
            ((t - 2 + 1 : Nat) : K)) :=
    (recorded.flickerError_of_le counted eligible).trans (congrArg _ found)
  obtain ⟨after, taken, error⟩ := Option.map_eq_some_iff.mp updated
  have position : 3 + (t - 2) = t + 1 := by omega
  have update :=
    update_eq_mean_iff_of_le (by omega) below (position.symm ▸ less)
  have next : mean (flicker history) 3 (t - 2 + 1) = flickerMean history (t + 1) := by
    unfold flickerMean
    rw [show t + 1 - 2 = t - 2 + 1 by omega]
  rw [next, position] at update
  have agrees :
      newSample = flicker history (t + 1) ↔
        FlagAgrees outOfRange history (t + 1) ∧
          (Swings history (t + 1) → (history (t + 1)).samplingTime.toNat < 2 ^ 31) := by
    rw [← newFlicker_eq_iff elapsed, found, Option.some.injEq]
  refine ⟨after, ?_, ?_, ?_⟩
  · rw [afterUpdates, ran, Option.bind_some, taken]
  · rw [error]
    exact update.1
  · rw [error, update.2, throughout_succ eligible, ← seen, SwingSeen,
      if_neg (by omega), agrees]
    exact Iff.rfl

/-- Where everything fits, the last mean alone says whether every sample was seen. -/
theorem flickerIsMean_iff_of_fits
    {m : Nat}
    (eligible : 3 ≤ m)
    (counted : m ≤ 2 ^ 32)
    (elapsed : Throughout (fun t => 0 < (history t).samplingTime) m)
    (fits : ∀ t, 3 < t → t ≤ m → Fits history t) :
    FlickerIsMean outOfRange history m ↔
      Throughout (SwingSeen outOfRange history) m := by
  have behind : Behind outOfRange history m := by
    induction m, eligible using Nat.le_induction with
    | base =>
        obtain ⟨metrics, ran, zero⟩ :=
          Option.map_eq_some_iff.mp
            (exists_afterUpdates_of_le outOfRange history (le_refl 3))
        have first :
            FlickerIsMean outOfRange history 3 ↔ SwingSeen outOfRange history 3 :=
          flickerIsMean_three (throughout_three.mp elapsed)
        refine ⟨metrics, ran, ?_, ?_⟩
        · rw [zero]
          exact (flicker_nonneg (throughout_three.mp elapsed)).trans_eq
            (mean_one (flicker history) 3).symm
        · rw [throughout_three, ← first, FlickerIsMean, ran, Option.map_some,
            Option.some.injEq]
    | succ t some inductionHypothesis =>
        have times := (throughout_succ some).mp elapsed
        exact
          (inductionHypothesis (by omega) times.1
              fun k fourth below => fits k fourth (Nat.le_succ_of_le below)).succ
            some (by omega) (fits (t + 1) (by omega) le_rfl) times.2
  obtain ⟨metrics, ran, -, seen⟩ := behind
  rw [FlickerIsMean, ran, Option.map_some, Option.some.injEq, seen]

/--
The metric follows its definition, update by update, exactly where every sample is
seen as it should be.  If the machine can hold what it computes on the way, the last
update alone says so.
-/
theorem flickerError_eq_flickerMean_iff
    (outOfRange : K → Int)
    (history : Nat → Sample K)
    {m : Nat}
    (eligible : 3 ≤ m)
    (counted : m ≤ 2 ^ 32)
    (elapsed : Throughout (fun t => 0 < (history t).samplingTime) m) :
    (Throughout (FlickerIsMean outOfRange history) m ↔
        Throughout (SwingSeen outOfRange history) m) ∧
      ((∀ t, 3 < t → t ≤ m → Fits history t) →
        (FlickerIsMean outOfRange history m ↔
          Throughout (SwingSeen outOfRange history) m)) :=
  ⟨throughout_flickerIsMean_iff eligible counted elapsed,
    flickerIsMean_iff_of_fits eligible counted elapsed⟩

end Definition

section Examples

/-- Samples every ten milliseconds. -/
def sampled (lux : Nat → ℚ) (t : Nat) : Sample ℚ where
  lux := lux t
  samplingTime := 10000
  luxRefAfterConsensus := 30
  u := 0

theorem elapsed_sampled
    (lux : Nat → ℚ)
    (m : Nat) :
    Throughout (fun t => 0 < (sampled lux t).samplingTime) m :=
  fun _ _ _ => (by decide : (0 : BitVec 32) < 10000)

/-- Light that rises three times and then alternates. -/
def alternating (t : Nat) : ℚ :=
  [0, 10, 20, 30, 20, 30].getD t 0

/-- Both turns of alternating light are in the mean. -/
theorem flickerError_eq_flickerMean_iff_alternating :
    FlickerIsMean (fun _ => 0) (sampled alternating) 5 := by
  have follows :=
    (flickerError_eq_flickerMean_iff (fun _ => 0) (sampled alternating)
      (by decide : 3 ≤ 5) (by decide) (elapsed_sampled alternating 5)).1
  refine follows.mpr ?_ 5 (by decide) le_rfl
  intro t third last
  interval_cases t <;> decide +kernel

/-- Light that turns at the third sample. -/
def turning (t : Nat) : ℚ :=
  [0, 10, 20, 10].getD t 0

/-- Light that ripples by half a lux from the fourth sample on. -/
def rippling (t : Nat) : ℚ :=
  [0, 20, 20, 41 / 2, 20].getD t 0

/-- A turn at the third sample is left out, and so is a small one later. -/
theorem not_flickerIsMean_turning :
    ¬ FlickerIsMean (fun _ => 0) (sampled turning) 3 ∧
      ¬ FlickerIsMean (fun _ => 0) (sampled rippling) 4 := by
  decide +kernel

end Examples

end Metrics

end DistributedLighting
