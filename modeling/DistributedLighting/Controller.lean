import DistributedLighting.Truncation

namespace DistributedLighting

/-!
# The controller of the LED

`Controller::calc` adds a feedforward term, a proportional term and an integrator.
When the sum leaves the range of the PWM it rewrites the integrator, so that the
three terms add up to the end of the range.  The next call starts from there and
knows nothing of how long the output has been saturated.  The rewriting starts with
a difference of two integers, though, and one that overflows leaves an integrator
that no longer fits the other terms.
-/

/-- `KP` -/
def kp : Nat := 20

/-- `KI` -/
def ki : Nat := 1500

/-- The clock counts microseconds. -/
def microsPerSecond : Nat := 1000000

/-- The largest value of the PWM. -/
def maxPwm : Nat := 255

/-- The members of `Controller`. -/
structure Controller (K : Type) where
  ui : K
  u : K
  deriving DecidableEq

/-- The arguments of one call of `Controller::calc`. -/
structure CalcCall (K : Type) where
  errorVoltage : K
  samplingTime : BitVec 32
  luxRef : K
  systemGain : K
  residualRead : K

/-- The members of `Luminaire` that take part in the control alone. -/
structure LightControl (K : Type) where
  controller : Controller K
  systemGain : K
  lastSampleTime : BitVec 32
  lpfSampleTime : BitVec 32
  samplingTime : BitVec 32
  measuredVoltage : K

section Definitions

variable {K : Type} [Field K] [LinearOrder K] [FloorRing K]

namespace CalcCall

variable (outOfRange : K → Int) (call : CalcCall K)

/-- The feedforward control signal: `int uff`. -/
def uff : Int :=
  IntegerType.int16.convert outOfRange
    ((call.luxRef - call.residualRead) / call.systemGain)

/-- The proportional control signal: `KP * errorVoltage`. -/
def up : K :=
  kp * call.errorVoltage

/-- What the call adds to the integrator: `samplingTime * (KI / 1000000.0f) * errorVoltage`. -/
def integrates : K :=
  (call.samplingTime.toNat : K) * (ki / microsPerSecond) * call.errorVoltage

end CalcCall

namespace Controller

/-- `Controller::controllerReset`, and the constructor. -/
def controllerReset (K : Type) [Field K] : Controller K where
  ui := 0
  u := 0

/-- The anti-windup of `Controller::calc`; `uff` is still an integer where it starts. -/
def antiWindup (uff : Int) (up ui : K) : Controller K :=
  let u := uff + up + ui
  if u > maxPwm then
    { ui := subInt16 maxPwm uff - up, u := maxPwm }
  else if u < 0 then
    { ui := subInt16 0 uff - up, u := 0 }
  else
    { ui := ui, u := u }

/-- `Controller::calc`: the controller after the call, and what the call returns. -/
def calcPwm
    (outOfRange : K → Int)
    (controller : Controller K)
    (call : CalcCall K) : Controller K × Int :=
  let after :=
    antiWindup (call.uff outOfRange) call.up
      (controller.ui + call.integrates)
  (after, IntegerType.int16.convert outOfRange after.u)

/-- The controller after a sequence of calls since `controllerReset`. -/
def afterCalls
    (outOfRange : K → Int)
    (history : List (CalcCall K)) : Controller K :=
  history.foldl (fun controller call => (controller.calcPwm outOfRange call).1)
    (controllerReset K)

end Controller

namespace LightControl

/-- The error that the controller sees; small ones are noise. -/
def errorVoltage
    (expectedVoltage measuredVoltage : K) : K :=
  if |expectedVoltage - measuredVoltage| ≤ 1 / (100 : Nat) then
    0
  else
    expectedVoltage - measuredVoltage

/--
`Luminaire::control`: the luminaire after it, and what `analogWrite` gets.  The
voltage that the simulator expects is an argument.
-/
def control
    (outOfRange : K → Int)
    (expectedVoltage voltage luxRefAfterConsensus residualRead : K)
    (light : LightControl K)
    (samplingTime : BitVec 32) : LightControl K × Int :=
  let calculated :=
    light.controller.calcPwm outOfRange
      { errorVoltage := errorVoltage expectedVoltage voltage
        samplingTime := samplingTime
        luxRef := luxRefAfterConsensus
        systemGain := light.systemGain
        residualRead := residualRead }
  ({ light with measuredVoltage := voltage, controller := calculated.1 },
    calculated.2)

end LightControl

end Definitions

theorem cast_maxPwm
    {K : Type}
    [Ring K] :
    (maxPwm : K) = 255 :=
  Nat.cast_ofNat

theorem microsPerSecond_pos
    {K : Type}
    [Field K] [LinearOrder K] [IsStrictOrderedRing K] :
    (0 : K) < microsPerSecond :=
  Nat.cast_pos.mpr (by decide)

namespace Controller

section Limits

variable {K : Type}
    [Field K] [LinearOrder K] [IsStrictOrderedRing K]
    {uff : Int} {up ui : K}

/-- If the sum is out of the range, the difference that the anti-windup takes is an int. -/
structure DifferenceFits (uff : Int) (sum : K) : Prop where
  top : 255 < sum → IntegerType.int16.Contains (255 - uff)
  zero : sum < 0 → IntegerType.int16.Contains (0 - uff)

omit [IsStrictOrderedRing K] in
theorem differenceFits_iff {sum : K} :
    DifferenceFits uff sum ↔
      (255 < sum → IntegerType.int16.Contains (255 - uff)) ∧
        (sum < 0 → IntegerType.int16.Contains (0 - uff)) :=
  ⟨fun fits => ⟨fits.top, fits.zero⟩, fun fits => ⟨fits.1, fits.2⟩⟩

/-- The output stays in the range of the PWM. -/
theorem antiWindup_mem :
    0 ≤ (antiWindup uff up ui).u ∧ (antiWindup uff up ui).u ≤ 255 := by
  simp only [antiWindup]
  split_ifs with above below
  · exact ⟨by norm_num, le_rfl⟩
  · exact ⟨le_rfl, by norm_num⟩
  · exact ⟨not_lt.mp below, not_lt.mp above⟩

/-- The rewritten integrator completes the sum exactly when the difference is right. -/
theorem rewritten_sum_iff {limit : Int} :
    (limit : K) = uff + up + (subInt16 limit uff - up) ↔
      IntegerType.int16.Contains (limit - uff) := by
  have sum : (uff : K) + up + (subInt16 limit uff - up) = (uff + subInt16 limit uff : Int) := by
    push_cast
    ring
  rw [sum, Int.cast_inj, ← subInt16_eq_iff]
  omega

/--
The output is the sum of the three terms, with the integrator as it is left, exactly
as long as the difference fits.
-/
theorem antiWindup_sum_iff :
    (antiWindup uff up ui).u = uff + up + (antiWindup uff up ui).ui ↔
      DifferenceFits uff (uff + up + ui) := by
  rw [differenceFits_iff]
  simp only [antiWindup, gt_iff_lt, cast_maxPwm]
  split_ifs with above below
  · have nonneg : ¬ (uff : K) + up + ui < 0 := by linarith
    have rewritten :
        ((255 : Int) : K) = uff + up + (subInt16 255 uff - up) ↔
          IntegerType.int16.Contains (255 - uff) :=
      rewritten_sum_iff
    simpa only [above, nonneg, forall_const, false_implies, and_true, Int.cast_ofNat]
      using rewritten
  · have rewritten :
        ((0 : Int) : K) = uff + up + (subInt16 0 uff - up) ↔
          IntegerType.int16.Contains (0 - uff) :=
      rewritten_sum_iff
    simpa only [above, below, forall_const, false_implies, true_and, Int.cast_zero]
      using rewritten
  · simp [above, below]

/-- Only a sum at or above the end of the range saturates the output there. -/
theorem antiWindup_lt
    (below : uff + up + ui < 255) :
    (antiWindup uff up ui).u < 255 := by
  simp only [antiWindup]
  split_ifs with above negative
  · exact absurd below (not_lt.mpr above.le)
  · norm_num
  · exact below

/-- Only a sum at or below zero leaves the output at zero. -/
theorem antiWindup_pos
    (above : 0 < uff + up + ui) :
    0 < (antiWindup uff up ui).u := by
  simp only [antiWindup]
  split_ifs with high negative
  · exact Nat.cast_pos.mpr (by decide)
  · exact absurd above (not_lt.mpr negative.le)
  · exact above

end Limits

section Calls

variable {K : Type}
    [Field K] [LinearOrder K] [IsStrictOrderedRing K] [FloorRing K]
    {outOfRange : K → Int}

/-- The output after a call: in the range of the PWM, and the sum of its terms. -/
structure Limited
    (outOfRange : K → Int)
    (call : CalcCall K)
    (controller : Controller K) : Prop where
  nonneg : 0 ≤ controller.u
  bounded : controller.u ≤ 255
  sum : controller.u = call.uff outOfRange + call.up + controller.ui

/-- The sum of the three terms that a call starts from. -/
def sumAt
    (outOfRange : K → Int)
    (controller : Controller K)
    (call : CalcCall K) : K :=
  call.uff outOfRange + call.up + (controller.ui + call.integrates)

/-- One call limits the output as long as the difference fits. -/
theorem limited_calcPwm_iff
    (controller : Controller K)
    (call : CalcCall K) :
    (controller.calcPwm outOfRange call).1.Limited outOfRange call ↔
      DifferenceFits (call.uff outOfRange) (controller.sumAt outOfRange call) :=
  ⟨fun limited => antiWindup_sum_iff.mp limited.sum,
    fun fits => ⟨antiWindup_mem.1, antiWindup_mem.2, antiWindup_sum_iff.mpr fits⟩⟩

/-- The output of a call, without its fraction, is a value of the PWM. -/
theorem truncate_calcPwm_mem
    (controller : Controller K)
    (call : CalcCall K) :
    0 ≤ truncate (controller.calcPwm outOfRange call).1.u ∧
      truncate (controller.calcPwm outOfRange call).1.u ≤ 255 := by
  have bounded : (controller.calcPwm outOfRange call).1.u ≤ (255 : Nat) :=
    mod_cast antiWindup_mem.2
  exact truncate_mem antiWindup_mem.1 bounded

/-- A call returns its output without the fraction. -/
theorem calcPwm_eq_truncate
    (controller : Controller K)
    (call : CalcCall K) :
    (controller.calcPwm outOfRange call).2 =
      truncate (controller.calcPwm outOfRange call).1.u := by
  have bounded :
      0 ≤ truncate (controller.calcPwm outOfRange call).1.u ∧
        truncate (controller.calcPwm outOfRange call).1.u ≤ 255 :=
    controller.truncate_calcPwm_mem call
  exact
    IntegerType.int16.convert_of_holds
      ⟨le_trans (by decide) bounded.1, le_trans bounded.2 (by decide)⟩ outOfRange

/-- What a call returns can be written to the LED. -/
theorem calcPwm_mem
    (controller : Controller K)
    (call : CalcCall K) :
    0 ≤ (controller.calcPwm outOfRange call).2 ∧
      (controller.calcPwm outOfRange call).2 ≤ 255 := by
  rw [calcPwm_eq_truncate]
  exact controller.truncate_calcPwm_mem call

omit [IsStrictOrderedRing K] in
@[simp] theorem afterCalls_append
    (history : List (CalcCall K))
    (last : CalcCall K) :
    afterCalls outOfRange (history ++ [last]) =
      ((afterCalls outOfRange history).calcPwm outOfRange last).1 := by
  simp [afterCalls]

end Calls

end Controller

namespace CalcCall

variable {K : Type} [Field K] [LinearOrder K] [FloorRing K]

/-- Two calls with the same reference, gain and residual. -/
structure SamePoint (call other : CalcCall K) : Prop where
  luxRef : other.luxRef = call.luxRef
  systemGain : other.systemGain = call.systemGain
  residualRead : other.residualRead = call.residualRead

/-- Such calls have the same feedforward. -/
theorem SamePoint.uff_eq
    {call other : CalcCall K}
    (same : call.SamePoint other)
    (outOfRange : K → Int) :
    other.uff outOfRange = call.uff outOfRange := by
  unfold uff
  rw [same.luxRef, same.systemGain, same.residualRead]

end CalcCall

namespace Controller

section Recovery

variable {K : Type}
    [Field K] [LinearOrder K] [IsStrictOrderedRing K] [FloorRing K]
    {outOfRange : K → Int} {controller : Controller K} {last next : CalcCall K}

omit [IsStrictOrderedRing K] in
/-- The next sum differs from the output by what the errors of two calls say. -/
theorem Limited.next_sum
    (limited : controller.Limited outOfRange last)
    (same : last.SamePoint next) :
    (next.uff outOfRange : K) + next.up + (controller.ui + next.integrates) =
      controller.u + (next.up - last.up) + next.integrates := by
  rw [limited.sum, same.uff_eq outOfRange]
  ring

omit [FloorRing K] in
/-- The integrator grows by a positive multiple of the error. -/
theorem integrates_rate_pos (elapsed : 0 < next.samplingTime) :
    (0 : K) < next.samplingTime.toNat * (ki / microsPerSecond) := by
  have time : (0 : K) < next.samplingTime.toNat :=
    Nat.cast_pos.mpr (BitVec.lt_def.mp elapsed)
  have rate : (0 : K) < ki / microsPerSecond :=
    div_pos (Nat.cast_pos.mpr (by decide)) microsPerSecond_pos
  exact mul_pos time rate

omit [FloorRing K] in
/-- The integrator moves the way the error points. -/
theorem integrates_neg
    (elapsed : 0 < next.samplingTime)
    (negative : next.errorVoltage < 0) :
    next.integrates < 0 :=
  mul_neg_of_pos_of_neg (integrates_rate_pos elapsed) negative

omit [FloorRing K] in
theorem integrates_pos
    (elapsed : 0 < next.samplingTime)
    (positiveError : 0 < next.errorVoltage) :
    0 < next.integrates :=
  mul_pos (integrates_rate_pos elapsed) positiveError

/-- A negative error that does not rise takes the output off the upper end at once. -/
theorem Limited.calcPwm_lt
    (limited : controller.Limited outOfRange last)
    (saturated : controller.u = 255)
    (same : last.SamePoint next)
    (elapsed : 0 < next.samplingTime)
    (negative : next.errorVoltage < 0)
    (falls : next.errorVoltage ≤ last.errorVoltage) :
    (controller.calcPwm outOfRange next).1.u < 255 := by
  refine antiWindup_lt ?_
  have proportional : next.up ≤ last.up :=
    mul_le_mul_of_nonneg_left falls (Nat.cast_nonneg kp)
  calc
    (next.uff outOfRange : K) + next.up + (controller.ui + next.integrates) =
        controller.u + (next.up - last.up) + next.integrates :=
      limited.next_sum same
    _ < 255 := by
      have integrates := integrates_neg elapsed negative
      linarith

/-- A positive error that does not fall takes the output off zero at once. -/
theorem Limited.calcPwm_pos
    (limited : controller.Limited outOfRange last)
    (saturated : controller.u = 0)
    (same : last.SamePoint next)
    (elapsed : 0 < next.samplingTime)
    (positive : 0 < next.errorVoltage)
    (rises : last.errorVoltage ≤ next.errorVoltage) :
    0 < (controller.calcPwm outOfRange next).1.u := by
  refine antiWindup_pos ?_
  have proportional : last.up ≤ next.up :=
    mul_le_mul_of_nonneg_left rises (Nat.cast_nonneg kp)
  calc
    0 < controller.u + (next.up - last.up) + next.integrates := by
      have integrates := integrates_pos elapsed positive
      linarith
    _ = (next.uff outOfRange : K) + next.up + (controller.ui + next.integrates) :=
      (limited.next_sum same).symm

/--
The anti-windup, for the last call of a history.  The output is limited to the sum of
its terms, and a saturated output leaves the end of the range with the next call whose
error points away from it and is no nearer to it.
-/
structure AntiWindup
    (outOfRange : K → Int)
    (history : List (CalcCall K))
    (last : CalcCall K) : Prop where
  limited : (afterCalls outOfRange (history ++ [last])).Limited outOfRange last
  leavesTop :
    ∀ next, last.SamePoint next → 0 < next.samplingTime →
      (afterCalls outOfRange (history ++ [last])).u = 255 →
      next.errorVoltage < 0 → next.errorVoltage ≤ last.errorVoltage →
      (afterCalls outOfRange (history ++ [last] ++ [next])).u < 255
  leavesZero :
    ∀ next, last.SamePoint next → 0 < next.samplingTime →
      (afterCalls outOfRange (history ++ [last])).u = 0 →
      0 < next.errorVoltage → last.errorVoltage ≤ next.errorVoltage →
      0 < (afterCalls outOfRange (history ++ [last] ++ [next])).u

/-- However the calls before it went, a limited output recovers. -/
theorem Limited.antiWindup
    {history : List (CalcCall K)}
    (limited : (afterCalls outOfRange (history ++ [last])).Limited outOfRange last) :
    AntiWindup outOfRange history last where
  limited := limited
  leavesTop next same elapsed saturated negative falls := by
    rw [afterCalls_append]
    exact limited.calcPwm_lt saturated same elapsed negative falls
  leavesZero next same elapsed saturated positive rises := by
    rw [afterCalls_append]
    exact limited.calcPwm_pos saturated same elapsed positive rises

/--
The anti-windup works for a call exactly if the difference that the call takes, in
case its sum is out of the range, is an int.
-/
theorem antiWindup_iff
    (outOfRange : K → Int)
    (history : List (CalcCall K))
    (last : CalcCall K) :
    AntiWindup outOfRange history last ↔
      DifferenceFits (last.uff outOfRange)
        ((afterCalls outOfRange history).sumAt outOfRange last) := by
  rw [← limited_calcPwm_iff, ← afterCalls_append]
  exact ⟨AntiWindup.limited, Limited.antiWindup⟩

/-- A call with a constant feedforward of 50. -/
def exampleCall (errorVoltage : ℚ) : CalcCall ℚ where
  errorVoltage := errorVoltage
  samplingTime := 10000
  luxRef := 60
  systemGain := 1
  residualRead := 10

/-- A hundred calls at the upper end, and the one that leaves it. -/
theorem antiWindup_saturated :
    (afterCalls (fun _ => 0)
      (List.replicate 100 (exampleCall 30) ++ [exampleCall 30] ++
        [exampleCall (-1 / 100)])).u < 255 := by
  have fits :
      DifferenceFits ((exampleCall 30).uff fun _ => 0)
        ((afterCalls (fun _ => 0) (List.replicate 100 (exampleCall 30))).sumAt
          (fun _ => 0) (exampleCall 30)) :=
    ⟨fun _ => by decide +kernel, fun _ => by decide +kernel⟩
  have works :=
    (antiWindup_iff (fun _ => 0) (List.replicate 100 (exampleCall 30))
      (exampleCall 30)).mpr fits
  exact
    works.leavesTop (exampleCall (-1 / 100)) ⟨rfl, rfl, rfl⟩ (by decide)
      (by decide +kernel) (by decide +kernel) (by decide +kernel)

/-- A call for a desk in the sun that the lamp hardly reaches: the feedforward is -32600. -/
def sunnyCall (errorVoltage : ℚ) : CalcCall ℚ where
  errorVoltage := errorVoltage
  samplingTime := 10000
  luxRef := 0
  systemGain := 1 / 1000
  residualRead := 163 / 5

/--
The first call leaves a large integrator, the second then exceeds the range, and
`255 - uff` is 32855: the terms add up to 65536 less than the output.
-/
theorem not_antiWindup_sunny :
    ¬ ∀ (outOfRange : ℚ → Int) (history : List (CalcCall ℚ)) (last : CalcCall ℚ),
      (∀ call ∈ history ++ [last],
        call.systemGain ≠ 0 ∧
          IntegerType.int16.Holds
            ((call.luxRef - call.residualRead) / call.systemGain)) →
      AntiWindup outOfRange history last := by
  intro works
  have sum := (works (fun _ => 0) [sunnyCall (-5)] (sunnyCall 5) (by decide +kernel)).limited.sum
  exact absurd sum (by decide +kernel)

end Recovery

end Controller

/-- `Luminaire::control` writes a value of the PWM to the LED. -/
theorem LightControl.control_mem
    {K : Type}
    [Field K] [LinearOrder K] [IsStrictOrderedRing K] [FloorRing K]
    (outOfRange : K → Int)
    (expectedVoltage voltage luxRefAfterConsensus residualRead : K)
    (light : LightControl K)
    (samplingTime : BitVec 32) :
    let ran :=
      light.control outOfRange expectedVoltage voltage luxRefAfterConsensus
        residualRead samplingTime
    0 ≤ ran.2 ∧ ran.2 ≤ 255 :=
  light.controller.calcPwm_mem _

end DistributedLighting
