import DistributedLighting.ConsensusTriggers
import DistributedLighting.Controller
import DistributedLighting.FlickerMetric
import DistributedLighting.Runs

namespace DistributedLighting

/-!
# The clock of the samples

`Luminaire::loop` samples when `CONTROL_DELAY` has passed since `lastSampleTime`.  A
`lastSampleTime` of zero marks that there has been no sample since the reset, and the
sampling time is then zero; `Metrics` counts samples on its own and divides by the
sampling time from the third earlier one on.  Both are cleared by an `r`.
-/

/-- The time between two samples, in microseconds. -/
def controlDelay : Nat := 10000

/-- The low-pass filter measures 80 times in this time. -/
def lpfSamplingDelay : Nat := controlDelay / 80

/-- Half a period of `micros()`; twice this time is zero for an `unsigned long`. -/
def halfPeriod : BitVec 32 := 0x80000000

/-- What `Luminaire::loop` and `updateMetrics` read in one iteration of `loop()`. -/
structure LightReading (K : Type) where
  /-- The time since boot, in microseconds and without wrap-around. -/
  time : Nat
  /-- `simulator.simulate(timeNow)` -/
  expectedVoltage : K
  /-- The voltage at the sensor, in `control`. -/
  voltage : K
  /-- The voltage at the sensor, in `updateMetrics`. -/
  metricsVoltage : K

/-- `micros()` -/
def LightReading.timeNow
    {K : Type}
    (reading : LightReading K) : BitVec 32 :=
  BitVec.ofNat 32 reading.time

namespace LightControl

variable {K : Type} [Field K]

/-- The members after boot. -/
def boot (K : Type) [Field K] : LightControl K where
  controller := .controllerReset K
  systemGain := 0
  lastSampleTime := 0
  lpfSampleTime := 0
  samplingTime := 0
  measuredVoltage := 0

/-- `Luminaire::resetLuminaire` -/
def reset (light : LightControl K) : LightControl K :=
  { light with
    lastSampleTime := 0
    lpfSampleTime := 0
    systemGain := 0
    controller := .controllerReset K }

/-- The samples of the low-pass filter, without the filter. -/
def sampleLPF
    (light : LightControl K)
    (timeNow : BitVec 32) : LightControl K :=
  if (timeNow - light.lpfSampleTime).toNat > lpfSamplingDelay then
    { light with lpfSampleTime := timeNow }
  else
    light

variable [LinearOrder K] [FloorRing K]

/-- `Luminaire::loop`: the luminaire after it, and `didControl`. -/
def loop
    (outOfRange : K → Int)
    (luxRefAfterConsensus residualRead : K)
    (reading : LightReading K)
    (light : LightControl K) : LightControl K × Bool :=
  let samplingTime := reading.timeNow - light.lastSampleTime
  if samplingTime.toNat ≥ controlDelay then
    let corrected := if light.lastSampleTime = 0 then 0 else samplingTime
    let controlled :=
      { light with samplingTime := corrected }.control outOfRange
        reading.expectedVoltage reading.voltage luxRefAfterConsensus residualRead
        corrected
    ({ controlled.1 with lastSampleTime := reading.timeNow }.sampleLPF
        reading.timeNow,
      true)
  else
    ({ light with samplingTime := samplingTime }.sampleLPF reading.timeNow, false)

end LightControl

/-- One node with its light control and its metrics. -/
structure SamplingNode (K : Type) where
  lighting : LightingNode K
  light : LightControl K
  metrics : Metrics K
  /-- The time of the last iteration of `loop()`. -/
  clock : Nat

/-- What a node reacts to. -/
inductive SamplingEvent (K : Type) where
  /-- A frame, a command or the discovery timer. -/
  | receive (event : LightingEvent K)
  /-- The rest of `loop()`. -/
  | loop (input : LoopInput K) (reading : LightReading K)

/-- An event resets the node. -/
def LightingNode.Resets
    {K : Type}
    (node : LightingNode K)
    (event : LightingEvent K) : Prop :=
  (node.executed event).any (fun command => command.cmd = byteOf 'r') = true

instance
    {K : Type}
    (node : LightingNode K)
    (event : LightingEvent K) :
    Decidable (node.Resets event) :=
  inferInstanceAs (Decidable (_ = _))

namespace SamplingNode

variable {K : Type} [Field K]

/-- The node after `setup()`. -/
def boot
    (nodeId : Nat)
    (cost : K) : SamplingNode K where
  lighting := .boot nodeId cost
  light := .boot K
  metrics := .resetMetrics K
  clock := 0

variable [LinearOrder K] [FloorRing K]
  (union : FloatTo4Bytes K) (overrun : Nat → K → Nat) (voltageToLux : K → K)
  (outOfRange : K → Int)

/-- The light control in `mainFSM.loop()`, and `didControl`. -/
def sample
    (reading : LightReading K)
    (node : SamplingNode K) : LightControl K × Bool :=
  if node.lighting.main.mainFSM.state = .run then
    node.light.loop outOfRange node.lighting.luminaire.luxRefAfterConsensus
      (node.lighting.firmware.residualArray node.lighting.firmware.nodeIndex)
      reading
  else
    (node.light, false)

/-- What `updateMetrics` reads. -/
def metricsSample
    (reading : LightReading K)
    (node : SamplingNode K) : Sample K where
  lux := voltageToLux reading.metricsVoltage
  samplingTime := (node.sample outOfRange reading).1.samplingTime
  luxRefAfterConsensus := node.lighting.luminaire.luxRefAfterConsensus
  u := (node.sample outOfRange reading).1.controller.u

/-- The metrics after an iteration; a division by zero leaves none. -/
def updatedMetrics
    (reading : LightReading K)
    (node : SamplingNode K) : Option (Metrics K) :=
  if (node.sample outOfRange reading).2 then
    node.metrics.updateMetrics outOfRange
      (node.metricsSample voltageToLux outOfRange reading)
  else
    some node.metrics

/-- `setSystemGain`, where the main machine enters `Run`. -/
def enterRun
    (after : LightingNode K)
    (light : LightControl K)
    (node : SamplingNode K) : LightControl K :=
  if node.lighting.main.mainFSM.state = .calibrate ∧
      after.main.calibrationFSM.done = true then
    { light with
      systemGain :=
        after.firmware.gainMatrix after.firmware.nodeIndex after.firmware.nodeIndex }
  else
    light

/-- React to an event; the clock goes on with every iteration of `loop()`. -/
def next (node : SamplingNode K) : SamplingEvent K → Option (SamplingNode K)
  | .receive (.loop _) => none
  | .receive event =>
      (node.lighting.step union overrun voltageToLux event).map fun after =>
        if node.lighting.Resets event then
          { node with
            lighting := after
            light := node.light.reset
            metrics := .resetMetrics K }
        else
          { node with lighting := after }
  | .loop input reading =>
      if node.clock < reading.time then
        (node.updatedMetrics voltageToLux outOfRange reading).bind fun metrics =>
          (node.lighting.step union overrun voltageToLux (.loop input)).map
            fun after =>
              { lighting := after
                light := node.enterRun after (node.sample outOfRange reading).1
                metrics := metrics
                clock := reading.time }
      else
        none

end SamplingNode

namespace LightControl

variable {K : Type} [Field K] {light : LightControl K} {timeNow : BitVec 32}

omit [Field K] in
@[simp] theorem lastSampleTime_sampleLPF :
    (light.sampleLPF timeNow).lastSampleTime = light.lastSampleTime := by
  unfold sampleLPF
  split <;> rfl

omit [Field K] in
@[simp] theorem samplingTime_sampleLPF :
    (light.sampleLPF timeNow).samplingTime = light.samplingTime := by
  unfold sampleLPF
  split <;> rfl

variable [LinearOrder K] [FloorRing K] {outOfRange : K → Int}
  {luxRefAfterConsensus residualRead : K} {reading : LightReading K}

/-- Without a sample, `lastSampleTime` stays. -/
theorem lastSampleTime_of_not_didControl
    (rests :
      (light.loop outOfRange luxRefAfterConsensus residualRead reading).2 = false) :
    (light.loop outOfRange luxRefAfterConsensus residualRead
        reading).1.lastSampleTime =
      light.lastSampleTime := by
  revert rests
  simp only [loop]
  split
  · exact nofun
  · exact fun _ => lastSampleTime_sampleLPF

/-- A sample sets `lastSampleTime`, and the sampling time unless it is the first. -/
theorem loop_of_didControl
    (samples :
      (light.loop outOfRange luxRefAfterConsensus residualRead reading).2 = true) :
    controlDelay ≤ (reading.timeNow - light.lastSampleTime).toNat ∧
      (light.loop outOfRange luxRefAfterConsensus residualRead
          reading).1.lastSampleTime =
        reading.timeNow ∧
      (light.loop outOfRange luxRefAfterConsensus residualRead
          reading).1.samplingTime =
        if light.lastSampleTime = 0 then
          0
        else
          reading.timeNow - light.lastSampleTime := by
  revert samples
  simp only [loop]
  split
  · rename_i due
    exact fun _ => ⟨due, lastSampleTime_sampleLPF, samplingTime_sampleLPF⟩
  · exact nofun

end LightControl

namespace SamplingNode

section Steps

variable {K : Type} [Field K] [LinearOrder K] [FloorRing K]
  (union : FloatTo4Bytes K) (overrun : Nat → K → Nat) (voltageToLux : K → K)
  (outOfRange : K → Int)

/-- `flickerErrorUpdate` divides by the sampling time. -/
def Divides
    (node : SamplingNode K)
    (reading : LightReading K) : Prop :=
  (node.sample outOfRange reading).2 = true ∧
    node.metrics.numberOfSamples ≥ 3 ∧
    Metrics.flickerFlag outOfRange
        (voltageToLux reading.metricsVoltage - node.metrics.previousLuxSamples 0)
        (node.metrics.previousLuxSamples 0 - node.metrics.previousLuxSamples 1) <
      0

instance (node : SamplingNode K) (reading : LightReading K) :
    Decidable (node.Divides voltageToLux outOfRange reading) :=
  inferInstanceAs (Decidable (_ ∧ _ ∧ _))

/--
What an iteration must not do: take the third or a later sample since the reset when
`micros()` reads zero, or divide exactly half a period of `micros()` after a sample.
-/
def Regular
    (node : SamplingNode K) : SamplingEvent K → Prop
  | .receive _ => True
  | .loop _ reading =>
      ((node.sample outOfRange reading).2 = true →
          reading.timeNow = 0 →
          node.metrics.numberOfSamples < 2) ∧
        (node.Divides voltageToLux outOfRange reading →
          reading.timeNow - node.light.lastSampleTime ≠ halfPeriod)

instance (node : SamplingNode K) (event : SamplingEvent K) :
    Decidable (node.Regular voltageToLux outOfRange event) :=
  match event with
  | .receive _ => inferInstanceAs (Decidable True)
  | .loop .. => inferInstanceAs (Decidable (_ ∧ _))

/-- A `lastSampleTime` of zero is the mark of a node with few samples. -/
def Marked (node : SamplingNode K) : Prop :=
  node.light.lastSampleTime = 0 → node.metrics.numberOfSamples < 3

variable {union overrun voltageToLux outOfRange} {node after : SamplingNode K}
  {reading : LightReading K}

omit [FloorRing K] in
/-- An `r` is none of the commands that set something. -/
theorem executeCommand_r
    (union : FloatTo4Bytes K)
    (lighting : LightingNode K)
    {command : Command}
    (isReset : command.cmd = byteOf 'r') :
    (lighting.executeCommand union command).1 = lighting.reset := by
  have none : command.setCommand union = none := by
    unfold Command.setCommand
    rw [isReset]
    rfl
  unfold LightingNode.executeCommand
  rw [none, isReset]
  rfl

/-- A node that executes a command does nothing else with the event. -/
theorem step_of_executed
    {lighting : LightingNode K}
    {event : LightingEvent K}
    {command : Command}
    (executed : lighting.executed event = some command) :
    lighting.step union overrun voltageToLux event =
      some (lighting.executeCommand union command).1 := by
  unfold LightingNode.executed at executed
  split at executed
  · rename_i command
    split at executed
    · rename_i own
      obtain ⟨⟩ := executed
      simp only [LightingNode.step, LightingNode.next, Option.map_some,
        LightingNode.readCommand, if_pos own]
    · cases executed
  · obtain ⟨⟩ := executed
    rfl
  · cases executed

/-- An `r` resets the node, its light control and its metrics together. -/
theorem next_of_resets
    {event : LightingEvent K}
    (resets : node.lighting.Resets event) :
    node.next union overrun voltageToLux outOfRange (.receive event) =
      some
        { node with
          lighting := node.lighting.reset
          light := node.light.reset
          metrics := .resetMetrics K } := by
  obtain ⟨command, executed, isReset⟩ := (Option.any_eq_true _ _).mp resets
  have step :
      node.lighting.step union overrun voltageToLux event =
        some node.lighting.reset := by
    rw [step_of_executed executed,
      executeCommand_r union node.lighting (of_decide_eq_true isReset)]
  cases event with
  | loop input => cases executed
  | frame sender frame => simp only [next, step, Option.map_some, if_pos resets]
  | command command => simp only [next, step, Option.map_some, if_pos resets]
  | discovery hadResponse => cases executed

/-- Everything that an event other than an iteration can do to the samples. -/
theorem next_receive_cases
    {event : LightingEvent K}
    (taken :
      node.next union overrun voltageToLux outOfRange (.receive event) =
        some after) :
    after.light = node.light ∧ after.metrics = node.metrics ∨
      after.light = node.light.reset ∧ after.metrics = .resetMetrics K := by
  unfold next at taken
  split at taken
  · cases taken
  · rename_i event noLoop same
    obtain ⟨lighting, -, rfl⟩ := Option.map_eq_some_iff.mp taken
    split
    · exact .inr ⟨rfl, rfl⟩
    · exact .inl ⟨rfl, rfl⟩
  · rename_i same
    cases same

omit [Field K] [LinearOrder K] [FloorRing K] in
/-- `enterRun` leaves the clock of the samples alone. -/
theorem lastSampleTime_enterRun
    (lighting : LightingNode K)
    (light : LightControl K) :
    (node.enterRun lighting light).lastSampleTime = light.lastSampleTime := by
  unfold enterRun
  split <;> rfl

/-- Everything that an iteration can do to the samples. -/
theorem next_loop_cases
    {input : LoopInput K}
    (taken :
      node.next union overrun voltageToLux outOfRange (.loop input reading) =
        some after) :
    node.clock < reading.time ∧ after.clock = reading.time ∧
      after.light.lastSampleTime =
        (node.sample outOfRange reading).1.lastSampleTime ∧
      node.updatedMetrics voltageToLux outOfRange reading =
        some after.metrics := by
  simp only [next] at taken
  split at taken
  · rename_i later
    obtain ⟨metrics, updated, ran⟩ := Option.bind_eq_some_iff.mp taken
    obtain ⟨lighting, -, rfl⟩ := Option.map_eq_some_iff.mp ran
    exact ⟨later, rfl, node.lastSampleTime_enterRun lighting _, updated⟩
  · cases taken

/-- A node samples in `Run` only. -/
theorem sample_of_didControl
    (samples : (node.sample outOfRange reading).2 = true) :
    controlDelay ≤ (reading.timeNow - node.light.lastSampleTime).toNat ∧
      (node.sample outOfRange reading).1.lastSampleTime = reading.timeNow ∧
      (node.sample outOfRange reading).1.samplingTime =
        if node.light.lastSampleTime = 0 then
          0
        else
          reading.timeNow - node.light.lastSampleTime := by
  revert samples
  unfold sample
  split
  · exact LightControl.loop_of_didControl
  · exact nofun

theorem lastSampleTime_of_not_didControl
    (rests : (node.sample outOfRange reading).2 = false) :
    (node.sample outOfRange reading).1.lastSampleTime =
      node.light.lastSampleTime := by
  revert rests
  unfold sample
  split
  · exact LightControl.lastSampleTime_of_not_didControl
  · exact fun _ => rfl

omit [LinearOrder K] [FloorRing K] in
theorem marked_boot
    (nodeId : Nat)
    (cost : K) :
    (boot nodeId cost).Marked :=
  fun _ => (by decide : (0 : BitVec 32) < 3)

/-- An iteration keeps the mark. -/
theorem Marked.loop
    {input : LoopInput K}
    (marked : node.Marked)
    (regular : node.Regular voltageToLux outOfRange (.loop input reading))
    (taken :
      node.next union overrun voltageToLux outOfRange (.loop input reading) =
        some after) :
    after.Marked := by
  obtain ⟨-, -, lastSampleTime, updated⟩ := next_loop_cases taken
  unfold updatedMetrics at updated
  intro zero
  rw [lastSampleTime] at zero
  split at updated
  · rename_i samples
    have counted := (Metrics.updateMetrics_fields updated).1
    have few := regular.1 samples
      ((sample_of_didControl samples).2.1.symm.trans zero)
    rw [counted]
    bv_omega
  · rename_i rests
    have rests := Bool.eq_false_iff.mpr rests
    rw [← Option.some.inj updated]
    exact marked ((lastSampleTime_of_not_didControl rests).symm.trans zero)

/-- Every event keeps the mark. -/
theorem Marked.next
    {event : SamplingEvent K}
    (marked : node.Marked)
    (regular : node.Regular voltageToLux outOfRange event)
    (taken :
      node.next union overrun voltageToLux outOfRange event = some after) :
    after.Marked := by
  cases event with
  | receive event =>
      unfold Marked
      rcases next_receive_cases taken with ⟨light, metrics⟩ | ⟨light, metrics⟩
      · rw [light, metrics]
        exact marked
      · rw [light, metrics]
        exact fun _ => (by decide : (0 : BitVec 32) < 3)
  | loop input reading => exact marked.loop regular taken

/-- Where the mark is right, a division is by the time since the sample before. -/
theorem Marked.samplingTime
    (marked : node.Marked)
    (divides : node.Divides voltageToLux outOfRange reading) :
    (node.sample outOfRange reading).1.samplingTime =
        reading.timeNow - node.light.lastSampleTime ∧
      controlDelay ≤ (node.sample outOfRange reading).1.samplingTime.toNat := by
  have sampled := sample_of_didControl divides.1
  have before : node.light.lastSampleTime ≠ 0 := fun zero =>
    absurd (marked zero) (BitVec.not_lt.mpr divides.2.1)
  rw [sampled.2.2, if_neg before]
  exact ⟨rfl, sampled.1⟩

/--
In every run in which no sample but the first two after a reset is taken while
`micros()` reads zero, `flickerErrorUpdate` divides by a sampling time of at least
`CONTROL_DELAY`; and not by zero, unless half a period of `micros()` has passed.
-/
theorem samplingTime_of_run
    {nodeId : Nat}
    {cost : K}
    (run :
      Run (next union overrun voltageToLux outOfRange)
        (Regular voltageToLux outOfRange) (boot nodeId cost) node)
    (input : LoopInput K)
    (regular : node.Regular voltageToLux outOfRange (.loop input reading))
    (divides : node.Divides voltageToLux outOfRange reading) :
    controlDelay ≤ (node.sample outOfRange reading).1.samplingTime.toNat ∧
      2 * (node.sample outOfRange reading).1.samplingTime ≠ 0 := by
  have marked : node.Marked :=
    run.invariant Marked (marked_boot nodeId cost)
      fun before regular taken => before.next regular taken
  have sampled := marked.samplingTime divides
  refine ⟨sampled.2, ?_⟩
  have half := regular.2 divides
  rw [← sampled.1] at half
  have due := sampled.2
  unfold halfPeriod at half
  unfold controlDelay at due
  generalize (node.sample outOfRange reading).1.samplingTime = samplingTime at half due
  bv_omega

end Steps

section Examples

/-- One iteration of `loop()` at a time, with a reading of the sensor. -/
def iterationAt
    (time : Nat)
    (voltage : ℚ) : SamplingEvent ℚ :=
  .loop (.atTime (BitVec.ofNat 32 time) voltage)
    { time := time
      expectedVoltage := 0
      voltage := voltage
      metricsVoltage := voltage }

/-- A single node calibrates and takes samples at some times. -/
def sampleAlone (times : List (Nat × ℚ)) : List (SamplingEvent ℚ) :=
  [iterationAt 2000001 0, iterationAt 4000002 0, iterationAt 4000003 1,
    iterationAt 4000004 0, iterationAt 5000005 5, iterationAt 5000006 0,
    iterationAt 6000007 49, iterationAt 6000008 0] ++
    times.map fun sample => iterationAt sample.1 sample.2

/-- What the next iteration reads. -/
def readingAt
    (time : Nat)
    (voltage : ℚ) : LightReading ℚ where
  time := time
  expectedVoltage := 0
  voltage := voltage
  metricsVoltage := voltage

/-- The fourth sample turns the light, ten milliseconds after the third. -/
theorem samplingTime_of_run_turn :
    ∃ node : SamplingNode ℚ,
      Run (next rationalSingle (fun count _ => count) id fun _ => 0)
          (Regular id fun _ => 0) (boot 1 0) node ∧
        node.Divides id (fun _ => 0) (readingAt 6050000 20) ∧
        2 * (node.sample (fun _ => 0) (readingAt 6050000 20)).1.samplingTime ≠
          0 := by
  obtain ⟨node, run, observed⟩ :=
    exists_run_of_observed
      (next rationalSingle (fun count _ => count) id fun _ => 0)
      (Regular id fun _ => 0) (boot 1 0)
      (sampleAlone [(6020000, 10), (6030000, 20), (6040000, 30)])
      (fun node =>
        node.Regular id (fun _ => 0) (iterationAt 6050000 20) ∧
          node.Divides id (fun _ => 0) (readingAt 6050000 20))
      (by decide +kernel)
  have seen := of_decide_eq_true observed
  exact ⟨node, run, seen.2, (samplingTime_of_run run _ seen.1 seen.2).2⟩

/-- A third sample while `micros()` reads zero passes for no sample at the fourth. -/
theorem not_samplingTime_wrapped :
    ∃ node : SamplingNode ℚ,
      Run (next rationalSingle (fun count _ => count) id fun _ => 0)
          (fun _ _ => True) (boot 1 0) node ∧
        node.clock < (readingAt (2 ^ 32 + 10000) 20).time ∧
        node.Divides id (fun _ => 0) (readingAt (2 ^ 32 + 10000) 20) ∧
        (node.sample (fun _ => 0)
            (readingAt (2 ^ 32 + 10000) 20)).1.samplingTime = 0 := by
  obtain ⟨node, run, observed⟩ :=
    exists_run_of_observed
      (next rationalSingle (fun count _ => count) id fun _ => 0)
      (fun _ _ => True) (boot 1 0)
      (sampleAlone
        [(2 ^ 32 - 20000, 10), (2 ^ 32 - 10000, 20), (2 ^ 32, 30)])
      (fun node =>
        node.clock < (readingAt (2 ^ 32 + 10000) 20).time ∧
          node.Divides id (fun _ => 0) (readingAt (2 ^ 32 + 10000) 20) ∧
          (node.sample (fun _ => 0)
              (readingAt (2 ^ 32 + 10000) 20)).1.samplingTime = 0)
      (by decide +kernel)
  exact ⟨node, run, of_decide_eq_true observed⟩

end Examples

end SamplingNode

end DistributedLighting
