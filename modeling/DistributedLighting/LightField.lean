import DistributedLighting.CalibrationLight

namespace DistributedLighting

/-!
# What a calibration learns about the light

The light at a desk is its daylight and a share of the output of every LED.  In
a run in which the sensors read that light, and in which the readings are
shielded from each other, the calibration ends with the true daylight and the
true shares in every node, whatever the schedule.
-/

/-- The light at the desks, by the output of the LEDs. -/
structure LightField (K : Type) where
  daylight : Nat → K
  /-- The light at a desk for one step of the PWM of an LED. -/
  share : Nat → Nat → K

namespace LightField

/-- The light at a desk. -/
def lux
    {K : Type}
    [Field K]
    {N : Nat}
    (field : LightField K)
    (desk : Nat)
    (led : Fin N → K) : K :=
  field.daylight desk + ∑ k : Fin N, field.share desk k * led k

/-- With a single LED on, the light of the others is missing. -/
theorem lux_single
    {K : Type}
    [Field K]
    {N : Nat}
    (field : LightField K)
    (desk : Nat)
    (lit : Fin N)
    (output : K) :
    (field.lux desk fun k => if k = lit then output else 0) =
      field.daylight desk + field.share desk lit * output := by
  unfold lux
  simp

end LightField

namespace CalibNet

variable {K : Type} {N : Nat}

/-- Before the first barrier all LEDs are off. -/
theorem LightInvariant.dark_of_calibInit
    {net : CalibNet K N}
    (invariant : LightInvariant net)
    {n : Fin N}
    (atInit : (net.node n).fsm.state = .calibInit)
    (k : Fin N) :
    (net.node k).led = 0 := by
  have calib := invariant.calib
  obtain ⟨none, _⟩ := (calib.nodes n).phase.of_calibInit atInit
  have unsent : (net.node n).readySent = 0 := by
    simp [CalibNode.readySent, atInit]
  have noneAhead : (net.node k).passed = 0 := by
    have near : (net.node k).passed ≤ (net.node n).passed + 1 :=
      calib.barrier.lockstep k n
    by_contra ahead
    have sent : (net.node n).readySent = 1 :=
      calib.barrier.complete k n (by
        show (net.node k).passed = (net.node n).passed + 1
        omega)
    omega
  refine invariant.unlit k ?_ ?_
  · intro running
    have all := (calib.nodes k).phase.done_iff.mp
      ((calib.nodes k).running.mp running)
    omega
  · rintro ⟨some, _⟩
    omega

variable [Field K]

/-- A run of `mainFSM.loop()` reads the sensor. -/
def Reads
    (node : CalibNode K N)
    (input : MainInput K) : Prop :=
  node.mainState = .calibrate ∧
    (node.fsm.state = .calibInit ∨
      node.fsm.state = .waitTransient ∧ node.fsm.Elapsed input.now)

instance
    (node : CalibNode K N)
    (input : MainInput K) :
    Decidable (Reads node input) :=
  inferInstanceAs (Decidable (_ ∧ (_ ∨ _ ∧ _)))

/--
When the sensor is read, it reads the light at the desk, and nobody writes the memory
behind `residualArray`, which a node with a large id takes for its own residual.
-/
def Sensed
    (field : LightField K)
    (registry : Registry N)
    (stray : Fin N → K)
    (voltageToLux : K → K)
    (net : CalibNet K N)
    (action : CalibAction K N) : Prop :=
  match action.does with
  | .mainLoop input =>
      Reads (net.node action.node) input →
        voltageToLux input.voltage =
            (field.lux action.node fun k => ((net.node k).led : K)) ∧
          (maxNumNodes ≤ registry.nodesList action.node →
            input.stray = stray action.node)
  | _ => True

instance
    [DecidableEq K]
    (field : LightField K)
    (registry : Registry N)
    (stray : Fin N → K)
    (voltageToLux : K → K)
    (net : CalibNet K N)
    (action : CalibAction K N) :
    Decidable (Sensed field registry stray voltageToLux net action) :=
  match action with
  | ⟨_, .mainLoop _⟩ => inferInstanceAs (Decidable (_ → _ = _ ∧ (_ → _)))
  | ⟨_, .beginDrain⟩ | ⟨_, .take⟩ | ⟨_, .endDrain⟩ =>
      inferInstanceAs (Decidable True)

/-- What a node has learned, by the readings it has taken. -/
structure NodeLearned
    (field : LightField K)
    (offset : CalibrationFSM K → K)
    (n : Fin N)
    (node : CalibNode K N) : Prop where
  residual :
    node.fsm.state ≠ .calibInit →
    node.residual = field.daylight n
  /-- A first reading is the light of the LED at its lower output, less an offset. -/
  first :
    1 ≤ node.passed →
    node.fsm.luxReadNum = 1 →
    node.fsm.luxReads 0 =
      field.daylight n +
          field.share n (designated node.passed) * (pwm 0 : K) -
        offset node.fsm
  gain :
    ∀ index < N,
      node.HasRead (2 * index + 2) →
      node.gain index = field.share n index

/-- What is subtracted from the readings of a node. -/
def offsetOf
    (registry : Registry N)
    (stray : Fin N → K)
    (n : Fin N)
    (fsm : CalibrationFSM K) : K :=
  fsm.residualOfId (registry.nodesList n) (stray n)

/-- What every state of a shielded run with honest sensors satisfies. -/
structure Learned
    (field : LightField K)
    (registry : Registry N)
    (stray : Fin N → K)
    (net : CalibNet K N) : Prop where
  light : LightInvariant net
  nodes :
    ∀ n,
      NodeLearned field (offsetOf registry stray n) n (net.node n)
  asleep :
    ∀ n,
      (net.node n).mainState = .wakeupWait →
      (net.node n).fsm.state = .calibInit

section Readings

variable {field : LightField K} {registry : Registry N}
    {stray : Fin N → K} {voltageToLux : K → K}
    {net : CalibNet K N} {n : Fin N} {input : MainInput K}

/-- The residual is read in the dark. -/
theorem Learned.residual_reading
    (learned : Learned field registry stray net)
    (sensed :
      Sensed field registry stray voltageToLux net ⟨n, .mainLoop input⟩)
    (calibrating : (net.node n).mainState = .calibrate)
    (atInit : (net.node n).fsm.state = .calibInit) :
    voltageToLux input.voltage = field.daylight n := by
  have dark := learned.light.dark_of_calibInit atInit
  rw [(sensed ⟨calibrating, .inl atInit⟩).1]
  simp [LightField.lux, dark]

/-- A shielded reading is the light of the LED of its step. -/
theorem Learned.reading
    (learned : Learned field registry stray net)
    (sensed :
      Sensed field registry stray voltageToLux net ⟨n, .mainLoop input⟩)
    (shielded : Shielded net ⟨n, .mainLoop input⟩)
    (atMain : (net.node n).stage = .main)
    (calibrating : (net.node n).mainState = .calibrate)
    (transient : (net.node n).fsm.state = .waitTransient)
    (elapsed : (net.node n).fsm.Elapsed input.now) :
    voltageToLux input.voltage -
        (net.node n).fsm.residualOfId (registry.nodesList n) input.stray =
      field.daylight n +
          field.share n (designated (net.node n).passed) *
            (pwm (readingOf (net.node n).passed) : K) -
        offsetOf registry stray n (net.node n).fsm := by
  obtain ⟨some, within, nodeLedOn, luxReadNum⟩ :=
    (learned.light.calib.nodes n).phase.of_waitTransient transient
  have inside : designated (net.node n).passed < N := by
    unfold designated
    omega
  have light := sensed ⟨calibrating, .inr ⟨transient, elapsed⟩⟩
  have right :=
    learned.light.rightLight shielded
      ⟨atMain, calibrating, transient, elapsed⟩
  have leds :
      (fun k => ((net.node k).led : K)) =
        fun k =>
          if k = (⟨designated (net.node n).passed, inside⟩ : Fin N) then
            (pwm (readingOf (net.node n).passed) : K)
          else
            0 := by
    funext k
    rw [right k]
    show
      (((if (k.val : Int) = (net.node n).fsm.nodeLedOn then
          pwm (net.node n).fsm.luxReadNum
        else
          0 : Nat)) : K) = _
    rw [nodeLedOn, luxReadNum]
    by_cases own : k.val = designated (net.node n).passed
    · have same : k = ⟨designated (net.node n).passed, inside⟩ :=
        Fin.ext own
      rw [if_pos (congrArg Nat.cast own), if_pos same]
    · have different : k ≠ ⟨designated (net.node n).passed, inside⟩ :=
        fun same => own (congrArg Fin.val same)
      have apart : ¬ (k.val : Int) = (designated (net.node n).passed : Nat) :=
        fun same => own (Int.natCast_inj.mp same)
      rw [if_neg apart, if_neg different, Nat.cast_zero]
  have offset :
      (net.node n).fsm.residualOfId (registry.nodesList n) input.stray =
        offsetOf registry stray n (net.node n).fsm := by
    unfold offsetOf CalibrationFSM.residualOfId
    by_cases small : registry.nodesList n < maxNumNodes
    · rw [if_pos small, if_pos small]
    · rw [if_neg small, if_neg small]
      exact light.2 (Nat.le_of_not_lt small)
  rw [light.1, leds, LightField.lux_single, offset]

end Readings

section Steps

variable {field : LightField K} {registry : Registry N}
    {stray : Fin N → K} {voltageToLux : K → K}
    {offset : CalibrationFSM K → K}
    {n : Fin N} {node after : CalibNode K N}

/-- A step that takes no reading. -/
theorem NodeLearned.congr
    (learned : NodeLearned field offset n node)
    (state :
      after.fsm.state ≠ .calibInit → node.fsm.state ≠ .calibInit)
    (residual : after.residual = node.residual)
    (gain : after.gain = node.gain)
    (first :
      1 ≤ after.passed →
      after.fsm.luxReadNum = 1 →
      1 ≤ node.passed ∧
        node.fsm.luxReadNum = 1 ∧
        designated after.passed = designated node.passed ∧
        after.fsm.luxReads 0 = node.fsm.luxReads 0 ∧
        offset after.fsm = offset node.fsm)
    (read :
      ∀ index,
        after.HasRead (2 * index + 2) → node.HasRead (2 * index + 2)) :
    NodeLearned field offset n after where
  residual := by
    intro begun
    rw [residual]
    exact learned.residual (state begun)
  first := by
    intro some single
    obtain ⟨wasSome, wasSingle, same, reads, offsets⟩ := first some single
    rw [reads, offsets, same]
    exact learned.first wasSome wasSingle
  gain := by
    intro index inside hasRead
    rw [gain]
    exact learned.gain index inside (read index hasRead)

/-- A step that does not touch the machine. -/
theorem NodeLearned.of_fsm
    (learned : NodeLearned field offset n node)
    (fsm : after.fsm = node.fsm)
    (passed : after.passed = node.passed)
    (residual : after.residual = node.residual)
    (gain : after.gain = node.gain) :
    NodeLearned field offset n after := by
  refine learned.congr ?_ residual gain ?_ ?_
  · rw [fsm]
    exact id
  · rw [fsm, passed]
    exact fun some single => ⟨some, single, rfl, rfl, rfl⟩
  · intro index
    unfold CalibNode.HasRead
    rw [fsm, passed]
    exact id

/-- From the first barrier on received values are gains. -/
theorem residualArray_received
    [LinearOrder K]
    {fsm : CalibrationFSM K}
    (notResidual : fsm.nodeLedOn ≠ -1)
    (sender : Nat)
    (message : CalibMessage K) :
    (fsm.received sender message).residualArray = fsm.residualArray := by
  cases message with
  | calibLedOn => rfl
  | calibReady value =>
      simp only [CalibrationFSM.received]
      split
      · unfold CalibrationFSM.receivedGainOrResidual
        rw [if_neg notResidual]
        rfl
      · rfl

/-- Taking a frame teaches a node nothing about its own readings. -/
theorem NodeLearned.receive
    [LinearOrder K]
    (learned : NodeLearned field (offsetOf registry stray n) n node)
    (phase : Phase N n node.fsm node.passed)
    (entry : Entry (Fin N) (CalibFrame K)) :
    NodeLearned field (offsetOf registry stray n) n
      (node.receive entry) := by
  have same :
      (node.receive entry).fsm.state = node.fsm.state ∧
        (node.receive entry).fsm.luxReadNum = node.fsm.luxReadNum ∧
        (node.receive entry).fsm.luxReads = node.fsm.luxReads := by
    obtain ⟨sender, message, label⟩ := entry
    cases message with
    | calibReady value =>
        obtain ⟨gains, residuals, received⟩ :=
          node.fsm.received_calibReady sender value
        simp only [CalibNode.receive, received]
        exact ⟨trivial, trivial, trivial⟩
    | calibLedOn => exact ⟨rfl, rfl, rfl⟩
  obtain ⟨state, luxReadNum, luxReads⟩ := same
  refine learned.congr ?_ rfl rfl ?_ ?_
  · rw [state]
    exact id
  · rw [luxReadNum, luxReads]
    intro some single
    have some : 1 ≤ node.passed := some
    refine ⟨some, single, rfl, rfl, ?_⟩
    have notResidual : node.fsm.nodeLedOn ≠ -1 := by
      rw [phase.nodeLedOn_eq some]
      omega
    have residuals :
        (node.receive entry).fsm.residualArray =
          node.fsm.residualArray :=
      residualArray_received notResidual _ _
    unfold offsetOf CalibrationFSM.residualOfId
    rw [residuals]
  · intro index
    unfold CalibNode.HasRead
    rw [state]
    exact id

/-- Passing a barrier keeps the first reading of a pair. -/
theorem NodeLearned.pass
    (learned : NodeLearned field (offsetOf registry stray n) n node)
    (phase : Phase N n node.fsm node.passed)
    (ready : node.fsm.state = .waitReady)
    (notDone : node.fsm.done = false)
    {fsm : CalibrationFSM K}
    (led : Nat)
    (luxReadNum : fsm.luxReadNum = node.fsm.advance.luxReadNum)
    (luxReads : fsm.luxReads = node.fsm.luxReads)
    (residualArray : fsm.residualArray = node.fsm.residualArray)
    (odd : fsm.state = .waitReady → (node.passed + 1) % 2 = 1) :
    NodeLearned field (offsetOf registry stray n) n
      (node.passBarrier fsm led) := by
  obtain ⟨_, _, advanced⟩ := phase.advance ready notDone
  refine learned.congr ?_ rfl rfl ?_ ?_
  · intro _
    rw [ready]
    decide
  · intro _ single
    have single : fsm.luxReadNum = 1 := single
    rw [luxReadNum, advanced] at single
    unfold readingOf at single
    refine ⟨by omega, ?_, ?_, ?_, ?_⟩
    · -- The step before took the first reading of the pair.
      cases phase with
      | calibInit state =>
          rw [ready] at state
          cases state
      | residual _ none =>
          omega
      | awaiting state =>
          rw [ready] at state
          cases state
      | transient state =>
          rw [ready] at state
          cases state
      | measured _ _ _ _ lux =>
          rw [lux]
          unfold readingOf
          omega
      | finished _ _ _ isDone =>
          rw [notDone] at isDone
          cases isDone
    · show designated (node.passed + 1) = designated node.passed
      unfold designated
      omega
    · show fsm.luxReads 0 = _
      rw [luxReads]
    · show offsetOf registry stray n fsm = _
      unfold offsetOf CalibrationFSM.residualOfId
      rw [residualArray]
  · intro index hasRead
    rcases hasRead with earlier | ⟨current, isReady⟩
    · have earlier : 2 * index + 2 < node.passed + 1 := earlier
      rcases Nat.lt_succ_iff_lt_or_eq.mp earlier with past | now
      · exact .inl past
      · exact .inr ⟨now, ready⟩
    · have current : 2 * index + 2 = node.passed + 1 := current
      have last := odd isReady
      omega

end Steps

section Measurements

variable {field : LightField K} {registry : Registry N}
    {stray : Fin N → K} {n : Fin N} {node : CalibNode K N}
    {now : BitVec 32} {reading : K}

/-- A first reading is kept for the second. -/
theorem NodeLearned.measureFirst
    (learned : NodeLearned field (offsetOf registry stray n) n node)
    (phase : Phase N n node.fsm node.passed)
    (transient : node.fsm.state = .waitTransient)
    (single : node.fsm.luxReadNum + 1 ≠ 2)
    (light :
      reading =
        field.daylight n +
            field.share n (designated node.passed) *
              (pwm (readingOf node.passed) : K) -
          offsetOf registry stray n node.fsm) :
    NodeLearned field (offsetOf registry stray n) n
      { node with fsm := node.afterFirst now reading, polled := false } := by
  obtain ⟨some, _, _, luxReadNum⟩ := phase.of_waitTransient transient
  have isFirst : readingOf node.passed = 0 := by
    rw [luxReadNum] at single
    unfold readingOf at single ⊢
    omega
  rw [isFirst] at luxReadNum light
  constructor
  · intro _
    refine learned.residual ?_
    rw [transient]
    decide
  · intro _ _
    show Function.update node.fsm.luxReads node.fsm.luxReadNum reading 0 = _
    rw [luxReadNum, Function.update_self]
    exact light
  · intro index inside hasRead
    refine learned.gain index inside (.inl ?_)
    have hasRead :
        2 * index + 2 < node.passed ∨ 2 * index + 2 = node.passed ∧ _ :=
      hasRead
    unfold readingOf at isFirst
    omega

/-- A second reading gives the share of the LED, whatever was subtracted from both. -/
theorem NodeLearned.computedGain
    [CharZero K]
    (learned : NodeLearned field (offsetOf registry stray n) n node)
    (some : 1 ≤ node.passed)
    (second : node.fsm.luxReadNum = 1)
    (light :
      reading =
        field.daylight n +
            field.share n (designated node.passed) * (pwm 1 : K) -
          offsetOf registry stray n node.fsm) :
    (node.fsm.measure reading).computedGain =
      field.share n (designated node.passed) := by
  have first := learned.first some second
  have span : ((pwm 1 : K) - (pwm 0 : K)) ≠ 0 := by
    norm_num [pwm]
  unfold CalibrationFSM.computedGain CalibrationFSM.measure
  simp only [second]
  rw [Function.update_self, Function.update_of_ne (by decide), first, light,
    div_eq_iff span]
  ring

/-- A second reading completes the gain of its LED. -/
theorem NodeLearned.measureSecond
    [CharZero K]
    (small : N < 256)
    (learned : NodeLearned field (offsetOf registry stray n) n node)
    (phase : Phase N n node.fsm node.passed)
    (transient : node.fsm.state = .waitTransient)
    (pair : node.fsm.luxReadNum + 1 = 2)
    (light :
      reading =
        field.daylight n +
            field.share n (designated node.passed) *
              (pwm (readingOf node.passed) : K) -
          offsetOf registry stray n node.fsm) :
    NodeLearned field (offsetOf registry stray n) n
      { node with
        fsm := node.afterSecond n now reading
        gain :=
          Function.update node.gain (toUint8 node.fsm.nodeLedOn)
            (node.fsm.measure reading).computedGain
        polled := false } := by
  obtain ⟨some, within, nodeLedOn, luxReadNum⟩ :=
    phase.of_waitTransient transient
  have isSecond : readingOf node.passed = 1 := by omega
  have second : node.fsm.luxReadNum = 1 := by omega
  rw [isSecond] at light
  have share := learned.computedGain some second light
  have column : toUint8 node.fsm.nodeLedOn = designated node.passed := by
    rw [nodeLedOn]
    refine CalibrationFSM.toUint8_natCast ?_
    unfold designated
    omega
  constructor
  · intro _
    refine learned.residual ?_
    rw [transient]
    decide
  · intro _ single
    have single : node.fsm.luxReadNum + 1 = 1 := single
    omega
  · intro index inside hasRead
    show
      Function.update node.gain (toUint8 node.fsm.nodeLedOn)
          (node.fsm.measure reading).computedGain index = _
    have hasRead :
        2 * index + 2 < node.passed ∨ 2 * index + 2 = node.passed ∧ _ :=
      hasRead
    rw [column, share]
    by_cases current : index = designated node.passed
    · rw [current, Function.update_self]
    · rw [Function.update_of_ne current]
      refine learned.gain index inside (.inl ?_)
      unfold designated at current
      omega

end Measurements

section Runs

variable {field : LightField K} {registry : Registry N}
    {stray : Fin N → K} {voltageToLux : K → K}
    {start net after : CalibNet K N} {n : Fin N}

/-- What the step of one node has to show. -/
theorem Learned.replace
    (learned : Learned field registry stray net)
    {node : CalibNode K N}
    {bus : Bus (Fin N) (CalibFrame K)}
    {progress : Fin N → Fin N → Progress}
    (light : LightInvariant (net.replace n node bus progress))
    (own : NodeLearned field (offsetOf registry stray n) n node)
    (asleep :
      node.mainState = .wakeupWait → node.fsm.state = .calibInit) :
    Learned field registry stray (net.replace n node bus progress) where
  light := light
  asleep := by
    intro m
    by_cases same : m = n
    · subst m
      simp only [CalibNet.replace, Function.update_self]
      exact asleep
    · simp only [CalibNet.replace, Function.update_of_ne same]
      exact learned.asleep m
  nodes := by
    intro m
    by_cases same : m = n
    · subst m
      simp only [CalibNet.replace, Function.update_self]
      exact own
    · simp only [CalibNet.replace, Function.update_of_ne same]
      exact learned.nodes m

/-- Before the calibration nothing has been learned. -/
theorem Learned.initial (fresh : Fresh net) :
    Learned field registry stray net where
  light := .initial fresh
  asleep := by
    intro n _
    obtain ⟨before, reset⟩ := fresh.fsm n
    rw [reset]
    rfl
  nodes := by
    intro n
    obtain ⟨before, reset⟩ := fresh.fsm n
    have atInit : (net.node n).fsm.state = .calibInit := by
      rw [reset]
      rfl
    constructor
    · intro begun
      exact absurd atInit begun
    · intro some
      rw [fresh.passed n] at some
      omega
    · intro index _ hasRead
      unfold CalibNode.HasRead at hasRead
      rw [fresh.passed n] at hasRead
      omega

/-- A run of `mainFSM.loop()` takes the readings of the light field. -/
theorem Learned.endLoop
    [CharZero K]
    (small : N < 256)
    (learned : Learned field registry stray net)
    {input : MainInput K}
    {ran : Ran K N}
    (sensed :
      Sensed field registry stray voltageToLux net ⟨n, .mainLoop input⟩)
    (shielded : Shielded net ⟨n, .mainLoop input⟩)
    (atMain : (net.node n).stage = .main)
    (case : (net.node n).MainCase registry voltageToLux n input ran) :
    Learned field registry stray (net.endLoop n ran) := by
  have light := learned.light.endLoop shielded.1 case
  have known := learned.nodes n
  have phase := (learned.light.calib.nodes n).phase
  have advanced := (net.node n).fsm.advance_frame
  have reads :
      (net.node n).fsm.advance.luxReads = (net.node n).fsm.luxReads := by
    unfold CalibrationFSM.advance
    split <;> rfl
  have notDone :
      (net.node n).mainState = .calibrate →
      (net.node n).fsm.done = false := by
    intro calibrating
    refine learned.light.calib.not_done ?_
    rw [calibrating]
    decide
  have awake :
      ∀ {state : CalibrationState},
        (net.node n).mainState = .calibrate →
        (net.node n).mainState = .wakeupWait →
        state = .calibInit := by
    intro state calibrating asleep
    rw [calibrating] at asleep
    cases asleep
  cases case with
  | waking state time waiting notRun =>
      exact
        learned.replace light (known.of_fsm rfl rfl rfl rfl)
          (fun _ => learned.asleep n waiting)
  | controlled running =>
      exact
        learned.replace light (known.of_fsm rfl rfl rfl rfl)
          (learned.asleep n)
  | init calibrating atInit =>
      obtain ⟨none, luxReadNum⟩ := phase.of_calibInit atInit
      refine learned.replace light ?_ (awake calibrating)
      constructor
      · intro _
        exact learned.residual_reading sensed calibrating atInit
      · intro some
        have some : 1 ≤ (net.node n).passed := some
        omega
      · intro index _ hasRead
        have hasRead :
            2 * index + 2 < (net.node n).passed ∨
              2 * index + 2 = (net.node n).passed ∧ _ :=
          hasRead
        omega
  | poll calibrating ready missing =>
      refine
        learned.replace light (known.of_fsm rfl rfl rfl rfl)
          (fun asleep => ?_)
      simp [notDone calibrating, calibrating] at asleep
  | finish calibrating ready all last =>
      have passed :
          NodeLearned field (offsetOf registry stray n) n
            ((net.node n).passBarrier
              { (net.node n).fsm.advance with done := true } 0) := by
        refine
          known.pass phase ready (notDone calibrating) 0 rfl reads
            advanced.2.2.2.2.2 ?_
        intro _
        obtain ⟨within, nodeLedOn, _⟩ :=
          phase.advance ready (notDone calibrating)
        rw [nodeLedOn] at last
        unfold designated at last
        omega
      refine
        learned.replace light (passed.of_fsm rfl rfl rfl rfl)
          (fun asleep => ?_)
      simp [CalibNode.passBarrier] at asleep
  | light calibrating ready all more own =>
      have passed :
          NodeLearned field (offsetOf registry stray n) n
            ((net.node n).passBarrier
              ((net.node n).fsm.advance.setState .waitTransient input.now)
              (pwm (net.node n).fsm.advance.luxReadNum)) := by
        refine
          known.pass phase ready (notDone calibrating) _ rfl reads
            advanced.2.2.2.2.2 ?_
        intro isReady
        cases isReady
      refine
        learned.replace light (passed.of_fsm rfl rfl rfl rfl)
          (fun asleep => ?_)
      simp [CalibNode.passBarrier, CalibrationFSM.setState, advanced,
        notDone calibrating, calibrating] at asleep
  | dark calibrating ready all more other =>
      have passed :
          NodeLearned field (offsetOf registry stray n) n
            ((net.node n).passBarrier
              ((net.node n).fsm.advance.setState .waitLedOn input.now)
              0) := by
        refine
          known.pass phase ready (notDone calibrating) _ rfl reads
            advanced.2.2.2.2.2 ?_
        intro isReady
        cases isReady
      refine
        learned.replace light (passed.of_fsm rfl rfl rfl rfl)
          (fun asleep => ?_)
      simp [CalibNode.passBarrier, CalibrationFSM.setState, advanced,
        notDone calibrating, calibrating] at asleep
  | ignore calibrating awaiting noEvent =>
      exact
        learned.replace light (known.of_fsm rfl rfl rfl rfl)
          (learned.asleep n)
  | consume calibrating awaiting event =>
      refine learned.replace light ?_ (awake calibrating)
      refine known.congr ?_ rfl rfl ?_ ?_
      · intro _
        rw [awaiting]
        decide
      · exact fun some single => ⟨some, single, rfl, rfl, rfl⟩
      · intro index hasRead
        rcases hasRead with past | ⟨_, isReady⟩
        · exact .inl past
        · cases isReady
  | settling calibrating transient early =>
      exact
        learned.replace light (known.of_fsm rfl rfl rfl rfl)
          (learned.asleep n)
  | first reading measured calibrating transient elapsed single =>
      have read :=
        learned.reading sensed shielded atMain calibrating transient elapsed
      rw [measured] at read
      refine learned.replace light ?_ (awake calibrating)
      exact
        NodeLearned.of_fsm (known.measureFirst phase transient single read)
          rfl rfl rfl rfl
  | second reading measured calibrating transient elapsed pair =>
      have read :=
        learned.reading sensed shielded atMain calibrating transient elapsed
      rw [measured] at read
      refine learned.replace light ?_ (awake calibrating)
      exact
        NodeLearned.of_fsm
          (known.measureSecond small phase transient pair read)
          rfl rfl rfl rfl

end Runs

/-- The sensors are honest, and the readings are shielded. -/
def Learning
    (field : LightField K)
    (registry : Registry N)
    (stray : Fin N → K)
    (voltageToLux : K → K)
    (net : CalibNet K N)
    (action : CalibAction K N) : Prop :=
  Sensed field registry stray voltageToLux net action ∧
    Shielded net action

instance
    [DecidableEq K]
    (field : LightField K)
    (registry : Registry N)
    (stray : Fin N → K)
    (voltageToLux : K → K)
    (net : CalibNet K N)
    (action : CalibAction K N) :
    Decidable (Learning field registry stray voltageToLux net action) :=
  inferInstanceAs (Decidable (_ ∧ _))

section Learning

variable [LinearOrder K]
    {field : LightField K} {registry : Registry N}
    {stray : Fin N → K} {voltageToLux : K → K}
    {start net after : CalibNet K N}

/-- Every step of a shielded run with honest sensors keeps what is learned true. -/
theorem Learned.step
    [CharZero K]
    (small : N < 256)
    (learned : Learned field registry stray net)
    {action : CalibAction K N}
    (learning : Learning field registry stray voltageToLux net action)
    (taken : next registry voltageToLux net action = some after) :
    Learned field registry stray after := by
  obtain ⟨n, does⟩ := action
  obtain ⟨sensed, shielded⟩ := learning
  have light := learned.light.step shielded taken
  have known := learned.nodes n
  have effect := effect_of_next taken
  cases effect with
  | beginDrain atStart =>
      exact
        learned.replace light (known.of_fsm rfl rfl rfl rfl)
          (learned.asleep n)
  | @take entry rest draining queued =>
      refine
        learned.replace light
          (known.receive (learned.light.calib.nodes n).phase entry) ?_
      intro asleep
      have atInit := learned.asleep n asleep
      obtain ⟨sender, message, label⟩ := entry
      cases message with
      | calibReady value =>
          obtain ⟨gains, residuals, received⟩ :=
            (net.node n).fsm.received_calibReady sender value
          simp only [CalibNode.receive, received]
          exact atInit
      | calibLedOn => exact atInit
  | endDrain draining drained =>
      exact
        learned.replace light (known.of_fsm rfl rfl rfl rfl)
          (learned.asleep n)
  | mainLoop input atMain =>
      exact
        learned.endLoop small sensed shielded atMain
          (CalibNode.mainCase registry voltageToLux n input (net.node n))

variable [IsStrictOrderedRing K]

/-- Where no LED takes light away, no second reading falls. -/
theorem Learned.rising
    (nonneg : ∀ desk < N, ∀ index < N, 0 ≤ field.share desk index)
    (learned : Learned field registry stray net)
    {action : CalibAction K N}
    (learning : Learning field registry stray voltageToLux net action)
    (taken : next registry voltageToLux net action = some after) :
    RisingPairs registry voltageToLux net action := by
  obtain ⟨n, does⟩ := action
  obtain ⟨sensed, shielded⟩ := learning
  have effect := effect_of_next taken
  cases effect with
  | beginDrain atStart => exact trivial
  | take draining queued => exact trivial
  | endDrain draining drained => exact trivial
  | mainLoop input atMain =>
      intro _ transient single elapsed
      have ok := learned.light.calib.nodes n
      obtain ⟨some, within, _, luxReadNum⟩ :=
        ok.phase.of_waitTransient transient
      have calibrating : (net.node n).mainState = .calibrate := by
        cases mainState : (net.node n).mainState with
        | wakeupWait =>
            rw [learned.asleep n mainState] at transient
            cases transient
        | calibrate => rfl
        | run =>
            have all := ok.phase.done_iff.mp (ok.running.mp mainState)
            omega
      have second : readingOf (net.node n).passed = 1 := by
        rw [← luxReadNum]
        exact single
      have read :=
        learned.reading sensed shielded atMain calibrating transient elapsed
      rw [second] at read
      rw [read, (learned.nodes n).first some single]
      have inside : designated (net.node n).passed < N := by
        unfold designated
        omega
      have share := nonneg n n.isLt _ inside
      have brighter : (pwm 0 : K) ≤ (pwm 1 : K) :=
        Nat.cast_le.mpr (by decide)
      have lit := mul_le_mul_of_nonneg_left brighter share
      linarith

omit [LinearOrder K] [IsStrictOrderedRing K] in
/-- What a node that is done has learned of its own desk. -/
theorem Learned.gain_of_done
    (learned : Learned field registry stray net)
    {n : Fin N}
    (done : (net.node n).fsm.done = true)
    (index : Fin N) :
    (net.node n).gain index = field.share n index := by
  have all := (learned.light.calib.nodes n).phase.done_iff.mp done
  have inRange := index.isLt
  exact (learned.nodes n).gain index inRange (.inl (by omega))

omit [IsStrictOrderedRing K] in
/-- What is kept of a gain when all are done is the share of the LED at that desk. -/
theorem Learned.gainMatrix_of_done
    (learned : Learned field registry stray net)
    (done : ∀ n, (net.node n).fsm.done = true)
    (n desk index : Fin N)
    (carried : Carried (2 * index.val + 2) net) :
    (net.node n).fsm.gainMatrix desk index = field.share desk index := by
  have inRange := index.isLt
  have kept := carried.kept_of_done (done n) (by omega) desk
  have notResidual : 2 * index.val + 2 ≠ 0 := by omega
  have column : designated (2 * index.val + 2) = index := by
    unfold designated
    omega
  simp only [CalibrationFSM.kept, CalibNode.measured, if_neg notResidual,
    column] at kept
  rw [kept]
  exact learned.gain_of_done (done desk) index

omit [IsStrictOrderedRing K] in
/-- What is kept of a residual is the daylight at that desk. -/
theorem Learned.residualArray_of_done
    (learned : Learned field registry stray net)
    (done : ∀ n, (net.node n).fsm.done = true)
    (n desk : Fin N)
    (carried : Carried 0 net) :
    (net.node n).fsm.residualArray desk = field.daylight desk := by
  have kept := carried.kept_of_done (done n) (Nat.zero_le _) desk
  have begun : (net.node desk).fsm.state ≠ .calibInit := by
    intro atInit
    have none :=
      ((learned.light.calib.nodes desk).phase.of_calibInit atInit).1
    have all :=
      (learned.light.calib.nodes desk).phase.done_iff.mp (done desk)
    omega
  exact kept.trans ((learned.nodes desk).residual begun)

/-- In every shielded run with honest sensors the gains are learned and carried. -/
theorem learned_gain_of_run
    (fits : N ≤ maxNumNodes)
    (nonneg : ∀ desk < N, ∀ index < N, 0 ≤ field.share desk index)
    {allowed : CalibNet K N → CalibAction K N → Prop}
    (learns :
      ∀ {net action},
        allowed net action →
        Learning field registry stray voltageToLux net action)
    (fresh : Fresh start)
    (run : Run (next registry voltageToLux) allowed start net)
    (index : Fin N) :
    Learned field registry stray net ∧
      Carried (2 * index.val + 2) net := by
  have small : N < 256 := by
    unfold maxNumNodes at fits
    omega
  refine
    run.invariant
      (fun net =>
        Learned field registry stray net ∧
          Carried (2 * index.val + 2) net)
      ⟨.initial fresh, .initial fresh⟩ ?_
  intro before after action held permitted taken
  obtain ⟨learned, carried⟩ := held
  have learning := learns permitted
  exact
    ⟨learned.step small learning taken,
      carried.step_gain fits (by omega) (by omega)
        (learned.rising nonneg learning taken) taken⟩

/-- If no residual is taken before `CalibInit`, so are the residuals. -/
theorem learned_residual_of_run
    (fits : N ≤ maxNumNodes)
    (positive : ∀ voltage, voltageToLux voltage ≥ 0)
    (fresh : Fresh start)
    (run :
      Run (next registry voltageToLux)
        (fun net action =>
          Learning field registry stray voltageToLux net action ∧
            PlacesResidual net action)
        start net) :
    Learned field registry stray net ∧ Carried 0 net := by
  have small : N < 256 := by
    unfold maxNumNodes at fits
    omega
  refine
    run.invariant
      (fun net => Learned field registry stray net ∧ Carried 0 net)
      ⟨.initial fresh, .initial fresh⟩ ?_
  intro before after action held permitted taken
  obtain ⟨learned, carried⟩ := held
  obtain ⟨learning, places⟩ := permitted
  exact
    ⟨learned.step small learning taken,
      carried.step_residual positive places taken⟩

/--
A calibration whose sensors are honest and shielded ends, at every node, with the
true share of every LED at every desk.
-/
theorem gainMatrix_of_run
    (fits : N ≤ maxNumNodes)
    (nonneg : ∀ desk < N, ∀ index < N, 0 ≤ field.share desk index)
    (fresh : Fresh start)
    (run :
      Run (next registry voltageToLux)
        (Learning field registry stray voltageToLux) start net)
    (done : ∀ n, (net.node n).fsm.done = true)
    (n desk index : Fin N) :
    (net.node n).fsm.gainMatrix desk index = field.share desk index := by
  obtain ⟨learned, carried⟩ :=
    learned_gain_of_run fits nonneg (fun learning => learning) fresh run
      index
  exact learned.gainMatrix_of_done done n desk index carried

/--
If moreover no residual is taken before `CalibInit`, it ends with the true daylight of
every desk.
-/
theorem residualArray_of_run
    (fits : N ≤ maxNumNodes)
    (positive : ∀ voltage, voltageToLux voltage ≥ 0)
    (fresh : Fresh start)
    (run :
      Run (next registry voltageToLux)
        (fun net action =>
          Learning field registry stray voltageToLux net action ∧
            PlacesResidual net action)
        start net)
    (done : ∀ n, (net.node n).fsm.done = true)
    (n desk : Fin N) :
    (net.node n).fsm.residualArray desk = field.daylight desk := by
  obtain ⟨learned, carried⟩ :=
    learned_residual_of_run fits positive fresh run
  exact learned.residualArray_of_done done n desk carried

end Learning

section Schedules

/-- Two desks in daylight, each lit mostly by its own LED. -/
def twoDesks : LightField ℚ where
  daylight := fun desk => 4 + desk
  share := fun desk index => if desk = index then 1 else 1 / 2

theorem twoDesks_share_nonneg (desk index : Nat) :
    0 ≤ twoDesks.share desk index := by
  unfold twoDesks
  dsimp only
  split <;> norm_num

/-- A whole calibration of two desks; `first` lights its LED first. -/
def learnTwoDesks (first second : Fin 2) : List (CalibAction ℚ 2) :=
  initTogether ++
    stepOfTwo first second 1 2 10 24 15 ++
    stepOfTwo first second 1 1 20 244 125 ++
    stepOfTwo second first 0 2 30 25 14 ++
    stepOfTwo second first 1 1 40 245 124 ++
    loopAfter second 1 50 0 ++ loopAfter first 0 50 0

/-- Two nodes learn how much light each LED gives at each desk. -/
theorem gainMatrix_of_run_two_desks :
    ∃ net,
      Run (next (consecutive 2) id)
          (Learning twoDesks (consecutive 2) (fun _ => 0) id)
          (booted 2) net ∧
        (∀ n, (net.node n).fsm.done = true) ∧
        ∀ n desk index : Fin 2,
          (net.node n).fsm.gainMatrix desk index =
            twoDesks.share desk index := by
  obtain ⟨net, run, observed⟩ :=
    exists_run_of_observed
      (next (consecutive 2) id)
      (Learning twoDesks (consecutive 2) (fun _ => 0) id)
      (booted 2)
      (learnTwoDesks 0 1)
      (fun net => decide (∀ n, (net.node n).fsm.done = true))
      (by decide +kernel)
  rw [decide_eq_true_eq] at observed
  exact
    ⟨net, run, observed,
      gainMatrix_of_run (by decide)
        (fun desk _ index _ => twoDesks_share_nonneg desk index)
        (fresh_booted 2) run observed⟩

/-- They learn the daylight of both desks. -/
theorem residualArray_of_run_two_desks :
    ∃ net,
      Run (next (consecutive 2) abs)
          (fun net action =>
            Learning twoDesks (consecutive 2) (fun _ => 0) abs net action ∧
              PlacesResidual net action)
          (booted 2) net ∧
        (∀ n, (net.node n).fsm.done = true) ∧
        ∀ n desk : Fin 2,
          (net.node n).fsm.residualArray desk = twoDesks.daylight desk := by
  obtain ⟨net, run, observed⟩ :=
    exists_run_of_observed
      (next (consecutive 2) abs)
      (fun net action =>
        Learning twoDesks (consecutive 2) (fun _ => 0) abs net action ∧
          PlacesResidual net action)
      (booted 2)
      (learnTwoDesks 0 1)
      (fun net => decide (∀ n, (net.node n).fsm.done = true))
      (by decide +kernel)
  rw [decide_eq_true_eq] at observed
  exact
    ⟨net, run, observed,
      residualArray_of_run (by decide) abs_nonneg (fresh_booted 2) run
        observed⟩

end Schedules

end CalibNet

end DistributedLighting
