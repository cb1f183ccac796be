import DistributedLighting.CalibrationMatrices

namespace DistributedLighting

/-!
# The light under which a calibration measures

A reading is right when the LED of its step is on and every other one is off.
A node switches its LED off when it next looks at the count in `WaitReady`,
which no frame tells to the others.  The readings are right in every run in
which that look comes neither too early nor too late for them.
-/

namespace CalibNode

variable {K : Type} {N : Nat}

/-- The node has taken its reading of a step. -/
def HasRead
    (node : CalibNode K N)
    (step : Nat) : Prop :=
  step < node.passed ∨
    step = node.passed ∧ node.fsm.state = .waitReady

instance
    (node : CalibNode K N)
    (step : Nat) :
    Decidable (node.HasRead step) :=
  inferInstanceAs (Decidable (_ ∨ _))

/-- The LED of a node is on for its own step. -/
def LedLit
    (n : Fin N)
    (node : CalibNode K N) : Prop :=
  1 ≤ node.passed ∧
    n.val = designated node.passed ∧
    (node.fsm.state = .waitTransient ∨
      node.fsm.state = .waitReady ∧ node.polled = false)

/-- Readings stay taken. -/
theorem HasRead.mono
    {node after : CalibNode K N}
    {step : Nat}
    (read : node.HasRead step)
    (passed : node.passed ≤ after.passed)
    (state :
      after.passed = node.passed →
      node.fsm.state = .waitReady →
      after.fsm.state = .waitReady) :
    after.HasRead step := by
  rcases read with earlier | ⟨current, ready⟩
  · exact .inl (by omega)
  · by_cases same : after.passed = node.passed
    · exact .inr ⟨by omega, state same ready⟩
    · exact .inl (by omega)

end CalibNode

namespace CalibNet

variable {K : Type} {N : Nat}

/-- The action takes a reading of `runStateWaitTrasient`. -/
def Measures
    (net : CalibNet K N)
    (action : CalibAction K N) : Prop :=
  match action.does with
  | .mainLoop input =>
      (net.node action.node).stage = .main ∧
        (net.node action.node).mainState = .calibrate ∧
        (net.node action.node).fsm.state = .waitTransient ∧
        (net.node action.node).fsm.Elapsed input.now
  | _ => False

instance
    (net : CalibNet K N)
    (action : CalibAction K N) :
    Decidable (Measures net action) :=
  match action with
  | ⟨_, .mainLoop _⟩ => inferInstanceAs (Decidable (_ ∧ _ ∧ _ ∧ _))
  | ⟨_, .beginDrain⟩ | ⟨_, .take⟩ | ⟨_, .endDrain⟩ =>
      inferInstanceAs (Decidable False)

/-- The LEDs are as the step of a node requires. -/
def RightLight
    (net : CalibNet K N)
    (n : Fin N) : Prop :=
  ∀ k,
    (net.node k).led =
      if (k.val : Int) = (net.node n).fsm.nodeLedOn then
        pwm (net.node n).fsm.luxReadNum
      else
        0

/--
The node of an LED looks at the count only when all have read, and a reading is
only taken when the node of the previous LED has looked at the count.
-/
def Shielded
    (net : CalibNet K N)
    (action : CalibAction K N) : Prop :=
  match action.does with
  | .mainLoop input =>
      let node := net.node action.node
      (node.fsm.state = .waitReady →
        (action.node.val : Int) = node.fsm.nodeLedOn →
        ∀ m, (net.node m).HasRead node.passed) ∧
      (node.fsm.state = .waitTransient →
        node.fsm.Elapsed input.now →
        ∀ k,
          (net.node k).passed < node.passed →
          (k.val : Int) = (net.node k).fsm.nodeLedOn →
          (net.node k).polled = true)
  | _ => True

instance
    (net : CalibNet K N)
    (action : CalibAction K N) :
    Decidable (Shielded net action) :=
  match action with
  | ⟨_, .mainLoop _⟩ =>
      inferInstanceAs
        (Decidable ((_ → _ → ∀ _, _) ∧ (_ → _ → ∀ _, _ → _ → _)))
  | ⟨_, .beginDrain⟩ | ⟨_, .take⟩ | ⟨_, .endDrain⟩ =>
      inferInstanceAs (Decidable True)

/-- The LEDs of the nodes by their phases. -/
structure LightInvariant (net : CalibNet K N) : Prop where
  calib : CalibInvariant net
  lit :
    ∀ n,
      (net.node n).LedLit n →
      (net.node n).led = pwm (readingOf (net.node n).passed)
  unlit :
    ∀ n,
      (net.node n).mainState ≠ .run →
      ¬ (net.node n).LedLit n →
      (net.node n).led = 0
  /-- A node has looked at the count in its own step only after all have read. -/
  shielded :
    ∀ n,
      1 ≤ (net.node n).passed →
      n.val = designated (net.node n).passed →
      (net.node n).fsm.state = .waitReady →
      (net.node n).polled = true →
      ∀ m, (net.node m).HasRead (net.node n).passed

section Replace

variable {net : CalibNet K N} {n : Fin N} {node : CalibNode K N}
    {bus : Bus (Fin N) (CalibFrame K)}
    {progress : Fin N → Fin N → Progress}

/-- A step of one node keeps the lights of all others. -/
theorem LightInvariant.replace
    (invariant : LightInvariant net)
    (calib : CalibInvariant (net.replace n node bus progress))
    (lit :
      node.LedLit n →
      node.led = pwm (readingOf node.passed))
    (unlit :
      node.mainState ≠ .run →
      ¬ node.LedLit n →
      node.led = 0)
    (shielded :
      1 ≤ node.passed →
      n.val = designated node.passed →
      node.fsm.state = .waitReady →
      node.polled = true →
      ∀ m, (net.node m).HasRead node.passed)
    (passed : (net.node n).passed ≤ node.passed)
    (state :
      node.passed = (net.node n).passed →
      (net.node n).fsm.state = .waitReady →
      node.fsm.state = .waitReady) :
    LightInvariant (net.replace n node bus progress) := by
  have read :
      ∀ m step,
        (net.node m).HasRead step →
        ((net.replace n node bus progress).node m).HasRead step := by
    intro m step before
    by_cases same : m = n
    · subst m
      simp only [CalibNet.replace, Function.update_self]
      exact before.mono passed state
    · simpa only [CalibNet.replace, Function.update_of_ne same] using before
  refine
    { calib := calib
      lit := ?_
      unlit := ?_
      shielded := ?_ }
  · intro m
    by_cases same : m = n
    · subst m
      simpa only [CalibNet.replace, Function.update_self] using lit
    · simpa only [CalibNet.replace, Function.update_of_ne same] using
        invariant.lit m
  · intro m
    by_cases same : m = n
    · subst m
      simpa only [CalibNet.replace, Function.update_self] using unlit
    · simpa only [CalibNet.replace, Function.update_of_ne same] using
        invariant.unlit m
  · intro m some own ready polled k
    by_cases same : m = n
    · subst m
      simp only [CalibNet.replace, Function.update_self] at some own ready polled
      have before := shielded some own ready polled k
      have after := read k node.passed before
      simpa only [CalibNet.replace, Function.update_self] using after
    · simp only [CalibNet.replace, Function.update_of_ne same] at some own ready polled
      have before := invariant.shielded m some own ready polled k
      have after := read k (net.node m).passed before
      simpa only [CalibNet.replace, Function.update_of_ne same] using after

/-- A step that shows neither in the phase nor in the LED of its node. -/
theorem LightInvariant.quiet
    (invariant : LightInvariant net)
    (calib : CalibInvariant (net.replace n node bus progress))
    (led : node.led = (net.node n).led)
    (passed : node.passed = (net.node n).passed)
    (state : node.fsm.state = (net.node n).fsm.state)
    (polled : node.polled = (net.node n).polled)
    (running : node.mainState = .run ↔ (net.node n).mainState = .run) :
    LightInvariant (net.replace n node bus progress) := by
  have same : node.LedLit n ↔ (net.node n).LedLit n := by
    unfold CalibNode.LedLit
    rw [passed, state, polled]
  refine invariant.replace calib ?_ ?_ ?_ passed.ge ?_
  · intro isLit
    rw [led, passed]
    exact invariant.lit n (same.mp isLit)
  · intro notRun notLit
    rw [led]
    exact
      invariant.unlit n (fun run => notRun (running.mpr run))
        (fun isLit => notLit (same.mpr isLit))
  · intro some own ready looked
    rw [passed] at some own ⊢
    exact
      invariant.shielded n some own (state.symm.trans ready)
        (polled.symm.trans looked)
  · intro _ ready
    exact state.trans ready

/-- A measurement leaves the LED of its node as it is. -/
theorem LightInvariant.measured
    (invariant : LightInvariant net)
    (calib : CalibInvariant (net.replace n node bus progress))
    (calibrating : (net.node n).mainState = .calibrate)
    (transient : (net.node n).fsm.state = .waitTransient)
    (led : node.led = (net.node n).led)
    (passed : node.passed = (net.node n).passed)
    (state : node.fsm.state = .waitReady)
    (unpolled : node.polled = false) :
    LightInvariant (net.replace n node bus progress) := by
  have same : node.LedLit n ↔ (net.node n).LedLit n := by
    unfold CalibNode.LedLit
    rw [passed, state, transient, unpolled]
    simp
  refine invariant.replace calib ?_ ?_ ?_ passed.ge (fun _ _ => state)
  · intro isLit
    rw [led, passed]
    exact invariant.lit n (same.mp isLit)
  · intro _ notLit
    rw [led]
    refine invariant.unlit n ?_ (fun isLit => notLit (same.mpr isLit))
    rw [calibrating]
    decide
  · intro _ _ _ looked
    rw [unpolled] at looked
    cases looked

/-- After its last barrier a node's LED belongs to its controller. -/
theorem CalibInvariant.not_ledLit
    (invariant : CalibInvariant net)
    (running : (net.node n).mainState = .run) :
    ¬ (net.node n).LedLit n := by
  rintro ⟨_, own, _⟩
  have ok := invariant.nodes n
  rw [ok.phase.done_iff.mp (ok.running.mp running)] at own
  have inRange := n.isLt
  unfold designated at own
  omega

end Replace

section Readings

variable {net : CalibNet K N} {n : Fin N}

/-- A node that waits for the transient is not overtaken by a whole step. -/
theorem CalibInvariant.passed_le_of_transient
    (invariant : CalibInvariant net)
    (transient : (net.node n).fsm.state = .waitTransient)
    (k : Fin N) :
    (net.node k).passed ≤ (net.node n).passed := by
  have unsent : (net.node n).readySent = 0 := by
    simp [CalibNode.readySent, transient]
  have near : (net.node k).passed ≤ (net.node n).passed + 1 :=
    invariant.barrier.lockstep k n
  by_contra beyond
  have ahead : (net.node k).passed = (net.node n).passed + 1 := by omega
  have sent : (net.node n).readySent = 1 :=
    invariant.barrier.complete k n ahead
  omega

/-- The node of the LED is in the step of every node that waits for the transient. -/
theorem CalibInvariant.designated_passed
    (invariant : CalibInvariant net)
    {k : Fin N}
    (transient : (net.node n).fsm.state = .waitTransient)
    (own : k.val = designated (net.node n).passed) :
    (net.node k).passed = (net.node n).passed := by
  obtain ⟨some, within, _⟩ :=
    (invariant.nodes n).phase.of_waitTransient transient
  have seen : (net.node n).ledSeen = (net.node n).passed := by
    simp [CalibNode.ledSeen, transient]
  obtain ⟨entry, member, isLed⟩ :=
    (invariant.nodes n).lit (net.node n).passed some (by omega) within
  obtain ⟨_, sender, reached⟩ := invariant.ledOn entry member _ isLed
  have same : entry.sender = k := Fin.ext (sender.trans own.symm)
  rw [same] at reached
  exact Nat.le_antisymm (invariant.passed_le_of_transient transient k) reached

/-- A shielded measurement finds the LEDs as its step requires. -/
theorem LightInvariant.rightLight
    (invariant : LightInvariant net)
    {action : CalibAction K N}
    (permitted : Shielded net action)
    (measures : Measures net action) :
    RightLight net action.node := by
  obtain ⟨n, does⟩ := action
  cases does with
  | beginDrain => exact measures.elim
  | take => exact measures.elim
  | endDrain => exact measures.elim
  | mainLoop input =>
      obtain ⟨_, _, transient, elapsed⟩ := measures
      have transient : (net.node n).fsm.state = .waitTransient :=
        transient
      have calib := invariant.calib
      obtain ⟨some, within, nodeLedOn, luxReadNum⟩ :=
        (calib.nodes n).phase.of_waitTransient transient
      intro k
      show
        (net.node k).led =
          if (k.val : Int) = (net.node n).fsm.nodeLedOn then
            pwm (net.node n).fsm.luxReadNum
          else
            0
      simp only [nodeLedOn, luxReadNum, Int.natCast_inj]
      have behind := calib.passed_le_of_transient transient k
      have notRead : ¬ (net.node n).HasRead (net.node n).passed := by
        rintro (past | ⟨_, ready⟩)
        · exact Nat.lt_irrefl _ past
        · rw [transient] at ready
          cases ready
      by_cases own : k.val = designated (net.node n).passed
      · rw [if_pos own]
        have same := calib.designated_passed transient own
        have lit : (net.node k).LedLit k := by
          refine ⟨by omega, by rw [same]; exact own, ?_⟩
          cases (calib.nodes k).phase with
          | calibInit _ none => omega
          | residual _ none => omega
          | awaiting _ _ _ _ _ other =>
              rw [same] at other
              exact absurd own other
          | transient state => exact .inl state
          | measured state =>
              refine .inr ⟨state, ?_⟩
              rw [Bool.eq_false_iff]
              intro looked
              refine notRead ?_
              rw [← same] at own ⊢
              exact
                invariant.shielded k (by omega) own state looked n
          | finished _ all => omega
        rw [← same]
        exact invariant.lit k lit
      · rw [if_neg own]
        refine invariant.unlit k ?_ ?_
        · intro running
          have ok := calib.nodes k
          have all := ok.phase.done_iff.mp (ok.running.mp running)
          omega
        · rintro ⟨someK, ownK, stateK⟩
          have earlier : (net.node k).passed < (net.node n).passed := by
            refine lt_of_le_of_ne behind ?_
            intro same
            rw [same] at ownK
            exact own ownK
          have near : (net.node n).passed ≤ (net.node k).passed + 1 :=
            calib.barrier.lockstep n k
          have sent : (net.node k).readySent = 1 :=
            calib.barrier.complete n k (by
              show (net.node n).passed = (net.node k).passed + 1
              omega)
          have ledOn := (calib.nodes k).phase.nodeLedOn_eq someK
          have looked :=
            permitted.2 transient elapsed k earlier (by rw [ledOn, ownK])
          rcases stateK with isTransient | ⟨_, unlooked⟩
          · simp [CalibNode.readySent, isTransient] at sent
          · rw [looked] at unlooked
            cases unlooked

end Readings

section Steps

variable [Field K]
    {registry : Registry N} {voltageToLux : K → K}
    {net after : CalibNet K N} {n : Fin N}

/-- A run of `mainFSM.loop()` keeps the lights. -/
theorem LightInvariant.endLoop
    (invariant : LightInvariant net)
    {input : MainInput K}
    {ran : Ran K N}
    (looks :
      (net.node n).fsm.state = .waitReady →
      (n.val : Int) = (net.node n).fsm.nodeLedOn →
      ∀ m, (net.node m).HasRead (net.node n).passed)
    (case : (net.node n).MainCase registry voltageToLux n input ran) :
    LightInvariant (net.endLoop n ran) := by
  have calib := invariant.calib.endLoop case
  have ok := invariant.calib.nodes n
  cases case with
  | waking state time waiting notRun =>
      refine
        invariant.quiet calib rfl rfl rfl rfl (iff_of_false notRun ?_)
      rw [waiting]
      decide
  | controlled running =>
      have unlit := invariant.calib.not_ledLit running
      exact
        invariant.replace calib (fun isLit => absurd isLit unlit)
          (fun notRun => absurd running notRun) (invariant.shielded n)
          (Nat.le_refl _) (fun _ ready => ready)
  | init calibrating atInit =>
      obtain ⟨none, _⟩ := ok.phase.of_calibInit atInit
      have notRun : (net.node n).mainState ≠ .run := by
        rw [calibrating]
        decide
      have unlit : ¬ (net.node n).LedLit n := by
        rintro ⟨some, _⟩
        omega
      refine
        invariant.replace calib ?_
          (fun _ _ => invariant.unlit n notRun unlit) ?_ (Nat.le_refl _)
          (fun _ _ => rfl)
      · rintro ⟨some, _⟩
        have some : 1 ≤ (net.node n).passed := some
        omega
      · intro some
        have some : 1 ≤ (net.node n).passed := some
        omega
  | poll calibrating ready missing =>
      refine
        invariant.replace calib ?_ (fun _ _ => rfl) ?_ (Nat.le_refl _)
          (fun _ ready => ready)
      · rintro ⟨_, _, transient | ⟨_, notPolled⟩⟩
        · have transient : (net.node n).fsm.state = .waitTransient :=
            transient
          rw [ready] at transient
          cases transient
        · cases notPolled
      · intro some own _ _
        refine looks ready ?_
        rw [ok.phase.nodeLedOn_eq some]
        exact congrArg Nat.cast own
  | finish calibrating ready all last =>
      have notRun : (net.node n).mainState ≠ .run := by
        rw [calibrating]
        decide
      have notDone := invariant.calib.not_done notRun
      obtain ⟨_, nodeLedOn, _⟩ := ok.phase.advance ready notDone
      have notOwn : n.val ≠ designated ((net.node n).passed + 1) := by
        have inRange := n.isLt
        rw [nodeLedOn] at last
        omega
      refine
        invariant.replace calib ?_ (fun _ _ => rfl) ?_ (Nat.le_succ _) ?_
      · rintro ⟨_, own, _⟩
        exact absurd own notOwn
      · intro _ own
        exact absurd own notOwn
      · intro same
        exact absurd same (Nat.succ_ne_self _)
  | light calibrating ready all more own =>
      have notRun : (net.node n).mainState ≠ .run := by
        rw [calibrating]
        decide
      have notDone := invariant.calib.not_done notRun
      obtain ⟨_, nodeLedOn, luxReadNum⟩ := ok.phase.advance ready notDone
      have inside : designated ((net.node n).passed + 1) < N := by
        rw [nodeLedOn] at more
        omega
      have duty : n.val = designated ((net.node n).passed + 1) := by
        rw [nodeLedOn] at own
        exact ((registry.nodesList_inj inside n.isLt).mp own).symm
      refine
        invariant.replace calib ?_ ?_ ?_ (Nat.le_succ _) ?_
      · intro _
        exact congrArg pwm luxReadNum
      · intro _ unlit
        exact (unlit ⟨Nat.le_add_left _ _, duty, .inl rfl⟩).elim
      · intro _ _ isReady
        cases isReady
      · intro same
        exact absurd same (Nat.succ_ne_self _)
  | dark calibrating ready all more other =>
      refine
        invariant.replace calib ?_ (fun _ _ => rfl) ?_ (Nat.le_succ _) ?_
      · rintro ⟨_, _, transient | ⟨isReady, _⟩⟩
        · cases transient
        · cases isReady
      · intro _ _ isReady
        cases isReady
      · intro same
        exact absurd same (Nat.succ_ne_self _)
  | ignore calibrating awaiting noEvent =>
      exact invariant.quiet calib rfl rfl rfl rfl Iff.rfl
  | consume calibrating awaiting event =>
      have notRun : (net.node n).mainState ≠ .run := by
        rw [calibrating]
        decide
      obtain ⟨_, _, _, _, other⟩ := ok.phase.of_waitLedOn awaiting
      have unlit : ¬ (net.node n).LedLit n := by
        rintro ⟨_, own, _⟩
        exact other own
      refine
        invariant.replace calib ?_
          (fun _ _ => invariant.unlit n notRun unlit) ?_ (Nat.le_refl _) ?_
      · rintro ⟨_, own, _⟩
        exact absurd own other
      · intro _ own
        exact absurd own other
      · intro _ ready
        rw [awaiting] at ready
        cases ready
  | settling calibrating transient early =>
      exact invariant.quiet calib rfl rfl rfl rfl Iff.rfl
  | first reading measured calibrating transient elapsed single =>
      exact invariant.measured calib calibrating transient rfl rfl rfl rfl
  | second reading measured calibrating transient elapsed pair =>
      exact invariant.measured calib calibrating transient rfl rfl rfl rfl

/-- All LEDs are off before the calibration. -/
theorem LightInvariant.initial (fresh : Fresh net) :
    LightInvariant net where
  calib := .initial fresh
  lit := by
    rintro n ⟨some, _⟩
    rw [fresh.passed n] at some
    omega
  unlit := fun n _ _ => fresh.led n
  shielded := by
    intro n some
    rw [fresh.passed n] at some
    omega

end Steps

section Runs

variable [Field K] [LinearOrder K]
    {registry : Registry N} {voltageToLux : K → K}
    {start net after : CalibNet K N}

/-- A shielded step keeps the lights. -/
theorem LightInvariant.step
    (invariant : LightInvariant net)
    {action : CalibAction K N}
    (permitted : Shielded net action)
    (taken : next registry voltageToLux net action = some after) :
    LightInvariant after := by
  obtain ⟨n, does⟩ := action
  have calib := invariant.calib.step taken
  have effect := effect_of_next taken
  cases effect with
  | beginDrain atStart =>
      exact invariant.quiet calib rfl rfl rfl rfl Iff.rfl
  | @take entry rest draining queued =>
      refine invariant.quiet calib rfl rfl ?_ rfl Iff.rfl
      obtain ⟨sender, message, label⟩ := entry
      cases message with
      | calibReady value =>
          obtain ⟨gains, residuals, received⟩ :=
            (net.node n).fsm.received_calibReady sender value
          simp only [CalibNode.receive, received]
      | calibLedOn => rfl
  | endDrain draining drained =>
      exact invariant.quiet calib rfl rfl rfl rfl Iff.rfl
  | mainLoop input atMain =>
      exact
        invariant.endLoop permitted.1
          (CalibNode.mainCase registry voltageToLux n input (net.node n))

/-- In every shielded run every reading is taken under the right light. -/
theorem rightLight_of_run
    {action : CalibAction K N}
    (fresh : Fresh start)
    (run : Run (next registry voltageToLux) Shielded start net)
    (permitted : Shielded net action)
    (measures : Measures net action) :
    RightLight net action.node := by
  have invariant : LightInvariant net :=
    run.invariant LightInvariant (.initial fresh)
      fun invariant permitted taken => invariant.step permitted taken
  exact invariant.rightLight permitted measures

end Runs

section Schedules

/-- Two nodes, up to the first reading of the node whose LED is off. -/
def untilReading : List (CalibAction ℚ 2) :=
  initTogether ++ loopAfter node0 1 10 0 ++ loopAfter node1 2 10 0 ++
    loopAfter node1 0 10 0 ++ loopAfter node0 0 12 20

/-- The reading that node 1 takes next. -/
def readingOfNode1 : CalibAction ℚ 2 :=
  ⟨node1, .mainLoop ⟨13000000, 10, 0, 0⟩⟩

/-- Node 1 reads while node 0 still has its LED on. -/
theorem rightLight_two_nodes :
    ∃ net,
      Run (next (consecutive 2) id) Shielded (booted 2) net ∧
        Shielded net readingOfNode1 ∧
        Measures net readingOfNode1 ∧
        RightLight net 1 := by
  obtain ⟨net, run, observed⟩ :=
    exists_run_of_observed
      (next (consecutive 2) id)
      Shielded
      (booted 2)
      (untilReading ++
        [⟨1, .beginDrain⟩, ⟨1, .take⟩, ⟨1, .endDrain⟩])
      (fun net =>
        decide
          (Shielded net readingOfNode1 ∧ Measures net readingOfNode1))
      (by decide +kernel)
  rw [decide_eq_true_eq] at observed
  exact
    ⟨net, run, observed.1, observed.2,
      rightLight_of_run (fresh_booted 2) run observed.1 observed.2⟩

/-- Node 0 has looked at the count, and node 1 reads in the dark. -/
theorem not_rightLight_two_nodes :
    ¬ ∀ (start net : CalibNet ℚ 2) (action : CalibAction ℚ 2),
        Fresh start →
        Run (next (consecutive 2) id) (fun _ _ => True) start net →
        Measures net action →
        RightLight net action.node := by
  intro claim
  obtain ⟨net, run, observed⟩ :=
    exists_run_of_observed
      (next (consecutive 2) id)
      (fun _ _ => True)
      (booted 2)
      (untilReading ++ loopAfter 0 0 12 0 ++
        [⟨1, .beginDrain⟩, ⟨1, .take⟩, ⟨1, .endDrain⟩])
      (fun net =>
        decide
          (Measures net readingOfNode1 ∧
            (net.node 1).fsm.nodeLedOn = 0 ∧
            (net.node 1).fsm.luxReadNum = 0 ∧
            (net.node 0).led = 0))
      (by decide +kernel)
  rw [decide_eq_true_eq] at observed
  obtain ⟨measures, nodeLedOn, luxReadNum, dark⟩ := observed
  have bright :=
    claim _ net readingOfNode1 (fresh_booted 2) run measures 0
  have required : (net.node 0).led = pwm 0 := by
    rw [bright]
    show
      (if ((0 : Fin 2).val : Int) = (net.node 1).fsm.nodeLedOn then
        pwm (net.node 1).fsm.luxReadNum
      else
        0) = pwm 0
    simp [nodeLedOn, luxReadNum]
  rw [dark] at required
  exact absurd required (by decide)

end Schedules

end CalibNet

end DistributedLighting
