import DistributedLighting.CalibrationMatrices

namespace DistributedLighting

/-!
# Progress of the calibration

`runStateWaitReady` tests the count for equality, so a `CAN_CALIB_READY` that is
counted a step too early would hang its receiver.  Under the timing assumption
every node completes a loop iteration while another one waits for its transient.
That is enough for all of them to pass the barrier before the next
`CAN_CALIB_READY` is sent, and then no node is ever stuck.
-/

namespace CalibNode

variable {K : Type} {N : Nat} [Field K]
    {registry : Registry N} {voltageToLux : K → K}
    {n : Fin N} {input : MainInput K}
    {node : CalibNode K N} {ran : Ran K N}

/-- Barriers are never passed back. -/
theorem MainCase.passed_le
    (case : MainCase registry voltageToLux n input node ran) :
    node.passed ≤ ran.node.passed := by
  cases case <;> first | exact Nat.le_refl _ | exact Nat.le_succ _

/-- A node that is in `WaitTransient` without having entered it was there before. -/
theorem MainCase.stays
    (case : MainCase registry voltageToLux n input node ran)
    (notEntered : ran.entered = false)
    (transient : ran.node.fsm.state = .waitTransient) :
    node.fsm.state = .waitTransient ∧ ran.node.passed = node.passed := by
  cases case with
  | waking => exact ⟨transient, rfl⟩
  | controlled => exact ⟨transient, rfl⟩
  | init => cases transient
  | poll => exact ⟨transient, rfl⟩
  | finish _ ready =>
      have same := node.fsm.advance_frame.1
      have transient : node.fsm.advance.state = .waitTransient := transient
      rw [same, ready] at transient
      cases transient
  | light => cases notEntered
  | dark => cases transient
  | ignore => exact ⟨transient, rfl⟩
  | consume => cases notEntered
  | settling => exact ⟨transient, rfl⟩
  | first => cases transient
  | second => cases transient

/-- Only `CalibInit` and a measurement send a `CAN_CALIB_READY`. -/
theorem MainCase.sent_ready
    (case : MainCase registry voltageToLux n input node ran)
    {value : K}
    (sent : .calibReady value ∈ ran.sent) :
    (node.fsm.state = .calibInit ∨
        node.fsm.state = .waitTransient ∧ node.fsm.Elapsed input.now) ∧
      ran.node.passed = node.passed := by
  cases case with
  | init _ atInit => exact ⟨.inl atInit, rfl⟩
  | light => simp at sent
  | first _ _ _ transient elapsed =>
      exact ⟨.inr ⟨transient, elapsed⟩, rfl⟩
  | second _ _ _ transient elapsed =>
      exact ⟨.inr ⟨transient, elapsed⟩, rfl⟩
  | waking => cases sent
  | controlled => cases sent
  | poll => cases sent
  | finish => cases sent
  | dark => cases sent
  | ignore => cases sent
  | consume => cases sent
  | settling => cases sent

/-- Nobody falls back into `WakeupWait`. -/
theorem MainCase.awake
    (case : MainCase registry voltageToLux n input node ran)
    (before :
      node.fsm.state ≠ .calibInit → node.mainState ≠ .wakeupWait)
    (begun : ran.node.fsm.state ≠ .calibInit) :
    ran.node.mainState ≠ .wakeupWait := by
  have calibrates :
      node.mainState = .calibrate → node.mainState ≠ .wakeupWait := by
    intro calibrating
    rw [calibrating]
    decide
  have finishes :
      ∀ done : Bool,
        node.mainState = .calibrate →
        (if done then MainState.run else node.mainState) ≠
          .wakeupWait := by
    intro done calibrating
    rw [calibrating]
    cases done <;> decide
  cases case with
  | waking _ _ waiting => exact absurd waiting (before begun)
  | controlled => exact before begun
  | init calibrating => exact calibrates calibrating
  | poll calibrating => exact finishes _ calibrating
  | finish calibrating => exact finishes true calibrating
  | light calibrating => exact finishes _ calibrating
  | dark calibrating => exact finishes _ calibrating
  | ignore => exact before begun
  | consume calibrating => exact calibrates calibrating
  | settling => exact before begun
  | first _ _ calibrating => exact calibrates calibrating
  | second _ _ calibrating => exact calibrates calibrating

/-- A node that finds its count full passes the barrier. -/
theorem MainCase.passes
    (case : MainCase registry voltageToLux n input node ran)
    (calibrating : node.mainState = .calibrate)
    (ready : node.fsm.state = .waitReady)
    (all : node.fsm.numNodesReady = N) :
    ran.node.passed = node.passed + 1 := by
  cases case with
  | waking _ _ waiting => rw [calibrating] at waiting; cases waiting
  | controlled running => rw [calibrating] at running; cases running
  | init _ atInit => rw [ready] at atInit; cases atInit
  | poll _ _ missing => exact absurd all missing
  | finish => rfl
  | light => rfl
  | dark => rfl
  | ignore _ awaiting => rw [ready] at awaiting; cases awaiting
  | consume _ awaiting => rw [ready] at awaiting; cases awaiting
  | settling _ transient => rw [ready] at transient; cases transient
  | first _ _ _ transient => rw [ready] at transient; cases transient
  | second _ _ _ transient => rw [ready] at transient; cases transient

/-- For some clock and sensor, `mainFSM.loop()` changes the state of the node. -/
def CanMove
    (registry : Registry N)
    (voltageToLux : K → K)
    (n : Fin N)
    (node : CalibNode K N) : Prop :=
  ∃ input,
    let after := (node.mainLoop registry voltageToLux n input).node
    after.mainState ≠ node.mainState ∨ after.fsm.state ≠ node.fsm.state

theorem canMove_of_wakeupWait
    (waiting : node.mainState = .wakeupWait) :
    node.CanMove registry voltageToLux n := by
  refine ⟨⟨node.mainTransitionTime + 3000000, 0, 0, 0⟩, .inl ?_⟩
  simp [mainLoop, waiting]

theorem canMove_of_calibInit
    (calibrating : node.mainState = .calibrate)
    (atInit : node.fsm.state = .calibInit) :
    node.CanMove registry voltageToLux n := by
  refine ⟨⟨0, 0, 0, 0⟩, .inr ?_⟩
  simp [mainLoop, calibrating, atInit, loopInit,
    CalibrationFSM.runStateInit, CalibrationFSM.setState]

theorem canMove_of_full
    (calibrating : node.mainState = .calibrate)
    (ready : node.fsm.state = .waitReady)
    (all : node.fsm.numNodesReady = N) :
    node.CanMove registry voltageToLux n := by
  refine ⟨⟨0, 0, 0, 0⟩, ?_⟩
  have case := mainCase registry voltageToLux n ⟨0, 0, 0, 0⟩ node
  revert case
  generalize node.mainLoop registry voltageToLux n ⟨0, 0, 0, 0⟩ = ran
  intro case
  cases case with
  | waking _ _ waiting => rw [calibrating] at waiting; cases waiting
  | controlled running => rw [calibrating] at running; cases running
  | init _ atInit => rw [ready] at atInit; cases atInit
  | poll _ _ missing => exact absurd all missing
  | finish =>
      refine .inl ?_
      show MainState.run ≠ node.mainState
      rw [calibrating]
      decide
  | light =>
      refine .inr ?_
      show CalibrationState.waitTransient ≠ node.fsm.state
      rw [ready]
      decide
  | dark =>
      refine .inr ?_
      show CalibrationState.waitLedOn ≠ node.fsm.state
      rw [ready]
      decide
  | ignore _ awaiting => rw [ready] at awaiting; cases awaiting
  | consume _ awaiting => rw [ready] at awaiting; cases awaiting
  | settling _ transient => rw [ready] at transient; cases transient
  | first _ _ _ transient => rw [ready] at transient; cases transient
  | second _ _ _ transient => rw [ready] at transient; cases transient

theorem canMove_of_event
    (calibrating : node.mainState = .calibrate)
    (awaiting : node.fsm.state = .waitLedOn)
    (event : node.fsm.otherNodeLedOn = true) :
    node.CanMove registry voltageToLux n := by
  refine ⟨⟨0, 0, 0, 0⟩, .inr ?_⟩
  simp [mainLoop, calibrating, awaiting, loopWaitLedOn,
    CalibrationFSM.runStateWaitLedOn, event, CalibrationFSM.setState]

theorem canMove_of_waitTransient
    (calibrating : node.mainState = .calibrate)
    (transient : node.fsm.state = .waitTransient) :
    node.CanMove registry voltageToLux n := by
  obtain ⟨now, elapsed⟩ : ∃ now, node.fsm.Elapsed now := by
    refine ⟨node.fsm.lastTransitionTime + 2000000, ?_⟩
    unfold CalibrationFSM.Elapsed transientTime
    rw [BitVec.add_comm, BitVec.add_sub_cancel]
    decide
  refine ⟨⟨now, 0, 0, 0⟩, .inr ?_⟩
  have case := mainCase registry voltageToLux n ⟨now, 0, 0, 0⟩ node
  revert case
  generalize node.mainLoop registry voltageToLux n ⟨now, 0, 0, 0⟩ = ran
  intro case
  cases case with
  | waking _ _ waiting => rw [calibrating] at waiting; cases waiting
  | controlled running => rw [calibrating] at running; cases running
  | init _ atInit => rw [transient] at atInit; cases atInit
  | poll _ ready => rw [transient] at ready; cases ready
  | finish _ ready => rw [transient] at ready; cases ready
  | light _ ready => rw [transient] at ready; cases ready
  | dark _ ready => rw [transient] at ready; cases ready
  | ignore _ awaiting => rw [transient] at awaiting; cases awaiting
  | consume _ awaiting => rw [transient] at awaiting; cases awaiting
  | settling _ _ early => exact absurd elapsed early
  | first =>
      show CalibrationState.waitReady ≠ node.fsm.state
      rw [transient]
      decide
  | second =>
      show CalibrationState.waitReady ≠ node.fsm.state
      rw [transient]
      decide

end CalibNode

namespace CalibNet

variable {K : Type} {N : Nat}

/--
A node leaves `WaitTransient` only after every other one has started and
completed a loop iteration since it entered.
-/
def Punctual
    (net : CalibNet K N)
    (action : CalibAction K N) : Prop :=
  match action.does with
  | .mainLoop input =>
      (net.node action.node).fsm.state = .waitTransient →
      (net.node action.node).fsm.Elapsed input.now →
      ∀ k, k ≠ action.node → net.progress action.node k = .completed
  | _ => True

instance
    (net : CalibNet K N)
    (action : CalibAction K N) :
    Decidable (Punctual net action) :=
  match action with
  | ⟨_, .mainLoop _⟩ => inferInstanceAs (Decidable (_ → _ → ∀ _, _ → _))
  | ⟨_, .beginDrain⟩ | ⟨_, .take⟩ | ⟨_, .endDrain⟩ =>
      inferInstanceAs (Decidable True)

/-- What the timing assumption adds to the invariant. -/
structure ProgressInvariant (net : CalibNet K N) : Prop where
  calib : CalibInvariant net
  awake :
    ∀ n,
      (net.node n).fsm.state ≠ .calibInit →
      (net.node n).mainState ≠ .wakeupWait
  /-- No `CAN_CALIB_READY` is ahead of a node. -/
  prompt :
    ∀ entry ∈ net.bus.log,
      ∀ step,
        entry.frame.readyStep? = some step →
        ∀ n, step ≤ (net.node n).passed
  /-- A loop iteration during the transient of another node catches up with it. -/
  completed :
    ∀ m n,
      m ≠ n →
      (net.node m).fsm.state = .waitTransient →
      net.progress m n = .completed →
      (net.node m).passed ≤ (net.node n).passed
  /-- The drain of such an iteration completes the count of a node behind. -/
  started :
    ∀ m n,
      m ≠ n →
      (net.node m).fsm.state = .waitTransient →
      net.progress m n = .started →
      (net.node n).passed < (net.node m).passed →
      (net.node n).stage = .main →
      (net.node n).fsm.numNodesReady = N

section Counts

variable {net : CalibNet K N} {n : Fin N}

/-- A prompt node counts at most its peers. -/
theorem ProgressInvariant.counted_le
    (invariant : ProgressInvariant net)
    (n : Fin N) :
    (net.node n).counted.length ≤ N - 1 := by
  have current :
      ∀ entry ∈ net.toBarrier.counted n,
        CountingBarrier.label CalibFrame.readyStep? entry ≤
          net.toBarrier.round n := by
    intro entry member
    obtain ⟨onBus, isToken⟩ :=
      invariant.calib.barrier.mem_log_of_mem_counted member
    obtain ⟨step, labelled⟩ := Option.isSome_iff_exists.mp isToken
    have label :
        CountingBarrier.label CalibFrame.readyStep? entry = step := by
      simp [CountingBarrier.label, labelled]
    rw [label]
    exact invariant.prompt entry onBus step labelled n
  have within := invariant.calib.barrier.length_counted_le current
  rw [Fintype.card_fin, Nat.one_mul] at within
  exact within

/-- `numNodesReady` never exceeds the number of nodes. -/
theorem ProgressInvariant.numNodesReady_le
    (invariant : ProgressInvariant net)
    (n : Fin N) :
    (net.node n).fsm.numNodesReady ≤ N := by
  have count := (invariant.calib.nodes n).count
  have counted := invariant.counted_le n
  have sent : (net.node n).readySent ≤ 1 :=
    invariant.calib.barrier.sentWithin n
  have positive := n.pos
  omega

/-- A drained node has a full count once every node has sent its `CAN_CALIB_READY`. -/
theorem ProgressInvariant.full_of_drained
    (invariant : ProgressInvariant net)
    (drained : net.bus.fifo n = [])
    (all :
      ∀ peer,
        (net.node n).passed < (net.node peer).passed ∨
          (net.node n).passed = (net.node peer).passed ∧
            (net.node peer).readySent = 1)
    (sent : (net.node n).readySent = 1) :
    (net.node n).fsm.numNodesReady = N := by
  have enough :=
    invariant.calib.barrier.length_counted_ge
      (fun peer _ => all peer) drained
  have enough : 1 * (Fintype.card (Fin N) - 1) ≤
      (net.node n).counted.length :=
    enough
  rw [Fintype.card_fin] at enough
  have counted := invariant.counted_le n
  have count := (invariant.calib.nodes n).count
  have positive := n.pos
  omega

/-- A step outside `mainFSM.loop()`, which leaves the machine in its state. -/
theorem ProgressInvariant.replace
    (invariant : ProgressInvariant net)
    {node : CalibNode K N}
    {bus : Bus (Fin N) (CalibFrame K)}
    {progress : Fin N → Fin N → Progress}
    (calib : CalibInvariant (net.replace n node bus progress))
    (log : bus.log = net.bus.log)
    (state : node.fsm.state = (net.node n).fsm.state)
    (mainState : node.mainState = (net.node n).mainState)
    (passed : node.passed = (net.node n).passed)
    (completed :
      ∀ m k,
        progress m k = .completed → net.progress m k = .completed)
    (started :
      ∀ m k,
        k ≠ n →
        progress m k = .started →
        net.progress m k = .started)
    (full :
      ∀ m,
        m ≠ n →
        (net.node m).fsm.state = .waitTransient →
        progress m n = .started →
        (net.node n).passed < (net.node m).passed →
        node.stage = .main →
        node.fsm.numNodesReady = N) :
    ProgressInvariant (net.replace n node bus progress) := by
  have sameState :
      ∀ m,
        ((net.replace n node bus progress).node m).fsm.state =
          (net.node m).fsm.state := by
    intro m
    by_cases same : m = n
    · subst m
      simpa only [CalibNet.replace, Function.update_self] using state
    · simp only [CalibNet.replace, Function.update_of_ne same]
  have samePassed :
      ∀ m,
        ((net.replace n node bus progress).node m).passed =
          (net.node m).passed := by
    intro m
    by_cases same : m = n
    · subst m
      simpa only [CalibNet.replace, Function.update_self] using passed
    · simp only [CalibNet.replace, Function.update_of_ne same]
  refine
    { calib := calib
      awake := ?_
      prompt := ?_
      completed := ?_
      started := ?_ }
  · intro m
    rw [sameState]
    by_cases same : m = n
    · subst m
      simp only [CalibNet.replace, Function.update_self, mainState]
      exact invariant.awake n
    · simp only [CalibNet.replace, Function.update_of_ne same]
      exact invariant.awake m
  · intro entry member step labelled m
    have member : entry ∈ bus.log := member
    rw [log] at member
    rw [samePassed]
    exact invariant.prompt entry member step labelled m
  · intro m k different transient isCompleted
    rw [sameState] at transient
    rw [samePassed, samePassed]
    exact
      invariant.completed m k different transient
        (completed m k isCompleted)
  · intro m k different transient isStarted behind atMain
    rw [sameState] at transient
    rw [samePassed, samePassed] at behind
    by_cases same : k = n
    · subst k
      simp only [CalibNet.replace, Function.update_self] at atMain ⊢
      exact full m different transient isStarted behind atMain
    · simp only [CalibNet.replace, Function.update_of_ne same] at atMain ⊢
      exact
        invariant.started m k different transient
          (started m k same isStarted) behind atMain

/-- The frames that one run of `mainFSM.loop()` adds to the bus. -/
theorem mem_sendAll
    {bus : Bus (Fin N) (CalibFrame K)}
    {step : Nat}
    {messages : List (CalibMessage K)}
    {entry : Entry (Fin N) (CalibFrame K)} :
    entry ∈ (sendAll bus n step messages).log ↔
      entry ∈ bus.log ∨
        ∃ message ∈ messages, entry = ⟨n, ⟨message, step⟩⟩ := by
  unfold sendAll
  induction messages generalizing bus with
  | nil => simp
  | cons message rest inductionHypothesis =>
      rw [List.foldl_cons, inductionHypothesis, Bus.broadcast_log,
        List.mem_append, List.mem_singleton, List.exists_mem_cons_iff]
      exact or_assoc

/-- A node that has passed the fewest barriers. -/
theorem exists_last
    (net : CalibNet K N)
    (n : Fin N) :
    ∃ last, ∀ m, (net.node last).passed ≤ (net.node m).passed := by
  obtain ⟨last, _, least⟩ :=
    Finset.exists_min_image Finset.univ
      (fun m => (net.node m).passed) ⟨n, Finset.mem_univ n⟩
  exact ⟨last, fun m => least m (Finset.mem_univ m)⟩

end Counts

section Steps

variable [Field K]
    {registry : Registry N} {voltageToLux : K → K}
    {net : CalibNet K N} {n : Fin N}

/-- A run of `mainFSM.loop()` during the transient of another node catches up with it. -/
theorem ProgressInvariant.catches_up
    (invariant : ProgressInvariant net)
    {input : MainInput K}
    {ran : Ran K N}
    (case : (net.node n).MainCase registry voltageToLux n input ran)
    {m : Fin N}
    (different : m ≠ n)
    (transient : (net.node m).fsm.state = .waitTransient)
    (atMain : (net.node n).stage = .main)
    (progress :
      net.progress m n = .completed ∨ net.progress m n = .started) :
    (net.node m).passed ≤ ran.node.passed := by
  have kept := case.passed_le
  rcases progress with completed | started
  · have reached :=
      invariant.completed m n different transient completed
    omega
  · by_contra behind
    have before : (net.node n).passed < (net.node m).passed := by omega
    have near : (net.node m).passed ≤ (net.node n).passed + 1 :=
      invariant.calib.barrier.lockstep m n
    have sent : (net.node n).readySent = 1 :=
      invariant.calib.barrier.complete m n (by
        show (net.node m).passed = (net.node n).passed + 1
        omega)
    have all :=
      invariant.started m n different transient started before atMain
    obtain ⟨ready, notDone⟩ :
        (net.node n).fsm.state = .waitReady ∧
          (net.node n).fsm.done = false := by
      unfold CalibNode.readySent at sent
      by_contra unsent
      rw [if_neg unsent] at sent
      cases sent
    have awake : (net.node n).mainState ≠ .wakeupWait := by
      refine invariant.awake n ?_
      rw [ready]
      decide
    have notRun : (net.node n).mainState ≠ .run := by
      intro running
      have done := (invariant.calib.nodes n).running.mp running
      rw [notDone] at done
      cases done
    have calibrating : (net.node n).mainState = .calibrate := by
      cases state : (net.node n).mainState with
      | wakeupWait => exact absurd state awake
      | calibrate => rfl
      | run => exact absurd state notRun
    have passes := case.passes calibrating ready all
    omega

/-- The progress of other nodes when one completes its loop iteration. -/
theorem completedLoop_cases
    {progress : Fin N → Fin N → Progress}
    {m k : Fin N}
    (isCompleted : completedLoop progress n m k = .completed) :
    progress m k = .completed ∨ k = n ∧ progress m k = .started := by
  unfold completedLoop at isCompleted
  split at isCompleted
  · rename_i started
    exact .inr started
  · exact .inl isCompleted

theorem completedLoop_started
    {progress : Fin N → Fin N → Progress}
    {m k : Fin N}
    (isStarted : completedLoop progress n m k = .started) :
    k ≠ n ∧ progress m k = .started := by
  unfold completedLoop at isStarted
  split at isStarted
  · cases isStarted
  · rename_i notBoth
    exact ⟨fun same => notBoth ⟨same, isStarted⟩, isStarted⟩

/-- A punctual run of `mainFSM.loop()` keeps the invariant. -/
theorem ProgressInvariant.endLoop
    (invariant : ProgressInvariant net)
    {input : MainInput K}
    {ran : Ran K N}
    (atMain : (net.node n).stage = .main)
    (punctual :
      (net.node n).fsm.state = .waitTransient →
      (net.node n).fsm.Elapsed input.now →
      ∀ k, k ≠ n → net.progress n k = .completed)
    (case : (net.node n).MainCase registry voltageToLux n input ran) :
    ProgressInvariant (net.endLoop n ran) := by
  have own :
      (net.endLoop n ran).node n = { ran.node with stage := .start } :=
    Function.update_self _ _ _
  have others :
      ∀ m, m ≠ n → (net.endLoop n ran).node m = net.node m :=
    fun m different => Function.update_of_ne different _ _
  have passed :
      ∀ m, (net.node m).passed ≤ ((net.endLoop n ran).node m).passed := by
    intro m
    by_cases same : m = n
    · subst m
      rw [own]
      exact case.passed_le
    · rw [others m same]
  -- Whose progress still counts has not entered `WaitTransient` just now.
  have progress :
      ∀ m k,
        (net.endLoop n ran).progress m k ≠ .none →
        (net.endLoop n ran).progress m k =
            completedLoop net.progress n m k ∧
          (m = n → ran.entered = false) := by
    intro m k notNone
    unfold CalibNet.endLoop at notNone ⊢
    cases entered : ran.entered with
    | false => exact ⟨by simp, fun _ => rfl⟩
    | true =>
        simp only [entered, ↓reduceIte] at notNone ⊢
        by_cases same : m = n
        · subst m
          rw [Function.update_self] at notNone
          exact absurd rfl notNone
        · rw [Function.update_of_ne same]
          exact ⟨rfl, fun equal => absurd equal same⟩
  -- A node in `WaitTransient` that has not entered it just now was there before.
  have stays :
      ∀ m,
        (m = n → ran.entered = false) →
        ((net.endLoop n ran).node m).fsm.state = .waitTransient →
        (net.node m).fsm.state = .waitTransient ∧
          ((net.endLoop n ran).node m).passed = (net.node m).passed := by
    intro m notEntered transient
    by_cases same : m = n
    · subst m
      rw [own] at transient ⊢
      exact case.stays (notEntered rfl) transient
    · rw [others m same] at transient ⊢
      exact ⟨transient, rfl⟩
  refine
    { calib := invariant.calib.endLoop case
      awake := ?_
      prompt := ?_
      completed := ?_
      started := ?_ }
  · intro m
    by_cases same : m = n
    · subst m
      rw [own]
      exact case.awake (invariant.awake n)
    · rw [others m same]
      exact invariant.awake m
  · intro entry member step labelled m
    rcases mem_sendAll.mp member with old | ⟨message, sent, isNew⟩
    · exact
        (invariant.prompt entry old step labelled m).trans (passed m)
    · subst isNew
      cases message with
      | calibLedOn => cases labelled
      | calibReady value =>
          have step_eq : ran.node.passed = step :=
            Option.some.inj labelled
          obtain ⟨origin, samePassed⟩ := case.sent_ready sent
          rw [← step_eq, samePassed]
          by_cases same : m = n
          · subst m
            exact passed n
          · refine le_trans ?_ (passed m)
            rcases origin with atInit | ⟨transient, elapsed⟩
            · obtain ⟨none, _⟩ :=
                (invariant.calib.nodes n).phase.of_calibInit atInit
              omega
            · have finished := punctual transient elapsed m same
              exact
                invariant.completed n m (Ne.symm same) transient finished
  · intro m k different transient isCompleted
    have notNone : (net.endLoop n ran).progress m k ≠ .none := by
      rw [isCompleted]
      decide
    obtain ⟨counted, notEntered⟩ := progress m k notNone
    obtain ⟨wasTransient, samePassed⟩ := stays m notEntered transient
    rw [counted] at isCompleted
    rw [samePassed]
    by_cases same : k = n
    · subst k
      rw [own]
      refine
        invariant.catches_up case different wasTransient atMain ?_
      rcases completedLoop_cases isCompleted with before | ⟨_, before⟩
      · exact .inl before
      · exact .inr before
    · rw [others k same]
      rcases completedLoop_cases isCompleted with before | ⟨equal, _⟩
      · exact invariant.completed m k different wasTransient before
      · exact absurd equal same
  · intro m k different transient isStarted behind stage
    have notNone : (net.endLoop n ran).progress m k ≠ .none := by
      rw [isStarted]
      decide
    obtain ⟨counted, notEntered⟩ := progress m k notNone
    obtain ⟨wasTransient, samePassed⟩ := stays m notEntered transient
    rw [counted] at isStarted
    obtain ⟨notOwn, before⟩ := completedLoop_started isStarted
    rw [others k notOwn] at behind stage ⊢
    rw [samePassed] at behind
    exact
      invariant.started m k different wasTransient before behind stage

end Steps

section Runs

variable [Field K]
    {registry : Registry N} {voltageToLux : K → K}
    {start net after : CalibNet K N}

/-- A punctual step keeps the invariant. -/
theorem ProgressInvariant.step
    [LinearOrder K]
    (invariant : ProgressInvariant net)
    {action : CalibAction K N}
    (punctual : Punctual net action)
    (taken : next registry voltageToLux net action = some after) :
    ProgressInvariant after := by
  obtain ⟨n, does⟩ := action
  have calib := invariant.calib.step taken
  have effect := effect_of_next taken
  cases effect with
  | beginDrain atStart =>
      refine
        invariant.replace calib rfl rfl rfl rfl ?_ ?_
          (fun _ _ _ _ _ => nofun)
      · intro m k isCompleted
        split at isCompleted
        · cases isCompleted
        · exact isCompleted
      · intro m k different isStarted
        split at isStarted
        · rename_i both
          exact absurd both.1 different
        · exact isStarted
  | @take entry rest draining queued =>
      refine
        invariant.replace calib rfl ?_ rfl rfl (fun _ _ same => same)
          (fun _ _ _ same => same) ?_
      · obtain ⟨sender, message, label⟩ := entry
        cases message with
        | calibReady value =>
            obtain ⟨gains, residuals, received⟩ :=
              (net.node n).fsm.received_calibReady sender value
            simp only [CalibNode.receive, received]
        | calibLedOn => rfl
      · intro _ _ _ _ _ atMain
        have atMain : (net.node n).stage = .main := atMain
        rw [draining] at atMain
        cases atMain
  | endDrain draining drained =>
      refine
        invariant.replace calib rfl rfl rfl rfl (fun _ _ same => same)
          (fun _ _ _ same => same) ?_
      intro m different transient _ behind _
      have behind : (net.node n).passed < (net.node m).passed := behind
      have near : (net.node m).passed ≤ (net.node n).passed + 1 :=
        invariant.calib.barrier.lockstep m n
      have ahead : (net.node m).passed = (net.node n).passed + 1 := by
        omega
      refine invariant.full_of_drained drained ?_ ?_
      · intro peer
        have nearPeer :
            (net.node m).passed ≤ (net.node peer).passed + 1 :=
          invariant.calib.barrier.lockstep m peer
        rcases Nat.lt_or_ge (net.node n).passed (net.node peer).passed with
          later | level
        · exact .inl later
        · have same : (net.node n).passed = (net.node peer).passed := by
            omega
          refine
            .inr ⟨same, invariant.calib.barrier.complete m peer ?_⟩
          show (net.node m).passed = (net.node peer).passed + 1
          omega
      · exact invariant.calib.barrier.complete m n ahead
  | mainLoop input atMain =>
      exact
        invariant.endLoop atMain punctual
          (CalibNode.mainCase registry voltageToLux n input (net.node n))

/-- Before the calibration nobody waits for anything. -/
theorem ProgressInvariant.initial (fresh : Fresh net) :
    ProgressInvariant net := by
  have atInit : ∀ n, (net.node n).fsm.state = .calibInit := by
    intro n
    obtain ⟨before, reset⟩ := fresh.fsm n
    rw [reset]
    rfl
  refine
    { calib := .initial fresh
      awake := fun n begun => absurd (atInit n) begun
      prompt := ?_
      completed := ?_
      started := ?_ }
  · rw [fresh.log]
    intro entry member
    cases member
  · intro m n _ transient
    rw [atInit m] at transient
    cases transient
  · intro m n _ transient
    rw [atInit m] at transient
    cases transient

/-- With empty queues the LED event of a step has reached everybody in it. -/
theorem ProgressInvariant.canMove_of_waitLedOn
    (invariant : ProgressInvariant net)
    {n : Fin N}
    (least : ∀ m, (net.node n).passed ≤ (net.node m).passed)
    (drained : net.bus.fifo n = [])
    (calibrating : (net.node n).mainState = .calibrate)
    (awaiting : (net.node n).fsm.state = .waitLedOn) :
    (net.node n).CanMove registry voltageToLux n := by
  have ok := invariant.calib.nodes n
  obtain ⟨some, within, _, _, other⟩ :=
    ok.phase.of_waitLedOn awaiting
  have inRange : designated (net.node n).passed < N := by
    unfold designated
    omega
  obtain ⟨entry, member, isLed⟩ :=
    invariant.calib.ledDone ⟨designated (net.node n).passed, inRange⟩
      (net.node n).passed some (least _) rfl
  obtain ⟨_, sender, _⟩ :=
    invariant.calib.ledOn entry member _ isLed
  have foreign : entry.sender ≠ n := by
    intro own
    rw [own] at sender
    exact other sender
  have received : entry ∈ net.bus.received n := by
    rcases net.bus.mem_received_or_fifo.mpr ⟨member, foreign⟩ with
      received | queued
    · exact received
    · rw [drained] at queued
      cases queued
  have seen : (net.node n).ledSeen = (net.node n).passed - 1 := by
    simp [CalibNode.ledSeen, awaiting]
  have event : (net.node n).fsm.otherNodeLedOn = true :=
    ok.flag.mpr ⟨entry, received, _, isLed, by omega⟩
  exact CalibNode.canMove_of_event calibrating awaiting event

/-- With empty queues, a node behind all others that cannot move is in `WaitReady`. -/
theorem ProgressInvariant.ready_of_stuck
    (invariant : ProgressInvariant net)
    {n : Fin N}
    (least : ∀ m, (net.node n).passed ≤ (net.node m).passed)
    (drained : net.bus.fifo n = [])
    (notDone : (net.node n).fsm.done = false)
    (stuck : ¬ (net.node n).CanMove registry voltageToLux n) :
    (net.node n).mainState = .calibrate ∧
      (net.node n).fsm.state = .waitReady := by
  have calibrating : (net.node n).mainState = .calibrate := by
    cases state : (net.node n).mainState with
    | wakeupWait =>
        exact (stuck (CalibNode.canMove_of_wakeupWait state)).elim
    | calibrate => rfl
    | run =>
        have done := (invariant.calib.nodes n).running.mp state
        rw [notDone] at done
        cases done
  refine ⟨calibrating, ?_⟩
  cases state : (net.node n).fsm.state with
  | calibInit =>
      exact
        (stuck (CalibNode.canMove_of_calibInit calibrating state)).elim
  | waitReady => rfl
  | waitLedOn =>
      exact
        (stuck
          (invariant.canMove_of_waitLedOn least drained calibrating
            state)).elim
  | waitTransient =>
      exact
        (stuck
          (CalibNode.canMove_of_waitTransient calibrating state)).elim

/-- With empty queues, some node can move until all are done. -/
theorem ProgressInvariant.canMove
    (invariant : ProgressInvariant net)
    (drained : ∀ n, net.bus.fifo n = [])
    (unfinished : ∃ n, (net.node n).fsm.done = false) :
    ∃ n, (net.node n).CanMove registry voltageToLux n := by
  obtain ⟨n, notDone⟩ := unfinished
  obtain ⟨last, least⟩ := exists_last net n
  by_contra none
  rw [not_exists] at none
  have within : (net.node last).passed ≤ 2 * N := by
    have phase := (invariant.calib.nodes n).phase
    have bounded := phase.passed_le
    have notAll : (net.node n).passed ≠ 2 * N + 1 := by
      intro all
      rw [phase.done_iff.mpr all] at notDone
      cases notDone
    have reached := least n
    omega
  -- Every node as far behind as the last one waits in `WaitReady`.
  have waits :
      ∀ k,
        (net.node k).passed = (net.node last).passed →
        (net.node k).mainState = .calibrate ∧
          (net.node k).fsm.state = .waitReady ∧
          (net.node k).readySent = 1 := by
    intro k level
    have notDoneK : (net.node k).fsm.done = false := by
      rw [Bool.eq_false_iff]
      intro done
      have all := (invariant.calib.nodes k).phase.done_iff.mp done
      omega
    obtain ⟨calibrating, ready⟩ :=
      invariant.ready_of_stuck (by rw [level]; exact least) (drained k)
        notDoneK (none k)
    exact ⟨calibrating, ready, readySent_of_ready ready notDoneK⟩
  obtain ⟨calibrating, ready, sent⟩ := waits last rfl
  have all : (net.node last).fsm.numNodesReady = N := by
    refine invariant.full_of_drained (drained last) ?_ sent
    intro peer
    rcases Nat.lt_or_eq_of_le (least peer) with ahead | level
    · exact .inl ahead
    · exact .inr ⟨level, (waits peer level.symm).2.2⟩
  exact none last (CalibNode.canMove_of_full calibrating ready all)

/-- The calibration never counts too much and never gets stuck. -/
structure NeverDeadlocked
    (registry : Registry N)
    (voltageToLux : K → K)
    (net : CalibNet K N) : Prop where
  within : ∀ n, (net.node n).fsm.numNodesReady ≤ N
  live :
    (∃ n, (net.node n).fsm.done = false) →
    ∃ n,
      net.bus.fifo n ≠ [] ∨
        (net.node n).CanMove registry voltageToLux n

/-- Under the timing assumption the calibration cannot deadlock. -/
theorem neverDeadlocked_of_run
    [LinearOrder K]
    (fresh : Fresh start)
    (run : Run (next registry voltageToLux) Punctual start net) :
    NeverDeadlocked registry voltageToLux net := by
  have invariant : ProgressInvariant net :=
    run.invariant ProgressInvariant (.initial fresh)
      fun invariant punctual taken => invariant.step punctual taken
  refine ⟨invariant.numNodesReady_le, ?_⟩
  intro unfinished
  by_cases drained : ∀ n, net.bus.fifo n = []
  · obtain ⟨n, moves⟩ :=
      invariant.canMove drained unfinished
    exact ⟨n, .inr moves⟩
  · rw [not_forall] at drained
    obtain ⟨n, queued⟩ := drained
    exact ⟨n, .inl queued⟩

end Runs

section Schedules

/-- Two nodes after the first reading of both, before either has taken the other's frame. -/
theorem neverDeadlocked_two_nodes :
    ∃ net,
      Run (next (consecutive 2) id) Punctual (booted 2) net ∧
        (net.node 0).passed = 1 ∧
        (net.node 0).fsm.state = .waitReady ∧
        NeverDeadlocked (consecutive 2) id net := by
  obtain ⟨net, run, observed⟩ :=
    exists_run_of_observed
      (next (consecutive 2) id)
      Punctual
      (booted 2)
      (initTogether ++ stepOfTwo 0 1 1 2 10 20 10)
      (fun net =>
        decide
          ((net.node 0).passed = 1 ∧
            (net.node 0).fsm.state = .waitReady))
      (by decide +kernel)
  rw [decide_eq_true_eq] at observed
  exact
    ⟨net, run, observed.1, observed.2,
      neverDeadlocked_of_run (fresh_booted 2) run⟩

end Schedules

end CalibNet

end DistributedLighting
