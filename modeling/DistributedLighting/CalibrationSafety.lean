import DistributedLighting.CalibrationBarrier

namespace DistributedLighting

/-!
# Barrier safety of the calibration

Every case of `mainFSM.loop()` and every frame keeps the invariant.  In every
reachable state the barriers of the nodes are then in step, and the LED event of
a step is consumed in that step only.
-/

/-- One barrier more. -/
theorem stepsUpTo_succ (count : Nat) :
    stepsUpTo (count + 1) =
      stepsUpTo count ++
        [((designated (count + 1) : Int), readingOf (count + 1))] := by
  simp [stepsUpTo, List.range_succ]

/-- The recorded barriers, by their number. -/
theorem stepsUpTo_getElem?
    {count step : Nat}
    (some : 1 ≤ step)
    (within : step ≤ count) :
    (stepsUpTo count)[step - 1]? =
      Option.some ((designated step : Int), readingOf step) := by
  have inRange : step - 1 < count := by omega
  have sameStep : step - 1 + 1 = step := by omega
  simp [stepsUpTo, inRange, sameStep]

namespace CalibrationFSM

variable {K : Type}

/-- Advancing only touches the count and the step. -/
theorem advance_frame (fsm : CalibrationFSM K) :
    fsm.advance.state = fsm.state ∧
      fsm.advance.numNodesReady = 0 ∧
      fsm.advance.otherNodeLedOn = fsm.otherNodeLedOn ∧
      fsm.advance.done = fsm.done ∧
      fsm.advance.gainMatrix = fsm.gainMatrix ∧
      fsm.advance.residualArray = fsm.residualArray := by
  unfold advance
  split <;> exact ⟨rfl, rfl, rfl, rfl, rfl, rfl⟩

end CalibrationFSM

namespace CalibNet

variable {K : Type} {N : Nat}

section OwnSteps

variable {bus wider : Bus (Fin N) (CalibFrame K)}
    {n : Fin N} {node : CalibNode K N}

/-- Leaving `WaitReady`, when no LED event is lost or made up by it. -/
theorem NodeOk.pass
    (ok : NodeOk bus n node)
    {fsm : CalibrationFSM K}
    (led : Nat)
    (phase : Phase N n fsm (node.passed + 1))
    (unsent : (node.passBarrier fsm led).readySent = 0)
    (zero : fsm.numNodesReady = 0)
    (notRun : node.mainState ≠ .run)
    (entered :
      (fsm.nodeLedOn, fsm.luxReadNum) =
        ((designated (node.passed + 1) : Int),
          readingOf (node.passed + 1)))
    (event : fsm.otherNodeLedOn = node.fsm.otherNodeLedOn)
    (received : wider.received n = bus.received n)
    (fifo : wider.fifo n = bus.fifo n)
    (monotone :
      node.ledSeen ≤ (node.passBarrier fsm led).ledSeen)
    (ahead :
      ∀ entry,
        entry ∈ bus.received n ∨ entry ∈ bus.fifo n →
        ∀ step,
          entry.frame.ledStep? = some step →
          node.ledSeen < step →
          (node.passBarrier fsm led).ledSeen < step)
    (lit :
      ∀ step,
        1 ≤ step →
        step ≤ (node.passBarrier fsm led).ledSeen →
        step ≤ 2 * N →
        ∃ entry ∈ wider.log, entry.frame.ledStep? = some step) :
    NodeOk wider n (node.passBarrier fsm led) where
  phase := phase
  count := by
    rw [unsent]
    exact zero
  running := by
    show (if fsm.done then MainState.run else node.mainState) = .run ↔ _
    cases done : fsm.done <;> simp [CalibNode.passBarrier, done, notRun]
  steps := by
    show node.steps ++ [(fsm.nodeLedOn, fsm.luxReadNum)] = _
    rw [ok.steps, entered]
    exact (stepsUpTo_succ node.passed).symm
  flag := by
    show fsm.otherNodeLedOn = true ↔ _
    rw [event, ok.flag, received]
    constructor
    · rintro ⟨entry, member, step, isLed, unseen⟩
      exact
        ⟨entry, member, step, isLed,
          ahead entry (.inl member) step isLed unseen⟩
    · rintro ⟨entry, member, step, isLed, unseen⟩
      exact ⟨entry, member, step, isLed, by omega⟩
  queuedLed := by
    rw [fifo]
    intro entry member step isLed
    exact
      ahead entry (.inr member) step isLed
        (ok.queuedLed entry member step isLed)
  lit := lit

end OwnSteps

section Take

variable [Field K] [LinearOrder K]
    {bus : Bus (Fin N) (CalibFrame K)}
    {n : Fin N} {node : CalibNode K N}
    {entry : Entry (Fin N) (CalibFrame K)}
    {rest : List (Entry (Fin N) (CalibFrame K))}

/-- A received frame is counted or raises the LED event. -/
theorem NodeOk.receive
    (ok : NodeOk bus n node)
    (queued : bus.fifo n = entry :: rest) :
    NodeOk (bus.take n) n (node.receive entry) := by
  have head : entry ∈ bus.fifo n := by
    rw [queued]
    exact List.mem_cons_self
  have later :
      ∀ other ∈ rest,
        ∀ step,
          other.frame.ledStep? = some step →
          node.ledSeen < step := by
    intro other member
    refine ok.queuedLed other ?_
    rw [queued]
    exact List.mem_cons_of_mem _ member
  obtain ⟨sender, message, step⟩ := entry
  cases message with
  | calibReady value =>
      obtain ⟨gains, residuals, received⟩ :=
        node.fsm.received_calibReady sender value
      have after :
          node.receive ⟨sender, ⟨.calibReady value, step⟩⟩ =
            { node with
              fsm :=
                { node.fsm with
                  numNodesReady := node.fsm.numNodesReady + 1
                  gainMatrix := gains
                  residualArray := residuals }
              counted :=
                node.counted ++
                  [⟨sender, ⟨.calibReady value, step⟩⟩] } := by
        simp only [CalibNode.receive, received]
        rfl
      rw [after]
      refine
        { phase := ok.phase.congr rfl rfl rfl rfl
          count := ?_
          running := ok.running
          steps := ok.steps
          flag := ?_
          queuedLed := ?_
          lit := ok.lit }
      · simp only [ok.count, List.length_append, List.length_singleton]
        show _ = _ + node.readySent
        omega
      · rw [Bus.take_received_self queued]
        show node.fsm.otherNodeLedOn = true ↔ _
        rw [ok.flag]
        constructor
        · rintro ⟨other, member, isLed⟩
          exact ⟨other, List.mem_append_left _ member, isLed⟩
        · rintro ⟨other, member, ledStep, isLed, unseen⟩
          rw [List.mem_append, List.mem_singleton] at member
          rcases member with old | new
          · exact ⟨other, old, ledStep, isLed, unseen⟩
          · subst other
            cases isLed
      · rw [Bus.take_fifo_self queued]
        exact later
  | calibLedOn =>
      have unseen : node.ledSeen < step :=
        ok.queuedLed _ head step rfl
      refine
        { phase := ok.phase.congr rfl rfl rfl rfl
          count := ok.count
          running := ok.running
          steps := ok.steps
          flag := ?_
          queuedLed := ?_
          lit := ok.lit }
      · rw [Bus.take_received_self queued]
        refine iff_of_true rfl ?_
        exact
          ⟨_, List.mem_append_right _ (List.mem_singleton_self _), step,
            rfl, unseen⟩
      · rw [Bus.take_fifo_self queued]
        exact later

/-- Taking the next frame keeps the invariant. -/
theorem CalibInvariant.take
    {net : CalibNet K N}
    (invariant : CalibInvariant net)
    (queued : net.bus.fifo n = entry :: rest) :
    CalibInvariant
      (net.replace n ((net.node n).receive entry) (net.bus.take n)
        net.progress) := by
  have own := (invariant.nodes n).receive queued
  refine invariant.replace_take queued own rfl ?_ rfl
  obtain ⟨sender, message, step⟩ := entry
  cases message with
  | calibReady value =>
      obtain ⟨gains, residuals, received⟩ :=
        (net.node n).fsm.received_calibReady sender value
      simp only [CalibNode.readySent, CalibNode.receive, received]
  | calibLedOn => rfl

end Take

section MainLoop

variable {net : CalibNet K N} {n : Fin N}

/-- Sending a `CAN_CALIB_READY` after `CalibInit` or a measurement. -/
theorem CalibInvariant.send
    (invariant : CalibInvariant net)
    {node : CalibNode K N}
    (value : K)
    (progress : Fin N → Fin N → Progress)
    (phase : Phase N n node.fsm node.passed)
    (notReady : (net.node n).fsm.state ≠ .waitReady)
    (notAwaiting : (net.node n).fsm.state ≠ .waitLedOn)
    (state : node.fsm.state = .waitReady)
    (notDone : node.fsm.done = false)
    (event :
      node.fsm.otherNodeLedOn = (net.node n).fsm.otherNodeLedOn)
    (ready :
      node.fsm.numNodesReady = (net.node n).fsm.numNodesReady + 1)
    (passed : node.passed = (net.node n).passed)
    (counted : node.counted = (net.node n).counted)
    (steps : node.steps = (net.node n).steps)
    (notRun : node.mainState ≠ .run) :
    CalibInvariant
      (net.replace n node
        (net.bus.broadcast n ⟨.calibReady value, (net.node n).passed⟩)
        progress) := by
  have own : NodeOk net.bus n node :=
    (invariant.nodes n).ready phase notReady notAwaiting state notDone event
      ready passed counted steps notRun
  have heard :
      NodeOk
        (net.bus.broadcast n ⟨.calibReady value, (net.node n).passed⟩)
        n node := by
    refine own.broadcast ?_
    intro step isLed
    cases isLed
  refine invariant.replace_token heard passed ?_ ?_ counted
  · simp [CalibNode.readySent, notReady]
  · simp [CalibNode.readySent, state, notDone]

/-- A node that calibrates is not done. -/
theorem CalibInvariant.not_done
    (invariant : CalibInvariant net)
    (notRun : (net.node n).mainState ≠ .run) :
    (net.node n).fsm.done = false := by
  rw [Bool.eq_false_iff]
  intro done
  exact notRun ((invariant.nodes n).running.mpr done)

/-- A step of a node that changes none of its members of the protocol. -/
theorem CalibInvariant.quiet
    (invariant : CalibInvariant net)
    {node : CalibNode K N}
    (progress : Fin N → Fin N → Progress)
    (fsm : node.fsm = (net.node n).fsm)
    (passed : node.passed = (net.node n).passed)
    (counted : node.counted = (net.node n).counted)
    (steps : node.steps = (net.node n).steps)
    (running : node.mainState = .run ↔ (net.node n).mainState = .run) :
    CalibInvariant (net.replace n node net.bus progress) := by
  have own : NodeOk net.bus n node := by
    refine
      (invariant.nodes n).congr (by rw [fsm]) (by rw [fsm]) (by rw [fsm])
        (by rw [fsm]) (by rw [fsm]) (by rw [fsm]) passed counted steps ?_
    rw [running, fsm]
    exact (invariant.nodes n).running
  refine invariant.replace_same own passed ?_ counted
  simp only [CalibNode.readySent, fsm]

/-- Consuming the LED event of a step. -/
theorem CalibInvariant.consume
    (invariant : CalibInvariant net)
    {node : CalibNode K N}
    (progress : Fin N → Fin N → Progress)
    (awaiting : (net.node n).fsm.state = .waitLedOn)
    (event : (net.node n).fsm.otherNodeLedOn = true)
    (now : BitVec 32)
    (fsm :
      node.fsm =
        { (net.node n).fsm with
          otherNodeLedOn := false }.setState .waitTransient now)
    (passed : node.passed = (net.node n).passed)
    (counted : node.counted = (net.node n).counted)
    (steps : node.steps = (net.node n).steps)
    (mainState : node.mainState = (net.node n).mainState)
    (notRun : (net.node n).mainState ≠ .run) :
    CalibInvariant (net.replace n node net.bus progress) := by
  have ok := invariant.nodes n
  have unsent : (net.node n).readySent = 0 := by
    simp [CalibNode.readySent, awaiting]
  have sent : node.readySent = (net.node n).readySent := by
    rw [unsent]
    simp [CalibNode.readySent, fsm, CalibrationFSM.setState]
  have seenBefore : (net.node n).ledSeen = (net.node n).passed - 1 := by
    simp [CalibNode.ledSeen, awaiting]
  have seen : node.ledSeen = (net.node n).passed := by
    simp [CalibNode.ledSeen, fsm, CalibrationFSM.setState, passed]
  obtain ⟨some, within, nodeLedOn, luxReadNum, _⟩ :=
    ok.phase.of_waitLedOn awaiting
  have notDone := invariant.not_done notRun
  -- The event was raised by the LED of this very step.
  obtain ⟨entry, received, step, isLed, unseen⟩ := ok.flag.mp event
  have onBus := (Bus.mem_log_of_mem_received received).1
  have current : step = (net.node n).passed := by
    have reached := invariant.ledStep_le_passed unsent onBus isLed
    omega
  have own : NodeOk net.bus n node := by
    refine
      { phase := ?_
        count := ?_
        running := ?_
        steps := ?_
        flag := ?_
        queuedLed := ?_
        lit := ?_ }
    · rw [passed, fsm]
      exact .transient rfl some within nodeLedOn luxReadNum notDone
    · rw [sent, counted, fsm]
      exact ok.count
    · rw [fsm]
      simp [mainState, notRun, CalibrationFSM.setState, notDone]
    · rw [steps, passed]
      exact ok.steps
    · rw [fsm, seen]
      refine iff_of_false (by simp [CalibrationFSM.setState]) ?_
      rintro ⟨other, otherReceived, later, otherLed, beyond⟩
      have reached :=
        invariant.ledStep_le_passed unsent
          (Bus.mem_log_of_mem_received otherReceived).1 otherLed
      omega
    · rw [seen]
      intro other queued later otherLed
      have after :=
        invariant.received_lt_queued received queued isLed otherLed
      omega
    · rw [seen]
      intro earlier positive reached inRange
      by_cases last : earlier = step
      · subst last
        exact ⟨entry, onBus, isLed⟩
      · exact ok.lit earlier positive (by omega) inRange
  exact invariant.replace_same own passed sent counted

end MainLoop

section LeavingWaitReady

variable {registry : Registry N}
    {net : CalibNet K N} {n : Fin N}

/-- A node in `WaitReady` that is not done has sent its `CAN_CALIB_READY`. -/
theorem readySent_of_ready
    {node : CalibNode K N}
    (ready : node.fsm.state = .waitReady)
    (notDone : node.fsm.done = false) :
    node.readySent = 1 := by
  simp [CalibNode.readySent, ready, notDone]

/-- Leaving `WaitReady` for the last time. -/
theorem CalibInvariant.finish
    (invariant : CalibInvariant net)
    (stage : LoopStage)
    (progress : Fin N → Fin N → Progress)
    (notRun : (net.node n).mainState ≠ .run)
    (ready : (net.node n).fsm.state = .waitReady)
    (all : (net.node n).fsm.numNodesReady = N)
    (last : (net.node n).fsm.advance.nodeLedOn ≥ N) :
    CalibInvariant
      (net.replace n
        { (net.node n).passBarrier
            { (net.node n).fsm.advance with done := true } 0 with
          stage := stage }
        net.bus progress) := by
  have ok := invariant.nodes n
  have notDone := invariant.not_done notRun
  obtain ⟨within, nodeLedOn, luxReadNum⟩ := ok.phase.advance ready notDone
  obtain ⟨state, zero, event, _⟩ := (net.node n).fsm.advance_frame
  have complete : (net.node n).passed = 2 * N := by
    rw [nodeLedOn] at last
    unfold designated at last
    omega
  have seen : (net.node n).ledSeen = (net.node n).passed := by
    simp [CalibNode.ledSeen, ready]
  have seenAfter :
      ((net.node n).passBarrier
        { (net.node n).fsm.advance with done := true } 0).ledSeen =
          (net.node n).passed + 1 := by
    simp [CalibNode.ledSeen, CalibNode.passBarrier, state, ready]
  have own :
      NodeOk net.bus n
        ((net.node n).passBarrier
          { (net.node n).fsm.advance with done := true } 0) := by
    refine
      ok.pass 0
        (.finished (state.trans ready) (by omega) nodeLedOn rfl)
        (by simp [CalibNode.readySent, CalibNode.passBarrier])
        zero notRun (Prod.ext nodeLedOn luxReadNum) event rfl rfl
        (by omega) ?_ ?_
    · intro entry member step isLed unseen
      have onBus := (net.bus.mem_received_or_fifo.mp member).1
      have inRange := invariant.ledStep_le_steps onBus isLed
      omega
    · intro step some reached inRange
      exact ok.lit step some (by omega) inRange
  refine
    invariant.replace_pass
      (own.congr rfl rfl rfl rfl rfl rfl rfl rfl rfl own.running)
      all (readySent_of_ready ready notDone) rfl ?_ rfl ?_
  · simp [CalibNode.readySent, CalibNode.passBarrier]
  · show n.val ≠ designated ((net.node n).passed + 1)
    have inRange := n.isLt
    unfold designated
    omega

/-- Leaving `WaitReady` towards the LED of another node. -/
theorem CalibInvariant.dark
    (invariant : CalibInvariant net)
    (stage : LoopStage)
    (progress : Fin N → Fin N → Progress)
    (now : BitVec 32)
    (notRun : (net.node n).mainState ≠ .run)
    (ready : (net.node n).fsm.state = .waitReady)
    (all : (net.node n).fsm.numNodesReady = N)
    (more : ¬ (net.node n).fsm.advance.nodeLedOn ≥ N)
    (other :
      registry.nodesList (net.node n).fsm.advance.nodeLedOn.toNat ≠
        registry.nodesList n) :
    CalibInvariant
      (net.replace n
        { (net.node n).passBarrier
            ((net.node n).fsm.advance.setState .waitLedOn now) 0 with
          stage := stage }
        net.bus progress) := by
  have ok := invariant.nodes n
  have notDone := invariant.not_done notRun
  obtain ⟨within, nodeLedOn, luxReadNum⟩ := ok.phase.advance ready notDone
  obtain ⟨_, zero, event, done, _⟩ := (net.node n).fsm.advance_frame
  have inside : designated ((net.node n).passed + 1) < N := by
    rw [nodeLedOn] at more
    omega
  have notOwn : n.val ≠ designated ((net.node n).passed + 1) := by
    intro own
    refine other ?_
    rw [nodeLedOn, own]
    rfl
  have seen : (net.node n).ledSeen = (net.node n).passed := by
    simp [CalibNode.ledSeen, ready]
  have seenAfter :
      ((net.node n).passBarrier
        ((net.node n).fsm.advance.setState .waitLedOn now) 0).ledSeen =
          (net.node n).passed := by
    simp [CalibNode.ledSeen, CalibNode.passBarrier,
      CalibrationFSM.setState]
  have own :
      NodeOk net.bus n
        ((net.node n).passBarrier
          ((net.node n).fsm.advance.setState .waitLedOn now) 0) := by
    refine
      ok.pass 0
        (.awaiting rfl (by omega)
          (by unfold designated at inside; omega)
          nodeLedOn luxReadNum notOwn (done.trans notDone))
        (by simp [CalibNode.readySent, CalibNode.passBarrier,
          CalibrationFSM.setState])
        zero notRun (Prod.ext nodeLedOn luxReadNum) event rfl rfl
        (by omega) ?_ ?_
    · intro entry _ step _ unseen
      omega
    · intro step some reached inRange
      exact ok.lit step some (by omega) inRange
  refine
    invariant.replace_pass
      (own.congr rfl rfl rfl rfl rfl rfl rfl rfl rfl own.running)
      all (readySent_of_ready ready notDone) rfl ?_ rfl notOwn
  simp [CalibNode.readySent, CalibNode.passBarrier,
    CalibrationFSM.setState]

/-- Leaving `WaitReady` with the node's own LED switched on. -/
theorem CalibInvariant.light
    (invariant : CalibInvariant net)
    (stage : LoopStage)
    (progress : Fin N → Fin N → Progress)
    (now : BitVec 32)
    (led : Nat)
    (notRun : (net.node n).mainState ≠ .run)
    (ready : (net.node n).fsm.state = .waitReady)
    (all : (net.node n).fsm.numNodesReady = N)
    (more : ¬ (net.node n).fsm.advance.nodeLedOn ≥ N)
    (isOwn :
      registry.nodesList (net.node n).fsm.advance.nodeLedOn.toNat =
        registry.nodesList n) :
    CalibInvariant
      (net.replace n
        { (net.node n).passBarrier
            ((net.node n).fsm.advance.setState .waitTransient now) led with
          stage := stage }
        (net.bus.broadcast n
          ⟨.calibLedOn, (net.node n).passed + 1⟩)
        progress) := by
  have ok := invariant.nodes n
  have notDone := invariant.not_done notRun
  obtain ⟨within, nodeLedOn, luxReadNum⟩ := ok.phase.advance ready notDone
  obtain ⟨_, zero, event, done, _⟩ := (net.node n).fsm.advance_frame
  have inside : designated ((net.node n).passed + 1) < N := by
    rw [nodeLedOn] at more
    omega
  have duty : n.val = designated ((net.node n).passed + 1) := by
    rw [nodeLedOn] at isOwn
    exact ((registry.nodesList_inj inside n.isLt).mp isOwn).symm
  have stepWithin : (net.node n).passed + 1 ≤ 2 * N := by
    unfold designated at inside
    omega
  have seen : (net.node n).ledSeen = (net.node n).passed := by
    simp [CalibNode.ledSeen, ready]
  have seenAfter :
      ((net.node n).passBarrier
        ((net.node n).fsm.advance.setState .waitTransient now)
        led).ledSeen = (net.node n).passed + 1 := by
    simp [CalibNode.ledSeen, CalibNode.passBarrier,
      CalibrationFSM.setState]
  have own :
      NodeOk
        (net.bus.broadcast n ⟨.calibLedOn, (net.node n).passed + 1⟩) n
        ((net.node n).passBarrier
          ((net.node n).fsm.advance.setState .waitTransient now) led) := by
    refine
      ok.pass led
        (.transient rfl (by omega) stepWithin nodeLedOn luxReadNum
          (done.trans notDone))
        (by simp [CalibNode.readySent, CalibNode.passBarrier,
          CalibrationFSM.setState])
        zero notRun (Prod.ext nodeLedOn luxReadNum) event rfl
        (Bus.broadcast_fifo_self _ _ _) (by omega) ?_ ?_
    · intro entry member step isLed unseen
      -- No other node can have announced the LED of this node's step.
      obtain ⟨onBus, foreign⟩ := net.bus.mem_received_or_fifo.mp member
      obtain ⟨_, sender, _⟩ := invariant.ledOn entry onBus step isLed
      have different : step ≠ (net.node n).passed + 1 := by
        intro same
        rw [same, ← duty, Fin.val_inj] at sender
        exact foreign sender
      omega
    · intro step some reached inRange
      by_cases newest : step = (net.node n).passed + 1
      · subst newest
        exact
          ⟨_, List.mem_append_right _ (List.mem_singleton_self _), rfl⟩
      · obtain ⟨entry, member, isLed⟩ :=
          ok.lit step some (by omega) inRange
        exact ⟨entry, List.mem_append_left _ member, isLed⟩
  refine
    invariant.replace_light
      (own.congr rfl rfl rfl rfl rfl rfl rfl rfl rfl own.running)
      all (readySent_of_ready ready notDone) rfl stepWithin ?_ rfl duty
  simp [CalibNode.readySent, CalibNode.passBarrier,
    CalibrationFSM.setState]

end LeavingWaitReady

section Runs

variable [Field K]
    {registry : Registry N} {voltageToLux : K → K}
    {net after : CalibNet K N}

/-- A run of `mainFSM.loop()` keeps the invariant. -/
theorem CalibInvariant.endLoop
    (invariant : CalibInvariant net)
    {n : Fin N}
    {input : MainInput K}
    {ran : Ran K N}
    (case : (net.node n).MainCase registry voltageToLux n input ran) :
    CalibInvariant (net.endLoop n ran) := by
  have ok := invariant.nodes n
  cases case with
  | waking state time waiting notRun =>
      have wasNotRun : (net.node n).mainState ≠ .run := by
        rw [waiting]
        decide
      exact
        invariant.quiet _ rfl rfl rfl rfl (iff_of_false notRun wasNotRun)
  | controlled running =>
      exact invariant.quiet _ rfl rfl rfl rfl Iff.rfl
  | init calibrating atInit =>
      have notRun : (net.node n).mainState ≠ .run := by
        rw [calibrating]
        decide
      obtain ⟨none, luxReadNum⟩ := ok.phase.of_calibInit atInit
      have notDone := invariant.not_done notRun
      exact
        invariant.send _ _ (.residual rfl none rfl luxReadNum notDone)
          (by rw [atInit]; decide) (by rw [atInit]; decide) rfl notDone rfl
          rfl rfl rfl rfl notRun
  | poll calibrating ready missing =>
      have notRun : (net.node n).mainState ≠ .run := by
        rw [calibrating]
        decide
      have notDone := invariant.not_done notRun
      refine invariant.quiet _ rfl rfl rfl rfl ?_
      simp [notDone]
  | finish calibrating ready all last =>
      have notRun : (net.node n).mainState ≠ .run := by
        rw [calibrating]
        decide
      exact invariant.finish .start _ notRun ready all last
  | light calibrating ready all more own =>
      have notRun : (net.node n).mainState ≠ .run := by
        rw [calibrating]
        decide
      exact invariant.light .start _ input.now _ notRun ready all more own
  | dark calibrating ready all more other =>
      have notRun : (net.node n).mainState ≠ .run := by
        rw [calibrating]
        decide
      exact invariant.dark .start _ input.now notRun ready all more other
  | ignore calibrating awaiting noEvent =>
      exact invariant.quiet _ rfl rfl rfl rfl Iff.rfl
  | consume calibrating awaiting event =>
      have notRun : (net.node n).mainState ≠ .run := by
        rw [calibrating]
        decide
      exact
        invariant.consume _ awaiting event input.now rfl rfl rfl rfl rfl
          notRun
  | settling calibrating transient early =>
      exact invariant.quiet _ rfl rfl rfl rfl Iff.rfl
  | first reading measured calibrating transient elapsed _
  | second reading measured calibrating transient elapsed _ =>
      have notRun : (net.node n).mainState ≠ .run := by
        rw [calibrating]
        decide
      obtain ⟨some, within, nodeLedOn, luxReadNum⟩ :=
        ok.phase.of_waitTransient transient
      have notDone := invariant.not_done notRun
      exact
        invariant.send _ _
          (.measured rfl some within nodeLedOn
            (congrArg (· + 1) luxReadNum) notDone)
          (by rw [transient]; decide) (by rw [transient]; decide) rfl
          notDone rfl rfl rfl rfl rfl notRun

/-- Every step keeps the invariant. -/
theorem CalibInvariant.step
    [LinearOrder K]
    (invariant : CalibInvariant net)
    {action : CalibAction K N}
    (taken : next registry voltageToLux net action = some after) :
    CalibInvariant after := by
  obtain ⟨n, does⟩ := action
  have effect := effect_of_next taken
  cases effect with
  | beginDrain atStart =>
      exact invariant.quiet _ rfl rfl rfl rfl Iff.rfl
  | take draining queued =>
      exact invariant.take queued
  | endDrain draining drained =>
      exact invariant.quiet _ rfl rfl rfl rfl Iff.rfl
  | mainLoop input atMain =>
      exact
        invariant.endLoop
          (CalibNode.mainCase registry voltageToLux n input (net.node n))

/--
No node has begun to calibrate, after boot or after a reset, which also switches
the LED off.
-/
structure Fresh (net : CalibNet K N) : Prop where
  fsm :
    ∀ n,
      ∃ before : CalibrationFSM K,
        (net.node n).fsm = before.resetCalib N
  led : ∀ n, (net.node n).led = 0
  mainState : ∀ n, (net.node n).mainState ≠ .run
  passed : ∀ n, (net.node n).passed = 0
  counted : ∀ n, (net.node n).counted = []
  steps : ∀ n, (net.node n).steps = []
  log : net.bus.log = []

/-- The invariant holds before the calibration. -/
theorem CalibInvariant.initial (fresh : Fresh net) :
    CalibInvariant net where
  barrier := by
    have quiet :
        ∀ entry ∈ net.bus.log, entry.frame.readyStep? = none := by
      rw [fresh.log]
      intro entry member
      cases member
    refine
      CountingBarrier.Invariant.initial quiet fresh.passed ?_
        fresh.counted
    intro n
    obtain ⟨before, reset⟩ := fresh.fsm n
    show (net.node n).readySent = 0
    simp [CalibNode.readySent, reset, CalibrationFSM.resetCalib]
  nodes := by
    intro n
    obtain ⟨before, reset⟩ := fresh.fsm n
    have silent :
        ∀ entry,
          entry ∈ net.bus.received n ∨ entry ∈ net.bus.fifo n →
          False := by
      intro entry member
      have onBus := (net.bus.mem_received_or_fifo.mp member).1
      rw [fresh.log] at onBus
      cases onBus
    refine
      { phase := ?_
        count := ?_
        running := ?_
        steps := ?_
        flag := ?_
        queuedLed := ?_
        lit := ?_ }
    · rw [reset, fresh.passed n]
      exact .calibInit rfl rfl rfl rfl
    · simp [CalibNode.readySent, reset, fresh.counted n,
        CalibrationFSM.resetCalib]
    · refine iff_of_false (fresh.mainState n) ?_
      simp [reset, CalibrationFSM.resetCalib]
    · rw [fresh.steps n, fresh.passed n]
      rfl
    · refine iff_of_false ?_ ?_
      · simp [reset, CalibrationFSM.resetCalib]
      · rintro ⟨entry, member, _⟩
        exact silent entry (.inl member)
    · intro entry member
      exact (silent entry (.inr member)).elim
    · intro step some seen _
      have none : (net.node n).ledSeen = 0 := by
        simp [CalibNode.ledSeen, fresh.passed n]
      omega
  ledOn := by
    rw [fresh.log]
    intro entry member
    cases member
  ledDone := by
    intro n step some reached _
    rw [fresh.passed n] at reached
    omega
  ledSorted := by
    rw [fresh.log]
    exact List.Pairwise.nil

/-- The invariant holds in every reachable state. -/
theorem CalibInvariant.of_run
    [LinearOrder K]
    {start : CalibNet K N}
    {allowed : CalibNet K N → CalibAction K N → Prop}
    (fresh : Fresh start)
    (run : Run (next registry voltageToLux) allowed start net) :
    CalibInvariant net :=
  run.invariant CalibInvariant (.initial fresh)
    fun invariant _ taken => invariant.step taken

end Runs

section BarrierSafety

variable {net : CalibNet K N}

/-- How many `CAN_CALIB_READY` a node has broadcast. -/
def readiesSent
    (bus : Bus (Fin N) (CalibFrame K))
    (n : Fin N) : Nat :=
  bus.log.countP fun entry =>
    entry.sender = n ∧ entry.frame.readyStep?.isSome

/-- The nodes calibrate in step. -/
structure BarrierSafe
    (registry : Registry N)
    (net : CalibNet K N) : Prop where
  /-- Nobody leaves `WaitReady` once more often than any node has broadcast. -/
  ready :
    ∀ n m, (net.node n).passed ≤ readiesSent net.bus m
  lockstep :
    ∀ n m, (net.node n).passed ≤ (net.node m).passed + 1
  recorded :
    ∀ n, (net.node n).steps.length = (net.node n).passed
  agreement :
    ∀ n m barrier,
      barrier < (net.node n).passed →
      barrier < (net.node m).passed →
      (net.node n).steps[barrier]? = (net.node m).steps[barrier]?
  /-- The LED of a step is announced by the node of its `nodeLedOn`. -/
  announced :
    ∀ entry ∈ net.bus.log,
      ∀ step,
        entry.frame.ledStep? = some step →
        ∃ nodeLedOn luxReadNum,
          (net.node entry.sender).steps[step - 1]? =
              some (nodeLedOn, luxReadNum) ∧
            registry.nodesList nodeLedOn.toNat =
              registry.nodesList entry.sender
  /-- A reading is taken after the LED of its step was announced. -/
  reading :
    ∀ n,
      (net.node n).fsm.state = .waitTransient →
      ∃ entry ∈ net.bus.log,
        entry.frame.ledStep? = some (net.node n).passed
  /-- The event that a node is about to consume is the one of its step. -/
  event :
    ∀ n,
      (net.node n).fsm.state = .waitLedOn →
      (net.node n).fsm.otherNodeLedOn = true →
      ∃ entry ∈ net.bus.received n,
        entry.frame.ledStep? = some (net.node n).passed

/-- Each barrier that a node has passed took one `CAN_CALIB_READY` of every node. -/
theorem CalibInvariant.passed_le_readiesSent
    (invariant : CalibInvariant net)
    (n m : Fin N) :
    (net.node n).passed ≤ readiesSent net.bus m := by
  let readies :=
    net.bus.log.filter fun entry =>
      entry.sender = m ∧ entry.frame.readyStep?.isSome
  have uniform :
      ∀ step < (net.node n).passed,
        (readies.filter fun entry =>
          CountingBarrier.label CalibFrame.readyStep? entry =
            step).length = 1 := by
    intro step before
    have once :
        CountingBarrier.tokensSent CalibFrame.readyStep? net.bus.log m
          step = 1 :=
      invariant.barrier.tokens_of_lt before m
    rw [← once]
    unfold CountingBarrier.tokensSent
    rw [List.countP_eq_length_filter, List.filter_filter]
    congr 2
    funext entry
    unfold CountingBarrier.label
    cases entry.frame.readyStep? <;> simp [and_comm]
  calc
    (net.node n).passed
      = (readies.filter fun entry =>
          CountingBarrier.label CalibFrame.readyStep? entry <
            (net.node n).passed).length := by
        rw [length_filter_key_lt uniform, Nat.one_mul]
    _ ≤ readies.length := List.length_filter_le _ _
    _ = readiesSent net.bus m := by
        rw [readiesSent, List.countP_eq_length_filter]

/-- The invariant makes the calibration safe. -/
theorem CalibInvariant.barrierSafe
    (invariant : CalibInvariant net)
    (registry : Registry N) :
    BarrierSafe registry net where
  ready := invariant.passed_le_readiesSent
  lockstep := invariant.barrier.lockstep
  recorded := by
    intro n
    rw [(invariant.nodes n).steps]
    simp [stepsUpTo]
  agreement := by
    intro n m barrier first second
    have recorded :
        ∀ count, barrier < count →
          (stepsUpTo count)[barrier]? =
            some ((designated (barrier + 1) : Int),
              readingOf (barrier + 1)) := by
      intro count before
      exact stepsUpTo_getElem? (Nat.le_add_left 1 barrier) before
    rw [(invariant.nodes n).steps, (invariant.nodes m).steps,
      recorded _ first, recorded _ second]
  announced := by
    intro entry member step isLed
    obtain ⟨some, sender, reached⟩ :=
      invariant.ledOn entry member step isLed
    refine ⟨designated step, readingOf step, ?_, ?_⟩
    · rw [(invariant.nodes entry.sender).steps]
      exact stepsUpTo_getElem? some reached
    · rw [Int.toNat_natCast, sender]
  reading := by
    intro n transient
    obtain ⟨some, within, _⟩ :=
      (invariant.nodes n).phase.of_waitTransient transient
    have seen : (net.node n).ledSeen = (net.node n).passed := by
      simp [CalibNode.ledSeen, transient]
    exact
      (invariant.nodes n).lit (net.node n).passed some (by omega) within
  event := by
    intro n awaiting raised
    obtain ⟨entry, received, step, isLed, unseen⟩ :=
      (invariant.nodes n).flag.mp raised
    have unsent : (net.node n).readySent = 0 := by
      simp [CalibNode.readySent, awaiting]
    have reached :=
      invariant.ledStep_le_passed unsent
        (Bus.mem_log_of_mem_received received).1 isLed
    have seen : (net.node n).ledSeen = (net.node n).passed - 1 := by
      simp [CalibNode.ledSeen, awaiting]
    have current : step = (net.node n).passed := by omega
    subst current
    exact ⟨entry, received, isLed⟩

/-- Every reachable state of a calibration is safe, whatever the schedule. -/
theorem barrierSafe_of_run
    [Field K]
    [LinearOrder K]
    (registry : Registry N)
    (voltageToLux : K → K)
    {start : CalibNet K N}
    (fresh : Fresh start)
    (run :
      Run (next registry voltageToLux) (fun _ _ => True) start net) :
    BarrierSafe registry net :=
  (CalibInvariant.of_run fresh run).barrierSafe registry

end BarrierSafety

section Schedules

/-- The node with index `i` has the id `i + 1`. -/
def consecutive (N : Nat) : Registry N where
  nodesList := fun index => index + 1
  nodeIndexOnGainMatrix := fun id => id - 1
  indexed := by simp

/-- All nodes after boot, at the end of `WakeupWait`. -/
def booted (N : Nat) : CalibNet ℚ N where
  node := fun _ =>
    { fsm := .boot ℚ
      led := 0
      mainState := .wakeupWait
      mainTransitionTime := 0
      stage := .start
      passed := 0
      counted := []
      steps := []
      residual := 0
      gain := fun _ => 0
      polled := false }
  bus := .empty
  progress := fun _ _ => .none

theorem fresh_booted (N : Nat) : Fresh (booted N) where
  fsm := fun _ => ⟨.boot ℚ, (CalibrationFSM.resetCalib_boot N).symm⟩
  led := fun _ => rfl
  mainState := by
    intro n
    show MainState.wakeupWait ≠ .run
    decide
  passed := fun _ => rfl
  counted := fun _ => rfl
  steps := fun _ => rfl
  log := rfl

/-- A loop iteration that takes the given number of frames. -/
def loopAfter
    {N : Nat}
    (n : Fin N)
    (frames : Nat)
    (seconds : Nat)
    (voltage : ℚ) : List (CalibAction ℚ N) :=
  [⟨n, .beginDrain⟩] ++ List.replicate frames ⟨n, .take⟩ ++
    [⟨n, .endDrain⟩,
      ⟨n, .mainLoop ⟨BitVec.ofNat 32 (seconds * 1000000), voltage, 0, 0⟩⟩]

/-- Two nodes, while both wait for the transient of the first LED. -/
theorem barrierSafe_two_nodes :
    ∃ net,
      Run (next (consecutive 2) id) (fun _ _ => True) (booted 2) net ∧
        (net.node 1).passed = 1 ∧
        (net.node 1).fsm.state = .waitTransient ∧
        BarrierSafe (consecutive 2) net := by
  obtain ⟨net, run, observed⟩ :=
    exists_run_of_observed
      (next (consecutive 2) id)
      (fun _ _ => True)
      (booted 2)
      (loopAfter 0 0 3 0 ++ loopAfter 1 0 3 0 ++ loopAfter 0 0 4 1 ++
          loopAfter 1 1 4 1 ++ loopAfter 0 1 5 0 ++ loopAfter 1 1 5 0 ++
          loopAfter 1 0 6 0)
      (fun net =>
        decide
          ((net.node 1).passed = 1 ∧
            (net.node 1).fsm.state = .waitTransient))
      (by decide +kernel)
  rw [decide_eq_true_eq] at observed
  exact
    ⟨net, run, observed.1, observed.2,
      barrierSafe_of_run (consecutive 2) id (fresh_booted 2) run⟩

end Schedules

end CalibNet

end DistributedLighting
