import DistributedLighting.CalibrationMatrices
import DistributedLighting.PowerUp

namespace DistributedLighting

/-!
# The calibration after power-up

The calibration network takes it for granted that all nodes hold the same registry and
that every frame reaches all of them.  After a prompt power-up this is so: the first
frame of the calibration is sent when all announcements have been, so every node takes
it behind them, and counts it with a complete registry even while it still waits itself.
-/

section Registry

variable {K : Type} {N : Nat}

/-- Only the ids of the registry matter to the main loop. -/
theorem CalibNode.mainLoop_congr
    [Field K]
    {first second : Registry N}
    (same : first.nodesList = second.nodesList)
    (voltageToLux : K → K)
    (n : Fin N)
    (input : MainInput K)
    (node : CalibNode K N) :
    node.mainLoop first voltageToLux n input =
      node.mainLoop second voltageToLux n input := by
  simp only [mainLoop, loopWaitReady, loopWaitTransient,
    CalibrationFSM.runStateWaitReady, same]

/-- Over a well-formed registry the machine is the one of the calibration network. -/
theorem Glob.Lists.calibrationLoop_of_card
    [Field K]
    {glob : Glob}
    {members : Finset Nat}
    (lists : glob.Lists members)
    (card : members.card = N)
    {registry : Registry N}
    (entries : glob.nodesList = registry.nodesList)
    (voltageToLux : K → K)
    (input : LoopInput K)
    {n : Fin N}
    (own : glob.nodesList n = glob.nodeId)
    {node : CalibNode K N}
    (calibrating : node.mainState = .calibrate)
    (control : Nat) :
    glob.calibrationLoop voltageToLux input node.fsm =
      let ran :=
        node.mainLoop registry voltageToLux n
          ⟨input.calibNow, input.voltage, input.stray, control⟩
      (ran.node.fsm, ran.sent) := by
  subst card
  have same : lists.registry.nodesList = registry.nodesList := entries
  rw [lists.calibrationLoop_eq voltageToLux input own calibrating control,
    CalibNode.mainLoop_congr same]

variable {ids : Fin N → Nat}

/-- There are as many ids as nodes. -/
theorem card_image_ids (ordered : StrictMono ids) :
    (Finset.univ.image ids).card = N := by
  rw [Finset.card_image_of_injective _ ordered.injective, Finset.card_univ,
    Fintype.card_fin]

/-- The registry of nodes that are numbered in the order of their ids. -/
def registryOf
    (ids : Fin N → Nat)
    (ordered : StrictMono ids) : Registry N where
  nodesList index := ((Finset.univ.image ids).sort (· ≤ ·)).getD index 0
  nodeIndexOnGainMatrix id := ((Finset.univ.image ids).sort (· ≤ ·)).idxOf id
  indexed := by
    intro index inRange
    have size : index < ((Finset.univ.image ids).sort (· ≤ ·)).length := by
      rw [Finset.length_sort, card_image_ids ordered]
      exact inRange
    rw [List.getD_eq_getElem _ _ size]
    exact (Finset.sort_nodup _ _).idxOf_getElem index size

/-- The ids in ascending order. -/
theorem sort_image_eq (ordered : StrictMono ids) :
    (Finset.univ.image ids).sort (· ≤ ·) = List.ofFn ids := by
  have ascending : (List.ofFn ids).Pairwise (· ≤ ·) := by
    rw [List.pairwise_ofFn]
    exact fun _ _ before => ordered.monotone before.le
  have nodup : (List.ofFn ids).Nodup := List.nodup_ofFn.mpr ordered.injective
  refine List.Perm.eq_of_pairwise' (Finset.pairwise_sort _ _) ascending ?_
  refine (List.perm_ext_iff_of_nodup (Finset.sort_nodup _ _) nodup).mpr ?_
  intro id
  rw [Finset.mem_sort, Finset.mem_image, List.mem_ofFn]
  simp

theorem nodesList_registryOf
    (ordered : StrictMono ids)
    (n : Fin N) :
    (registryOf ids ordered).nodesList n = ids n := by
  unfold registryOf
  dsimp only
  rw [sort_image_eq ordered, List.getD_eq_getElem _ _ (by simp)]
  simp

namespace Glob.Lists

variable {glob : Glob}

/-- A complete registry lists the nodes as all others do. -/
theorem nodesList_eq_registryOf
    (ordered : StrictMono ids)
    (lists : glob.Lists (Finset.univ.image ids)) :
    glob.nodesList = (registryOf ids ordered).nodesList :=
  funext lists.holds

/-- A complete registry finds every node. -/
theorem indexOf_ids
    (ordered : StrictMono ids)
    (lists : glob.Lists (Finset.univ.image ids))
    (n : Fin N) :
    glob.indexOf (ids n) = n := by
  rw [← nodesList_registryOf ordered n, ← lists.nodesList_eq_registryOf ordered]
  exact lists.index n ((card_image_ids ordered).symm ▸ n.isLt)

/-- With a complete registry a node calibrates as in the calibration network. -/
theorem calibrationLoop_registryOf
    [Field K]
    (ordered : StrictMono ids)
    (lists : glob.Lists (Finset.univ.image ids))
    {n : Fin N}
    (own : glob.nodeId = ids n)
    (voltageToLux : K → K)
    (input : LoopInput K)
    {node : CalibNode K N}
    (calibrating : node.mainState = .calibrate)
    (control : Nat) :
    glob.calibrationLoop voltageToLux input node.fsm =
      let ran :=
        node.mainLoop (registryOf ids ordered) voltageToLux n
          ⟨input.calibNow, input.voltage, input.stray, control⟩
      (ran.node.fsm, ran.sent) := by
  have entries := lists.nodesList_eq_registryOf ordered
  have isOwn : glob.nodesList n = glob.nodeId := by
    rw [entries, nodesList_registryOf, own]
  exact
    lists.calibrationLoop_of_card (card_image_ids ordered) entries voltageToLux input isOwn
      calibrating control

end Glob.Lists

end Registry

namespace MainNode

variable {K : Type} [Field K] {node : MainNode K}

/-- A command that is no reset leaves the calibration alone. -/
theorem calibrationFSM_readCommand
    {command : Command}
    (kept : command.cmd ≠ byteOf 'r') :
    (node.readCommand command).calibrationFSM = node.calibrationFSM := by
  have same : node.executeCommand command = node := if_neg kept
  unfold readCommand
  rw [same]
  split_ifs <;> rfl

omit [Field K] in
theorem calibrationFSM_sendPCDiscovery (hadResponse : Bool) :
    (node.sendPCDiscovery hadResponse).calibrationFSM =
      node.calibrationFSM := by
  unfold sendPCDiscovery
  split <;> rfl

variable [LinearOrder K]

/-- Frames other than those of the calibration leave it alone, unless they reset the node. -/
theorem kept_received_can
    {message : CanMessage}
    (noReset : (NodeFrame.can message : NodeFrame K).isReset = false)
    {sender : Nat}
    {after : MainNode K}
    (received : node.received sender (.can message) = some after) :
    after.calibrationFSM = node.calibrationFSM ∧
      after.mainFSM = node.mainFSM := by
  cases message with
  | wakeupBroadcast =>
      rw [MainNode.received] at received
      split at received
      · cases received
      · cases received
        exact ⟨rfl, rfl⟩
  | isHubNode =>
      cases received
      exact ⟨rfl, rfl⟩
  | noLongerIsHubNode =>
      cases received
      split <;> exact ⟨rfl, rfl⟩
  | commandsRequest command =>
      cases received
      have kept : ¬ command.cmd = byteOf 'r' := of_decide_eq_false noReset
      rw [executeCommand, if_neg kept]
      exact ⟨rfl, rfl⟩
  | frequentData data0 data1 data2 data3 =>
      cases received
      exact ⟨rfl, rfl⟩
  | commandsResponse value =>
      cases received
      exact ⟨rfl, rfl⟩
  | other =>
      cases received
      exact ⟨rfl, rfl⟩

end MainNode

namespace PowerNet

variable {K : Type} {N : Nat}

/-- The sender and the message of a frame of the calibration. -/
def calibFrame? (pending : Pending K N) : Option (Fin N × CalibMessage K) :=
  match pending.frame with
  | .calib message => some (pending.sender, message)
  | .can _ => none

/-- The state of the main machine in the calibration network. -/
def mainStateOf : MainFSMState → MainState
  | .init | .wakeupWait => .wakeupWait
  | .calibrate => .calibrate
  | .run => .run

/-- What the calibration network shows of a node; one that is off is about to boot. -/
def shown
    [Field K] : Option (PoweredNode K) → CalibrationFSM K × MainState × LoopStage
  | none => (.boot K, .wakeupWait, .start)
  | some powered =>
      (powered.node.calibrationFSM, mainStateOf powered.node.mainFSM.state,
        powered.stage)

/-- What the calibration network holds of a node. -/
def held (node : CalibNode K N) : CalibrationFSM K × MainState × LoopStage :=
  (node.fsm, node.mainState, node.stage)

/-- A calibration network in which the same calibration takes place. -/
structure Calibrates
    [Field K]
    (net : PowerNet K N)
    (calib : CalibNet K N) : Prop where
  nodes : ∀ n, held (calib.node n) = shown (net.powered n)
  fifo :
    ∀ n,
      (calib.bus.fifo n).map
          (fun entry => (entry.sender, entry.frame.message)) =
        (net.fifo n).filterMap calibFrame?

/-- Where the frames of the calibration stand. -/
structure Behind (net : PowerNet K N) : Prop where
  /-- No announcement arrives behind a frame of the calibration. -/
  last :
    ∀ m,
      (net.fifo m).Pairwise fun earlier later =>
        (calibFrame? earlier).isSome → later.frame.isWakeup = false
  /-- When there is one, all nodes have announced themselves. -/
  announced :
    ∀ m, ∀ pending ∈ net.fifo m,
      (calibFrame? pending).isSome →
      ∀ n, net.announced n = true
  /-- A node that still waits has not begun to calibrate. -/
  asleep :
    ∀ n powered,
      net.powered n = some powered →
      mainStateOf powered.node.mainFSM.state = .wakeupWait →
      powered.node.calibrationFSM.state = .calibInit

end PowerNet

namespace PowerNet

variable {K : Type} {N : Nat} {ids : Fin N → Nat} {delays : Delays}
    {net : PowerNet K N} {n : Fin N} {powered : PoweredNode K}
    {stage : LoopStage} {node : MainNode K}

section Order

/-- When a node calibrates, all nodes have announced themselves. -/
theorem Sound.announced_of_calibrating
    (sound : net.Sound ids delays)
    (isOn : net.powered n = some powered)
    (calibrating : powered.node.mainFSM.state = .calibrate)
    (m : Fin N) :
    net.announced m = true := by
  have isKnown : m ∈ net.known n := by
    rw [sound.complete n powered isOn (.inl calibrating)]
    exact Finset.mem_univ m
  rcases mem_known.mp isKnown with same | ⟨isAnnounced, -⟩
  · rw [same, announced_of_powered isOn, calibrating]
    exact nofun
  · exact isAnnounced

/-- A node that takes a frame of the calibration knows all nodes. -/
theorem Behind.known_eq_univ
    (behind : net.Behind)
    {pending : Pending K N}
    {rest : List (Pending K N)}
    (queued : net.fifo n = pending :: rest)
    (isCalib : (calibFrame? pending).isSome) :
    net.known n = Finset.univ := by
  have last := behind.last n
  rw [queued, List.pairwise_cons] at last
  have noWakeup : pending.frame.isWakeup = false := by
    cases isFrame : pending.frame with
    | calib message => rfl
    | can message =>
        rw [calibFrame?, isFrame] at isCalib
        cases isCalib
  rw [Finset.eq_univ_iff_forall]
  intro m
  rw [mem_known]
  refine .inr ⟨behind.announced n pending (mem_of_queued queued) isCalib m, ?_⟩
  rw [queued, List.any_eq_false]
  intro waiting member announcing
  rw [announces, Bool.and_eq_true] at announcing
  rcases List.mem_cons.mp member with isFirst | isLater
  · rw [isFirst, noWakeup] at announcing
    cases announcing.2
  · rw [last.1 waiting isLater isCalib] at announcing
    cases announcing.2

/-- A node changes, but not whether it has announced itself. -/
theorem Behind.withNode
    (behind : net.Behind)
    (isOn : net.powered n = some powered)
    (sameInit :
      node.mainFSM.state = .init ↔ powered.node.mainFSM.state = .init)
    (asleep :
      mainStateOf node.mainFSM.state = .wakeupWait →
      node.calibrationFSM.state = .calibInit) :
    (net.withNode n powered stage node).Behind where
  last := behind.last
  announced := by
    intro m pending member isCalib k
    rw [announced_withNode isOn sameInit]
    exact behind.announced m pending member isCalib k
  asleep := forall_withNode asleep behind.asleep

/-- A node sends frames that announce nobody. -/
theorem Behind.broadcast
    (behind : net.Behind)
    {frames : List (NodeFrame K)}
    (plain : ∀ frame ∈ frames, frame.isWakeup = false)
    (late :
      ∀ message, .calib message ∈ frames → ∀ m, net.announced m = true) :
    (net.broadcast n frames).Behind where
  last := by
    intro m
    unfold PowerNet.broadcast
    dsimp only
    split
    · exact behind.last m
    · have noWakeup :
          ∀ pending ∈ frames.map fun frame => (⟨n, frame, net.time⟩ : Pending K N),
            pending.frame.isWakeup = false := by
        intro pending member
        obtain ⟨frame, isFrame, rfl⟩ := List.mem_map.mp member
        exact plain frame isFrame
      refine List.pairwise_append.mpr ⟨behind.last m, ?_, ?_⟩
      · exact
          List.pairwise_of_forall_mem_list fun _ _ later isLater _ =>
            noWakeup later isLater
      · exact fun _ _ later isLater _ => noWakeup later isLater
  announced := by
    intro m pending member isCalib
    rcases mem_broadcast member with earlier | ⟨frame, isFrame, -, rfl⟩
    · exact behind.announced m pending earlier isCalib
    · cases frame with
      | calib message => exact late message isFrame
      | can message => cases isCalib
  asleep := behind.asleep

/-- A node announces itself, which no node does behind a frame of the calibration. -/
theorem Behind.wakes
    (behind : net.Behind)
    (isOn : net.powered n = some powered)
    (starting : powered.node.mainFSM.state = .init)
    (sameFSM : node.calibrationFSM = powered.node.calibrationFSM) :
    ((net.withNode n powered stage node).broadcast n
        [.can .wakeupBroadcast]).Behind := by
  have noCalib :
      ∀ m, ∀ pending ∈ net.fifo m, (calibFrame? pending).isSome = false := by
    intro m pending member
    by_contra isCalib
    rw [Bool.not_eq_false] at isCalib
    have isAnnounced := behind.announced m pending member isCalib n
    rw [announced_of_powered isOn] at isAnnounced
    exact isAnnounced starting
  have stillNone :
      ∀ m,
        ∀ pending ∈
            ((net.withNode n powered stage node).broadcast n
              [.can .wakeupBroadcast]).fifo m,
          (calibFrame? pending).isSome = false := by
    intro m pending member
    rcases mem_broadcast member with earlier | ⟨frame, isFrame, -, rfl⟩
    · exact noCalib m pending earlier
    · rw [List.mem_singleton.mp isFrame]
      rfl
  refine
    { last := ?_, announced := ?_, asleep := forall_withNode ?_ behind.asleep }
  · intro m
    refine List.pairwise_of_forall_mem_list fun earlier isEarlier _ _ isCalib => ?_
    rw [stillNone m earlier isEarlier] at isCalib
    cases isCalib
  · intro m pending member isCalib
    rw [stillNone m pending member] at isCalib
    cases isCalib
  · intro _
    dsimp only
    rw [sameFSM]
    refine behind.asleep n powered isOn ?_
    rw [starting]
    rfl

/-- A node takes its oldest frame. -/
theorem Behind.take
    (behind : net.Behind)
    (isOn : net.powered n = some powered)
    {pending : Pending K N}
    {rest : List (Pending K N)}
    (queued : net.fifo n = pending :: rest)
    (sameFSM : node.mainFSM = powered.node.mainFSM)
    (sameState :
      node.calibrationFSM.state = powered.node.calibrationFSM.state) :
    ((net.withFifo n rest).withNode n powered stage node).Behind := by
  have shorter : (net.withFifo n rest).Behind :=
    { last := by
        intro m
        by_cases same : m = n
        · subst same
          have last := behind.last m
          rw [queued, List.pairwise_cons] at last
          rw [fifo_withFifo_self]
          exact last.2
        · rw [fifo_withFifo_of_ne same]
          exact behind.last m
      announced := fun m waiting member =>
        behind.announced m waiting (mem_withFifo queued member)
      asleep := behind.asleep }
  have stillOn : (net.withFifo n rest).powered n = some powered := isOn
  refine shorter.withNode stillOn (by rw [sameFSM]) fun isAsleep => ?_
  rw [sameFSM] at isAsleep
  rw [sameState]
  exact behind.asleep n powered isOn isAsleep

/-- A node is switched on before anybody has announced itself. -/
theorem Behind.switchOn
    [Field K]
    (behind : net.Behind)
    (sound : net.Sound ids delays)
    (isOff : net.powered n = none) :
    (net.switchOn ids n).Behind := by
  have unannounced : net.announced n = false := by
    rw [PowerNet.announced, isOff]
    rfl
  have sameFifo : (net.switchOn ids n).fifo = net.fifo :=
    fifo_switchOn (sound.off n isOff).2
  refine
    { last := ?_, announced := ?_
      asleep := forall_switchOn (fun _ => rfl) behind.asleep }
  · intro m
    rw [sameFifo]
    exact behind.last m
  · intro m pending member isCalib
    rw [sameFifo] at member
    have impossible := behind.announced m pending member isCalib n
    rw [unannounced] at impossible
    cases impossible

end Order

end PowerNet

namespace CalibNode

variable {K : Type} {N : Nat} [Field K] {registry : Registry N}
    {voltageToLux : K → K} {n : Fin N} {node : CalibNode K N}

/-- A node that waits goes on waiting at the time of its last transition. -/
theorem mainLoop_asleep
    (waiting : node.mainState = .wakeupWait)
    (voltage stray : K)
    (control : Nat) :
    node.mainLoop registry voltageToLux n
        ⟨node.mainTransitionTime, voltage, stray, control⟩ =
      ⟨node, [], false⟩ := by
  unfold mainLoop
  rw [waiting]
  dsimp only
  rw [BitVec.sub_self]
  rfl

/-- A node that waits starts to calibrate when its delay is over. -/
theorem mainLoop_starts
    (waiting : node.mainState = .wakeupWait)
    (voltage stray : K)
    (control : Nat) :
    node.mainLoop registry voltageToLux n
        ⟨node.mainTransitionTime + 2000001, voltage, stray, control⟩ =
      ⟨{ node with
          mainState := .calibrate
          mainTransitionTime := node.mainTransitionTime + 2000001 },
        [], false⟩ := by
  have elapsed :
      (node.mainTransitionTime + 2000001 - node.mainTransitionTime).toNat >
        2000000 := by
    rw [BitVec.add_comm, BitVec.add_sub_cancel]
    decide
  unfold mainLoop
  rw [waiting]
  dsimp only
  rw [if_pos elapsed]

/-- A node leaves `Calibrate` when it is done. -/
theorem mainState_mainLoop
    (calibrating : node.mainState = .calibrate)
    (notDone : node.fsm.done = false)
    (input : MainInput K) :
    (node.mainLoop registry voltageToLux n input).node.mainState =
      if (node.mainLoop registry voltageToLux n input).node.fsm.done then
        .run
      else
        .calibrate := by
  have kept : node.fsm.advance.done = false := by
    unfold CalibrationFSM.advance
    split <;> exact notDone
  have mainCase := mainCase registry voltageToLux n input node
  generalize node.mainLoop registry voltageToLux n input = ran at mainCase ⊢
  cases mainCase with
  | waking _ _ waiting _ =>
      rw [calibrating] at waiting
      cases waiting
  | controlled running =>
      rw [calibrating] at running
      cases running
  | init _ _ =>
      rw [if_neg (by simp [CalibrationFSM.runStateInit, CalibrationFSM.setState,
        CalibrationFSM.incrementNodesReady, CalibrationFSM.setResidual, notDone])]
      exact calibrating
  | poll _ _ _ =>
      dsimp only
      rw [if_neg (by simp [notDone]), if_neg (by simp [notDone])]
      exact calibrating
  | finish _ _ _ _ => rfl
  | light _ _ _ _ _ =>
      have isDone : (node.fsm.advance.setState .waitTransient input.now).done =
          false := kept
      simp only [passBarrier, isDone, Bool.false_eq_true, ↓reduceIte]
      exact calibrating
  | dark _ _ _ _ _ =>
      have isDone : (node.fsm.advance.setState .waitLedOn input.now).done =
          false := kept
      simp only [passBarrier, isDone, Bool.false_eq_true, ↓reduceIte]
      exact calibrating
  | ignore _ _ _ =>
      rw [if_neg (by simp [notDone])]
      exact calibrating
  | consume _ _ _ =>
      rw [if_neg (by simp [CalibrationFSM.setState, notDone])]
      exact calibrating
  | settling _ _ _ =>
      rw [if_neg (by simp [notDone])]
      exact calibrating
  | first _ _ _ _ _ _ =>
      rw [if_neg (by simp [afterFirst, CalibrationFSM.setState,
        CalibrationFSM.incrementNodesReady, CalibrationFSM.measure, notDone])]
      exact calibrating
  | second _ _ _ _ _ _ =>
      rw [if_neg (by simp [afterSecond, CalibrationFSM.setState,
        CalibrationFSM.incrementNodesReady, CalibrationFSM.setGain,
        CalibrationFSM.measure, notDone])]
      exact calibrating

end CalibNode

namespace CalibNet

variable {K : Type} {N : Nat}

/-- The queues after a node has sent the frames of one run of its main loop. -/
theorem fifo_sendAll
    (bus : Bus (Fin N) (CalibFrame K))
    (n : Fin N)
    (step : Nat)
    (messages : List (CalibMessage K))
    (m : Fin N) :
    (sendAll bus n step messages).fifo m =
      if n = m then
        bus.fifo m
      else
        bus.fifo m ++ messages.map fun message => ⟨n, ⟨message, step⟩⟩ := by
  unfold sendAll
  induction messages generalizing bus with
  | nil => simp
  | cons message rest inductionHypothesis =>
      rw [List.foldl_cons, inductionHypothesis]
      by_cases own : n = m
      · rw [if_pos own, if_pos own, ← own, Bus.broadcast_fifo_self]
      · rw [if_neg own, if_neg own, Bus.broadcast_fifo_other bus own,
          List.append_assoc]
        rfl

/-- All nodes before they are switched on. -/
def switchedOff (K : Type) [Field K] (N : Nat) : CalibNet K N where
  node := fun _ =>
    { fsm := .boot K
      led := 0
      mainState := .wakeupWait
      mainTransitionTime := 0
      stage := .start
      passed := 0
      counted := []
      steps := []
      residual := 0
      gain := fun _ => 0
      polled := false }
  bus := .empty
  progress := fun _ _ => .none

theorem fresh_switchedOff (K : Type) [Field K] (N : Nat) :
    Fresh (switchedOff K N) where
  fsm := fun _ => ⟨.boot K, (CalibrationFSM.resetCalib_boot N).symm⟩
  led := fun _ => rfl
  mainState := fun _ => nofun
  passed := fun _ => rfl
  counted := fun _ => rfl
  steps := fun _ => rfl
  log := rfl

end CalibNet

namespace PowerNet

variable {K : Type} {N : Nat} {ids : Fin N → Nat} {delays : Delays}
    {net : PowerNet K N} {n : Fin N} {powered : PoweredNode K}
    {stage : LoopStage} {node : MainNode K} {calib after : CalibNet K N}

section Views

variable [Field K]

/-- What the calibration network shows of a node that is on. -/
theorem Calibrates.view
    (calibrates : net.Calibrates calib)
    (isOn : net.powered n = some powered) :
    (calib.node n).fsm = powered.node.calibrationFSM ∧
      (calib.node n).mainState = mainStateOf powered.node.mainFSM.state ∧
        (calib.node n).stage = powered.stage := by
  have nodes := calibrates.nodes n
  rw [isOn] at nodes
  obtain ⟨sameFSM, sameRest⟩ := Prod.mk.inj nodes
  exact ⟨sameFSM, Prod.mk.inj sameRest⟩

/-- A node has changed in the same way in both networks. -/
theorem Calibrates.withNode
    (calibrates : net.Calibrates calib)
    (others : ∀ m, m ≠ n → after.node m = calib.node m)
    (own :
      held (after.node n) =
        (node.calibrationFSM, mainStateOf node.mainFSM.state, stage))
    (sameFifo : after.bus.fifo = calib.bus.fifo) :
    (net.withNode n powered stage node).Calibrates after where
  nodes := by
    intro m
    by_cases same : m = n
    · subst same
      rw [own, powered_withNode_self]
      rfl
    · rw [others m same, powered_withNode_of_ne same]
      exact calibrates.nodes m
  fifo := by
    intro m
    rw [sameFifo]
    exact calibrates.fifo m

/-- A node has changed in a way that the calibration network does not show. -/
theorem Calibrates.hidden
    (calibrates : net.Calibrates calib)
    (isOn : net.powered n = some powered)
    (sameCalib : node.calibrationFSM = powered.node.calibrationFSM)
    (sameState :
      mainStateOf node.mainFSM.state =
        mainStateOf powered.node.mainFSM.state) :
    (net.withNode n powered powered.stage node).Calibrates calib := by
  refine calibrates.withNode (fun _ _ => rfl) ?_ rfl
  rw [calibrates.nodes n, isOn, sameCalib, sameState]
  rfl

/-- A node has sent frames that are not of the calibration. -/
theorem Calibrates.broadcast_can
    (calibrates : net.Calibrates calib)
    {frames : List (NodeFrame K)}
    (isCan : ∀ frame ∈ frames, ∃ message, frame = .can message) :
    (net.broadcast n frames).Calibrates calib where
  nodes := calibrates.nodes
  fifo := by
    intro m
    have none :
        (frames.map fun frame => (⟨n, frame, net.time⟩ : Pending K N)).filterMap
            calibFrame? =
          [] := by
      rw [List.filterMap_eq_nil_iff]
      intro pending member
      obtain ⟨frame, isFrame, rfl⟩ := List.mem_map.mp member
      obtain ⟨message, rfl⟩ := isCan frame isFrame
      rfl
    unfold PowerNet.broadcast
    dsimp only
    split
    · exact calibrates.fifo m
    · rw [List.filterMap_append, none, List.append_nil]
      exact calibrates.fifo m

/-- A node has sent frames of the calibration, which reach all others. -/
theorem Calibrates.broadcast_calib
    (calibrates : net.Calibrates calib)
    {sent : List (CalibMessage K)}
    (allOn : sent ≠ [] → ∀ m, (net.powered m).isSome)
    (sameNodes : after.node = calib.node)
    {step : Nat}
    (isSent : after.bus.fifo = (CalibNet.sendAll calib.bus n step sent).fifo) :
    (net.broadcast n (sent.map .calib)).Calibrates after where
  nodes := by
    intro m
    rw [sameNodes]
    exact calibrates.nodes m
  fifo := by
    intro m
    have isMessage :
        ((sent.map NodeFrame.calib).map
              fun frame => (⟨n, frame, net.time⟩ : Pending K N)).filterMap
            calibFrame? =
          sent.map fun message => (n, message) := by
      rw [List.map_map, List.filterMap_map]
      exact congrFun List.filterMap_eq_map' sent
    rw [isSent, CalibNet.fifo_sendAll]
    unfold PowerNet.broadcast
    dsimp only
    by_cases own : n = m
    · rw [if_pos own, if_pos (.inl own.symm)]
      exact calibrates.fifo m
    · rw [if_neg own, List.map_append, List.map_map, calibrates.fifo m]
      split
      · rename_i isOff
        have isNone := isOff.resolve_left (Ne.symm own)
        by_cases nothing : sent = []
        · rw [nothing, List.map_nil, List.append_nil]
        · have isSome := allOn nothing m
          rw [Option.isNone_iff_eq_none.mp isNone] at isSome
          cases isSome
      · rw [List.filterMap_append, isMessage]
        rfl

/-- A node takes a frame that is not of the calibration. -/
theorem Calibrates.take_can
    (calibrates : net.Calibrates calib)
    (isOn : net.powered n = some powered)
    (draining : powered.stage = .drain)
    {pending : Pending K N}
    {rest : List (Pending K N)}
    (queued : net.fifo n = pending :: rest)
    (notCalib : calibFrame? pending = none)
    {node : MainNode K}
    (sameCalib : node.calibrationFSM = powered.node.calibrationFSM)
    (sameFSM : node.mainFSM = powered.node.mainFSM) :
    ((net.withFifo n rest).withNode n powered .drain node).Calibrates calib := by
  have shorter : (net.withFifo n rest).Calibrates calib :=
    { nodes := calibrates.nodes
      fifo := by
        intro m
        by_cases same : m = n
        · subst same
          rw [fifo_withFifo_self, calibrates.fifo m, queued,
            List.filterMap_cons_none notCalib]
        · rw [fifo_withFifo_of_ne same]
          exact calibrates.fifo m }
  have stillOn : (net.withFifo n rest).powered n = some powered := isOn
  rw [← draining]
  exact shorter.hidden stillOn sameCalib (by rw [sameFSM])

end Views

end PowerNet

namespace PowerNet

variable {K : Type} {N : Nat} {ids : Fin N → Nat} {delays : Delays}
    {net : PowerNet K N} {n : Fin N} {powered : PoweredNode K}
    {calib : CalibNet K N}

/-- A second reading, if there are other nodes, is not below the first one. -/
def Rising
    [Field K] [LinearOrder K]
    (ids : Fin N → Nat)
    (voltageToLux : K → K)
    (net : PowerNet K N) : PowerAction K N → Prop
  | .loop n voltage stray =>
      ∀ powered ∈ net.powered n,
        1 < N →
        powered.node.calibrationFSM.state = .waitTransient →
        powered.node.calibrationFSM.luxReadNum = 1 →
        powered.node.calibrationFSM.Elapsed (net.micros powered.bootedAt) →
        powered.node.calibrationFSM.luxReads 0 ≤
          voltageToLux voltage -
            powered.node.calibrationFSM.residualOfId (ids n) stray
  | _ => True

section Steps

variable [Field K] [LinearOrder K] {voltageToLux : K → K}

/-- What a step of the calibration network does for a step of the nodes. -/
structure Follows
    (ids : Fin N → Nat)
    (ordered : StrictMono ids)
    (voltageToLux : K → K)
    (net : PowerNet K N)
    (action : PowerAction K N)
    (after : PowerNet K N)
    (calib calibAfter : CalibNet K N)
    (calibAction : CalibAction K N) : Prop where
  taken :
    CalibNet.next (registryOf ids ordered) voltageToLux calib calibAction =
      some calibAfter
  rising :
    Rising ids voltageToLux net action →
    CalibNet.RisingPairs (registryOf ids ordered) voltageToLux calib calibAction
  calibrates : after.Calibrates calibAfter

/-- A node takes a frame of the calibration. -/
theorem Calibrates.take
    (calibrates : net.Calibrates calib)
    (ordered : StrictMono ids)
    (sound : net.Sound ids delays)
    (behind : net.Behind)
    (isOn : net.powered n = some powered)
    (draining : powered.stage = .drain)
    {pending : Pending K N}
    {rest : List (Pending K N)}
    (queued : net.fifo n = pending :: rest)
    {message : CalibMessage K}
    (isCalib : pending.frame = .calib message)
    {node : MainNode K}
    (received :
      powered.node.received (ids pending.sender) pending.frame = some node) :
    ∃ calibAfter,
      Follows ids ordered voltageToLux net (.take n)
        ((net.withFifo n rest).withNode n powered .drain node) calib calibAfter
        ⟨n, .take⟩ := by
  have isFrame : calibFrame? pending = some (pending.sender, message) := by
    rw [calibFrame?, isCalib]
  obtain ⟨sameFSM, sameState, sameStage⟩ := calibrates.view isOn
  have queue := calibrates.fifo n
  rw [queued, List.filterMap_cons_some isFrame] at queue
  obtain ⟨entry, waiting, isQueue, isEntry, isRest⟩ :=
    List.map_eq_cons_iff.mp queue
  obtain ⟨isSender, isMessage⟩ := Prod.mk.inj isEntry
  have all := sound.lists n powered isOn
  rw [behind.known_eq_univ queued (by rw [isFrame]; rfl)] at all
  rw [isCalib] at received
  obtain ⟨⟩ := received
  refine
    ⟨{ calib with
        node := Function.update calib.node n ((calib.node n).receive entry)
        bus := calib.bus.take n },
      { taken := ?_, rising := fun _ => trivial, calibrates := ?_ }⟩
  · simp only [CalibNet.next, sameStage, draining, isQueue]
  · refine { nodes := ?_, fifo := ?_ }
    · intro m
      by_cases same : m = n
      · subst same
        rw [powered_withNode_self]
        dsimp only
        rw [Function.update_self, all.indexOf_ids ordered, shown, held,
          CalibNode.receive]
        dsimp only
        rw [sameFSM, sameState, sameStage, isSender, isMessage, draining]
      · rw [powered_withNode_of_ne same]
        dsimp only
        rw [Function.update_of_ne same]
        exact calibrates.nodes m
    · intro m
      by_cases same : m = n
      · subst same
        rw [Bus.take_fifo_self isQueue, isRest]
        exact congrArg (List.filterMap calibFrame?) fifo_withFifo_self.symm
      · rw [Bus.take_fifo_other calib.bus same, calibrates.fifo m]
        exact
          congrArg (List.filterMap calibFrame?) (fifo_withFifo_of_ne same).symm

end Steps

end PowerNet

namespace PowerNet

variable {K : Type} {N : Nat} {ids : Fin N → Nat} {delays : Delays}
    {net : PowerNet K N} {n : Fin N} {powered : PoweredNode K}
    {calib : CalibNet K N}

section Loop

variable [Field K]

/-- Both networks end a loop iteration with the same machine. -/
theorem Calibrates.endLoop
    (calibrates : net.Calibrates calib)
    {node : MainNode K}
    (ran : Ran K N)
    (sameFSM : ran.node.fsm = node.calibrationFSM)
    (sameState : ran.node.mainState = mainStateOf node.mainFSM.state)
    (allOn : ran.sent ≠ [] → ∀ m, (net.powered m).isSome) :
    ((net.withNode n powered .start node).broadcast n
        (ran.sent.map .calib)).Calibrates (calib.endLoop n ran) := by
  have moved :
      (net.withNode n powered .start node).Calibrates
        { calib.endLoop n ran with bus := calib.bus } := by
    refine calibrates.withNode (fun m different => ?_) ?_ rfl
    · exact Function.update_of_ne different _ _
    · have isSelf :
          (calib.endLoop n ran).node n = { ran.node with stage := .start } :=
        Function.update_self _ _ _
      dsimp only
      rw [isSelf, held]
      dsimp only
      rw [sameFSM, sameState]
  refine moved.broadcast_calib (fun some m => ?_) rfl rfl
  have isSome := allOn some m
  by_cases same : m = n
  · rw [same, powered_withNode_self]
    rfl
  · rw [powered_withNode_of_ne same]
    exact isSome

/-- A node that does not calibrate ends a loop iteration. -/
theorem Calibrates.endLoop_can
    (calibrates : net.Calibrates calib)
    {node : MainNode K}
    {ran : Ran K N}
    (sameFSM : ran.node.fsm = node.calibrationFSM)
    (sameState : ran.node.mainState = mainStateOf node.mainFSM.state)
    (silent : ran.sent = [])
    {frames : List (NodeFrame K)}
    (isCan : ∀ frame ∈ frames, ∃ message, frame = .can message) :
    ((net.withNode n powered .start node).broadcast n frames).Calibrates
      (calib.endLoop n ran) := by
  have sameBus :
      (CalibNet.sendAll calib.bus n ran.node.passed ran.sent).fifo =
        calib.bus.fifo := by
    rw [silent]
    rfl
  refine Calibrates.broadcast_can ?_ isCan
  refine calibrates.withNode (fun m different => ?_) ?_ sameBus
  · exact Function.update_of_ne different _ _
  · have isSelf :
        (calib.endLoop n ran).node n = { ran.node with stage := .start } :=
      Function.update_self _ _ _
    rw [isSelf, held]
    dsimp only
    rw [sameFSM, sameState]

variable [LinearOrder K] {voltageToLux : K → K}

/-- A node runs `mainFSM.loop()`. -/
theorem Calibrates.loop
    (calibrates : net.Calibrates calib)
    (ordered : StrictMono ids)
    (sound : net.Sound ids delays)
    (behind : net.Behind)
    (invariant : calib.CalibInvariant)
    (isOn : net.powered n = some powered)
    (atMain : powered.stage = .main)
    {voltage stray : K}
    {ran : MainNode K × List (NodeFrame K)}
    (isRan :
      powered.node.mainLoop voltageToLux
          (net.loopInput powered.bootedAt voltage stray) =
        ran) :
    ∃ calibAfter input,
      Follows ids ordered voltageToLux net (.loop n voltage stray)
        ((net.withNode n powered .start ran.1).broadcast n ran.2) calib
        calibAfter ⟨n, .mainLoop input⟩ := by
  obtain ⟨sameFSM, sameState, sameStage⟩ := calibrates.view isOn
  have taken :
      ∀ input : MainInput K,
        CalibNet.next (registryOf ids ordered) voltageToLux calib
            ⟨n, .mainLoop input⟩ =
          some
            (calib.endLoop n
              ((calib.node n).mainLoop (registryOf ids ordered) voltageToLux n
                input)) := by
    intro input
    simp only [CalibNet.next, sameStage, atMain, ↓reduceIte]
  -- A node that is not awake may run at any time: it has nothing to compare yet.
  have asleep :
      ∀ input : MainInput K,
        mainStateOf powered.node.mainFSM.state = .wakeupWait →
        CalibNet.RisingPairs (registryOf ids ordered) voltageToLux calib
          ⟨n, .mainLoop input⟩ := by
    intro input isAsleep _ transient
    dsimp only at transient
    rw [sameFSM, behind.asleep n powered isOn isAsleep] at transient
    cases transient
  have rising :
      ∀ control : Nat,
        Rising ids voltageToLux net (.loop n voltage stray) →
        CalibNet.RisingPairs (registryOf ids ordered) voltageToLux calib
          ⟨n, .mainLoop
            ⟨net.micros powered.bootedAt, voltage, stray, control⟩⟩ := by
    intro control isRising
    have own := isRising powered (by rw [isOn]; rfl)
    unfold CalibNet.RisingPairs
    dsimp only
    rw [sameFSM, nodesList_registryOf]
    exact own
  have sleeps :
      ∀ (node : MainNode K) (frames : List (NodeFrame K)),
        mainStateOf powered.node.mainFSM.state = .wakeupWait →
        node.calibrationFSM = powered.node.calibrationFSM →
        mainStateOf node.mainFSM.state = .wakeupWait →
        (∀ frame ∈ frames, ∃ message, frame = .can message) →
        ∃ calibAfter input,
          Follows ids ordered voltageToLux net (.loop n voltage stray)
            ((net.withNode n powered .start node).broadcast n frames) calib
            calibAfter ⟨n, .mainLoop input⟩ := by
    intro node frames isAsleep sameCalib stillAsleep isCan
    refine
      ⟨_, ⟨(calib.node n).mainTransitionTime, voltage, stray, 0⟩,
        { taken := taken _
          rising := fun _ => asleep _ isAsleep
          calibrates := ?_ }⟩
    rw [CalibNode.mainLoop_asleep (sameState.trans isAsleep)]
    refine calibrates.endLoop_can (sameFSM.trans sameCalib.symm) ?_ rfl isCan
    rw [stillAsleep]
    exact sameState.trans isAsleep
  have loop :=
    MainNode.mainLoop_case voltageToLux
      (net.loopInput powered.bootedAt voltage stray) powered.node
  rw [isRan] at loop
  cases loop with
  | wakes starting _ =>
      refine sleeps _ _ (by rw [starting]; rfl) rfl rfl ?_
      intro frame member
      exact ⟨.wakeupBroadcast, List.mem_singleton.mp member⟩
  | starts waiting _ =>
      have isAsleep : mainStateOf powered.node.mainFSM.state = .wakeupWait := by
        rw [waiting]
        rfl
      refine
        ⟨_, ⟨(calib.node n).mainTransitionTime + 2000001, voltage, stray, 0⟩,
          { taken := taken _
            rising := fun _ => asleep _ isAsleep
            calibrates := ?_ }⟩
      rw [CalibNode.mainLoop_starts (sameState.trans isAsleep)]
      exact
        calibrates.endLoop_can sameFSM rfl rfl (List.forall_mem_nil _)
  | waits notCalibrating =>
      have nothing :
          ∀ frame ∈ ([] : List (NodeFrame K)),
            ∃ message, frame = .can message :=
        List.forall_mem_nil _
      cases state : powered.node.mainFSM.state with
      | init =>
          have isAsleep :
              mainStateOf powered.node.mainFSM.state = .wakeupWait := by
            rw [state]
            rfl
          exact sleeps _ _ isAsleep rfl isAsleep nothing
      | wakeupWait =>
          have isAsleep :
              mainStateOf powered.node.mainFSM.state = .wakeupWait := by
            rw [state]
            rfl
          exact sleeps _ _ isAsleep rfl isAsleep nothing
      | calibrate => exact absurd state notCalibrating
      | run =>
          have isRunning : (calib.node n).mainState = .run := by
            rw [sameState, state]
            rfl
          refine
            ⟨_, ⟨net.micros powered.bootedAt, voltage, stray, 0⟩,
              { taken := taken _
                rising := rising 0
                calibrates := ?_ }⟩
          rw [CalibNode.mainLoop, isRunning]
          exact
            calibrates.endLoop_can sameFSM (isRunning.symm.trans sameState) rfl
              nothing
  | calibrates fsm sent calibrating isLoop =>
      have isCalibrating : (calib.node n).mainState = .calibrate := by
        rw [sameState, calibrating]
        rfl
      have notDone : (calib.node n).fsm.done = false := by
        refine invariant.not_done fun isRunning => ?_
        rw [isCalibrating] at isRunning
        cases isRunning
      have all := sound.lists n powered isOn
      rw [sound.complete n powered isOn (.inl calibrating)] at all
      have sameLoop :=
        all.calibrationLoop_registryOf ordered (sound.nodeId n powered isOn)
          voltageToLux (net.loopInput powered.bootedAt voltage stray)
          isCalibrating 0
      rw [sameFSM, isLoop] at sameLoop
      obtain ⟨isFSM, isSent⟩ := Prod.mk.inj sameLoop
      refine
        ⟨_, ⟨net.micros powered.bootedAt, voltage, stray, 0⟩,
          { taken := taken _
            rising := rising 0
            calibrates := ?_ }⟩
      dsimp only
      rw [isSent]
      refine calibrates.endLoop _ isFSM.symm ?_ fun _ => ?_
      · refine (CalibNode.mainState_mainLoop isCalibrating notDone _).trans ?_
        dsimp only
        rw [isFSM]
        split
        · rfl
        · rw [calibrating]
          rfl
      · exact
          sound.listening
            (sound.announced_of_calibrating isOn calibrating n)

end Loop

end PowerNet

namespace PowerNet

variable {K : Type} {N : Nat} {ids : Fin N → Nat} {delays : Delays}
    {net after : PowerNet K N} {n : Fin N} {calib : CalibNet K N}

section Refinement

variable [Field K] [LinearOrder K] {voltageToLux : K → K}

/-- The nodes, and a calibration network that follows them. -/
structure Refines
    (ids : Fin N → Nat)
    (delays : Delays)
    (net : PowerNet K N)
    (calib : CalibNet K N) : Prop where
  sound : net.Sound ids delays
  behind : net.Behind
  calibrates : net.Calibrates calib
  invariant : calib.CalibInvariant

/-- The order of the frames is kept by a step. -/
theorem Behind.step
    (behind : net.Behind)
    (sound : net.Sound ids delays)
    {action : PowerAction K N}
    (prompt : net.Prompt delays action)
    (effect : Effect ids voltageToLux net action after) :
    after.Behind := by
  cases effect with
  | tick micros =>
      exact
        { last := behind.last
          announced := behind.announced
          asleep := behind.asleep }
  | powerOn isOff => exact behind.switchOn sound isOff
  | @beginDrain n powered isOn _ =>
      exact behind.withNode isOn Iff.rfl (behind.asleep n powered isOn)
  | @endDrain n powered isOn _ _ =>
      exact behind.withNode isOn Iff.rfl (behind.asleep n powered isOn)
  | @take n powered pending rest node isOn _ queued received =>
      obtain ⟨sender, frame, arrived⟩ := pending
      cases frame with
      | calib message =>
          obtain ⟨⟩ := received
          refine behind.take isOn queued rfl ?_
          cases message with
          | calibReady value =>
              obtain ⟨gains, residuals, isReceived⟩ :=
                powered.node.calibrationFSM.received_calibReady
                  (powered.node.glob.indexOf (ids sender)) value
              dsimp only
              rw [isReceived]
          | calibLedOn => rfl
      | can message =>
          have noReset := (sound.queued n _ (mem_of_queued queued)).1
          obtain ⟨sameCalib, sameFSM⟩ :=
            MainNode.kept_received_can noReset received
          exact behind.take isOn queued sameFSM (by rw [sameCalib])
  | @loop n powered voltage stray ran isOn _ isRan =>
      have loop :=
        MainNode.mainLoop_case voltageToLux
          (net.loopInput powered.bootedAt voltage stray) powered.node
      rw [isRan] at loop
      cases loop with
      | wakes starting _ => exact behind.wakes isOn starting rfl
      | waits _ =>
          refine
            (behind.withNode isOn Iff.rfl
              (behind.asleep n powered isOn)).broadcast
              (List.forall_mem_nil _) ?_
          exact fun _ member => absurd member List.not_mem_nil
      | starts waiting _ =>
          refine (behind.withNode isOn ?_ ?_).broadcast ?_ ?_
          · rw [waiting]
            exact iff_of_false nofun nofun
          · exact fun isAsleep => absurd isAsleep nofun
          · exact List.forall_mem_nil _
          · exact fun _ member => absurd member List.not_mem_nil
      | calibrates fsm sent calibrating _ =>
          have notInit :=
            MainFSM.awake_of_calibrating calibrating
              (show MainFSMState.init ≠ .calibrate by decide) (by decide)
              fsm.done (net.micros powered.bootedAt)
          have notWaiting :=
            MainFSM.awake_of_calibrating calibrating
              (show MainFSMState.wakeupWait ≠ .calibrate by decide)
              (by decide) fsm.done (net.micros powered.bootedAt)
          have sameInit :
              (if fsm.done then
                  MainFSM.setState .run (net.micros powered.bootedAt)
                else
                  powered.node.mainFSM).state =
                  .init ↔
                powered.node.mainFSM.state = .init := by
            rw [calibrating]
            exact iff_of_false notInit (by decide)
          refine (behind.withNode isOn sameInit ?_).broadcast ?_ ?_
          · intro isAsleep
            unfold mainStateOf at isAsleep
            split at isAsleep
            · rename_i isInit
              exact absurd isInit notInit
            · rename_i isWaiting
              exact absurd isWaiting notWaiting
            · cases isAsleep
            · cases isAsleep
          · intro frame member
            obtain ⟨message, -, rfl⟩ := List.mem_map.mp member
            rfl
          · intro message _ m
            rw [announced_withNode isOn sameInit]
            exact sound.announced_of_calibrating isOn calibrating m
  | @command n powered isOn command =>
      obtain ⟨sameFSM, -⟩ := powered.node.readCommand_of_kept prompt
      refine behind.withNode isOn (by rw [sameFSM]) fun isAsleep => ?_
      rw [sameFSM] at isAsleep
      rw [MainNode.calibrationFSM_readCommand prompt]
      exact behind.asleep n powered isOn isAsleep
  | @discovery n powered isOn hadResponse =>
      obtain ⟨sameFSM, -⟩ := powered.node.sendPCDiscovery_kept hadResponse
      refine behind.withNode isOn (by rw [sameFSM]) fun isAsleep => ?_
      rw [sameFSM] at isAsleep
      rw [MainNode.calibrationFSM_sendPCDiscovery]
      exact behind.asleep n powered isOn isAsleep
  | send n message =>
      refine behind.broadcast ?_ ?_
      · intro frame member
        rw [List.mem_singleton.mp member]
        exact prompt.1
      · intro calibMessage member
        cases List.mem_singleton.mp member

/-- The calibration network does one step, or none. -/
theorem Calibrates.step
    (calibrates : net.Calibrates calib)
    (ordered : StrictMono ids)
    (sound : net.Sound ids delays)
    (behind : net.Behind)
    (invariant : calib.CalibInvariant)
    {action : PowerAction K N}
    (prompt : net.Prompt delays action)
    (effect : Effect ids voltageToLux net action after) :
    after.Calibrates calib ∨
      ∃ calibAfter calibAction,
        Follows ids ordered voltageToLux net action after calib calibAfter
          calibAction := by
  cases effect with
  | tick micros =>
      exact .inl { nodes := calibrates.nodes, fifo := calibrates.fifo }
  | @powerOn n isOff =>
      refine .inl { nodes := ?_, fifo := ?_ }
      · intro m
        rw [calibrates.nodes m]
        by_cases same : m = n
        · subst same
          rw [isOff, powered_switchOn_self]
          rfl
        · rw [powered_switchOn_of_ne same]
      · intro m
        rw [calibrates.fifo m, fifo_switchOn (sound.off n isOff).2]
  | @beginDrain n powered isOn atStart =>
      obtain ⟨sameFSM, sameState, sameStage⟩ := calibrates.view isOn
      refine
        .inr
          ⟨calib.startLoop n, ⟨n, .beginDrain⟩,
            { taken := ?_, rising := fun _ => trivial, calibrates := ?_ }⟩
      · simp only [CalibNet.next, sameStage, atStart, ↓reduceIte]
      · refine calibrates.withNode (fun m different => ?_) ?_ rfl
        · exact Function.update_of_ne different _ _
        · have isSelf :
              (calib.startLoop n).node n = { calib.node n with stage := .drain } :=
            Function.update_self _ _ _
          rw [isSelf, held]
          dsimp only
          rw [sameFSM, sameState]
  | @endDrain n powered isOn draining drained =>
      obtain ⟨sameFSM, sameState, sameStage⟩ := calibrates.view isOn
      have queue := calibrates.fifo n
      rw [drained, List.filterMap_nil, List.map_eq_nil_iff] at queue
      refine
        .inr
          ⟨{ calib with
              node :=
                Function.update calib.node n
                  { calib.node n with stage := .main } },
            ⟨n, .endDrain⟩,
            { taken := ?_, rising := fun _ => trivial, calibrates := ?_ }⟩
      · simp only [CalibNet.next, sameStage, draining, queue]
      · refine calibrates.withNode (fun m different => ?_) ?_ rfl
        · exact Function.update_of_ne different _ _
        · dsimp only
          rw [Function.update_self, held]
          dsimp only
          rw [sameFSM, sameState]
  | @take n powered pending rest node isOn draining queued received =>
      cases isFrame : pending.frame with
      | calib message =>
          obtain ⟨calibAfter, follows⟩ :=
            calibrates.take ordered sound behind isOn draining queued isFrame
              received
          exact .inr ⟨calibAfter, _, follows⟩
      | can message =>
          have noReset := (sound.queued n pending (mem_of_queued queued)).1
          rw [isFrame] at received noReset
          obtain ⟨sameCalib, sameFSM⟩ :=
            MainNode.kept_received_can noReset received
          refine
            .inl
              (calibrates.take_can isOn draining queued ?_ sameCalib sameFSM)
          rw [calibFrame?, isFrame]
  | @loop n powered voltage stray ran isOn atMain isRan =>
      obtain ⟨calibAfter, input, follows⟩ :=
        calibrates.loop ordered sound behind invariant isOn atMain isRan
      exact .inr ⟨calibAfter, _, follows⟩
  | @command n powered isOn command =>
      refine .inl (calibrates.hidden isOn ?_ ?_)
      · exact MainNode.calibrationFSM_readCommand prompt
      · rw [(powered.node.readCommand_of_kept prompt).1]
  | @discovery n powered isOn hadResponse =>
      refine .inl (calibrates.hidden isOn ?_ ?_)
      · exact MainNode.calibrationFSM_sendPCDiscovery hadResponse
      · rw [(powered.node.sendPCDiscovery_kept hadResponse).1]
  | send n message =>
      refine .inl (calibrates.broadcast_can ?_)
      intro frame member
      exact ⟨message, List.mem_singleton.mp member⟩

end Refinement

end PowerNet

namespace PowerNet

variable {K : Type} {N : Nat} {ids : Fin N → Nat} {delays : Delays}
    {net after final : PowerNet K N} {n : Fin N} {calib : CalibNet K N}

/-- When all nodes are in `Run`, they hold the same gains. -/
def SameGains (net : PowerNet K N) : Prop :=
  (∀ n, ∃ powered,
    net.powered n = some powered ∧ powered.node.mainFSM.state = .run) →
  ∀ n m poweredN poweredM,
    net.powered n = some poweredN →
    net.powered m = some poweredM →
    ∀ i j,
      i < N →
      j < N →
      poweredN.node.calibrationFSM.gainMatrix i j =
        poweredM.node.calibrationFSM.gainMatrix i j

section Runs

variable [Field K]

/-- Nodes that are off have not begun to calibrate. -/
theorem refines_off
    (ids : Fin N → Nat)
    (delays : Delays) :
    Refines ids delays (off : PowerNet K N) (.switchedOff K N) where
  sound := sound_off ids delays
  behind :=
    { last := fun _ => List.Pairwise.nil
      announced := fun _ => List.forall_mem_nil _
      asleep := fun n powered isOn => absurd isOn (powered_off n powered) }
  calibrates := { nodes := fun _ => rfl, fifo := fun _ => rfl }
  invariant := .initial (CalibNet.fresh_switchedOff K N)

variable [LinearOrder K] {voltageToLux : K → K}

/-- A step of the nodes is none or one of the calibration network. -/
theorem Refines.step
    (refines : Refines ids delays net calib)
    (ordered : StrictMono ids)
    (positive : ∀ n, 0 < ids n)
    {action : PowerAction K N}
    (prompt : net.Prompt delays action)
    (taken : next ids voltageToLux net action = some after) :
    Refines ids delays after calib ∨
      ∃ calibAfter calibAction,
        Follows ids ordered voltageToLux net action after calib calibAfter
            calibAction ∧
          Refines ids delays after calibAfter := by
  obtain ⟨sound, behind, calibrates, invariant⟩ := refines
  have effect := effect_of_next taken
  have soundAfter := sound.step ordered.injective positive prompt taken
  have behindAfter := behind.step sound prompt effect
  rcases calibrates.step ordered sound behind invariant prompt effect with
    stays | ⟨calibAfter, calibAction, follows⟩
  · exact .inl ⟨soundAfter, behindAfter, stays, invariant⟩
  · exact
      .inr
        ⟨calibAfter, calibAction, follows, soundAfter, behindAfter,
          follows.calibrates, invariant.step follows.taken⟩

/-- A run of the nodes is followed by one of the calibration network. -/
theorem refines_of_run
    {permitted : PowerNet K N → PowerAction K N → Prop}
    {permittedCalib : CalibNet K N → CalibAction K N → Prop}
    (ordered : StrictMono ids)
    (positive : ∀ n, 0 < ids n)
    (prompt :
      ∀ {net : PowerNet K N} {action : PowerAction K N},
        permitted net action → net.Prompt delays action)
    (follows :
      ∀ {net after : PowerNet K N} {action : PowerAction K N}
        {calib calibAfter : CalibNet K N} {calibAction : CalibAction K N},
        permitted net action →
        Follows ids ordered voltageToLux net action after calib calibAfter
          calibAction →
        permittedCalib calib calibAction)
    (run : Run (next ids voltageToLux) permitted off final) :
    ∃ calib,
      Run (CalibNet.next (registryOf ids ordered) voltageToLux) permittedCalib
          (.switchedOff K N) calib ∧
        Refines ids delays final calib := by
  refine
    run.simulated (Refines ids delays) (refines_off ids delays)
      fun {_ after _ calib} refines isPermitted taken => ?_
  rcases refines.step ordered positive (prompt isPermitted) taken with
    stays | ⟨calibAfter, calibAction, isFollowed, moves⟩
  · exact ⟨calib, .refl, stays⟩
  · exact
      ⟨calibAfter,
        .step calibAction .refl (follows isPermitted isFollowed)
          isFollowed.taken,
        moves⟩

/--
The nodes of a prompt power-up calibrate as the calibration network does, which holds one
registry for all of them and starts with all nodes before their calibration.
-/
theorem calibrates_of_run
    (voltageToLux : K → K)
    {ids : Fin N → Nat}
    (ordered : StrictMono ids)
    (inRange : ∀ n, 0 < ids n ∧ ids n ≤ maxNodeId)
    (delays : Delays)
    (run : Run (next ids voltageToLux) (Prompt delays) off final) :
    ∃ calib,
      Run (CalibNet.next (registryOf ids ordered) voltageToLux)
          (fun _ _ => True) (.switchedOff K N) calib ∧
        final.Calibrates calib := by
  obtain ⟨calib, calibRun, refines⟩ :=
    refines_of_run ordered (fun n => (inRange n).1) id
      (fun _ _ => trivial) run
  exact ⟨calib, calibRun, refines.calibrates⟩

variable [IsStrictOrderedRing K]

/--
If besides no second reading falls below the first, all nodes hold the same gains when all
of them have come from power-up to `Run`.
-/
theorem sameGains_of_run
    (voltageToLux : K → K)
    {ids : Fin N → Nat}
    (ordered : StrictMono ids)
    (inRange : ∀ n, 0 < ids n ∧ ids n ≤ maxNodeId)
    (fits : N ≤ maxNumNodes)
    (delays : Delays)
    (run :
      Run (next ids voltageToLux)
        (fun net action =>
          net.Prompt delays action ∧ net.Rising ids voltageToLux action)
        off final) :
    final.SameGains := by
  obtain ⟨calib, calibRun, refines⟩ :=
    refines_of_run ordered (fun n => (inRange n).1) And.left
      (fun permitted follows => follows.rising permitted.2) run
  intro allRun n m poweredN poweredM isN isM i j iIn jIn
  have isShown :
      ∀ k powered,
        final.powered k = some powered →
        (calib.node k).fsm = powered.node.calibrationFSM ∧
          (calib.node k).fsm.done = true := by
    intro k powered isOn
    obtain ⟨sameFSM, sameState, -⟩ := refines.calibrates.view isOn
    obtain ⟨running, isRunning, state⟩ := allRun k
    rw [isOn] at isRunning
    obtain ⟨⟩ := isRunning
    refine ⟨sameFSM, (refines.invariant.nodes k).running.mp ?_⟩
    rw [sameState, state]
    rfl
  have carried : CalibNet.Carried (2 * j + 2) calib :=
    calibRun.invariant (CalibNet.Carried (2 * j + 2))
      (.initial (CalibNet.fresh_switchedOff K N))
      fun carried rising taken =>
        carried.step_gain fits (by omega) (by omega) rising taken
  have kept :
      ∀ k powered,
        final.powered k = some powered →
        powered.node.calibrationFSM.gainMatrix i j =
          (calib.node ⟨i, iIn⟩).gain j := by
    intro k powered isOn
    obtain ⟨sameFSM, isDone⟩ := isShown k powered isOn
    have kept := carried.kept_of_done isDone (by omega) ⟨i, iIn⟩
    have notResidual : 2 * j + 2 ≠ 0 := by omega
    have column : designated (2 * j + 2) = j := by
      unfold designated
      omega
    simp only [CalibrationFSM.kept, CalibNode.measured, if_neg notResidual,
      column] at kept
    rw [← sameFSM]
    exact kept
  rw [kept n poweredN isN, kept m poweredM isM]

end Runs

section Example

instance (net : PowerNet ℚ 2) (action : PowerAction ℚ 2) :
    Decidable (net.Rising ![3, 7] id action) :=
  match action with
  | .loop _ _ _ => inferInstanceAs (Decidable (∀ _ ∈ _, _ → _ → _ → _ → _ ≤ _))
  | .tick _ => inferInstanceAs (Decidable True)
  | .powerOn _ => inferInstanceAs (Decidable True)
  | .beginDrain _ => inferInstanceAs (Decidable True)
  | .take _ => inferInstanceAs (Decidable True)
  | .endDrain _ => inferInstanceAs (Decidable True)
  | .command _ _ => inferInstanceAs (Decidable True)
  | .discovery _ _ => inferInstanceAs (Decidable True)
  | .send _ _ => inferInstanceAs (Decidable True)

/-- One node lights its LED and measures, and the other follows. -/
def measureTogether
    (lit other : Fin 2)
    (litFrames otherFrames : Nat)
    (litVoltage otherVoltage : ℚ) : List (PowerAction ℚ 2) :=
  loopTaking lit litFrames 0 ++ loopTaking other otherFrames 0 ++
    loopTaking other 0 0 ++ [.tick 1500000] ++ loopTaking lit 0 litVoltage ++
    loopTaking other 1 otherVoltage

/-- The second node takes the residual of the first before its own `CalibInit`. -/
def beginCalibration (first second : Fin 2) : List (PowerAction ℚ 2) :=
  twoSwitches first second ++ loopTaking first 0 4 ++ loopTaking second 1 5

/-- From the switches to `Run`. -/
def calibrateTwo (first second : Fin 2) : List (PowerAction ℚ 2) :=
  beginCalibration first second ++
    measureTogether first second 1 1 20 10 ++
    measureTogether first second 1 1 240 120 ++
    measureTogether second first 0 2 20 10 ++
    measureTogether second first 1 1 240 100 ++
    loopTaking second 1 0 ++ loopTaking first 0 0

/-- Two nodes that have just exchanged their residuals. -/
theorem calibrates_of_run_two_nodes :
    ∃ final : PowerNet ℚ 2,
      Run (next ![3, 7] id) (Prompt secondApart) off final ∧
        (final.powered 1).map (fun powered =>
            powered.node.calibrationFSM.numNodesReady) =
          some 2 ∧
        ∃ calib,
          Run (CalibNet.next (registryOf ![3, 7] (by decide)) id)
              (fun _ _ => True) (.switchedOff ℚ 2) calib ∧
            final.Calibrates calib := by
  obtain ⟨final, run, observed⟩ :=
    exists_run_of_observed (next ![3, 7] id) (Prompt secondApart) off
      (beginCalibration 0 1)
      (fun net =>
        decide
          ((net.powered 1).map (fun powered =>
              powered.node.calibrationFSM.numNodesReady) =
            some 2))
      (by decide +kernel)
  exact
    ⟨final, run, of_decide_eq_true observed,
      calibrates_of_run id (by decide) (by decide) secondApart run⟩

/-- Two nodes that have come to `Run`. -/
theorem sameGains_of_run_two_nodes :
    ∃ final : PowerNet ℚ 2,
      Run (next ![3, 7] id)
          (fun net action =>
            net.Prompt secondApart action ∧ net.Rising ![3, 7] id action)
          off final ∧
        (∀ n, ∃ powered,
          final.powered n = some powered ∧
            powered.node.mainFSM.state = .run) ∧
          final.SameGains := by
  obtain ⟨final, run, observed⟩ :=
    exists_run_of_observed (next ![3, 7] id)
      (fun net action =>
        net.Prompt secondApart action ∧ net.Rising ![3, 7] id action)
      off (calibrateTwo 0 1)
      (fun net =>
        decide
          (∀ n,
            (net.powered n).any fun powered =>
              powered.node.mainFSM.state = .run))
      (by decide +kernel)
  refine
    ⟨final, run, fun n => ?_,
      sameGains_of_run id (by decide) (by decide) (by decide) secondApart run⟩
  obtain ⟨powered, isOn, running⟩ :=
    (Option.any_eq_true _ _).mp (of_decide_eq_true observed n)
  exact ⟨powered, isOn, of_decide_eq_true running⟩

end Example

end PowerNet

end DistributedLighting
