import DistributedLighting.MembershipReset

namespace DistributedLighting

/-!
# Power-up

A node announces itself two seconds after it was switched on, so that the others are
listening by then, and waits two more seconds for their announcements before it starts
to calibrate.  The clock of a node starts when it is switched on; a node that is off
hears nothing.
-/

/-- A node, the time at which it was switched on, and where it is in its main loop. -/
structure PoweredNode (K : Type) where
  bootedAt : Nat
  stage : LoopStage
  node : MainNode K

/-- A frame that a node has not taken yet. -/
structure Pending (K : Type) (N : Nat) where
  sender : Fin N
  frame : NodeFrame K
  arrived : Nat

/-- The nodes, the frames that wait for them, and the time in microseconds. -/
structure PowerNet (K : Type) (N : Nat) where
  time : Nat
  powered : Fin N → Option (PoweredNode K)
  fifo : Fin N → List (Pending K N)

/-- The delays that the two seconds of `Init` and of `WakeupWait` have to cover. -/
structure Delays where
  /-- The last node is switched on this long after the first. -/
  spread : Nat
  /-- `mainFSM.loop()` notices this late that the two seconds are over. -/
  latency : Nat
  /-- A node takes a frame this long after it has arrived. -/
  lag : Nat
  covered : spread + latency + lag ≤ MainFSM.wakeupDelay

/-- Time passes, or a node does something. -/
inductive PowerAction (K : Type) (N : Nat) where
  | tick (micros : Nat)
  | powerOn (n : Fin N)
  | beginDrain (n : Fin N)
  | take (n : Fin N)
  | endDrain (n : Fin N)
  /-- `mainFSM.loop()` -/
  | loop (n : Fin N) (voltage stray : K)
  | command (n : Fin N) (command : Command)
  | discovery (n : Fin N) (hadResponse : Bool)
  /-- Send a frame of the commands, the light control or the consensus. -/
  | send (n : Fin N) (message : CanMessage)

namespace MainFSM

/-- A node that calibrates goes on with it, or is done. -/
theorem awake_of_calibrating
    {fsm : MainFSM}
    (calibrating : fsm.state = .calibrate)
    {state : MainFSMState}
    (notCalibrate : state ≠ .calibrate)
    (notRun : state ≠ .run)
    (done : Bool)
    (now : BitVec 32) :
    (if done then setState .run now else fsm).state ≠ state := by
  split
  · exact notRun.symm
  · rw [calibrating]
    exact notCalibrate.symm

end MainFSM

namespace PowerNet

variable {K : Type} {N : Nat}

/-- `micros()` -/
def micros
    (net : PowerNet K N)
    (bootedAt : Nat) : BitVec 32 :=
  BitVec.ofNat 32 (net.time - bootedAt)

/-- The net with another state of one node. -/
def withNode
    (net : PowerNet K N)
    (n : Fin N)
    (powered : PoweredNode K)
    (stage : LoopStage)
    (node : MainNode K) : PowerNet K N :=
  { net with
    powered :=
      Function.update net.powered n
        (some { powered with stage := stage, node := node }) }

/-- A frame reaches all other nodes that are on. -/
def broadcast
    (net : PowerNet K N)
    (n : Fin N)
    (frames : List (NodeFrame K)) : PowerNet K N :=
  { net with
    fifo := fun m =>
      if m = n ∨ (net.powered m).isNone then
        net.fifo m
      else
        net.fifo m ++ frames.map fun frame => ⟨n, frame, net.time⟩ }

/-- The net with other waiting frames of one node. -/
def withFifo
    (net : PowerNet K N)
    (n : Fin N)
    (waiting : List (Pending K N)) : PowerNet K N :=
  { net with fifo := Function.update net.fifo n waiting }

/-- The net with a node that has just been switched on. -/
def switchOn
    [Field K]
    (ids : Fin N → Nat)
    (net : PowerNet K N)
    (n : Fin N) : PowerNet K N :=
  { net with
    powered :=
      Function.update net.powered n
        (some
          { bootedAt := net.time
            stage := .start
            node := .boot K (ids n) 0 })
    fifo := Function.update net.fifo n [] }

/-- What one run of `mainFSM.loop()` reads now. -/
def loopInput
    (net : PowerNet K N)
    (bootedAt : Nat)
    (voltage stray : K) : LoopInput K where
  now := net.micros bootedAt
  stamp := net.micros bootedAt
  calibNow := net.micros bootedAt
  voltage := voltage
  stray := stray

/-- The transition function of the network. -/
def next
    [Field K] [LinearOrder K]
    (ids : Fin N → Nat)
    (voltageToLux : K → K)
    (net : PowerNet K N) : PowerAction K N → Option (PowerNet K N)
  | .tick micros => some { net with time := net.time + micros }
  | .powerOn n =>
      if (net.powered n).isNone then some (net.switchOn ids n) else none
  | .beginDrain n =>
      (net.powered n).bind fun powered =>
        if powered.stage = .start then
          some (net.withNode n powered .drain powered.node)
        else
          none
  | .take n =>
      (net.powered n).bind fun powered =>
        match powered.stage, net.fifo n with
        | .drain, pending :: rest =>
            (powered.node.received (ids pending.sender) pending.frame).map
              fun node => (net.withFifo n rest).withNode n powered .drain node
        | _, _ => none
  | .endDrain n =>
      (net.powered n).bind fun powered =>
        match powered.stage, net.fifo n with
        | .drain, [] => some (net.withNode n powered .main powered.node)
        | _, _ => none
  | .loop n voltage stray =>
      (net.powered n).bind fun powered =>
        if powered.stage = .main then
          let ran :=
            powered.node.mainLoop voltageToLux
              (net.loopInput powered.bootedAt voltage stray)
          some ((net.withNode n powered .start ran.1).broadcast n ran.2)
        else
          none
  | .command n command =>
      (net.powered n).map fun powered =>
        net.withNode n powered powered.stage (powered.node.readCommand command)
  | .discovery n hadResponse =>
      (net.powered n).map fun powered =>
        net.withNode n powered powered.stage
          (powered.node.sendPCDiscovery hadResponse)
  | .send n message =>
      (net.powered n).map fun _ => net.broadcast n [.can message]

/-- Everything that a single step can do, and when. -/
inductive Effect
    [Field K] [LinearOrder K]
    (ids : Fin N → Nat)
    (voltageToLux : K → K)
    (net : PowerNet K N) : PowerAction K N → PowerNet K N → Prop where
  | tick (micros : Nat) :
      Effect ids voltageToLux net (.tick micros)
        { net with time := net.time + micros }
  | powerOn
      {n : Fin N}
      (isOff : net.powered n = none) :
      Effect ids voltageToLux net (.powerOn n) (net.switchOn ids n)
  | beginDrain
      {n : Fin N}
      {powered : PoweredNode K}
      (isOn : net.powered n = some powered)
      (atStart : powered.stage = .start) :
      Effect ids voltageToLux net (.beginDrain n)
        (net.withNode n powered .drain powered.node)
  | take
      {n : Fin N}
      {powered : PoweredNode K}
      {pending : Pending K N}
      {rest : List (Pending K N)}
      {node : MainNode K}
      (isOn : net.powered n = some powered)
      (draining : powered.stage = .drain)
      (queued : net.fifo n = pending :: rest)
      (received :
        powered.node.received (ids pending.sender) pending.frame =
          some node) :
      Effect ids voltageToLux net (.take n)
        ((net.withFifo n rest).withNode n powered .drain node)
  | endDrain
      {n : Fin N}
      {powered : PoweredNode K}
      (isOn : net.powered n = some powered)
      (draining : powered.stage = .drain)
      (drained : net.fifo n = []) :
      Effect ids voltageToLux net (.endDrain n)
        (net.withNode n powered .main powered.node)
  | loop
      {n : Fin N}
      {powered : PoweredNode K}
      {voltage stray : K}
      {ran : MainNode K × List (NodeFrame K)}
      (isOn : net.powered n = some powered)
      (atMain : powered.stage = .main)
      (isRan :
        powered.node.mainLoop voltageToLux
            (net.loopInput powered.bootedAt voltage stray) =
          ran) :
      Effect ids voltageToLux net (.loop n voltage stray)
        ((net.withNode n powered .start ran.1).broadcast n ran.2)
  | command
      {n : Fin N}
      {powered : PoweredNode K}
      (isOn : net.powered n = some powered)
      (command : Command) :
      Effect ids voltageToLux net (.command n command)
        (net.withNode n powered powered.stage
          (powered.node.readCommand command))
  | discovery
      {n : Fin N}
      {powered : PoweredNode K}
      (isOn : net.powered n = some powered)
      (hadResponse : Bool) :
      Effect ids voltageToLux net (.discovery n hadResponse)
        (net.withNode n powered powered.stage
          (powered.node.sendPCDiscovery hadResponse))
  | send
      (n : Fin N)
      (message : CanMessage) :
      Effect ids voltageToLux net (.send n message)
        (net.broadcast n [.can message])

/-- A transition has one of the listed effects. -/
theorem effect_of_next
    [Field K] [LinearOrder K]
    {ids : Fin N → Nat}
    {voltageToLux : K → K}
    {net after : PowerNet K N}
    {action : PowerAction K N}
    (taken : next ids voltageToLux net action = some after) :
    Effect ids voltageToLux net action after := by
  cases action with
  | tick micros =>
      obtain ⟨⟩ := taken
      exact .tick micros
  | powerOn n =>
      rw [next] at taken
      split at taken
      · rename_i isOff
        obtain ⟨⟩ := taken
        exact .powerOn (Option.isNone_iff_eq_none.mp isOff)
      · cases taken
  | beginDrain n =>
      obtain ⟨powered, isOn, taken⟩ := Option.bind_eq_some_iff.mp taken
      split at taken
      · rename_i atStart
        obtain ⟨⟩ := taken
        exact .beginDrain isOn atStart
      · cases taken
  | take n =>
      obtain ⟨powered, isOn, taken⟩ := Option.bind_eq_some_iff.mp taken
      split at taken
      · rename_i draining queued
        obtain ⟨node, received, rfl⟩ := Option.map_eq_some_iff.mp taken
        exact .take isOn draining queued received
      · cases taken
  | endDrain n =>
      obtain ⟨powered, isOn, taken⟩ := Option.bind_eq_some_iff.mp taken
      split at taken
      · rename_i draining drained
        obtain ⟨⟩ := taken
        exact .endDrain isOn draining drained
      · cases taken
  | loop n voltage stray =>
      obtain ⟨powered, isOn, taken⟩ := Option.bind_eq_some_iff.mp taken
      split at taken
      · rename_i atMain
        obtain ⟨⟩ := taken
        exact .loop isOn atMain rfl
      · cases taken
  | command n command =>
      obtain ⟨powered, isOn, rfl⟩ := Option.map_eq_some_iff.mp taken
      exact .command isOn command
  | discovery n hadResponse =>
      obtain ⟨powered, isOn, rfl⟩ := Option.map_eq_some_iff.mp taken
      exact .discovery isOn hadResponse
  | send n message =>
      obtain ⟨-, -, rfl⟩ := Option.map_eq_some_iff.mp taken
      exact .send n message

/-- The node has announced itself. -/
def announced
    (net : PowerNet K N)
    (n : Fin N) : Bool :=
  (net.powered n).any fun powered => powered.node.mainFSM.state ≠ .init

/-- The frame announces this node. -/
def announces
    (n : Fin N)
    (pending : Pending K N) : Bool :=
  pending.sender = n && pending.frame.isWakeup

/-- By this time a node has to be on, and one that is on has to have announced itself. -/
def InTime
    (delays : Delays)
    (time : Nat) : Option (PoweredNode K) → Prop
  | none => time ≤ delays.spread
  | some powered =>
      powered.node.mainFSM.state = .init →
        time ≤ powered.bootedAt + MainFSM.wakeupDelay + delays.latency

instance (delays : Delays) (time : Nat) (powered : Option (PoweredNode K)) :
    Decidable (InTime delays time powered) :=
  match powered with
  | none => inferInstanceAs (Decidable (_ ≤ _))
  | some _ => inferInstanceAs (Decidable (_ → _))

/-- Nothing takes longer than these delays, and nobody resets. -/
def Prompt
    (delays : Delays)
    (net : PowerNet K N) : PowerAction K N → Prop
  | .tick micros =>
      (∀ n, InTime delays (net.time + micros) (net.powered n)) ∧
        ∀ n, ∀ pending ∈ net.fifo n,
          net.time + micros ≤ pending.arrived + delays.lag
  | .command _ command => command.cmd ≠ byteOf 'r'
  | .send _ message =>
      (NodeFrame.can message : NodeFrame K).isWakeup = false ∧
        (NodeFrame.can message : NodeFrame K).isReset = false
  | _ => True

instance (delays : Delays) (net : PowerNet K N) (action : PowerAction K N) :
    Decidable (net.Prompt delays action) :=
  match action with
  | .tick _ => inferInstanceAs (Decidable (_ ∧ _))
  | .powerOn _ => inferInstanceAs (Decidable True)
  | .beginDrain _ => inferInstanceAs (Decidable True)
  | .take _ => inferInstanceAs (Decidable True)
  | .endDrain _ => inferInstanceAs (Decidable True)
  | .loop _ _ _ => inferInstanceAs (Decidable True)
  | .command _ _ => inferInstanceAs (Decidable (_ ≠ _))
  | .discovery _ _ => inferInstanceAs (Decidable True)
  | .send _ _ => inferInstanceAs (Decidable (_ ∧ _))

/-- All nodes are off. -/
def off : PowerNet K N where
  time := 0
  powered := fun _ => none
  fifo := fun _ => []

/-- The nodes that node `m` knows: itself, and those it has heard. -/
def known
    (net : PowerNet K N)
    (m : Fin N) : Finset (Fin N) :=
  Finset.univ.filter fun n =>
    n = m ∨ net.announced n ∧ ¬ (net.fifo m).any (announces n)

/-- The registries, the frames on the way and the clocks fit together. -/
structure Sound
    (ids : Fin N → Nat)
    (delays : Delays)
    (net : PowerNet K N) : Prop where
  off :
    ∀ n, net.powered n = none → net.time ≤ delays.spread ∧ net.fifo n = []
  booted :
    ∀ n powered,
      net.powered n = some powered →
      powered.bootedAt ≤ net.time ∧ powered.bootedAt ≤ delays.spread
  starting :
    ∀ n powered,
      net.powered n = some powered →
      powered.node.mainFSM.state = .init →
      powered.node.mainFSM.lastTransitionTime = 0 ∧
        net.time ≤ powered.bootedAt + MainFSM.wakeupDelay + delays.latency
  waits :
    ∀ n powered,
      net.powered n = some powered →
      powered.node.mainFSM.state = .wakeupWait →
      ∃ woke,
        powered.bootedAt + MainFSM.wakeupDelay < woke ∧
          woke ≤ net.time ∧
          powered.node.mainFSM.lastTransitionTime =
            BitVec.ofNat 32 (woke - powered.bootedAt)
  late : ∀ n, net.announced n = true → delays.spread < net.time
  nodeId :
    ∀ n powered,
      net.powered n = some powered →
      powered.node.glob.nodeId = ids n
  lists :
    ∀ n powered,
      net.powered n = some powered →
      powered.node.glob.Lists ((net.known n).image ids)
  once :
    ∀ m n, (net.fifo m).countP (announces n) ≤ 1
  taken :
    ∀ m, ∀ pending ∈ net.fifo m,
      net.time ≤ pending.arrived + delays.lag
  queued :
    ∀ m, ∀ pending ∈ net.fifo m,
      pending.frame.isReset = false ∧
        (pending.frame.isWakeup = true →
          net.announced pending.sender = true ∧
            pending.sender ≠ m ∧
            pending.arrived ≤
              delays.spread + MainFSM.wakeupDelay + delays.latency)
  complete :
    ∀ n powered,
      net.powered n = some powered →
      powered.node.mainFSM.state = .calibrate ∨
        powered.node.mainFSM.state = .run →
      net.known n = Finset.univ

end PowerNet

namespace PowerNet

variable {K : Type} {N : Nat} {ids : Fin N → Nat} {delays : Delays}
    {net : PowerNet K N} {n m : Fin N} {powered : PoweredNode K}
    {stage : LoopStage} {node : MainNode K}

section Known

/-- A node that is on has announced itself unless it is still in `Init`. -/
theorem announced_of_powered (isOn : net.powered n = some powered) :
    net.announced n = true ↔ powered.node.mainFSM.state ≠ .init := by
  rw [announced, isOn]
  simp

theorem mem_known :
    n ∈ net.known m ↔
      n = m ∨
        net.announced n = true ∧
          (net.fifo m).any (announces n) = false := by
  simp [known]

/-- What is known depends on the announcements and on the waiting frames. -/
theorem known_congr
    {other : PowerNet K N}
    (sameAnnounced : ∀ n, other.announced n = net.announced n)
    (sameAny :
      ∀ n,
        (other.fifo m).any (announces n) =
          (net.fifo m).any (announces n)) :
    other.known m = net.known m := by
  ext n
  rw [mem_known, mem_known, sameAnnounced, sameAny]

/-- The changed node is on. -/
theorem powered_withNode_self :
    (net.withNode n powered stage node).powered n =
      some { powered with stage := stage, node := node } :=
  Function.update_self _ _ _

theorem powered_withNode_of_ne (different : m ≠ n) :
    (net.withNode n powered stage node).powered m = net.powered m :=
  Function.update_of_ne different _ _

/-- A node is off when it was off before another changed. -/
theorem off_of_withNode
    (isOff : (net.withNode n powered stage node).powered m = none) :
    m ≠ n ∧ net.powered m = none := by
  by_cases same : m = n
  · rw [same, powered_withNode_self] at isOff
    cases isOff
  · rw [powered_withNode_of_ne same] at isOff
    exact ⟨same, isOff⟩

/-- The nodes of a net in which one node has changed. -/
theorem powered_withNode
    {changed : PoweredNode K}
    (isChanged :
      (net.withNode n powered stage node).powered m = some changed) :
    m = n ∧ changed = { powered with stage := stage, node := node } ∨
      m ≠ n ∧ net.powered m = some changed := by
  by_cases same : m = n
  · subst same
    rw [powered_withNode_self] at isChanged
    exact .inl ⟨rfl, (Option.some.inj isChanged).symm⟩
  · rw [powered_withNode_of_ne same] at isChanged
    exact .inr ⟨same, isChanged⟩

/-- What holds of the changed node and of all others holds of the net. -/
theorem forall_withNode
    {motive : Fin N → PoweredNode K → Prop}
    (own : motive n { powered with stage := stage, node := node })
    (others :
      ∀ m changed, net.powered m = some changed → motive m changed) :
    ∀ m changed,
      (net.withNode n powered stage node).powered m = some changed →
      motive m changed := by
  intro m changed isChanged
  rcases powered_withNode isChanged with ⟨rfl, rfl⟩ | ⟨-, isOther⟩
  · exact own
  · exact others m changed isOther

theorem announced_withNode
    (isOn : net.powered n = some powered)
    (sameInit :
      node.mainFSM.state = .init ↔ powered.node.mainFSM.state = .init)
    (m : Fin N) :
    (net.withNode n powered stage node).announced m = net.announced m := by
  by_cases same : m = n
  · subst same
    rw [Bool.eq_iff_iff, announced_of_powered powered_withNode_self,
      announced_of_powered isOn]
    exact not_congr sameInit
  · rw [announced, announced, powered_withNode_of_ne same]

/-- A frame that waits after a broadcast waited before, or has been sent by it. -/
theorem mem_broadcast
    {frames : List (NodeFrame K)}
    {pending : Pending K N}
    (member : pending ∈ (net.broadcast n frames).fifo m) :
    pending ∈ net.fifo m ∨
      ∃ frame ∈ frames, m ≠ n ∧ pending = ⟨n, frame, net.time⟩ := by
  unfold broadcast at member
  dsimp only at member
  split at member
  · exact .inl member
  · rename_i isOther
    rcases List.mem_append.mp member with earlier | isNew
    · exact .inl earlier
    · obtain ⟨frame, isFrame, isPending⟩ := List.mem_map.mp isNew
      exact .inr ⟨frame, isFrame, fun same => isOther (.inl same), isPending.symm⟩

/-- The frame that is taken next waits. -/
theorem mem_of_queued
    {pending : Pending K N}
    {rest : List (Pending K N)}
    (queued : net.fifo n = pending :: rest) :
    pending ∈ net.fifo n := by
  rw [queued]
  exact List.mem_cons_self

/-- Frames that announce nobody do not change what is known. -/
theorem any_broadcast
    {frames : List (NodeFrame K)}
    (plain : ∀ frame ∈ frames, frame.isWakeup = false)
    (k : Fin N) :
    ((net.broadcast n frames).fifo m).any (announces k) =
      (net.fifo m).any (announces k) := by
  have none :
      (frames.map fun frame => (⟨n, frame, net.time⟩ : Pending K N)).any
          (announces k) =
        false := by
    rw [List.any_eq_false]
    intro entry member
    obtain ⟨frame, isFrame, isEntry⟩ := List.mem_map.mp member
    rw [← isEntry]
    simp [announces, plain frame isFrame]
  unfold broadcast
  dsimp only
  split
  · rfl
  · rw [List.any_append, none, Bool.or_false]

/-- A node has just been switched on. -/
theorem powered_switchOn_self
    [Field K] :
    (net.switchOn ids n).powered n =
      some
        { bootedAt := net.time
          stage := .start
          node := .boot K (ids n) 0 } :=
  Function.update_self _ _ _

theorem powered_switchOn_of_ne
    [Field K]
    (different : m ≠ n) :
    (net.switchOn ids n).powered m = net.powered m :=
  Function.update_of_ne different _ _

/-- What holds of a booted node and of all others holds when one is switched on. -/
theorem forall_switchOn
    [Field K]
    {motive : Fin N → PoweredNode K → Prop}
    (own : motive n ⟨net.time, .start, .boot K (ids n) 0⟩)
    (others :
      ∀ m changed, net.powered m = some changed → motive m changed) :
    ∀ m changed,
      (net.switchOn ids n).powered m = some changed → motive m changed :=
  show
    ∀ m changed,
      (net.withNode n ⟨net.time, .start, .boot K (ids n) 0⟩ .start
          (.boot K (ids n) 0)).powered m =
        some changed →
      motive m changed
  from forall_withNode own others

/-- No frames wait for a node that is off. -/
theorem fifo_switchOn
    [Field K]
    (isEmpty : net.fifo n = []) :
    (net.switchOn ids n).fifo = net.fifo := by
  unfold PowerNet.switchOn
  rw [← isEmpty]
  exact Function.update_eq_self _ _

end Known

namespace Sound

/-- A node changes, but neither its registry nor whether it has announced itself. -/
theorem withNode
    (sound : net.Sound ids delays)
    (isOn : net.powered n = some powered)
    (sameInit :
      node.mainFSM.state = .init ↔ powered.node.mainFSM.state = .init)
    (starting :
      node.mainFSM.state = .init → node.mainFSM = powered.node.mainFSM)
    (waits :
      node.mainFSM.state = .wakeupWait →
      node.mainFSM = powered.node.mainFSM)
    (complete :
      node.mainFSM.state = .calibrate ∨ node.mainFSM.state = .run →
      net.known n = Finset.univ)
    (glob :
      ∃ hub, node.glob = { powered.node.glob with hubNode := hub }) :
    (net.withNode n powered stage node).Sound ids delays := by
  have sameKnown : ∀ m, (net.withNode n powered stage node).known m = net.known m :=
    fun m =>
      known_congr (announced_withNode isOn sameInit) fun _ => rfl
  refine
    { off := fun m isOff => sound.off m (off_of_withNode isOff).2
      booted := forall_withNode (sound.booted n powered isOn) sound.booted
      starting := forall_withNode ?_ sound.starting
      waits := forall_withNode ?_ sound.waits
      late := ?_
      nodeId := forall_withNode ?_ sound.nodeId
      lists := ?_, once := sound.once, taken := sound.taken, queued := ?_
      complete := ?_ }
  · intro isInit
    have before := sound.starting n powered isOn (sameInit.mp isInit)
    rw [← starting isInit] at before
    exact before
  · intro isWaiting
    have same := waits isWaiting
    obtain ⟨woke, before⟩ :=
      sound.waits n powered isOn (by rw [← same]; exact isWaiting)
    rw [← same] at before
    exact ⟨woke, before⟩
  · intro m isAnnounced
    rw [announced_withNode isOn sameInit] at isAnnounced
    exact sound.late m isAnnounced
  · obtain ⟨hub, isGlob⟩ := glob
    dsimp only
    rw [isGlob]
    exact sound.nodeId n powered isOn
  · simp only [sameKnown]
    refine forall_withNode ?_ sound.lists
    obtain ⟨hub, isGlob⟩ := glob
    dsimp only
    rw [isGlob]
    exact (sound.lists n powered isOn).withHub hub
  · intro m entry member
    obtain ⟨noReset, wakeup⟩ := sound.queued m entry member
    refine ⟨noReset, fun isWakeup => ?_⟩
    rw [announced_withNode isOn sameInit]
    exact wakeup isWakeup
  · simp only [sameKnown]
    exact forall_withNode complete sound.complete

/-- What leaves the main machine and the registry alone. -/
theorem withNode_kept
    (sound : net.Sound ids delays)
    (isOn : net.powered n = some powered)
    (kept :
      node.mainFSM = powered.node.mainFSM ∧
        ∃ hub, node.glob = { powered.node.glob with hubNode := hub }) :
    (net.withNode n powered stage node).Sound ids delays := by
  obtain ⟨sameFSM, glob⟩ := kept
  refine
    sound.withNode isOn (by rw [sameFSM]) (fun _ => sameFSM)
      (fun _ => sameFSM) (fun calibrating => ?_) glob
  rw [sameFSM] at calibrating
  exact sound.complete n powered isOn calibrating

/-- Frames that announce nobody and reset nobody. -/
theorem broadcast
    (sound : net.Sound ids delays)
    (n : Fin N)
    {frames : List (NodeFrame K)}
    (plain :
      ∀ frame ∈ frames, frame.isWakeup = false ∧ frame.isReset = false) :
    (net.broadcast n frames).Sound ids delays := by
  have noWakeup : ∀ frame ∈ frames, frame.isWakeup = false :=
    fun frame member => (plain frame member).1
  have sameKnown : ∀ m, (net.broadcast n frames).known m = net.known m :=
    fun m => known_congr (fun _ => rfl) (any_broadcast noWakeup)
  refine
    { off := ?_, booted := sound.booted, starting := sound.starting
      waits := sound.waits, late := sound.late, nodeId := sound.nodeId
      lists := ?_, once := ?_, taken := ?_, queued := ?_, complete := ?_ }
  · intro m isOff
    obtain ⟨early, isEmpty⟩ := sound.off m isOff
    refine ⟨early, ?_⟩
    have isNone : (net.powered m).isNone = true := by
      have isOff : net.powered m = none := isOff
      rw [isOff]
      rfl
    exact (if_pos (.inr isNone)).trans isEmpty
  · intro m powered isOn
    rw [sameKnown]
    exact sound.lists m powered isOn
  · intro m k
    have noneNew :
        (frames.map
            fun frame => (⟨n, frame, net.time⟩ : Pending K N)).countP
            (announces k) =
          0 := by
      refine List.countP_eq_zero.mpr fun entry member => ?_
      obtain ⟨frame, isFrame, isEntry⟩ := List.mem_map.mp member
      rw [← isEntry]
      simp [announces, noWakeup frame isFrame]
    unfold PowerNet.broadcast
    dsimp only
    split
    · exact sound.once m k
    · rw [List.countP_append, noneNew, Nat.add_zero]
      exact sound.once m k
  · intro m entry member
    rcases mem_broadcast member with earlier | ⟨frame, -, -, isEntry⟩
    · exact sound.taken m entry earlier
    · rw [isEntry]
      exact Nat.le_add_right _ _
  · intro m entry member
    rcases mem_broadcast member with earlier | ⟨frame, isFrame, -, isEntry⟩
    · exact sound.queued m entry earlier
    · rw [isEntry]
      obtain ⟨noWakeup, noReset⟩ := plain frame isFrame
      refine ⟨noReset, fun isWakeup => ?_⟩
      rw [noWakeup] at isWakeup
      cases isWakeup
  · intro m powered isOn calibrating
    rw [sameKnown]
    exact sound.complete m powered isOn calibrating

end Sound

end PowerNet

namespace PowerNet

namespace Sound

variable {K : Type} {N : Nat} {ids : Fin N → Nat} {delays : Delays}
    {net : PowerNet K N} {n : Fin N} {powered : PoweredNode K}

/-- Time passes. -/
theorem tick
    (sound : net.Sound ids delays)
    {micros : Nat}
    (prompt : net.Prompt delays (.tick micros)) :
    ({ net with time := net.time + micros }).Sound ids delays where
  off := by
    intro m isOff
    have within := prompt.1 m
    rw [isOff] at within
    exact ⟨within, (sound.off m isOff).2⟩
  booted := by
    intro m powered isOn
    obtain ⟨before, early⟩ := sound.booted m powered isOn
    exact ⟨Nat.le_add_right_of_le before, early⟩
  starting := by
    intro m powered isOn isInit
    have within := prompt.1 m
    rw [isOn] at within
    exact ⟨(sound.starting m powered isOn isInit).1, within isInit⟩
  waits := by
    intro m powered isOn isWaiting
    obtain ⟨woke, late, before, isTime⟩ := sound.waits m powered isOn isWaiting
    exact ⟨woke, late, Nat.le_add_right_of_le before, isTime⟩
  late := fun m isAnnounced =>
    Nat.lt_of_lt_of_le (sound.late m isAnnounced) (Nat.le_add_right _ _)
  nodeId := sound.nodeId
  lists := sound.lists
  once := sound.once
  taken := prompt.2
  queued := sound.queued
  complete := sound.complete

/-- A node is switched on before any node has announced itself. -/
theorem switchOn
    [Field K]
    (sound : net.Sound ids delays)
    (positive : ∀ n, 0 < ids n)
    (isOff : net.powered n = none) :
    (net.switchOn ids n).Sound ids delays := by
  obtain ⟨early, isEmpty⟩ := sound.off n isOff
  have noneAnnounced : ∀ m, net.announced m = false := by
    intro m
    by_contra isAnnounced
    have late := sound.late m (Bool.eq_true_of_not_eq_false isAnnounced)
    omega
  have sameFifo : (net.switchOn ids n).fifo = net.fifo :=
    fifo_switchOn isEmpty
  have sameAnnounced :
      ∀ m, (net.switchOn ids n).announced m = net.announced m := by
    intro m
    by_cases same : m = n
    · subst same
      rw [announced, powered_switchOn_self, noneAnnounced]
      rfl
    · rw [announced, announced, powered_switchOn_of_ne same]
  have sameKnown :
      ∀ m, (net.switchOn ids n).known m = net.known m := by
    intro m
    refine known_congr sameAnnounced fun k => ?_
    rw [sameFifo]
  have knowsItself : net.known n = {n} := by
    ext m
    rw [mem_known, noneAnnounced, Finset.mem_singleton]
    simp
  refine
    { off := ?_
      booted := forall_switchOn ⟨Nat.le_refl _, early⟩ sound.booted
      starting := forall_switchOn ?_ sound.starting
      waits := forall_switchOn ?_ sound.waits
      late := ?_
      nodeId := forall_switchOn rfl sound.nodeId
      lists := ?_, once := ?_, taken := ?_, queued := ?_, complete := ?_ }
  · intro m stillOff
    rw [sameFifo]
    by_cases same : m = n
    · subst same
      rw [powered_switchOn_self] at stillOff
      cases stillOff
    · rw [powered_switchOn_of_ne same] at stillOff
      exact sound.off m stillOff
  · refine fun _ => ⟨rfl, ?_⟩
    show net.time ≤ net.time + _ + _
    omega
  · intro isWaiting
    cases isWaiting
  · intro m isAnnounced
    rw [sameAnnounced, noneAnnounced] at isAnnounced
    cases isAnnounced
  · simp only [sameKnown]
    refine forall_switchOn ?_ sound.lists
    rw [knowsItself, Finset.image_singleton]
    exact Glob.lists_boot (positive n) 0
  · intro m k
    rw [sameFifo]
    exact sound.once m k
  · intro m entry member
    rw [sameFifo] at member
    exact sound.taken m entry member
  · intro m entry member
    rw [sameFifo] at member
    rw [sameAnnounced]
    exact sound.queued m entry member
  · simp only [sameKnown]
    refine forall_switchOn ?_ sound.complete
    intro calibrating
    rcases calibrating with isState | isState <;> cases isState

end Sound

end PowerNet

namespace PowerNet

section Take

variable {K : Type} {N : Nat} {ids : Fin N → Nat} {delays : Delays}
    {net : PowerNet K N} {n : Fin N} {powered : PoweredNode K}
    {stage : LoopStage} {node : MainNode K} {pending : Pending K N} {rest : List (Pending K N)}

/-- The frames that wait after a node has taken its oldest one. -/
theorem mem_withFifo
    (queued : net.fifo n = pending :: rest)
    {m : Fin N}
    {waiting : Pending K N}
    (member : waiting ∈ (net.withFifo n rest).fifo m) :
    waiting ∈ net.fifo m := by
  by_cases same : m = n
  · subst same
    have isRest : (net.withFifo m rest).fifo m = rest :=
      Function.update_self _ _ _
    rw [isRest] at member
    rw [queued]
    exact List.mem_cons_of_mem _ member
  · have isOther : (net.withFifo n rest).fifo m = net.fifo m :=
      Function.update_of_ne same _ _
    rw [isOther] at member
    exact member

theorem fifo_withFifo_of_ne
    {m : Fin N}
    (different : m ≠ n) :
    (net.withFifo n rest).fifo m = net.fifo m :=
  Function.update_of_ne different _ _

theorem fifo_withFifo_self :
    (net.withFifo n rest).fifo n = rest :=
  Function.update_self _ _ _

/-- A node that takes a frame forgets nobody. -/
theorem known_withFifo
    (queued : net.fifo n = pending :: rest)
    (m : Fin N) :
    net.known m ⊆ (net.withFifo n rest).known m := by
  intro k isKnown
  rw [mem_known] at isKnown ⊢
  refine isKnown.imp_right fun ⟨isAnnounced, noneWaits⟩ => ⟨isAnnounced, ?_⟩
  rw [List.any_eq_false] at noneWaits ⊢
  exact fun waiting member => noneWaits waiting (mem_withFifo queued member)

/-- A node takes a frame that does not announce a node. -/
theorem known_withFifo_plain
    (queued : net.fifo n = pending :: rest)
    (noWakeup : pending.frame.isWakeup = false) :
    (net.withFifo n rest).known n = net.known n := by
  refine known_congr (fun _ => rfl) fun k => ?_
  have notThis : announces k pending = false := by
    rw [announces, noWakeup, Bool.and_false]
  rw [fifo_withFifo_self, queued, List.any_cons, notThis, Bool.false_or]

/-- A node takes the announcement of another, which it then knows. -/
theorem known_withFifo_wakeup
    (sound : net.Sound ids delays)
    (queued : net.fifo n = pending :: rest)
    (isWakeup : pending.frame.isWakeup = true) :
    pending.sender ∉ net.known n ∧
      (net.withFifo n rest).known n = insert pending.sender (net.known n) := by
  obtain ⟨-, wakeup⟩ := sound.queued n pending (mem_of_queued queued)
  obtain ⟨isAnnounced, different, -⟩ := wakeup isWakeup
  have own : announces pending.sender pending = true := by
    simp [announces, isWakeup]
  have noneLater : rest.any (announces pending.sender) = false := by
    have once := sound.once n pending.sender
    rw [queued, List.countP_cons_of_pos own] at once
    have none : rest.countP (announces pending.sender) = 0 := by omega
    rw [List.any_eq_false]
    exact List.countP_eq_zero.mp none
  constructor
  · rw [mem_known, queued, List.any_cons, own, Bool.true_or]
    rintro (same | ⟨-, impossible⟩)
    · exact different same
    · cases impossible
  · ext k
    rw [Finset.mem_insert, mem_known, mem_known, fifo_withFifo_self, queued,
      List.any_cons]
    by_cases same : k = pending.sender
    · subst same
      exact iff_of_true (.inr ⟨isAnnounced, noneLater⟩) (.inl rfl)
    · have notThis : announces k pending = false := by
        simp [announces, Ne.symm same]
      rw [notThis, Bool.false_or]
      exact (or_iff_right same).symm

/-- A node takes its oldest frame, and its registry lists whom it then knows. -/
theorem Sound.afterTake
    (sound : net.Sound ids delays)
    (isOn : net.powered n = some powered)
    (queued : net.fifo n = pending :: rest)
    (sameFSM : node.mainFSM = powered.node.mainFSM)
    (sameId : node.glob.nodeId = powered.node.glob.nodeId)
    (lists :
      node.glob.Lists (((net.withFifo n rest).known n).image ids)) :
    ((net.withFifo n rest).withNode n powered stage node).Sound ids delays := by
  have isOn' : (net.withFifo n rest).powered n = some powered := isOn
  have sameAnnounced :
      ∀ k,
        ((net.withFifo n rest).withNode n powered stage node).announced k =
          net.announced k :=
    announced_withNode isOn' (by rw [sameFSM])
  have sameKnown :
      ∀ m,
        ((net.withFifo n rest).withNode n powered stage node).known m =
          (net.withFifo n rest).known m :=
    fun m =>
      known_congr (announced_withNode isOn' (by rw [sameFSM])) fun _ => rfl
  refine
    { off := ?_
      booted := forall_withNode (sound.booted n powered isOn) sound.booted
      starting := forall_withNode ?_ sound.starting
      waits := forall_withNode ?_ sound.waits
      late := ?_
      nodeId := forall_withNode (sameId.trans (sound.nodeId n powered isOn)) sound.nodeId
      lists := ?_, once := ?_, taken := ?_, queued := ?_, complete := ?_ }
  · intro m isOff
    obtain ⟨different, isOff⟩ := off_of_withNode isOff
    obtain ⟨early, isEmpty⟩ := sound.off m isOff
    exact ⟨early, (fifo_withFifo_of_ne different).trans isEmpty⟩
  · dsimp only
    rw [sameFSM]
    exact sound.starting n powered isOn
  · dsimp only
    rw [sameFSM]
    exact sound.waits n powered isOn
  · intro m isAnnounced
    rw [sameAnnounced] at isAnnounced
    exact sound.late m isAnnounced
  · intro m changed isChanged
    rw [sameKnown]
    rcases powered_withNode isChanged with ⟨rfl, rfl⟩ | ⟨different, isOther⟩
    · exact lists
    · have unchanged : (net.withFifo n rest).known m = net.known m := by
        refine known_congr (fun _ => rfl) fun _ => ?_
        rw [fifo_withFifo_of_ne different]
      rw [unchanged]
      exact sound.lists m changed isOther
  · intro m k
    have before := sound.once m k
    have sub : ((net.withFifo n rest).fifo m).Sublist (net.fifo m) := by
      by_cases same : m = n
      · subst same
        rw [fifo_withFifo_self, queued]
        exact List.sublist_cons_self _ _
      · rw [fifo_withFifo_of_ne same]
    exact Nat.le_trans sub.countP_le before
  · intro m waiting member
    exact sound.taken m waiting (mem_withFifo queued member)
  · intro m waiting member
    rw [sameAnnounced]
    exact sound.queued m waiting (mem_withFifo queued member)
  · have before :
        ∀ m changed,
          ((net.withFifo n rest).withNode n powered stage node).powered m =
            some changed →
          changed.node.mainFSM.state = .calibrate ∨
            changed.node.mainFSM.state = .run →
          net.known m = Finset.univ := by
      refine forall_withNode ?_ sound.complete
      dsimp only
      rw [sameFSM]
      exact sound.complete n powered isOn
    intro m changed isChanged calibrating
    rw [sameKnown, ← Finset.univ_subset_iff,
      ← before m changed isChanged calibrating]
    exact known_withFifo queued m

variable [Field K] [LinearOrder K]

/-- A node takes its oldest frame. -/
theorem Sound.take
    (sound : net.Sound ids delays)
    (distinct : Function.Injective ids)
    (positive : ∀ n, 0 < ids n)
    (isOn : net.powered n = some powered)
    (queued : net.fifo n = pending :: rest)
    (taken :
      powered.node.received (ids pending.sender) pending.frame = some node) :
    ((net.withFifo n rest).withNode n powered stage node).Sound ids delays := by
  have noReset := (sound.queued n pending (mem_of_queued queued)).1
  cases isWakeup : pending.frame.isWakeup with
  | false =>
      obtain ⟨after, isAfter, sameFSM, hub, isGlob⟩ :=
        powered.node.received_plain isWakeup noReset (ids pending.sender)
      rw [isAfter] at taken
      obtain ⟨⟩ := taken
      refine sound.afterTake isOn queued sameFSM (by rw [isGlob]) ?_
      rw [known_withFifo_plain queued isWakeup, isGlob]
      exact (sound.lists n powered isOn).withHub hub
  | true =>
      obtain ⟨unknown, isKnown⟩ := known_withFifo_wakeup sound queued isWakeup
      rw [NodeFrame.eq_of_isWakeup isWakeup, MainNode.received] at taken
      split at taken
      · cases taken
      · obtain ⟨⟩ := taken
        refine
          sound.afterTake isOn queued rfl
            (powered.node.glob.nodeId_registerNewNode _) ?_
        have fresh : ids pending.sender ∉ (net.known n).image ids := by
          rw [Finset.mem_image]
          rintro ⟨other, listed, same⟩
          rw [distinct same] at listed
          exact unknown listed
        rw [isKnown, Finset.image_insert]
        exact
          (sound.lists n powered isOn).registerNewNode fresh
            (positive pending.sender)

end Take

end PowerNet

namespace PowerNet

/-- What the clocks of a node say to have passed has passed. -/
theorem elapsed_of_micros
    {earlier later boot : Nat}
    (order : boot ≤ earlier ∧ earlier ≤ later)
    {micros : Nat}
    (elapsed :
      (BitVec.ofNat 32 (later - boot) - BitVec.ofNat 32 (earlier - boot)).toNat >
        micros) :
    earlier + micros < later := by
  rw [BitVec.toNat_sub, BitVec.toNat_ofNat, BitVec.toNat_ofNat] at elapsed
  omega

section Loop

variable {K : Type} {N : Nat} {ids : Fin N → Nat} {delays : Delays}
    {net : PowerNet K N} {n : Fin N} {powered : PoweredNode K}
    {stage : LoopStage}

/-- After the last switch all nodes are on. -/
theorem Sound.isSome_of_late
    (sound : net.Sound ids delays)
    (late : delays.spread < net.time)
    (m : Fin N) :
    (net.powered m).isSome := by
  by_contra isOff
  rw [Option.not_isSome_iff_eq_none] at isOff
  have early := (sound.off m isOff).1
  omega

/-- When one node has announced itself, all are on. -/
theorem Sound.listening
    (sound : net.Sound ids delays)
    (isAnnounced : net.announced n = true)
    (m : Fin N) :
    (net.powered m).isSome :=
  sound.isSome_of_late (sound.late n isAnnounced) m

/-- The two seconds of `Init` have passed, and all nodes are on. -/
theorem Sound.allOn
    (sound : net.Sound ids delays)
    (isOn : net.powered n = some powered)
    (starting : powered.node.mainFSM.state = .init)
    (elapsed : powered.node.mainFSM.Elapsed (net.micros powered.bootedAt)) :
    powered.bootedAt + MainFSM.wakeupDelay < net.time ∧
      delays.spread < net.time ∧
        ∀ m, (net.powered m).isSome := by
  obtain ⟨before, -⟩ := sound.booted n powered isOn
  obtain ⟨isBoot, -⟩ := sound.starting n powered isOn starting
  have covered := delays.covered
  have passed : powered.bootedAt + MainFSM.wakeupDelay < net.time := by
    refine elapsed_of_micros ⟨Nat.le_refl _, before⟩ ?_
    rw [Nat.sub_self]
    rw [MainFSM.Elapsed, isBoot] at elapsed
    exact elapsed
  have late : delays.spread < net.time := by omega
  exact ⟨passed, late, sound.isSome_of_late late⟩

/-- The two seconds of `WakeupWait` have passed, and all announcements have been taken. -/
theorem Sound.known_eq_univ
    (sound : net.Sound ids delays)
    (isOn : net.powered n = some powered)
    (waiting : powered.node.mainFSM.state = .wakeupWait)
    (elapsed : powered.node.mainFSM.Elapsed (net.micros powered.bootedAt)) :
    net.known n = Finset.univ := by
  obtain ⟨woke, afterBoot, before, isTime⟩ :=
    sound.waits n powered isOn waiting
  have passed : woke + MainFSM.wakeupDelay < net.time := by
    have order : powered.bootedAt ≤ woke ∧ woke ≤ net.time :=
      ⟨by omega, before⟩
    refine elapsed_of_micros order ?_
    rw [← isTime]
    exact elapsed
  have covered := delays.covered
  rw [Finset.eq_univ_iff_forall]
  intro m
  rw [mem_known]
  refine .inr ⟨?_, ?_⟩
  · cases isOther : net.powered m with
    | none =>
        have early := (sound.off m isOther).1
        omega
    | some other =>
        rw [announced_of_powered isOther]
        intro isInit
        have early := (sound.booted m other isOther).2
        have prompt := (sound.starting m other isOther isInit).2
        omega
  · rw [List.any_eq_false]
    intro pending member announcing
    rw [announces, Bool.and_eq_true] at announcing
    have prompt := sound.taken n pending member
    have early := ((sound.queued n pending member).2 announcing.2).2.2
    omega

/-- The net in which a node has just announced itself. -/
theorem announced_wakes
    (isOn : net.powered n = some powered)
    {node : MainNode K}
    (awake : node.mainFSM.state ≠ .init)
    {frames : List (NodeFrame K)}
    (m : Fin N) :
    ((net.withNode n powered stage node).broadcast n frames).announced m = true ↔
      m = n ∨ net.announced m = true := by
  by_cases same : m = n
  · subst same
    have isSelf :
        ((net.withNode m powered stage node).broadcast m frames).powered m =
          some { powered with stage := stage, node := node } :=
      powered_withNode_self
    rw [announced_of_powered isSelf]
    exact iff_of_true awake (.inl rfl)
  · have isOther :
        ((net.withNode n powered stage node).broadcast n frames).powered m =
          net.powered m :=
      powered_withNode_of_ne same
    rw [announced, announced, isOther]
    exact (or_iff_right same).symm

/-- The announcement reaches all other nodes. -/
theorem fifo_wakes
    (allOn : ∀ m, (net.powered m).isSome)
    {node : MainNode K}
    (m : Fin N) :
    ((net.withNode n powered stage node).broadcast n [.can .wakeupBroadcast]).fifo m =
      if m = n then
        net.fifo m
      else
        net.fifo m ++ [⟨n, .can .wakeupBroadcast, net.time⟩] := by
  by_cases same : m = n
  · rw [if_pos same]
    exact if_pos (.inl same)
  · have isOn :
        ¬ (m = n ∨ ((net.withNode n powered stage node).powered m).isNone = true) := by
      rw [powered_withNode_of_ne same, Option.isNone_iff_eq_none,
        ← Option.not_isSome_iff_eq_none]
      exact not_or.mpr ⟨same, not_not.mpr (allOn m)⟩
    rw [if_neg same]
    exact if_neg isOn

/-- Whom the nodes know stays the same until they take the announcement. -/
theorem known_wakes
    (isOn : net.powered n = some powered)
    (unannounced : net.announced n = false)
    (allOn : ∀ m, (net.powered m).isSome)
    {node : MainNode K}
    (awake : node.mainFSM.state ≠ .init)
    (m : Fin N) :
    ((net.withNode n powered stage node).broadcast n
        [.can .wakeupBroadcast]).known m =
      net.known m := by
  ext k
  rw [mem_known, mem_known, announced_wakes isOn awake, fifo_wakes allOn]
  by_cases same : k = n
  · subst same
    rw [unannounced]
    by_cases own : k = m
    · exact iff_of_true (.inl own) (.inl own)
    · have waits :
          announces k (⟨k, .can .wakeupBroadcast, net.time⟩ : Pending K N) =
            true := by
        simp [announces]
      rw [if_neg (Ne.symm own), List.any_append, List.any_cons, waits,
        Bool.true_or, Bool.or_true]
      simp
  · have notThis :
        announces k (⟨n, .can .wakeupBroadcast, net.time⟩ : Pending K N) =
          false := by
      simp [announces, Ne.symm same]
    rw [or_iff_right same]
    split
    · rfl
    · rw [List.any_append, List.any_cons, notThis, List.any_nil, Bool.or_false,
        Bool.or_false]

/-- No frame announces a node that has not announced itself. -/
theorem Sound.announces_eq_false
    (sound : net.Sound ids delays)
    (unannounced : net.announced n = false)
    {m : Fin N}
    {pending : Pending K N}
    (member : pending ∈ net.fifo m) :
    announces n pending = false := by
  by_contra announcing
  rw [Bool.not_eq_false, announces, Bool.and_eq_true, decide_eq_true_iff]
    at announcing
  obtain ⟨isSender, isWakeup⟩ := announcing
  have isAnnounced := ((sound.queued m pending member).2 isWakeup).1
  rw [isSender, unannounced] at isAnnounced
  cases isAnnounced

/-- The announcement of a node waits at most once for each of the others. -/
theorem Sound.once_wakes
    (sound : net.Sound ids delays)
    (unannounced : net.announced n = false)
    (allOn : ∀ m, (net.powered m).isSome)
    {node : MainNode K}
    (m k : Fin N) :
    (((net.withNode n powered stage node).broadcast n
          [.can .wakeupBroadcast]).fifo m).countP (announces k) ≤
      1 := by
  rw [fifo_wakes allOn]
  split
  · exact sound.once m k
  · rw [List.countP_append]
    by_cases same : k = n
    · subst same
      have none : (net.fifo m).countP (announces k) = 0 := by
        rw [List.countP_eq_zero]
        intro pending member
        rw [sound.announces_eq_false unannounced member]
        exact Bool.false_ne_true
      rw [none, Nat.zero_add]
      exact List.countP_le_length
    · have notThis :
          [(⟨n, .can .wakeupBroadcast, net.time⟩ : Pending K N)].countP
              (announces k) =
            0 := by
        simp [announces, Ne.symm same]
      rw [notThis]
      exact sound.once m k

/-- A node announces itself. -/
theorem Sound.wakes
    (sound : net.Sound ids delays)
    (isOn : net.powered n = some powered)
    (starting : powered.node.mainFSM.state = .init)
    (elapsed : powered.node.mainFSM.Elapsed (net.micros powered.bootedAt)) :
    ((net.withNode n powered stage
          { powered.node with
            mainFSM :=
              .setState .wakeupWait (net.micros powered.bootedAt) }).broadcast n
        [.can .wakeupBroadcast]).Sound ids delays := by
  obtain ⟨passed, late, allOn⟩ := sound.allOn isOn starting elapsed
  obtain ⟨before, early⟩ := sound.booted n powered isOn
  obtain ⟨-, prompt⟩ := sound.starting n powered isOn starting
  have covered := delays.covered
  have unannounced : net.announced n = false := by
    rw [← Bool.not_eq_true, announced_of_powered isOn]
    exact not_not.mpr starting
  have awake :
      ({ powered.node with
          mainFSM :=
            .setState .wakeupWait
              (net.micros powered.bootedAt) } : MainNode K).mainFSM.state ≠
        .init :=
    nofun
  generalize isNode :
    ({ powered.node with
        mainFSM :=
          .setState .wakeupWait
            (net.micros powered.bootedAt) } : MainNode K) = node at awake ⊢
  have sameKnown :
      ∀ m,
        ((net.withNode n powered stage node).broadcast n
            [.can .wakeupBroadcast]).known m =
          net.known m :=
    known_wakes isOn unannounced allOn awake
  refine
    { off := ?_
      booted := forall_withNode ⟨before, early⟩ sound.booted
      starting :=
        forall_withNode (fun isInit => absurd isInit awake) sound.starting
      waits := forall_withNode ?_ sound.waits
      late := ?_
      nodeId := forall_withNode ?_ sound.nodeId
      lists := ?_, once := ?_, taken := ?_, queued := ?_, complete := ?_ }
  · intro m isOff
    have isOff : (net.withNode n powered stage node).powered m = none := isOff
    have isSome := allOn m
    rw [(off_of_withNode isOff).2] at isSome
    cases isSome
  · refine fun _ => ⟨net.time, passed, Nat.le_refl _, ?_⟩
    rw [← isNode]
    rfl
  · intro m isAnnounced
    rw [announced_wakes isOn awake] at isAnnounced
    rcases isAnnounced with - | earlier
    · exact late
    · exact sound.late m earlier
  · rw [← isNode]
    exact sound.nodeId n powered isOn
  · simp only [sameKnown]
    refine forall_withNode ?_ sound.lists
    rw [← isNode]
    exact sound.lists n powered isOn
  · exact sound.once_wakes unannounced allOn
  · intro m pending member
    rcases mem_broadcast member with earlier | ⟨frame, -, -, isPending⟩
    · exact sound.taken m pending earlier
    · rw [isPending]
      exact Nat.le_add_right _ _
  · intro m pending member
    rw [announced_wakes isOn awake]
    rcases mem_broadcast member with earlier | ⟨frame, isFrame, other, isPending⟩
    · obtain ⟨noReset, wakeup⟩ := sound.queued m pending earlier
      exact ⟨noReset, fun isWakeup => (wakeup isWakeup).imp_left .inr⟩
    · rw [isPending, List.mem_singleton.mp isFrame]
      refine ⟨rfl, fun _ => ⟨.inl rfl, Ne.symm other, ?_⟩⟩
      show net.time ≤ _
      omega
  · simp only [sameKnown]
    refine forall_withNode ?_ sound.complete
    intro calibrating
    rw [← isNode] at calibrating
    rcases calibrating with isState | isState <;> cases isState

end Loop

end PowerNet

namespace PowerNet

/-- What the two delays of the main machine are for. -/
structure PoweredUp
    {K : Type} {N : Nat}
    [Field K] [LinearOrder K]
    (ids : Fin N → Nat)
    (net : PowerNet K N) : Prop where
  /-- When a node has announced itself, all others were on to hear it. -/
  listening :
    ∀ n, net.announced n = true → ∀ m, (net.powered m).isSome
  /-- A node that calibrates knows all nodes. -/
  complete :
    ∀ n powered,
      net.powered n = some powered →
      powered.node.mainFSM.state = .calibrate ∨
        powered.node.mainFSM.state = .run →
      powered.node.glob.KnowsAll ids
  /-- No announcement finds a full registry. -/
  goesOn :
    ∀ n powered pending rest,
      net.powered n = some powered →
      net.fifo n = pending :: rest →
      (powered.node.received (ids pending.sender) pending.frame).isSome

section Run

variable {K : Type} {N : Nat} {ids : Fin N → Nat} {delays : Delays}
    {net : PowerNet K N} {n : Fin N} {powered : PoweredNode K}
    {stage : LoopStage}

/-- The registry of a node has room for one that it does not know. -/
theorem Sound.notFull
    (sound : net.Sound ids delays)
    (fits : N ≤ maxNumNodes)
    (isOn : net.powered n = some powered)
    {m : Fin N}
    (unknown : m ∉ net.known n) :
    ¬ powered.node.glob.numTotalNodes ≥ maxNumNodes := by
  have fewer : (net.known n).card < N := by
    have strict := Finset.card_lt_univ_of_notMem unknown
    rwa [Fintype.card_fin] at strict
  have most : ((net.known n).image ids).card < N :=
    Nat.lt_of_le_of_lt Finset.card_image_le fewer
  rw [(sound.lists n powered isOn).count]
  exact Nat.not_le_of_gt (Nat.lt_of_lt_of_le most fits)

/-- Before the first switch no node is on. -/
theorem powered_off
    (n : Fin N)
    (powered : PoweredNode K) :
    (off : PowerNet K N).powered n ≠ some powered :=
  (Option.some_ne_none powered).symm

/-- All nodes are off. -/
theorem sound_off
    (ids : Fin N → Nat)
    (delays : Delays) :
    (off : PowerNet K N).Sound ids delays where
  off := fun _ _ => ⟨Nat.zero_le _, rfl⟩
  booted := fun n powered isOn => absurd isOn (powered_off n powered)
  starting := fun n powered isOn => absurd isOn (powered_off n powered)
  waits := fun n powered isOn => absurd isOn (powered_off n powered)
  late := fun _ isAnnounced => absurd isAnnounced Bool.false_ne_true
  nodeId := fun n powered isOn => absurd isOn (powered_off n powered)
  lists := fun n powered isOn => absurd isOn (powered_off n powered)
  once := fun _ _ => Nat.zero_le _
  taken := fun _ => List.forall_mem_nil _
  queued := fun _ => List.forall_mem_nil _
  complete := fun n powered isOn => absurd isOn (powered_off n powered)

variable [Field K] {voltageToLux : K → K}

/-- A run of `mainFSM.loop()` keeps the invariant. -/
theorem Sound.loop
    (sound : net.Sound ids delays)
    (isOn : net.powered n = some powered)
    {voltage stray : K}
    {ran : MainNode K × List (NodeFrame K)}
    (isRan :
      powered.node.mainLoop voltageToLux
          (net.loopInput powered.bootedAt voltage stray) =
        ran) :
    ((net.withNode n powered stage ran.1).broadcast n ran.2).Sound ids delays := by
  have loop :=
    MainNode.mainLoop_case voltageToLux
      (net.loopInput powered.bootedAt voltage stray) powered.node
  rw [isRan] at loop
  have keptHub :
      ∃ hub,
        powered.node.glob = { powered.node.glob with hubNode := hub } :=
    ⟨powered.node.glob.hubNode, rfl⟩
  cases loop with
  | wakes starting elapsed => exact sound.wakes isOn starting elapsed
  | waits _ =>
      exact
        (sound.withNode_kept isOn ⟨rfl, keptHub⟩).broadcast n
          (List.forall_mem_nil _)
  | starts waiting elapsed =>
      refine
        Sound.broadcast (sound.withNode isOn ?_ ?_ ?_ ?_ ?_) n
          (List.forall_mem_nil _)
      · rw [waiting]
        exact ⟨nofun, nofun⟩
      · exact nofun
      · exact nofun
      · exact fun _ => sound.known_eq_univ isOn waiting elapsed
      · exact keptHub
  | calibrates fsm sent calibrating _ =>
      have notInit :=
        MainFSM.awake_of_calibrating calibrating
          (show MainFSMState.init ≠ .calibrate by decide) (by decide) fsm.done
          (net.micros powered.bootedAt)
      have notWaiting :=
        MainFSM.awake_of_calibrating calibrating
          (show MainFSMState.wakeupWait ≠ .calibrate by decide) (by decide)
          fsm.done (net.micros powered.bootedAt)
      refine Sound.broadcast (sound.withNode isOn ?_ ?_ ?_ ?_ ?_) n ?_
      · rw [calibrating]
        exact iff_of_false notInit (by decide)
      · exact fun isInit => absurd isInit notInit
      · exact fun waiting => absurd waiting notWaiting
      · exact fun _ => sound.complete n powered isOn (.inl calibrating)
      · exact keptHub
      · intro frame member
        obtain ⟨message, -, rfl⟩ := List.mem_map.mp member
        exact ⟨rfl, rfl⟩

variable [LinearOrder K]

/-- What the invariant says of the nodes. -/
theorem Sound.poweredUp
    (sound : net.Sound ids delays)
    (distinct : Function.Injective ids)
    (fits : N ≤ maxNumNodes) :
    net.PoweredUp ids := by
  refine
    { listening := fun _ isAnnounced => sound.listening isAnnounced
      complete := ?_, goesOn := ?_ }
  · intro n powered isOn calibrating
    have lists := sound.lists n powered isOn
    rw [sound.complete n powered isOn calibrating] at lists
    exact lists.knowsAll distinct
  · intro n powered pending rest isOn queued
    cases isWakeup : pending.frame.isWakeup with
    | false =>
        have noReset := (sound.queued n pending (mem_of_queued queued)).1
        obtain ⟨after, isAfter, -⟩ :=
          powered.node.received_plain isWakeup noReset (ids pending.sender)
        rw [isAfter]
        rfl
    | true =>
        obtain ⟨unknown, -⟩ := known_withFifo_wakeup sound queued isWakeup
        rw [NodeFrame.eq_of_isWakeup isWakeup, MainNode.received,
          if_neg (sound.notFull fits isOn unknown)]
        rfl

/-- A step keeps the invariant. -/
theorem Sound.step
    (sound : net.Sound ids delays)
    (distinct : Function.Injective ids)
    (positive : ∀ n, 0 < ids n)
    {action : PowerAction K N}
    (prompt : net.Prompt delays action)
    {after : PowerNet K N}
    (taken : next ids voltageToLux net action = some after) :
    after.Sound ids delays := by
  have effect := effect_of_next taken
  cases effect with
  | tick micros => exact sound.tick prompt
  | powerOn isOff => exact sound.switchOn positive isOff
  | @beginDrain n powered isOn _ =>
      exact
        sound.withNode_kept isOn ⟨rfl, powered.node.glob.hubNode, rfl⟩
  | take isOn _ queued received =>
      exact sound.take distinct positive isOn queued received
  | @endDrain n powered isOn _ _ =>
      exact
        sound.withNode_kept isOn ⟨rfl, powered.node.glob.hubNode, rfl⟩
  | loop isOn _ isRan => exact sound.loop isOn isRan
  | @command n powered isOn command =>
      exact
        sound.withNode_kept isOn (powered.node.readCommand_of_kept prompt)
  | @discovery n powered isOn hadResponse =>
      exact
        sound.withNode_kept isOn
          (powered.node.sendPCDiscovery_kept hadResponse)
  | send n message =>
      refine sound.broadcast n fun sent member => ?_
      rw [List.mem_singleton.mp member]
      exact prompt

/--
When the delays of power-up, of the main loop and of the frames fit into two seconds, every
announcement is heard by all nodes, and no node calibrates before it knows them all.
-/
theorem poweredUp_of_run
    (voltageToLux : K → K)
    {ids : Fin N → Nat}
    (distinct : Function.Injective ids)
    (inRange : ∀ n, 0 < ids n ∧ ids n ≤ maxNodeId)
    (fits : N ≤ maxNumNodes)
    (delays : Delays)
    {final : PowerNet K N}
    (run : Run (next ids voltageToLux) (Prompt delays) off final) :
    final.PoweredUp ids := by
  have sound : final.Sound ids delays :=
    run.invariant (Sound ids delays) (sound_off ids delays)
      fun sound prompt taken =>
        sound.step distinct (fun n => (inRange n).1) prompt taken
  exact sound.poweredUp distinct fits

/-- The delays of an installation in which a second passes between the switches. -/
def secondApart : Delays where
  spread := 1000000
  latency := 5000
  lag := 5000
  covered := by decide

/-- A loop iteration that takes the given number of frames and reads the voltage. -/
def loopTaking
    (n : Fin 2)
    (frames : Nat)
    (voltage : ℚ) : List (PowerAction ℚ 2) :=
  [.beginDrain n] ++ List.replicate frames (.take n) ++
    [.endDrain n, .loop n voltage 0]

/-- The first node announces itself when the second has been on for a second. -/
def twoSwitches (first second : Fin 2) : List (PowerAction ℚ 2) :=
  [.powerOn first, .tick 1000000, .powerOn second, .tick 1000001] ++
    loopTaking first 0 0 ++ loopTaking second 1 0 ++ [.tick 1000000] ++
    loopTaking second 0 0 ++ [.tick 3000] ++ loopTaking first 1 0 ++
    [.tick 1000000] ++ loopTaking first 0 0 ++ [.tick 1000000] ++
    loopTaking second 0 0

/-- Both nodes calibrate, and know each other. -/
theorem poweredUp_of_run_two_nodes :
    ∃ final : PowerNet ℚ 2,
      Run (next ![7, 3] id) (Prompt secondApart) off final ∧
        ∀ n, ∃ powered,
          final.powered n = some powered ∧
            powered.node.mainFSM.state = .calibrate ∧
              powered.node.glob.KnowsAll ![7, 3] := by
  obtain ⟨final, run, observed⟩ :=
    exists_run_of_observed (next ![7, 3] id) (Prompt secondApart) off
      (twoSwitches 0 1)
      (fun net =>
        decide
          (∀ n,
            (net.powered n).any fun powered =>
              powered.node.mainFSM.state = .calibrate))
      (by decide +kernel)
  have poweredUp :=
    poweredUp_of_run id (show Function.Injective ![7, 3] by decide)
      (by decide) (by decide) secondApart run
  refine ⟨final, run, fun n => ?_⟩
  obtain ⟨powered, isOn, calibrating⟩ :=
    Option.any_eq_true _ _ |>.mp (of_decide_eq_true observed n)
  have calibrating := of_decide_eq_true calibrating
  exact
    ⟨powered, isOn, calibrating,
      poweredUp.complete n powered isOn (.inl calibrating)⟩

end Run

end PowerNet

end DistributedLighting
