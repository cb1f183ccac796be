import DistributedLighting.NodeMain

namespace DistributedLighting

/-!
# A reset of all nodes rebuilds the registries

The hub executes an `r` and broadcasts it.  Every node then forgets the others
when it takes this request, and announces itself when its main machine has
waited, while the announcements of the others are already arriving.  The bus has
one order, so a node takes the request before any announcement.
-/

/-- All nodes and the bus between them. -/
structure NodeNet (K : Type) (N : Nat) where
  node : Fin N → MainNode K
  bus : Bus (Fin N) (NodeFrame K)

/-- What a node may do next. -/
inductive BusStep (K : Type) where
  | take
  | act (event : NodeEvent K)
  /-- Send a frame of the commands, the light control or the consensus. -/
  | send (frame : NodeFrame K)

/-- A step of one node. -/
structure NodeNetAction (K : Type) (N : Nat) where
  node : Fin N
  does : BusStep K

/-- The step comes from the node itself, and is no second reset. -/
def BusStep.Ordinary {K : Type} : BusStep K → Prop
  | .take => True
  | .act (.frame _ _) => False
  | .act (.command command) => command.cmd ≠ byteOf 'r'
  | .act (.discovery _) => True
  | .act (.mainLoop _) => True
  | .send frame => frame.isWakeup = false ∧ frame.isReset = false

instance {K : Type} (does : BusStep K) : Decidable does.Ordinary :=
  match does with
  | .take => inferInstanceAs (Decidable True)
  | .act (.frame _ _) => inferInstanceAs (Decidable False)
  | .act (.command _) => inferInstanceAs (Decidable (_ ≠ _))
  | .act (.discovery _) => inferInstanceAs (Decidable True)
  | .act (.mainLoop _) => inferInstanceAs (Decidable True)
  | .send _ => inferInstanceAs (Decidable (_ ∧ _))

/-- The command of a PC that resets all nodes. -/
def resetAll (value : BitVec 32) : Command where
  cmd := byteOf 'r'
  destination := 0
  value := value

namespace NodeNet

variable {K : Type} {N : Nat}

/-- The net with another state of one node and its frames on the bus. -/
def withNode
    (net : NodeNet K N)
    (n : Fin N)
    (node : MainNode K)
    (sent : List (NodeFrame K)) : NodeNet K N where
  node := Function.update net.node n node
  bus := net.bus.broadcastAll n sent

/-- The net after a node has taken its oldest frame. -/
def afterTake
    (net : NodeNet K N)
    (n : Fin N)
    (node : MainNode K) : NodeNet K N where
  node := Function.update net.node n node
  bus := net.bus.take n

section Transitions

variable [Field K]

/-- The hub reads the command from its serial port. -/
def resetByHub
    (net : NodeNet K N)
    (hub : Fin N)
    (value : BitVec 32) : NodeNet K N :=
  net.withNode hub ((net.node hub).readCommand (resetAll value))
    [.can (.commandsRequest (resetAll value))]

variable [LinearOrder K]

/-- The transition function of the network. -/
def next
    (voltageToLux : K → K)
    (net : NodeNet K N)
    (action : NodeNetAction K N) : Option (NodeNet K N) :=
  let n := action.node
  match action.does with
  | .take =>
      match net.bus.fifo n with
      | [] => none
      | entry :: _ =>
          ((net.node n).received (net.node entry.sender).glob.nodeId
            entry.frame).map (net.afterTake n)
  | .act event =>
      ((net.node n).next voltageToLux event).map fun ran =>
        net.withNode n ran.1 ran.2
  | .send frame => some (net.withNode n (net.node n) [frame])

end Transitions

/-- All nodes are in `Run`, know each other and have taken all frames. -/
structure Settled
    (ids : Fin N → Nat)
    (net : NodeNet K N) : Prop where
  nodeId : ∀ n, (net.node n).glob.nodeId = ids n
  running : ∀ n, (net.node n).mainFSM.state = .run
  lists : ∀ n, (net.node n).glob.Lists (Finset.univ.image ids)
  drained : net.bus = Bus.empty

/-- The frame announces this node. -/
def announces
    (n : Fin N)
    (entry : Entry (Fin N) (NodeFrame K)) : Bool :=
  entry.sender = n && entry.frame.isWakeup

end NodeNet

/-- The registry lists exactly these nodes, in ascending order, and numbers them so. -/
structure Glob.KnowsAll
    {N : Nat}
    (ids : Fin N → Nat)
    (glob : Glob) : Prop where
  count : glob.numTotalNodes = N
  ascending : glob.listed.Pairwise (· < ·)
  exact : ∀ id, id ∈ glob.listed ↔ ∃ n, ids n = id
  index : ∀ i < N, glob.nodeIndexOnGainMatrix (glob.nodesList i) = i

namespace NodeNet

variable {K : Type} {N : Nat}

/-- What a reset of all nodes leads to. -/
structure Rebuilt
    [Field K] [LinearOrder K]
    (ids : Fin N → Nat)
    (net : NodeNet K N) : Prop where
  /-- Once all nodes are announced and have taken all frames, they know all. -/
  complete :
    (∀ n, ∃ entry ∈ net.bus.log, announces n entry = true) →
      (∀ n, net.bus.fifo n = []) →
        ∀ n, (net.node n).glob.KnowsAll ids
  /-- No announcement finds a full registry. -/
  goesOn :
    ∀ n entry rest,
      net.bus.fifo n = entry :: rest →
        ((net.node n).received (net.node entry.sender).glob.nodeId
          entry.frame).isSome

end NodeNet

namespace Glob.Lists

variable {N : Nat} {glob : Glob} {members : Finset Nat}

/-- The hub does not matter to the registry. -/
theorem withHub
    (lists : glob.Lists members)
    (hub : Nat) :
    { glob with hubNode := hub }.Lists members where
  count := lists.count
  holds := lists.holds
  index := lists.index
  unlisted := lists.unlisted
  positive := lists.positive

/-- A registry that lists the ids of all nodes knows all nodes. -/
theorem knowsAll
    {ids : Fin N → Nat}
    (distinct : Function.Injective ids)
    (lists : glob.Lists (Finset.univ.image ids)) :
    glob.KnowsAll ids := by
  have size : (Finset.univ.image ids).card = N := by
    rw [Finset.card_image_of_injective _ distinct, Finset.card_univ,
      Fintype.card_fin]
  refine
    { count := lists.count.trans size
      ascending := ?_
      exact := ?_
      index := ?_ }
  · rw [lists.listed_eq]
    exact (Finset.sortedLT_sort _).pairwise
  · intro id
    rw [lists.listed_eq, Finset.mem_sort, Finset.mem_image]
    simp
  · intro i inRange
    exact lists.index i (size.symm ▸ inRange)

end Glob.Lists

namespace NodeNet

section Announcements

variable
  {K : Type} {N : Nat} {n m : Fin N} {frame : NodeFrame K}
  {entries : List (Entry (Fin N) (NodeFrame K))}

/-- The nodes that have announced themselves. -/
def heard (entries : List (Entry (Fin N) (NodeFrame K))) : Finset (Fin N) :=
  Finset.univ.filter fun n => entries.any (announces n)

theorem mem_heard :
    n ∈ heard entries ↔ ∃ entry ∈ entries, announces n entry = true := by
  simp [heard]

/-- An announcement adds its sender. -/
theorem heard_append_wakeup (wakeup : frame.isWakeup = true) :
    heard (entries ++ [⟨n, frame⟩]) = insert n (heard entries) := by
  have own : ∀ m, announces m ⟨n, frame⟩ = true ↔ m = n := by
    intro m
    simp [announces, wakeup, eq_comm]
  ext m
  simp only [mem_heard, List.mem_append, List.mem_singleton, or_and_right,
    exists_or, exists_eq_left, Finset.mem_insert]
  rw [or_comm, own]

/-- Other frames add nobody. -/
theorem heard_append_plain (noWakeup : frame.isWakeup = false) :
    heard (entries ++ [⟨n, frame⟩]) = heard entries := by
  ext m
  simp [heard, announces, noWakeup]

/-- Nobody is announced by the frames of the other nodes. -/
theorem countP_announces_other
    (different : m ≠ n)
    (sent : List (NodeFrame K)) :
    (sent.map fun frame => (⟨n, frame⟩ : Entry _ _)).countP (announces m) =
      0 := by
  rw [List.countP_eq_zero]
  intro entry member
  obtain ⟨frame, -, rfl⟩ := List.mem_map.mp member
  simp [announces, different.symm]

/-- What a node announces itself is what it announces on the bus. -/
theorem countP_announces_filter (different : m ≠ n) :
    (entries.filter fun entry => entry.sender ≠ n).countP (announces m) =
      entries.countP (announces m) := by
  rw [List.countP_filter]
  apply List.countP_congr
  intro entry _
  unfold announces
  by_cases sender : entry.sender = m
  · simp [sender, different]
  · simp [sender]

end Announcements

section Invariant

variable
  {K : Type} {N : Nat} {ids : Fin N → Nat} {hub n : Fin N}
  {value : BitVec 32}
  {log received : List (Entry (Fin N) (NodeFrame K))} {node : MainNode K}

/-- The request of the hub. -/
def request
    (hub : Fin N)
    (value : BitVec 32) : Entry (Fin N) (NodeFrame K) where
  sender := hub
  frame := .can (.commandsRequest (resetAll value))

/-- The node has executed the `r`. -/
def HasReset
    (hub n : Fin N)
    (received : List (Entry (Fin N) (NodeFrame K))) : Prop :=
  n = hub ∨ received ≠ []

/-- What holds of one node, with the bus order and what it has taken of it. -/
structure Rebuilding
    (ids : Fin N → Nat)
    (hub : Fin N)
    (log received : List (Entry (Fin N) (NodeFrame K)))
    (n : Fin N)
    (node : MainNode K) : Prop where
  nodeId : node.glob.nodeId = ids n
  before :
    ¬ HasReset hub n received →
      node.mainFSM.state = .run ∧
        node.glob.Lists (Finset.univ.image ids) ∧
        log.countP (announces n) = 0
  behind :
    HasReset hub n received →
      node.glob.Lists ((insert n (heard received)).image ids) ∧
        log.countP (announces n) =
          if node.mainFSM.state = .init then 0 else 1

/-- What holds of the whole network. -/
structure Reset
    (ids : Fin N → Nat)
    (hub : Fin N)
    (value : BitVec 32)
    (net : NodeNet K N) : Prop where
  requested :
    ∃ rest,
      net.bus.log = request hub value :: rest ∧
        ∀ entry ∈ rest, entry.frame.isReset = false
  nodes :
    ∀ n, Rebuilding ids hub net.bus.log (net.bus.received n) n (net.node n)

namespace Rebuilding

/-- The node only changes its hub, hears nobody new and announces nothing. -/
theorem keeps
    {log' received' : List (Entry (Fin N) (NodeFrame K))}
    {after : MainNode K}
    (rebuilding : Rebuilding ids hub log received n node)
    (sameHub : ∃ hub, after.glob = { node.glob with hubNode := hub })
    (sameInit :
      after.mainFSM.state = .init ↔ node.mainFSM.state = .init)
    (stillRun : node.mainFSM.state = .run → after.mainFSM.state = .run)
    (sameReset : HasReset hub n received' ↔ HasReset hub n received)
    (sameHeard : heard received' = heard received)
    (noneNew : log'.countP (announces n) = log.countP (announces n)) :
    Rebuilding ids hub log' received' n after := by
  obtain ⟨newHub, isGlob⟩ := sameHub
  refine
    { nodeId := by rw [isGlob]; exact rebuilding.nodeId
      before := ?_
      behind := ?_ }
  · intro notReset
    obtain ⟨running, lists, none⟩ :=
      rebuilding.before fun hasReset => notReset (sameReset.mpr hasReset)
    refine ⟨stillRun running, ?_, noneNew.trans none⟩
    rw [isGlob]
    exact lists.withHub newHub
  · intro hasReset
    obtain ⟨lists, count⟩ := rebuilding.behind (sameReset.mp hasReset)
    constructor
    · rw [sameHeard, isGlob]
      exact lists.withHub newHub
    · rw [noneNew, count]
      exact if_congr sameInit.symm rfl rfl

/-- Another node sends frames. -/
theorem grow
    {m : Fin N}
    (rebuilding : Rebuilding ids hub log received n node)
    (different : n ≠ m)
    (sent : List (NodeFrame K)) :
    Rebuilding ids hub (log ++ sent.map fun frame => ⟨m, frame⟩) received n
      node := by
  refine
    rebuilding.keeps ⟨node.glob.hubNode, rfl⟩ Iff.rfl id Iff.rfl rfl ?_
  rw [List.countP_append, countP_announces_other different, Nat.add_zero]

/-- The node announces itself once it has waited. -/
theorem wakes
    (rebuilding : Rebuilding ids hub log received n node)
    (starting : node.mainFSM.state = .init)
    (stamp : BitVec 32) :
    Rebuilding ids hub (log ++ [⟨n, .can .wakeupBroadcast⟩]) received n
      { node with mainFSM := .setState .wakeupWait stamp } := by
  refine
    { nodeId := rebuilding.nodeId
      before := ?_
      behind := ?_ }
  · intro notReset
    have running := (rebuilding.before notReset).1
    rw [starting] at running
    cases running
  · intro hasReset
    obtain ⟨lists, count⟩ := rebuilding.behind hasReset
    refine ⟨lists, ?_⟩
    rw [if_pos starting] at count
    rw [List.countP_append, count]
    simp [announces, MainFSM.setState]

/-- The node takes the request and forgets the others. -/
theorem reset
    [Field K]
    (positive : 0 < ids n)
    (rebuilding : Rebuilding ids hub log received n node)
    (notReset : ¬ HasReset hub n received)
    (value : BitVec 32) :
    Rebuilding ids hub log (received ++ [request hub value]) n node.reset := by
  obtain ⟨-, lists, none⟩ := rebuilding.before notReset
  have nothing : received = [] := by
    by_contra some
    exact notReset (.inr some)
  refine
    { nodeId := rebuilding.nodeId
      before := ?_
      behind := ?_ }
  · intro stillNot
    exact absurd (.inr (by simp)) stillNot
  · intro _
    have unheard :
        heard [(request hub value : Entry (Fin N) (NodeFrame K))] = ∅ := by
      simp [heard, announces, request, NodeFrame.isWakeup]
    constructor
    · rw [nothing, List.nil_append, unheard, insert_empty_eq,
        Finset.image_singleton, ← rebuilding.nodeId]
      exact lists.resetGlob (rebuilding.nodeId ▸ positive)
    · rw [none, if_pos]
      rfl

/-- The node takes the announcement of a node that it has not heard before. -/
theorem registers
    {m : Fin N}
    (distinct : Function.Injective ids)
    (positive : 0 < ids m)
    (rebuilding : Rebuilding ids hub log received n node)
    (hasReset : HasReset hub n received)
    (different : m ≠ n)
    (unheard : m ∉ heard received) :
    Rebuilding ids hub log (received ++ [⟨m, .can .wakeupBroadcast⟩]) n
      { node with glob := node.glob.registerNewNode (ids m) } := by
  obtain ⟨lists, count⟩ := rebuilding.behind hasReset
  refine
    { nodeId := rebuilding.nodeId
      before := ?_
      behind := ?_ }
  · intro stillNot
    exact absurd (.inr (by simp)) stillNot
  · intro _
    refine ⟨?_, count⟩
    have fresh : ids m ∉ (insert n (heard received)).image ids := by
      rw [Finset.mem_image]
      rintro ⟨other, listed, same⟩
      rw [distinct same, Finset.mem_insert] at listed
      exact listed.elim different unheard
    rw [heard_append_wakeup rfl, Finset.insert_comm, Finset.image_insert]
    exact lists.registerNewNode fresh positive

/-- The registry still has room for a node that has not been heard. -/
theorem notFull
    {m : Fin N}
    (fits : N ≤ maxNumNodes)
    (rebuilding : Rebuilding ids hub log received n node)
    (hasReset : HasReset hub n received)
    (different : m ≠ n)
    (unheard : m ∉ heard received) :
    ¬ node.glob.numTotalNodes ≥ maxNumNodes := by
  obtain ⟨lists, -⟩ := rebuilding.behind hasReset
  have missing : m ∉ insert n (heard received) := by
    rw [Finset.mem_insert, not_or]
    exact ⟨different, unheard⟩
  have fewer : (insert n (heard received)).card < N := by
    have strict := Finset.card_lt_univ_of_notMem missing
    rwa [Fintype.card_fin] at strict
  have most : ((insert n (heard received)).image ids).card < N :=
    Nat.lt_of_le_of_lt Finset.card_image_le fewer
  rw [lists.count]
  exact Nat.not_le_of_gt (Nat.lt_of_lt_of_le most fits)

end Rebuilding

variable {net after : NodeNet K N}

namespace Reset

/-- A node changes its state and sends frames. -/
theorem withNode
    (reset : Reset ids hub value net)
    {node : MainNode K}
    {sent : List (NodeFrame K)}
    (noReset : ∀ frame ∈ sent, frame.isReset = false)
    (own :
      Rebuilding ids hub (net.bus.log ++ sent.map fun frame => ⟨n, frame⟩)
        (net.bus.received n) n node) :
    Reset ids hub value (net.withNode n node sent) := by
  obtain ⟨rest, isLog, ordinary⟩ := reset.requested
  constructor
  · refine ⟨rest ++ sent.map fun frame => ⟨n, frame⟩, ?_, ?_⟩
    · rw [NodeNet.withNode, Bus.broadcastAll_log, isLog, List.cons_append]
    · intro entry member
      rcases List.mem_append.mp member with old | new
      · exact ordinary entry old
      · obtain ⟨frame, isSent, rfl⟩ := List.mem_map.mp new
        exact noReset frame isSent
  · intro m
    rw [NodeNet.withNode, Bus.broadcastAll_log, Bus.broadcastAll_received]
    dsimp only
    by_cases same : m = n
    · subst same
      rw [Function.update_self]
      exact own
    · rw [Function.update_of_ne same]
      exact (reset.nodes m).grow same sent

/-- A node takes its oldest frame. -/
theorem afterTake
    (reset : Reset ids hub value net)
    {entry : Entry (Fin N) (NodeFrame K)}
    {rest : List (Entry (Fin N) (NodeFrame K))}
    (queued : net.bus.fifo n = entry :: rest)
    {node : MainNode K}
    (own :
      Rebuilding ids hub net.bus.log (net.bus.received n ++ [entry]) n
        node) :
    Reset ids hub value (net.afterTake n node) := by
  constructor
  · exact reset.requested
  · intro m
    by_cases same : m = n
    · subst same
      rw [NodeNet.afterTake, Bus.take_received_self queued]
      dsimp only
      rw [Function.update_self]
      exact own
    · rw [NodeNet.afterTake, Bus.take_received_other net.bus same]
      dsimp only
      rw [Function.update_of_ne same]
      exact reset.nodes m

/-- Before a node has executed the `r`, its oldest frame is the request. -/
theorem queued_of_not
    (reset : Reset ids hub value net)
    (notReset : ¬ HasReset hub n (net.bus.received n))
    {entry : Entry (Fin N) (NodeFrame K)}
    {rest : List (Entry (Fin N) (NodeFrame K))}
    (queued : net.bus.fifo n = entry :: rest) :
    entry = request hub value := by
  obtain ⟨later, isLog, -⟩ := reset.requested
  rw [HasReset, not_or, not_not] at notReset
  have order := net.bus.ordered n
  have foreign : (request hub value : Entry (Fin N) (NodeFrame K)).sender ≠ n :=
    fun same => notReset.1 same.symm
  rw [notReset.2, queued, isLog, List.nil_append,
    List.filter_cons_of_pos (by simpa using foreign)] at order
  exact (List.cons.inj order).1

/-- After that it takes no further reset request. -/
theorem queued_of_hasReset
    (reset : Reset ids hub value net)
    (hasReset : HasReset hub n (net.bus.received n))
    {entry : Entry (Fin N) (NodeFrame K)}
    {rest : List (Entry (Fin N) (NodeFrame K))}
    (queued : net.bus.fifo n = entry :: rest) :
    entry.frame.isReset = false := by
  obtain ⟨later, isLog, ordinary⟩ := reset.requested
  have order := net.bus.ordered n
  rw [queued, isLog] at order
  have member :
      entry ∈ later.filter (fun entry => entry.sender ≠ n) := by
    by_cases own : hub = n
    · rw [List.filter_cons_of_neg (by simp [request, own])] at order
      rw [← order]
      simp
    · rw [List.filter_cons_of_pos (by simp [request, own])] at order
      obtain isHub | some := hasReset
      · exact absurd isHub.symm own
      · obtain ⟨first, others, isReceived⟩ := List.exists_cons_of_ne_nil some
        rw [isReceived, List.cons_append] at order
        rw [← (List.cons.inj order).2]
        simp
  exact ordinary entry (List.mem_of_mem_filter member)

/-- The sender of a queued announcement has not been heard yet. -/
theorem unheard
    (reset : Reset ids hub value net)
    {m : Fin N}
    {rest : List (Entry (Fin N) (NodeFrame K))}
    (queued : net.bus.fifo n = ⟨m, .can .wakeupBroadcast⟩ :: rest) :
    m ≠ n ∧ m ∉ heard (net.bus.received n) := by
  have isQueued :
      (⟨m, .can .wakeupBroadcast⟩ : Entry (Fin N) (NodeFrame K)) ∈
        net.bus.fifo n := by
    rw [queued]
    exact List.mem_cons_self
  have different : m ≠ n := (Bus.mem_log_of_mem_fifo isQueued).2
  refine ⟨different, ?_⟩
  have once : net.bus.log.countP (announces m) ≤ 1 := by
    by_cases hasReset : HasReset hub m (net.bus.received m)
    · rw [((reset.nodes m).behind hasReset).2]
      split <;> decide
    · rw [((reset.nodes m).before hasReset).2.2]
      decide
  have order := congrArg (List.countP (announces m)) (net.bus.ordered n)
  have here :
      announces m (⟨m, .can .wakeupBroadcast⟩ : Entry (Fin N) (NodeFrame K)) =
        true := by
    simp [announces]
  rw [countP_announces_filter different, queued, List.countP_append,
    List.countP_cons_of_pos here] at order
  intro isHeard
  have before := List.countP_pos_iff.mpr (mem_heard.mp isHeard)
  omega

end Reset

/-- The hub's own reset starts the invariant. -/
theorem Settled.reset
    [Field K]
    (positive : ∀ n, 0 < ids n)
    (settled : net.Settled ids)
    (hub : Fin N)
    (value : BitVec 32) :
    Reset ids hub value (net.resetByHub hub value) := by
  have isLog :
      (net.resetByHub hub value).bus.log = [request hub value] := by
    rw [resetByHub, NodeNet.withNode, Bus.broadcastAll_log, settled.drained]
    rfl
  have noReceived : (net.resetByHub hub value).bus.received = fun _ => [] := by
    rw [resetByHub, NodeNet.withNode, Bus.broadcastAll_received,
      settled.drained]
    rfl
  have none :
      ∀ n : Fin N,
        [(request hub value : Entry (Fin N) (NodeFrame K))].countP
            (announces n) =
          0 := by
    intro n
    simp [announces, request, NodeFrame.isWakeup]
  refine ⟨⟨[], isLog, fun _ member => absurd member List.not_mem_nil⟩, ?_⟩
  intro n
  rw [isLog, noReceived, resetByHub, NodeNet.withNode]
  dsimp only
  by_cases own : n = hub
  · subst own
    rw [Function.update_self]
    refine
      { nodeId := settled.nodeId n
        before := fun notReset => absurd (.inl rfl) notReset
        behind := ?_ }
    intro _
    refine ⟨?_, none n⟩
    have nobody :
        heard ([] : List (Entry (Fin N) (NodeFrame K))) = ∅ := by
      simp [heard]
    rw [nobody, insert_empty_eq, Finset.image_singleton, ← settled.nodeId n]
    exact (settled.lists n).resetGlob (settled.nodeId n ▸ positive n)
  · rw [Function.update_of_ne own]
    refine
      { nodeId := settled.nodeId n
        before := fun _ => ⟨settled.running n, settled.lists n, none n⟩
        behind := ?_ }
    rintro (isHub | some)
    · exact absurd isHub own
    · exact absurd rfl some

/-- A node changes at most its hub and sends frames that matter to nobody's registry. -/
theorem Reset.quiet
    (reset : Reset ids hub value net)
    {node : MainNode K}
    {sent : List (NodeFrame K)}
    (noReset : ∀ frame ∈ sent, frame.isReset = false)
    (noWakeup : ∀ frame ∈ sent, frame.isWakeup = false)
    (sameHub :
      ∃ hub, node.glob = { (net.node n).glob with hubNode := hub })
    (sameInit :
      node.mainFSM.state = .init ↔ (net.node n).mainFSM.state = .init)
    (stillRun :
      (net.node n).mainFSM.state = .run → node.mainFSM.state = .run) :
    Reset ids hub value (net.withNode n node sent) := by
  apply reset.withNode noReset
  refine (reset.nodes n).keeps sameHub sameInit stillRun Iff.rfl rfl ?_
  have none :
      (sent.map fun frame => (⟨n, frame⟩ : Entry _ _)).countP (announces n) =
        0 := by
    rw [List.countP_eq_zero]
    intro entry member
    obtain ⟨frame, isSent, rfl⟩ := List.mem_map.mp member
    simp [announces, noWakeup frame isSent]
  rw [List.countP_append, none, Nat.add_zero]

/-- A node changes at most its hub and sends nothing. -/
theorem Reset.silent
    (reset : Reset ids hub value net)
    {node : MainNode K}
    (sameHub :
      ∃ hub, node.glob = { (net.node n).glob with hubNode := hub })
    (sameInit :
      node.mainFSM.state = .init ↔ (net.node n).mainFSM.state = .init)
    (stillRun :
      (net.node n).mainFSM.state = .run → node.mainFSM.state = .run) :
    Reset ids hub value (net.withNode n node []) :=
  reset.quiet (fun _ member => absurd member List.not_mem_nil)
    (fun _ member => absurd member List.not_mem_nil) sameHub sameInit
    stillRun

section Step

variable [Field K] [LinearOrder K] {voltageToLux : K → K}

/-- Local events keep the invariant. -/
theorem Reset.act
    (reset : Reset ids hub value net)
    {event : NodeEvent K}
    (ordinary : (BusStep.act event).Ordinary)
    {ran : MainNode K × List (NodeFrame K)}
    (acted : (net.node n).next voltageToLux event = some ran) :
    Reset ids hub value (net.withNode n ran.1 ran.2) := by
  cases event with
  | frame sender frame => exact ordinary.elim
  | command command =>
      obtain ⟨⟩ := acted
      obtain ⟨sameMain, sameHub⟩ :=
        (net.node n).readCommand_of_kept ordinary
      apply reset.silent sameHub
      · rw [sameMain]
      · rw [sameMain]
        exact id
  | discovery hadResponse =>
      obtain ⟨⟩ := acted
      obtain ⟨sameMain, sameHub⟩ :=
        (net.node n).sendPCDiscovery_kept hadResponse
      apply reset.silent sameHub
      · rw [sameMain]
      · rw [sameMain]
        exact id
  | mainLoop input =>
      have isRan : (net.node n).mainLoop voltageToLux input = ran :=
        Option.some.inj acted
      have loop := MainNode.mainLoop_case voltageToLux input (net.node n)
      rw [isRan] at loop
      have keptHub :
          ∃ hub,
            (net.node n).glob = { (net.node n).glob with hubNode := hub } :=
        ⟨(net.node n).glob.hubNode, rfl⟩
      cases loop with
      | wakes starting _ =>
          apply reset.withNode
          · intro frame member
            rw [List.mem_singleton.mp member]
            rfl
          · exact (reset.nodes n).wakes starting input.stamp
      | waits _ => exact reset.silent keptHub Iff.rfl id
      | starts waiting _ =>
          refine reset.silent ?_ ?_ ?_
          · exact keptHub
          · rw [waiting]
            exact ⟨nofun, nofun⟩
          · rw [waiting]
            exact nofun
      | calibrates fsm sent calibrating _ =>
          refine reset.quiet ?_ ?_ keptHub ?_ ?_
          · intro frame member
            obtain ⟨message, -, rfl⟩ := List.mem_map.mp member
            rfl
          · intro frame member
            obtain ⟨message, -, rfl⟩ := List.mem_map.mp member
            rfl
          · dsimp only
            split
            · rw [calibrating]
              exact ⟨nofun, nofun⟩
            · rfl
          · rw [calibrating]
            exact nofun

/-- Taking a frame keeps the invariant. -/
theorem Reset.take
    (distinct : Function.Injective ids)
    (positive : ∀ n, 0 < ids n)
    (reset : Reset ids hub value net)
    {entry : Entry (Fin N) (NodeFrame K)}
    {rest : List (Entry (Fin N) (NodeFrame K))}
    (queued : net.bus.fifo n = entry :: rest)
    {node : MainNode K}
    (taken :
      (net.node n).received (net.node entry.sender).glob.nodeId entry.frame =
        some node) :
    Reset ids hub value (net.afterTake n node) := by
  apply reset.afterTake queued
  by_cases hasReset : HasReset hub n (net.bus.received n)
  · have noReset := reset.queued_of_hasReset hasReset queued
    by_cases wakeup : entry.frame.isWakeup = true
    · obtain ⟨m, frame⟩ := entry
      have isWakeup : frame = .can .wakeupBroadcast :=
        NodeFrame.eq_of_isWakeup wakeup
      subst isWakeup
      obtain ⟨different, unheard⟩ := reset.unheard queued
      rw [MainNode.received, (reset.nodes m).nodeId] at taken
      split at taken
      · cases taken
      · obtain ⟨⟩ := taken
        exact
          (reset.nodes n).registers distinct (positive m) hasReset different
            unheard
    · rw [Bool.not_eq_true] at wakeup
      obtain ⟨after, isAfter, sameMain, sameHub⟩ :=
        (net.node n).received_plain wakeup noReset
          (net.node entry.sender).glob.nodeId
      rw [isAfter] at taken
      obtain ⟨⟩ := taken
      refine
        (reset.nodes n).keeps sameHub (by rw [sameMain])
          (by rw [sameMain]; exact id) ?_ (heard_append_plain wakeup) rfl
      exact ⟨fun _ => hasReset, fun _ => .inr (by simp)⟩
  · have isRequest := reset.queued_of_not hasReset queued
    subst isRequest
    obtain ⟨⟩ := taken
    exact (reset.nodes n).reset (positive n) hasReset value

/-- A step keeps the invariant. -/
theorem Reset.step
    (distinct : Function.Injective ids)
    (positive : ∀ n, 0 < ids n)
    (reset : Reset ids hub value net)
    {action : NodeNetAction K N}
    (ordinary : action.does.Ordinary)
    (taken : next voltageToLux net action = some after) :
    Reset ids hub value after := by
  obtain ⟨n, does⟩ := action
  cases does with
  | take =>
      simp only [next] at taken
      split at taken
      · cases taken
      · rename_i entry rest queued
        obtain ⟨node, isNode, rfl⟩ := Option.map_eq_some_iff.mp taken
        exact reset.take distinct positive queued isNode
  | act event =>
      obtain ⟨ran, isRan, rfl⟩ := Option.map_eq_some_iff.mp taken
      exact reset.act ordinary isRan
  | send frame =>
      obtain ⟨⟩ := taken
      obtain ⟨noWakeup, noReset⟩ := ordinary
      refine
        reset.quiet ?_ ?_ ⟨(net.node n).glob.hubNode, rfl⟩ Iff.rfl id
      · intro sent member
        rw [List.mem_singleton.mp member]
        exact noReset
      · intro sent member
        rw [List.mem_singleton.mp member]
        exact noWakeup

/-- What the invariant says once all nodes are announced and drained. -/
theorem Reset.rebuilt
    (distinct : Function.Injective ids)
    (fits : N ≤ maxNumNodes)
    (reset : Reset ids hub value net) :
    net.Rebuilt ids := by
  constructor
  · intro announced drained n
    apply Glob.Lists.knowsAll distinct
    have isReceived := Bus.received_of_fifo_nil (drained n)
    obtain ⟨later, isLog, -⟩ := reset.requested
    have hasReset : HasReset hub n (net.bus.received n) := by
      by_cases own : n = hub
      · exact .inl own
      · refine .inr ?_
        rw [isReceived, isLog, List.filter_cons_of_pos (by
          simp [request, Ne.symm own])]
        exact List.cons_ne_nil _ _
    obtain ⟨lists, -⟩ := (reset.nodes n).behind hasReset
    have everybody :
        insert n (heard (net.bus.received n)) = Finset.univ := by
      rw [Finset.eq_univ_iff_forall]
      intro m
      rw [Finset.mem_insert, mem_heard]
      by_cases same : m = n
      · exact .inl same
      · obtain ⟨entry, member, isAnnounced⟩ := announced m
        refine .inr ⟨entry, ?_, isAnnounced⟩
        have sender : entry.sender = m := by
          unfold announces at isAnnounced
          rw [Bool.and_eq_true] at isAnnounced
          exact of_decide_eq_true isAnnounced.1
        rw [isReceived, List.mem_filter]
        exact ⟨member, by simp [sender, same]⟩
    rw [everybody] at lists
    exact lists
  · intro n entry rest queued
    by_cases wakeup : entry.frame.isWakeup = true
    · obtain ⟨m, frame⟩ := entry
      have isWakeup : frame = .can .wakeupBroadcast :=
        NodeFrame.eq_of_isWakeup wakeup
      subst isWakeup
      obtain ⟨different, unheard⟩ := reset.unheard queued
      by_cases hasReset : HasReset hub n (net.bus.received n)
      · have room :=
          (reset.nodes n).notFull fits hasReset different unheard
        rw [MainNode.received, if_neg room]
        rfl
      · have isRequest := reset.queued_of_not hasReset queued
        cases isRequest
    · rw [Bool.not_eq_true] at wakeup
      by_cases isReset : entry.frame.isReset = true
      · obtain ⟨command, isRequest, -⟩ :=
          NodeFrame.exists_of_isReset isReset
        rw [isRequest]
        rfl
      · rw [Bool.not_eq_true] at isReset
        obtain ⟨after, isAfter, -⟩ :=
          (net.node n).received_plain wakeup isReset
            (net.node entry.sender).glob.nodeId
        rw [isAfter]
        rfl

/-- A reset by the hub rebuilds the registries of all nodes, in every order of steps. -/
theorem rebuilt_of_run
    (voltageToLux : K → K)
    {ids : Fin N → Nat}
    (distinct : Function.Injective ids)
    (inRange : ∀ n, 0 < ids n ∧ ids n ≤ maxNodeId)
    (fits : N ≤ maxNumNodes)
    {start final : NodeNet K N}
    (settled : start.Settled ids)
    (hub : Fin N)
    (value : BitVec 32)
    (run :
      Run (next voltageToLux) (fun _ action => action.does.Ordinary)
        (start.resetByHub hub value) final) :
    final.Rebuilt ids := by
  have positive : ∀ n, 0 < ids n := fun n => (inRange n).1
  have reset : Reset ids hub value final :=
    run.invariant (Reset ids hub value) (settled.reset positive hub value)
      fun reset ordinary taken => reset.step distinct positive ordinary taken
  exact reset.rebuilt distinct fits

end Step

end Invariant

section Example

/-- The ids of three nodes. -/
def threeIds : Fin 3 → Nat := ![5, 2, 9]

/-- Three nodes in `Run` that know each other. -/
def threeNodes : NodeNet ℚ 3 where
  node n :=
    { glob :=
        (((Glob.zeroed (threeIds n) 0).registerNewNode 5).registerNewNode
          2).registerNewNode 9
      mainFSM := .setState .run 0
      calibrationFSM := .boot ℚ }
  bus := .empty

theorem settled_threeNodes : threeNodes.Settled threeIds where
  nodeId := fun _ => rfl
  running := fun _ => rfl
  lists := by
    intro n
    have members :
        Finset.univ.image threeIds = insert 9 (insert 2 (insert 5 ∅)) := by
      decide
    rw [members]
    have first :=
      (Glob.lists_zeroed (threeIds n) 0).registerNewNode
        (Finset.notMem_empty 5) (by decide)
    have second :=
      first.registerNewNode (show 2 ∉ insert 5 ∅ by decide) (by decide)
    exact second.registerNewNode (by decide) (by decide)
  drained := rfl

/-- A run of the main loop at this time, in the example. -/
def mainLoopAt (now : BitVec 32) : BusStep ℚ :=
  .act (.mainLoop (.atTime now 0))

/-- The hub wakes before the others have seen its request. -/
def threeSchedule : List (NodeNetAction ℚ 3) :=
  [⟨0, mainLoopAt 2000001⟩, ⟨1, .take⟩, ⟨1, mainLoopAt 2000001⟩, ⟨1, .take⟩,
    ⟨2, .take⟩, ⟨2, .take⟩, ⟨2, mainLoopAt 2000001⟩, ⟨0, .take⟩, ⟨2, .take⟩,
    ⟨0, .take⟩, ⟨1, .take⟩]

/-- All three announce themselves, and know each other again. -/
theorem rebuilt_three_nodes :
    ∃ final,
      Run (next id) (fun _ action => action.does.Ordinary)
          (threeNodes.resetByHub 0 0) final ∧
        ∀ n, (final.node n).glob.KnowsAll threeIds := by
  obtain ⟨final, run, observed⟩ :=
    exists_run_of_observed (next id) (fun _ action => action.does.Ordinary)
      (threeNodes.resetByHub 0 0) threeSchedule
      (fun net =>
        decide
          ((∀ n, net.bus.log.any (announces n) = true) ∧
            ∀ n, (net.bus.fifo n).isEmpty = true))
      (by decide +kernel)
  obtain ⟨announced, drained⟩ := of_decide_eq_true observed
  have rebuilt :=
    rebuilt_of_run id (show Function.Injective threeIds by decide)
      (by decide) (by decide) settled_threeNodes 0 0 run
  refine ⟨final, run, rebuilt.complete ?_ ?_⟩
  · intro n
    exact List.any_eq_true.mp (announced n)
  · intro n
    exact List.isEmpty_iff.mp (drained n)

end Example

end NodeNet

end DistributedLighting
