import DistributedLighting.ResetHandshake

namespace DistributedLighting

/-!
# The PC's list of the nodes

The PC checks destinations and counts the acknowledgements of a reset by a copy of the
hub's registry, which it only knows from the lists that the hub sends: when it becomes
the hub, and whenever `registerNewNode` runs at the hub.
-/

/-- The ids of the registry as they arrive at the PC, one byte each. -/
def Glob.shownIds (glob : Glob) : List Nat :=
  (glob.listed.map (BitVec.ofNat 8)).map BitVec.toNat

/-- `nodeIds` once the server has handled what is on the line. -/
def nodeIdsAfter (nodeIds : List Nat) : List Message → List Nat
  | [] => nodeIds
  | .listNodes nodesList _ :: later =>
      nodeIdsAfter (nodesList.map BitVec.toNat) later
  | .frequentData _ _ _ :: later => nodeIdsAfter nodeIds later
  | .response _ :: later => nodeIdsAfter nodeIds later
  | .pcDiscovery :: later => nodeIdsAfter nodeIds later

theorem nodeIdsAfter_append
    (nodeIds : List Nat)
    (first second : List Message) :
    nodeIdsAfter nodeIds (first ++ second) =
      nodeIdsAfter (nodeIdsAfter nodeIds first) second := by
  induction first generalizing nodeIds with
  | nil => rfl
  | cons message later inductionHypothesis =>
      cases message <;> exact inductionHypothesis _

/-- The node takes itself for the hub. -/
def HubNode.IsHub
    {K : Type}
    (node : HubNode K) : Prop :=
  node.glob.hubNode = node.glob.nodeId

/--
What a handler leaves and writes: a PC that shows the node's list before, if the node
is the hub, shows its new list afterwards.
-/
structure HubNode.Announces
    {K : Type}
    (node after : HubNode K)
    (serial : List Message) : Prop where
  nodeId : after.glob.nodeId = node.glob.nodeId
  few : after.glob.numTotalNodes ≤ maxNumNodes
  shown :
    after.IsHub →
    ∀ nodeIds,
      (node.IsHub → nodeIds = node.glob.shownIds) →
      nodeIdsAfter nodeIds serial = after.glob.shownIds

namespace HubNode

variable {K : Type} {node after : HubNode K} {serial : List Message}

/-- A list of few nodes is sent as it is. -/
theorem nodeIdsAfter_sendListNodesToPC
    {glob : Glob}
    (few : glob.numTotalNodes ≤ maxNumNodes)
    (nodeIds : List Nat) :
    nodeIdsAfter nodeIds glob.sendListNodesToPC = glob.shownIds := by
  have fits : (glob.listed.map (BitVec.ofNat 8)).length < 256 := by
    rw [List.length_map, Glob.listed, List.length_map, List.length_range]
    exact Nat.lt_of_le_of_lt few (by decide)
  rw [Glob.sendListNodesToPC, dif_pos fits]
  rfl

/-- A handler that leaves the registry and sends no list. -/
theorem announces_of_sameGlob
    (few : node.glob.numTotalNodes ≤ maxNumNodes)
    (sameGlob : after.glob = node.glob)
    (noList : ∀ nodeIds, nodeIdsAfter nodeIds serial = nodeIds) :
    node.Announces after serial where
  nodeId := by rw [sameGlob]
  few := by
    rw [sameGlob]
    exact few
  shown := by
    intro isHub nodeIds shown
    rw [IsHub, sameGlob] at isHub
    rw [noList, sameGlob]
    exact shown isHub

/-- A registry that `registerNewNode` has left is announced by a hub. -/
theorem announces_of_announce
    (sameId : after.glob.nodeId = node.glob.nodeId)
    (few : after.glob.numTotalNodes ≤ maxNumNodes)
    {rest : List Message}
    (noList : ∀ nodeIds, nodeIdsAfter nodeIds rest = nodeIds) :
    node.Announces after (after.glob.announce ++ rest) where
  nodeId := sameId
  few := few
  shown := by
    intro isHub nodeIds _
    rw [nodeIdsAfter_append, noList, Glob.announce, if_pos isHub.symm]
    exact nodeIdsAfter_sendListNodesToPC few nodeIds

/-- A node that is no hub afterwards has nothing to announce. -/
theorem announces_of_notHub
    (sameId : after.glob.nodeId = node.glob.nodeId)
    (few : after.glob.numTotalNodes ≤ maxNumNodes)
    (notHub : ¬ after.IsHub) :
    node.Announces after serial where
  nodeId := sameId
  few := few
  shown := fun isHub => absurd isHub notHub

/-- `resetGlob` leaves one node. -/
theorem few_resetGlob (glob : Glob) :
    glob.resetGlob.numTotalNodes ≤ maxNumNodes := by
  show 0 + 1 ≤ maxNumNodes
  decide

/-- A command leaves the registry, or resets and announces it. -/
theorem announces_executeCommand
    [Zero K]
    (few : node.glob.numTotalNodes ≤ maxNumNodes)
    (command : Command)
    (reading : BitVec 32)
    {rest : List Message}
    (noList : ∀ nodeIds, nodeIdsAfter nodeIds rest = nodeIds)
    (sameGlob :
      after.glob = (node.executeCommand command reading).2.1.glob) :
    node.Announces after
      ((node.executeCommand command reading).2.2 ++ rest) := by
  by_cases isReset : command.cmd = byteOf 'r'
  · rw [node.executeCommand_of_reset reading isReset] at sameGlob ⊢
    have sameReset : after.glob = node.glob.resetGlob := sameGlob
    have announced :
        node.glob.resetGlob.announce = after.glob.announce := by
      rw [sameReset]
    dsimp only
    rw [announced]
    refine announces_of_announce ?_ ?_ noList
    · rw [sameReset]
      rfl
    · rw [sameReset]
      exact few_resetGlob node.glob
  · rw [node.executeCommand_of_kept reading isReset] at sameGlob ⊢
    exact announces_of_sameGlob few sameGlob noList

section Handlers

variable [Zero K] (union : FloatTo4Bytes K)

omit [Zero K] in
/-- Totals are no lists. -/
theorem nodeIdsAfter_sendTotal
    (node : HubNode K)
    (nodeIds : List Nat) :
    nodeIdsAfter nodeIds
        (node.sendTotalIfAllValueForTotalReceived union).2 =
      nodeIds := by
  unfold sendTotalIfAllValueForTotalReceived
  split <;> rfl

/-- The hub reads a command. -/
theorem announces_readCommand
    (few : node.glob.numTotalNodes ≤ maxNumNodes)
    (command : Command)
    (reading : BitVec 32) :
    node.Announces
      (node.readCommand union command reading).node
      (node.readCommand union command reading).serial := by
  unfold readCommand
  split
  · unfold readDiscoveryAnswer
    dsimp only
    split
    · exact announces_of_sameGlob few rfl fun _ => rfl
    · refine ⟨rfl, few, fun _ nodeIds _ => ?_⟩
      exact nodeIdsAfter_sendListNodesToPC few nodeIds
  · split
    · unfold readTotalCommand
      dsimp only
      have fewCounted :
          node.countNodes.glob.numTotalNodes ≤ maxNumNodes :=
        few
      have counted :
          node.countNodes.Announces
            ((node.countNodes.executeCommand command reading).2.1.storeResult
                (union.floatValue
                  (node.countNodes.executeCommand command reading).1)
              |>.sendTotalIfAllValueForTotalReceived union).1
            ((node.countNodes.executeCommand command reading).2.2 ++
              ((node.countNodes.executeCommand command
                      reading).2.1.storeResult
                    (union.floatValue
                      (node.countNodes.executeCommand command reading).1)
                |>.sendTotalIfAllValueForTotalReceived union).2) :=
        announces_executeCommand fewCounted command reading
          (nodeIdsAfter_sendTotal union _)
          (sendTotalIfAllValueForTotalReceived_glob union _)
      exact ⟨counted.nodeId, counted.few, counted.shown⟩
    · split
      · exact announces_executeCommand few command reading (fun _ => rfl) rfl
      · split
        · exact announces_of_sameGlob few rfl fun _ => rfl
        · exact announces_of_sameGlob few rfl fun _ => rfl

omit [Zero K] in
/-- The discovery timer runs out. -/
theorem announces_sendPCDiscovery
    (positive : 0 < node.glob.nodeId)
    (few : node.glob.numTotalNodes ≤ maxNumNodes) :
    node.Announces node.sendPCDiscovery.node
      node.sendPCDiscovery.serial := by
  unfold sendPCDiscovery
  dsimp only
  split
  · exact announces_of_notHub rfl few fun isHub => Nat.ne_of_lt positive isHub
  · exact announces_of_sameGlob few rfl fun _ => rfl

/-- A frame arrives; a node never hears its own frames. -/
theorem announces_received
    [Add K]
    (positive : 0 < node.glob.nodeId)
    (few : node.glob.numTotalNodes ≤ maxNumNodes)
    {sender : Nat}
    {message : CanMessage}
    (room :
      message = .wakeupBroadcast → node.glob.numTotalNodes < maxNumNodes)
    (noEcho : message = .isHubNode → sender ≠ node.glob.nodeId)
    (reading : BitVec 32) :
    node.Announces
      (node.received union sender reading message).node
      (node.received union sender reading message).serial := by
  cases message with
  | wakeupBroadcast =>
      let registered : HubNode K :=
        { node with glob := node.glob.registerNewNode sender }
      have fewRegistered :
          registered.glob.numTotalNodes ≤ maxNumNodes :=
        room rfl
      have sameId : registered.glob.nodeId = node.glob.nodeId := rfl
      have announced :
          node.Announces registered (registered.glob.announce ++ []) :=
        announces_of_announce sameId fewRegistered fun _ => rfl
      rw [List.append_nil] at announced
      exact announced
  | isHubNode => exact announces_of_notHub rfl few (noEcho rfl)
  | noLongerIsHubNode =>
      unfold received
      dsimp only
      split
      · exact
          announces_of_notHub rfl few fun isHub =>
            Nat.ne_of_lt positive isHub
      · exact announces_of_sameGlob few rfl fun _ => rfl
  | frequentData data0 data1 data2 data3 =>
      exact announces_of_sameGlob few rfl fun _ => rfl
  | commandsRequest command =>
      have executed :
          node.Announces (node.executeCommand command reading).2.1
            ((node.executeCommand command reading).2.2 ++ []) :=
        announces_executeCommand few command reading (fun _ => rfl) rfl
      rw [List.append_nil] at executed
      exact executed
  | commandsResponse value =>
      refine
        announces_of_sameGlob few
          (receivedCommandResponseFromCAN_glob union node value) ?_
      intro nodeIds
      unfold received receivedCommandResponseFromCAN
      dsimp only
      split
      · rfl
      · exact nodeIdsAfter_sendTotal union _ nodeIds
  | other => exact announces_of_sameGlob few rfl fun _ => rfl

end Handlers

end HubNode

namespace HubNode

variable {K : Type} [Zero K] [Add K] {node : HubNode K}

/-- Every handler of a node announces what it changes. -/
theorem announces_handle
    {union : FloatTo4Bytes K}
    {event : HubEvent}
    {outcome : Outcome K}
    (positive : 0 < node.glob.nodeId)
    (few : node.glob.numTotalNodes ≤ maxNumNodes)
    (noEcho :
      ∀ sender reading,
        event = .frame sender reading .isHubNode →
        sender ≠ node.glob.nodeId)
    (handled : node.handle union event = some outcome) :
    node.Announces outcome.node outcome.serial := by
  cases event with
  | command command reading =>
      obtain ⟨⟩ := handled
      exact announces_readCommand union few command reading
  | discovery =>
      obtain ⟨⟩ := handled
      exact announces_sendPCDiscovery positive few
  | frame sender reading message =>
      simp only [handle] at handled
      split at handled
      · cases handled
      · rename_i room
        obtain ⟨⟩ := handled
        refine
          announces_received union positive few (fun isWakeup => ?_)
            (fun isHubNode => noEcho sender reading (by rw [isHubNode]))
            reading
        exact Nat.lt_of_not_le fun full => room ⟨isWakeup, full⟩

/-- A node that becomes the hub tells all others. -/
theorem broadcast_of_isHubNode
    {union : FloatTo4Bytes K}
    {event : HubEvent}
    {outcome : Outcome K}
    (handled : node.handle union event = some outcome) :
    ∀ sent ∈ outcome.can, sent.2 = .isHubNode → sent.1 = 0 := by
  cases event with
  | command command reading =>
      obtain ⟨⟩ := handled
      unfold readCommand
      split
      · unfold readDiscoveryAnswer
        dsimp only
        split <;> simp
      · split
        · simp [readTotalCommand]
        · split
          · simp
          · split <;> simp
  | discovery =>
      obtain ⟨⟩ := handled
      unfold sendPCDiscovery
      dsimp only
      split <;> simp
  | frame sender reading message =>
      simp only [handle] at handled
      split at handled
      · cases handled
      · obtain ⟨⟩ := handled
        cases message <;> simp [received]

end HubNode

namespace CommandServer

variable {Client : Type} [DecidableEq Client]

/-- Only a list of nodes changes `nodeIds`. -/
theorem nodeIds_executeNextFrom
    (server : CommandServer Client)
    (queue : List (CommandQueueElement Client)) :
    (server.executeNextFrom queue).1.nodeIds = server.nodeIds := by
  induction queue with
  | nil => rfl
  | cons element rest inductionHypothesis =>
      rw [executeNextFrom]
      split
      · exact inductionHypothesis
      · unfold expectACKs
        split <;> rfl

theorem nodeIds_addCommandToQueue
    (server : CommandServer Client)
    (command : Command)
    (client : Option Client) :
    (server.addCommandToQueue command client).1.nodeIds =
      server.nodeIds := by
  unfold addCommandToQueue
  dsimp only
  split
  · exact nodeIds_executeNextFrom _ _
  · rfl

omit [DecidableEq Client] in
theorem nodeIds_receivedCommandResponse
    (server : CommandServer Client)
    (value : BitVec 32) :
    (server.receivedCommandResponse value).1.nodeIds = server.nodeIds := by
  unfold receivedCommandResponse
  split
  · rfl
  · split
    · split <;> rfl
    · rfl

end CommandServer

namespace CommandNet

variable {K Client : Type} {hub : Nat} {members : List Nat}
    {net after : CommandNet K Client}

/-- A node does not receive its own frames. -/
def Unechoed
    (hub : Nat)
    (_ : CommandNet K Client) : NetAction Client → Prop
  | .other receiver sender message =>
      receiver = hub → message = .isHubNode → sender ≠ hub
  | _ => True

instance
    (hub : Nat)
    (net : CommandNet K Client) :
    (action : NetAction Client) → Decidable (net.Unechoed hub action)
  | .other receiver sender message =>
      inferInstanceAs
        (Decidable (receiver = hub → message = .isHubNode → sender ≠ hub))
  | .readSerial _ => isTrue trivial
  | .discovery _ => isTrue trivial
  | .deliver _ _ => isTrue trivial
  | .readServer => isTrue trivial
  | .push _ _ => isTrue trivial

/-- The PC shows the hub's registry once it has handled what is on the line. -/
structure Mirrors
    (hub : Nat)
    (net : CommandNet K Client) : Prop where
  nodeId : (net.node hub).glob.nodeId = hub
  few : (net.node hub).glob.numTotalNodes ≤ maxNumNodes
  noEcho :
    ∀ frame ∈ net.frames,
      frame.receiver = hub → frame.message = .isHubNode → frame.sender ≠ hub
  shown :
    (net.node hub).IsHub →
    nodeIdsAfter net.server.nodeIds net.toServer =
      (net.node hub).glob.shownIds

namespace Mirrors

/-- The hub or another node has handled an event. -/
theorem absorb
    (mirrors : net.Mirrors hub)
    {id : Nat}
    {outcome : Outcome K}
    (announces :
      id = hub → (net.node id).Announces outcome.node outcome.serial)
    (broadcast :
      ∀ sent ∈ outcome.can, sent.2 = .isHubNode → sent.1 = 0) :
    (net.absorb hub members id outcome).Mirrors hub := by
  have noEcho :
      ∀ frame ∈ (net.absorb hub members id outcome).frames,
        frame.receiver = hub →
        frame.message = .isHubNode →
        frame.sender ≠ hub := by
    intro frame member atHub isHubNode
    rcases List.mem_append.mp member with earlier | isNew
    · exact mirrors.noEcho frame earlier atHub isHubNode
    · obtain ⟨sent, isSent, member⟩ := List.mem_flatMap.mp isNew
      split at member
      · obtain ⟨receiver, isReceiver, isFrame⟩ := List.mem_map.mp member
        have different := of_decide_eq_true (List.mem_filter.mp isReceiver).2
        rw [← isFrame] at atHub ⊢
        rw [← atHub]
        exact fun same => different same.symm
      · rename_i single
        rw [List.mem_singleton.mp member] at isHubNode
        exact absurd (broadcast sent isSent isHubNode) single
  by_cases isHub : id = hub
  · subst isHub
    have announced := announces rfl
    refine ⟨?_, ?_, noEcho, ?_⟩
    · rw [absorb_node_self]
      exact announced.nodeId.trans mirrors.nodeId
    · rw [absorb_node_self]
      exact announced.few
    · rw [absorb_node_self]
      intro isHub
      have written :
          (net.absorb id members id outcome).toServer =
            net.toServer ++ outcome.serial :=
        if_pos rfl
      rw [written, nodeIdsAfter_append]
      exact announced.shown isHub _ mirrors.shown
  · refine ⟨?_, ?_, noEcho, ?_⟩
    · rw [absorb_node_other isHub]
      exact mirrors.nodeId
    · rw [absorb_node_other isHub]
      exact mirrors.few
    · rw [absorb_node_other isHub]
      have written :
          (net.absorb hub members id outcome).toServer = net.toServer :=
        if_neg isHub
      rw [written]
      exact mirrors.shown

/-- What the server does with its queue does not matter. -/
theorem serve
    [DecidableEq Client]
    (mirrors : net.Mirrors hub)
    {executed : CommandServer Client × Option (CommandQueueElement Client)}
    (sameIds : executed.1.nodeIds = net.server.nodeIds) :
    (net.serve executed).Mirrors hub where
  nodeId := mirrors.nodeId
  few := mirrors.few
  noEcho := mirrors.noEcho
  shown := by
    intro isHub
    show nodeIdsAfter executed.1.nodeIds net.toServer = _
    rw [sameIds]
    exact mirrors.shown isHub

end Mirrors

end CommandNet

namespace CommandNet

variable {K Client : Type} [Zero K] [Add K] [DecidableEq Client]
    {union : FloatTo4Bytes K} {hub : Nat} {members : List Nat}
    {start net after : CommandNet K Client}

namespace Mirrors

omit [DecidableEq Client] in
/-- A node handles an event. -/
theorem handleAt
    (mirrors : net.Mirrors hub)
    (positive : 0 < hub)
    {id : Nat}
    {event : HubEvent}
    (noEcho :
      id = hub →
      ∀ sender reading,
        event = .frame sender reading .isHubNode → sender ≠ hub)
    (taken : net.handleAt hub members union id event = some after) :
    after.Mirrors hub := by
  obtain ⟨outcome, handled, isAfter⟩ := Option.map_eq_some_iff.mp taken
  subst isAfter
  refine mirrors.absorb ?_ (HubNode.broadcast_of_isHubNode handled)
  intro isHub
  subst isHub
  have isId := mirrors.nodeId
  refine
    HubNode.announces_handle (isId.symm ▸ positive) mirrors.few ?_ handled
  intro sender reading isFrame
  rw [isId]
  exact noEcho rfl sender reading isFrame

omit [Zero K] [Add K] in
/-- The server handles a message. -/
theorem readServer
    (mirrors : net.Mirrors hub)
    {message : Message}
    {later : List Message}
    (isMessages : net.toServer = message :: later) :
    ((net.withMessages later).perform message).Mirrors hub := by
  have shown := mirrors.shown
  rw [isMessages] at shown
  cases message with
  | frequentData data0 illuminance data3 =>
      exact ⟨mirrors.nodeId, mirrors.few, mirrors.noEcho, shown⟩
  | pcDiscovery =>
      exact ⟨mirrors.nodeId, mirrors.few, mirrors.noEcho, shown⟩
  | listNodes nodesList fits =>
      exact ⟨mirrors.nodeId, mirrors.few, mirrors.noEcho, shown⟩
  | response value =>
      have read : (net.withMessages later).Mirrors hub :=
        ⟨mirrors.nodeId, mirrors.few, mirrors.noEcho, shown⟩
      have sameIds :=
        (net.withMessages later).server.nodeIds_receivedCommandResponse value
      unfold perform
      dsimp only
      split
      · exact
          read.serve
            ((CommandServer.nodeIds_executeNextFrom _ _).trans sameIds)
      · exact read.serve sameIds

/-- Every step keeps the mirror. -/
theorem step
    (mirrors : net.Mirrors hub)
    (positive : 0 < hub)
    {action : NetAction Client}
    (unechoed : net.Unechoed hub action)
    (taken : net.next hub members union action = some after) :
    after.Mirrors hub := by
  cases action with
  | readSerial reading =>
      unfold next at taken
      cases isCommands : net.toHub with
      | nil =>
          rw [isCommands] at taken
          cases taken
      | cons command later =>
          rw [isCommands] at taken
          have read : (net.withCommands later).Mirrors hub :=
            ⟨mirrors.nodeId, mirrors.few, mirrors.noEcho, mirrors.shown⟩
          exact read.handleAt positive (fun _ _ _ isFrame => by cases isFrame)
            taken
  | discovery id =>
      exact mirrors.handleAt positive (fun _ _ _ isFrame => by cases isFrame)
        taken
  | deliver position reading =>
      obtain ⟨frame, isFrame, taken⟩ := Option.bind_eq_some_iff.mp taken
      have fewer :
          (net.withFrames (net.frames.eraseIdx position)).Mirrors hub :=
        ⟨mirrors.nodeId, mirrors.few,
          fun other member =>
            mirrors.noEcho other (List.mem_of_mem_eraseIdx member),
          mirrors.shown⟩
      refine fewer.handleAt positive ?_ taken
      intro atHub sender reading same
      obtain ⟨isSender, -, isMessage⟩ := HubEvent.frame.inj same
      rw [← isSender]
      exact
        mirrors.noEcho frame (List.mem_of_getElem? isFrame) atHub isMessage
  | other receiver sender message =>
      simp only [next] at taken
      split at taken
      · cases taken
      · refine mirrors.handleAt positive ?_ taken
        intro atHub other reading same
        obtain ⟨isSender, -, isMessage⟩ := HubEvent.frame.inj same
        rw [← isSender]
        exact unechoed atHub isMessage
  | readServer =>
      unfold next at taken
      cases isMessages : net.toServer with
      | nil =>
          rw [isMessages] at taken
          cases taken
      | cons message later =>
          rw [isMessages] at taken
          obtain ⟨⟩ := taken
          exact mirrors.readServer isMessages
  | push command client =>
      obtain ⟨⟩ := taken
      exact
        mirrors.serve
          (net.server.nodeIds_addCommandToQueue command client)

end Mirrors

/-- The ids of a correct registry arrive as they are. -/
theorem shownIds_of_lists
    {glob : Glob}
    {registry : Finset Nat}
    (lists : glob.Lists registry)
    (bytes : ∀ id ∈ registry, id < 256) :
    glob.shownIds = registry.sort (· ≤ ·) := by
  unfold Glob.shownIds
  rw [lists.listed_eq, List.map_map]
  refine (List.map_congr_left fun id member => ?_).trans (List.map_id _)
  have isId := bytes id ((Finset.mem_sort _).mp member)
  exact Nat.mod_eq_of_lt isId

/--
From the attachment of the PC on, through any commands, resets, discoveries, losses of
the connection and wakeups: whenever the node takes itself for the hub, the PC shows its
registry once it has handled what is on the line, and with an empty line it shows
exactly the members of a correct registry.
-/
theorem nodeIds_of_run
    (positive : 0 < hub)
    (nodeId : (start.node hub).glob.nodeId = hub)
    (few : (start.node hub).glob.numTotalNodes ≤ maxNumNodes)
    (noEcho :
      ∀ frame ∈ start.frames,
        frame.receiver = hub →
        frame.message = .isHubNode →
        frame.sender ≠ hub)
    (notYet : ¬ (start.node hub).IsHub)
    (run : Run (next hub members union) (Unechoed hub) start net)
    (isHub : (net.node hub).IsHub) :
    nodeIdsAfter net.server.nodeIds net.toServer =
        (net.node hub).glob.shownIds ∧
      ∀ registry : Finset Nat,
        (net.node hub).glob.Lists registry →
        (∀ id ∈ registry, id < 256) →
        net.toServer = [] →
        net.server.nodeIds = registry.sort (· ≤ ·) := by
  have mirrors : net.Mirrors hub :=
    run.invariant
      (fun net => net.Mirrors hub)
      ⟨nodeId, few, noEcho, fun isHub => absurd isHub notYet⟩
      (fun mirrors unechoed taken => mirrors.step positive unechoed taken)
  have shown := mirrors.shown isHub
  refine ⟨shown, ?_⟩
  intro registry lists bytes noMessages
  rw [noMessages] at shown
  exact shown.trans (shownIds_of_lists lists bytes)

section Examples

/-- Node 2 with a PC that has just been attached. -/
def attached : CommandNet Int Nat where
  server := CommandServer.started
  toHub := []
  toServer := []
  node := fun id => HubNode.boot id
  frames := []

/-- The PC follows a wakeup, a reset and the wakeup after it. -/
theorem nodeIds_of_run_attached :
    ∃ net : CommandNet Int Nat,
      Run (next 2 [2, 5] singlePrecision) (Unechoed 2) attached net ∧
        net.server.nodeIds = [2] ∧
        (net.node 2).glob.shownIds = [2, 5] ∧
        nodeIdsAfter net.server.nodeIds net.toServer =
          (net.node 2).glob.shownIds := by
  obtain ⟨net, run, observed⟩ :=
    exists_run_of_observed
      (next 2 [2, 5] singlePrecision)
      (Unechoed 2)
      attached
      [.discovery 2, .readServer, .readSerial 0, .other 2 5 .wakeupBroadcast,
        .readServer, .readServer, .push resetCommand none, .readSerial 0,
        .other 2 5 .wakeupBroadcast, .readServer, .readServer]
      (fun net =>
        decide
          ((net.node 2).glob.hubNode = (net.node 2).glob.nodeId ∧
            net.server.nodeIds = [2] ∧
            (net.node 2).glob.shownIds = [2, 5]))
      (by decide +kernel)
  rw [decide_eq_true_eq] at observed
  obtain ⟨isHub, nodeIds, shownIds⟩ := observed
  have mirrored :=
    (nodeIds_of_run (by decide) rfl (by decide)
      (fun _ member => absurd member List.not_mem_nil)
      (by unfold HubNode.IsHub; decide) run isHub).1
  exact ⟨net, run, nodeIds, shownIds, mirrored⟩

end Examples

end CommandNet

end DistributedLighting
