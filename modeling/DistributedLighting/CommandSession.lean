import DistributedLighting.ResetHandshake
import DistributedLighting.TotalCommands

namespace DistributedLighting

/-!
# A session of commands, from the clients to the nodes and back

Clients come and go and push commands for single nodes and for all nodes.  Neither a
command nor its response carries a mark: that every client gets the answer to its own
command follows from what can be on the way at one time.  The histories of this module
record what was pushed, executed and answered, and no step reads them.
-/

/-- A node has run `executeCommand`. -/
structure Execution where
  id : Nat
  command : Command
  reading : BitVec 32
  deriving DecidableEq

/-- The value that `executeCommand` returned. -/
def Execution.result (execution : Execution) : BitVec 32 :=
  HubNode.commandResult execution.command execution.reading

/-- A command whose response the PC has printed, with the executions since the last one. -/
structure Answer (Client : Type) where
  element : CommandQueueElement Client
  executions : List Execution
  value : BitVec 32

/-- The PC, the nodes and the histories of the session. -/
structure CommandSession (K Client : Type) where
  net : CommandNet K Client
  pushed : List (CommandQueueElement Client)
  /-- What was executed since the last answer. -/
  executions : List Execution
  answers : List (Answer Client)

/-- A step of the net, the 3 s timer of a command, or a client that connects or is removed. -/
inductive SessionAction (Client : Type) where
  | net (action : NetAction Client)
  | commandTimedOut
  | accept (client : Client)
  | removeClientSession (client : Client)

/-- The hub adds the results of the others to its own, in the order of their arrival. -/
def totalOf
    {K : Type}
    [Add K]
    (union : FloatTo4Bytes K)
    (own : Execution)
    (others : List Execution) : K :=
  others.foldl
    (fun sum other => sum + union.floatValue other.result)
    (union.floatValue own.result)

/--
What the answer to a command should be: the result of the one node that has executed
it, or the total over one execution by every node.
-/
inductive Command.AnsweredBy
    {K : Type}
    [Add K]
    (union : FloatTo4Bytes K)
    (hub : Nat)
    (members : List Nat)
    (command : Command) : List Execution → BitVec 32 → Prop where
  | one
      (single : command.destination ≠ 0)
      (reading : BitVec 32) :
      AnsweredBy union hub members command
        [{ id := command.destination.toNat
           command := command
           reading := reading }]
        (HubNode.commandResult command reading)
  | total
      {executions : List Execution}
      {own : Execution}
      {others : List Execution}
      (toAll : command.destination = 0)
      (ownId : own.id = hub)
      (order : executions.Perm (own :: others))
      (places : (executions.map (·.id)).Perm members)
      (same : ∀ execution ∈ executions, execution.command = command) :
      AnsweredBy union hub members command executions
        (union.value (totalOf union own others))

namespace CommandNet

variable {K Client : Type}

/-- The commands that the hub has yet to read, apart from answers to discoveries. -/
def unreadCommands (net : CommandNet K Client) : List Command :=
  net.toHub.filter fun command => command.cmd ≠ byteOf 'D'

/-- The requests and responses on the CAN bus. -/
def commandFrames (net : CommandNet K Client) : List CanFrame :=
  net.frames.filter fun frame => frame.message.isCommand

/-- The command that the PC waits for. -/
def front? (net : CommandNet K Client) : Option Command :=
  net.server.commandsQueue.head?.map (·.command)

/-- The command that a step pushes. -/
def pushedBy (net : CommandNet K Client) :
    NetAction Client → List (CommandQueueElement Client)
  | .push command client =>
      [{ number := net.server.pushes, command := command, client := client }]
  | _ => []

/-- The command that a step executes, at the hub or at another node. -/
def executedBy
    (hub : Nat)
    (net : CommandNet K Client) : NetAction Client → List Execution
  | .readSerial reading =>
      match net.toHub with
      | [] => []
      | command :: _ =>
          if command.cmd = byteOf 'D' then
            []
          else if command.destination = 0 ∨
              command.destination.toNat = (net.node hub).glob.nodeId then
            [{ id := hub, command := command, reading := reading }]
          else
            []
  | .deliver position reading =>
      match net.frames[position]? with
      | none => []
      | some frame =>
          match frame.message with
          | .commandsRequest command =>
              [{ id := frame.receiver, command := command, reading := reading }]
          | _ => []
  | _ => []

/-- The command whose response a step prints, with the response. -/
def answeredBy (net : CommandNet K Client) :
    NetAction Client → Option (CommandQueueElement Client × BitVec 32)
  | .readServer =>
      match net.toServer with
      | .response value :: _ =>
          (net.server.receivedCommandResponse value).2.map fun element =>
            (element, value)
      | _ => none
  | _ => none

end CommandNet

namespace CommandSession

variable {K Client : Type}

/-- The histories after a step of the net. -/
def record
    (hub : Nat)
    (session : CommandSession K Client)
    (action : NetAction Client)
    (after : CommandNet K Client) : CommandSession K Client :=
  match session.net.answeredBy action with
  | none =>
      { session with
        net := after
        pushed := session.pushed ++ session.net.pushedBy action
        executions := session.executions ++ session.net.executedBy hub action }
  | some (element, value) =>
      { session with
        net := after
        executions := []
        answers :=
          session.answers ++
            [{ element := element
               executions := session.executions
               value := value }] }

/-- The session with other connected clients. -/
def withClients
    (session : CommandSession K Client)
    (clients : List Client) : CommandSession K Client :=
  { session with
    net :=
      session.net.withServer
        { session.net.server with clientSessions := clients } }

/--
One step.  `removeClientSession` erases the first entry of the client; erasing the end
of `clientSessions` is undefined.
-/
def next
    [Zero K] [Add K] [DecidableEq Client]
    (hub : Nat)
    (members : List Nat)
    (union : FloatTo4Bytes K)
    (session : CommandSession K Client) :
    SessionAction Client → Option (CommandSession K Client)
  | .net action =>
      (session.net.next hub members union action).map (session.record hub action)
  | .commandTimedOut =>
      session.net.server.commandTimedOut.map fun removed =>
        { session with
          net := session.net.serve removed.1.executeNextInCommandQueue }
  | .accept client =>
      some
        (session.withClients (session.net.server.clientSessions ++ [client]))
  | .removeClientSession client =>
      if client ∈ session.net.server.clientSessions then
        some (session.withClients (session.net.server.clientSessions.erase client))
      else
        none

/-- A command that a client may push: anything but a reset and the answer to a discovery. -/
def Pushable (command : Command) : Prop :=
  command.cmd ≠ byteOf 'r' ∧ command.cmd ≠ byteOf 'D'

instance (command : Command) : Decidable (Pushable command) :=
  inferInstanceAs (Decidable (_ ∧ _))

/--
No node wakes up, nobody resets, no command times out, and a new connection is not one
that was there before.
-/
def Ordinary (session : CommandSession K Client) : SessionAction Client → Prop
  | .net (.push command _) => Pushable command
  | .net (.other _ _ message) => message ≠ .wakeupBroadcast
  | .commandTimedOut => False
  | .accept client => ∀ element ∈ session.pushed, element.client ≠ some client
  | _ => True

instance
    [DecidableEq Client]
    (session : CommandSession K Client) :
    (action : SessionAction Client) → Decidable (session.Ordinary action)
  | .net (.push command _) => inferInstanceAs (Decidable (Pushable command))
  | .net (.other _ _ _) => inferInstanceAs (Decidable (_ ≠ _))
  | .net (.readSerial _) => isTrue trivial
  | .net (.discovery _) => isTrue trivial
  | .net (.deliver _ _) => isTrue trivial
  | .net .readServer => isTrue trivial
  | .commandTimedOut => isFalse not_false
  | .accept _ => inferInstanceAs (Decidable (∀ _ ∈ _, _))
  | .removeClientSession _ => isTrue trivial

end CommandSession

/-- A request of the hub on its way to a node. -/
def requestFrame
    (hub : Nat)
    (command : Command)
    (receiver : Nat) : CanFrame where
  receiver := receiver
  sender := hub
  message := .commandsRequest command

/-- The response to an execution on its way to the hub. -/
def responseFrame
    (hub : Nat)
    (execution : Execution) : CanFrame where
  receiver := hub
  sender := execution.id
  message := .commandsResponse execution.result

/--
Where the command that the PC waits for can be: with the hub's registry and its
counters, what is unread, what is on the bus and what is on the line to the PC
belongs to this command only.
-/
inductive Stage
    {K : Type}
    [Add K]
    (union : FloatTo4Bytes K)
    (hub : Nat)
    (members : List Nat)
    (node : HubNode K) :
    List Command → List CanFrame → List (BitVec 32) →
      Option Command → List Execution → Prop where
  | idle
      (stopped : node.serialComm.runningTotalCommand = false) :
      Stage union hub members node [] [] [] none []
  | unread
      {command : Command}
      (stopped : node.serialComm.runningTotalCommand = false) :
      Stage union hub members node [command] [] [] (some command) []
  | asked
      {command : Command}
      (stopped : node.serialComm.runningTotalCommand = false)
      (single : command.destination ≠ 0) :
      Stage union hub members node []
        [requestFrame hub command command.destination.toNat] []
        (some command) []
  | answering
      {command : Command}
      {execution : Execution}
      (stopped : node.serialComm.runningTotalCommand = false)
      (answered :
        command.AnsweredBy union hub members [execution] execution.result) :
      Stage union hub members node [] [responseFrame hub execution] []
        (some command) [execution]
  /-- Some nodes have not been reached yet, and some responses not counted yet. -/
  | collecting
      {command : Command}
      {frames : List CanFrame}
      {executions : List Execution}
      {asked : List Nat}
      {replied added : List Execution}
      {own : Execution}
      (toAll : command.destination = 0)
      (ownId : own.id = hub)
      (onBus :
        frames.Perm
          (asked.map (requestFrame hub command) ++
            replied.map (responseFrame hub)))
      (order : executions.Perm (own :: added ++ replied))
      (places : (executions.map (·.id) ++ asked).Perm members)
      (same : ∀ execution ∈ executions, execution.command = command)
      (counting :
        node.Counting (asked.length + replied.length)
          (totalOf union own added))
      (missing : 0 < asked.length + replied.length) :
      Stage union hub members node [] frames [] (some command) executions
  | answered
      {command : Command}
      {executions : List Execution}
      {value : BitVec 32}
      (stopped : node.serialComm.runningTotalCommand = false)
      (answered : command.AnsweredBy union hub members executions value) :
      Stage union hub members node [] [] [value] (some command) executions
  /-- The hub drops a command for a node that it does not know. -/
  | dropped
      {command : Command}
      (stopped : node.serialComm.runningTotalCommand = false)
      (single : command.destination ≠ 0)
      (unknown : command.destination.toNat ∉ members) :
      Stage union hub members node [] [] [] (some command) []

/-- The hub knows itself and all `members`. -/
structure HubNode.Knows
    {K : Type}
    (node : HubNode K)
    (hub : Nat)
    (members : List Nat) : Prop where
  nodeId : node.glob.nodeId = hub
  count : node.glob.numTotalNodes = members.length
  exists_iff : ∀ id, node.glob.checkIfNodeExists id = true ↔ id ∈ members

/-- The outcome leaves commands, their counters and the registry alone. -/
structure Outcome.Aside
    {K : Type}
    (outcome : Outcome K)
    (node : HubNode K) : Prop where
  quiet : outcome.Quiet node
  serialComm :
    outcome.node.serialComm =
      { node.serialComm with
        pcDiscoveryHadResponse :=
          outcome.node.serialComm.pcDiscoveryHadResponse }
  glob :
    outcome.node.glob = { node.glob with hubNode := outcome.node.glob.hubNode }
  noWakeup : ∀ sent ∈ outcome.can, sent.2 ≠ .wakeupBroadcast

namespace HubNode

variable {K : Type} {node after : HubNode K} {hub : Nat} {members : List Nat}

/-- A registry that lists the members knows them. -/
theorem knows_of_lists
    (nodeId : node.glob.nodeId = hub)
    (lists : node.glob.Lists members.toFinset)
    (distinct : members.Nodup) :
    node.Knows hub members where
  nodeId := nodeId
  count := by
    rw [lists.count, List.toFinset_card_of_nodup distinct]
  exists_iff := by
    intro id
    rw [lists.checkIfNodeExists_iff, List.mem_toFinset]

/-- The registry does not depend on who is the hub. -/
theorem Knows.congr
    (knows : node.Knows hub members)
    (glob : after.glob = { node.glob with hubNode := after.glob.hubNode }) :
    after.Knows hub members where
  nodeId := by
    rw [glob]
    exact knows.nodeId
  count := by
    rw [glob]
    exact knows.count
  exists_iff := by
    intro id
    rw [glob]
    exact knows.exists_iff id

section Aside

variable (union : FloatTo4Bytes K) (node)

theorem aside_sendPCDiscovery : node.sendPCDiscovery.Aside node := by
  refine ⟨node.quiet_sendPCDiscovery, ?_, ?_, ?_⟩
  all_goals
    unfold sendPCDiscovery
    dsimp only
    split
  · rfl
  · rfl
  · rfl
  · rfl
  · simp
  · simp

theorem aside_readDiscoveryAnswer :
    node.readDiscoveryAnswer.Aside node := by
  refine ⟨⟨?_, ?_, ?_⟩, ?_, ?_, ?_⟩
  all_goals
    unfold readDiscoveryAnswer
    dsimp only
    split
  · rfl
  · exact responses_sendListNodesToPC node.glob
  all_goals first | rfl | simp [CanMessage.isCommand]

/-- A frame that is neither a command nor a wakeup leaves the commands alone. -/
theorem aside_received
    [Zero K] [Add K]
    {message : CanMessage}
    (noCommand : message.isCommand = false)
    (noWakeup : message ≠ .wakeupBroadcast)
    (sender : Nat)
    (reading : BitVec 32) :
    (node.received union sender reading message).Aside node := by
  have quiet := node.quiet_received union noCommand sender reading
  cases message with
  | wakeupBroadcast => exact absurd rfl noWakeup
  | isHubNode => exact ⟨quiet, rfl, rfl, nofun⟩
  | noLongerIsHubNode =>
      refine ⟨quiet, ?_, ?_, nofun⟩
      · unfold received
        dsimp only
        split <;> rfl
      · unfold received
        dsimp only
        split <;> rfl
  | frequentData data0 data1 data2 data3 => exact ⟨quiet, rfl, rfl, nofun⟩
  | commandsRequest command => cases noCommand
  | commandsResponse value => cases noCommand
  | other => exact ⟨quiet, rfl, rfl, nofun⟩

end Aside

end HubNode

namespace Stage

variable {K : Type} [Add K] {union : FloatTo4Bytes K} {hub : Nat}
    {members : List Nat} {node after : HubNode K}
    {unread : List Command} {frames : List CanFrame}
    {messages : List (BitVec 32)} {front : Option Command}
    {executions : List Execution}

/-- The counters decide about the stage, not who is the hub. -/
theorem congr
    (stage :
      Stage union hub members node unread frames messages front executions)
    (running :
      after.serialComm.runningTotalCommand =
        node.serialComm.runningTotalCommand)
    (waiting :
      after.serialComm.numNodesWaitingResult =
        node.serialComm.numNodesWaitingResult)
    (total :
      after.serialComm.totalCommandResult =
        node.serialComm.totalCommandResult) :
    Stage union hub members after unread frames messages front
      executions := by
  cases stage with
  | idle stopped => exact .idle (running.trans stopped)
  | unread stopped => exact .unread (running.trans stopped)
  | asked stopped single => exact .asked (running.trans stopped) single
  | answering stopped answered =>
      exact .answering (running.trans stopped) answered
  | collecting toAll ownId onBus order places same counting missing =>
      exact
        .collecting toAll ownId onBus order places same
          (counting.congr running waiting total) missing
  | answered stopped answered =>
      exact .answered (running.trans stopped) answered
  | dropped stopped single unknown =>
      exact .dropped (running.trans stopped) single unknown

/-- The order of the frames on the bus does not matter. -/
theorem perm_frames
    {others : List CanFrame}
    (stage :
      Stage union hub members node unread frames messages front executions)
    (perm : others.Perm frames) :
    Stage union hub members node unread others messages front
      executions := by
  cases stage with
  | idle stopped =>
      rw [perm.eq_nil]
      exact .idle stopped
  | unread stopped =>
      rw [perm.eq_nil]
      exact .unread stopped
  | asked stopped single =>
      rw [perm.eq_singleton]
      exact .asked stopped single
  | answering stopped answered =>
      rw [perm.eq_singleton]
      exact .answering stopped answered
  | collecting toAll ownId onBus order places same counting missing =>
      exact
        .collecting toAll ownId (perm.trans onBus) order places same counting
          missing
  | answered stopped answered =>
      rw [perm.eq_nil]
      exact .answered stopped answered
  | dropped stopped single unknown =>
      rw [perm.eq_nil]
      exact .dropped stopped single unknown

end Stage

namespace CommandNet

variable {K Client : Type} {hub : Nat} {members : List Nat}
    {net : CommandNet K Client}

/-- The stage of the command that the PC waits for. -/
def AtStage
    [Add K]
    (union : FloatTo4Bytes K)
    (hub : Nat)
    (members : List Nat)
    (net : CommandNet K Client)
    (executions : List Execution) : Prop :=
  Stage union hub members (net.node hub) net.unreadCommands
    net.commandFrames (responses net.toServer) net.front? executions

section Traffic

variable {id : Nat} {outcome : Outcome K}

/-- What a node sends is added to what is on the bus. -/
theorem commandFrames_absorb :
    (net.absorb hub members id outcome).commandFrames =
      net.commandFrames ++
        (copies members id outcome.can).filter fun frame =>
          frame.message.isCommand :=
  List.filter_append _ _

/-- What a node writes reaches the PC only from the hub. -/
theorem responses_absorb :
    responses (net.absorb hub members id outcome).toServer =
      responses net.toServer ++
        if id = hub then responses outcome.serial else [] := by
  unfold absorb
  dsimp only
  split
  · exact responses_append _ _
  · exact (List.append_nil _).symm

/-- A node that is not the hub leaves the hub as it is. -/
theorem node_absorb_of_ne (notHub : id ≠ hub) :
    (net.absorb hub members id outcome).node hub = net.node hub :=
  absorb_node_other notHub

/-- The copies of what is no command are no commands. -/
theorem filter_copies_of_noCommand
    {can : List (Nat × CanMessage)}
    (noCommand : ∀ sent ∈ can, sent.2.isCommand = false) :
    ((copies members id can).filter fun frame => frame.message.isCommand) =
      [] := by
  rw [List.filter_eq_nil_iff]
  intro frame member
  obtain ⟨sent, isSent, isMessage⟩ := exists_of_mem_copies member
  rw [isMessage, noCommand sent isSent]
  exact Bool.false_ne_true

/-- A delivered frame is no longer on the bus. -/
theorem perm_commandFrames
    {position : Nat}
    {frame : CanFrame}
    (isFrame : net.frames[position]? = some frame)
    (isCommand : frame.message.isCommand = true) :
    net.commandFrames.Perm
      (frame ::
        (net.withFrames (net.frames.eraseIdx position)).commandFrames) := by
  have erased :=
    (perm_eraseIdx isFrame).filter fun frame => frame.message.isCommand
  rw [List.filter_cons_of_pos
    (p := fun frame : CanFrame => frame.message.isCommand) isCommand]
    at erased
  exact erased.symm

theorem perm_commandFrames_of_noCommand
    {position : Nat}
    {frame : CanFrame}
    (isFrame : net.frames[position]? = some frame)
    (noCommand : frame.message.isCommand = false) :
    (net.withFrames (net.frames.eraseIdx position)).commandFrames.Perm
      net.commandFrames := by
  have erased :=
    (perm_eraseIdx isFrame).filter fun frame => frame.message.isCommand
  rw [List.filter_cons_of_neg (by rw [noCommand]; exact Bool.false_ne_true)]
    at erased
  exact erased

end Traffic

section Aside

variable [Add K] {union : FloatTo4Bytes K} {executions : List Execution}

/-- What leaves the commands alone leaves the stage. -/
theorem AtStage.absorb_aside
    (stage : net.AtStage union hub members executions)
    {id : Nat}
    {outcome : Outcome K}
    (aside : outcome.Aside (net.node id)) :
    (net.absorb hub members id outcome).AtStage union hub members
      executions := by
  have sameFrames :
      (net.absorb hub members id outcome).commandFrames =
        net.commandFrames := by
    rw [commandFrames_absorb, filter_copies_of_noCommand aside.quiet.can,
      List.append_nil]
  have sameResponses :
      responses (net.absorb hub members id outcome).toServer =
        responses net.toServer := by
    rw [responses_absorb, aside.quiet.serial, ite_self, List.append_nil]
  unfold AtStage
  rw [sameFrames, sameResponses]
  show
    Stage union hub members _ net.unreadCommands net.commandFrames _
      net.front? executions
  by_cases isHub : id = hub
  · subst isHub
    rw [absorb_node_self]
    apply stage.congr
    · rw [aside.serialComm]
    · rw [aside.serialComm]
    · rw [aside.serialComm]
  · rw [node_absorb_of_ne isHub]
    exact stage

/-- The hub reads the answer to a discovery. -/
theorem AtStage.readDiscoveryAnswer
    [Zero K]
    (stage : net.AtStage union hub members executions)
    {command : Command}
    {later : List Command}
    (isCommands : net.toHub = command :: later)
    (isDiscovery : command.cmd = byteOf 'D')
    (reading : BitVec 32) :
    ((net.withCommands later).absorb hub members hub
        ((net.node hub).readCommand union command reading)).AtStage union hub
      members executions := by
  have sameCommands :
      (net.withCommands later).unreadCommands = net.unreadCommands := by
    unfold unreadCommands withCommands
    rw [isCommands, List.filter_cons_of_neg (by simp [isDiscovery])]
  have fewer :
      (net.withCommands later).AtStage union hub members executions := by
    unfold AtStage
    rw [sameCommands]
    exact stage
  apply fewer.absorb_aside
  rw [HubNode.readCommand, if_pos isDiscovery]
  exact HubNode.aside_readDiscoveryAnswer _

end Aside

end CommandNet

namespace CommandNet

variable {K Client : Type} [Add K] {union : FloatTo4Bytes K} {hub : Nat}
    {members : List Nat} {net : CommandNet K Client}
    {executions : List Execution}

/-- Only an unread command can be read, and nothing else is on the way then. -/
theorem AtStage.of_unread
    (stage : net.AtStage union hub members executions)
    {command : Command}
    {later : List Command}
    (isCommands : net.toHub = command :: later)
    (notDiscovery : command.cmd ≠ byteOf 'D') :
    (net.node hub).serialComm.runningTotalCommand = false ∧
      (net.withCommands later).unreadCommands = [] ∧
      net.commandFrames = [] ∧
      responses net.toServer = [] ∧
      net.front? = some command ∧
      executions = [] := by
  have isUnread :
      net.unreadCommands =
        command :: (net.withCommands later).unreadCommands := by
    unfold unreadCommands withCommands
    rw [isCommands, List.filter_cons_of_pos (by simp [notDiscovery])]
  unfold AtStage at stage
  rw [isUnread] at stage
  generalize (net.withCommands later).unreadCommands = others at stage ⊢
  generalize net.commandFrames = frames at stage ⊢
  generalize responses net.toServer = messages at stage ⊢
  generalize net.front? = front at stage ⊢
  cases stage with
  | unread stopped => exact ⟨stopped, rfl, rfl, rfl, rfl, rfl⟩

/-- The copies of a request for all nodes. -/
theorem copies_total
    (hub : Nat)
    (members : List Nat)
    (command : Command) :
    copies members hub [(0, .commandsRequest command)] =
      (members.filter fun id => id ≠ hub).map (requestFrame hub command) := by
  simp [copies, requestFrame]

/-- The hub is the one member that it does not ask. -/
theorem perm_others
    (isMember : hub ∈ members)
    (distinct : members.Nodup) :
    (hub :: members.filter fun id => id ≠ hub).Perm members := by
  have isErased :
      (members.filter fun other => other ≠ hub) = members.erase hub := by
    rw [distinct.erase_eq_filter]
    exact List.filter_congr fun other _ => by simp [bne, beq_eq_decide]
  rw [isErased]
  exact (List.perm_cons_erase isMember).symm

/-- The hub asks all nodes, and has the total at once if there is no other one. -/
theorem AtStage.readTotalCommand
    [Zero K]
    (stage : net.AtStage union hub members executions)
    (knows : (net.node hub).Knows hub members)
    (isMember : hub ∈ members)
    (distinct : members.Nodup)
    (few : members.length ≤ 256)
    {command : Command}
    {later : List Command}
    (isCommands : net.toHub = command :: later)
    (pushable : CommandSession.Pushable command)
    (toAll : command.destination = 0)
    (reading : BitVec 32) :
    ((net.withCommands later).absorb hub members hub
        ((net.node hub).readTotalCommand union command reading)).AtStage union
      hub members [{ id := hub, command := command, reading := reading }] := by
  obtain ⟨stopped, noCommands, noFrames, noMessages, isFront, -⟩ :=
    stage.of_unread isCommands pushable.2
  have others := perm_others isMember distinct
  have count :
      (members.filter fun id => id ≠ hub).length = members.length - 1 := by
    have counted := others.length_eq
    rw [List.length_cons] at counted
    omega
  have positive : 0 < members.length := List.length_pos_of_mem isMember
  obtain ⟨counting, isSerial⟩ :=
    HubNode.readTotalCommand_spec union (net.node hub) pushable.1
      (by rw [knows.count]; exact positive) (by rw [knows.count]; exact few)
      reading
  rw [knows.count, ← count] at counting isSerial
  have isCan :
      ((net.node hub).readTotalCommand union command reading).can =
        [(0, .commandsRequest command)] := by
    rw [HubNode.readTotalCommand_of_kept union _ _ pushable.1]
  have isFrames :
      ((net.withCommands later).absorb hub members hub
          ((net.node hub).readTotalCommand union command
            reading)).commandFrames =
        (members.filter fun id => id ≠ hub).map (requestFrame hub command) := by
    have noneBefore : (net.withCommands later).commandFrames = [] := noFrames
    rw [commandFrames_absorb, noneBefore, isCan, copies_total,
      List.nil_append]
    refine List.filter_eq_self.mpr fun frame member => ?_
    obtain ⟨receiver, -, isFrame⟩ := List.mem_map.mp member
    rw [← isFrame]
    rfl
  have isMessages :
      responses
          ((net.withCommands later).absorb hub members hub
            ((net.node hub).readTotalCommand union command
              reading)).toServer =
        if (members.filter fun id => id ≠ hub).length = 0 then
          [union.value
            (union.floatValue (HubNode.commandResult command reading))]
        else
          [] := by
    have noneBefore : responses (net.withCommands later).toServer = [] :=
      noMessages
    rw [responses_absorb, noneBefore, if_pos rfl, isSerial,
      HubNode.responses_totalAt, List.nil_append]
  unfold AtStage
  rw [isFrames, isMessages, absorb_node_self]
  show
    Stage union hub members _ (net.withCommands later).unreadCommands _ _
      net.front? _
  rw [noCommands, isFront]
  generalize (members.filter fun id => id ≠ hub) = asked at *
  obtain ⟨own, isOwn⟩ :
      ∃ own : Execution,
        own = { id := hub, command := command, reading := reading } :=
    ⟨_, rfl⟩
  have ownId : own.id = hub := by rw [isOwn]
  have same : ∀ execution ∈ [own], execution.command = command := by
    intro execution member
    rw [List.mem_singleton.mp member, isOwn]
  have counted :
      HubNode.commandResult command reading = own.result := by
    rw [isOwn]
    rfl
  rw [← isOwn, counted]
  rw [counted] at counting
  cases asked with
  | nil =>
      have places : ([own].map (·.id)).Perm members := by
        simpa [ownId] using others
      rw [List.length_nil, if_pos rfl]
      exact
        .answered counting.running
          (.total toAll ownId (List.Perm.refl [own]) places same)
  | cons first rest =>
      have places : ([own].map (·.id) ++ first :: rest).Perm members := by
        simpa [ownId] using others
      have onBus :
          ((first :: rest).map (requestFrame hub command)).Perm
            ((first :: rest).map (requestFrame hub command) ++
              ([] : List Execution).map (responseFrame hub)) := by
        rw [List.map_nil, List.append_nil]
      have order :
          [own].Perm (own :: ([] : List Execution) ++ []) :=
        List.Perm.refl [own]
      rw [List.length_cons, if_neg (Nat.succ_ne_zero _)]
      exact
        .collecting toAll ownId onBus order places same counting
          (Nat.succ_pos _)

end CommandNet

namespace CommandNet

variable {K Client : Type} [Add K] {union : FloatTo4Bytes K} {hub : Nat}
    {members : List Nat} {net : CommandNet K Client}
    {executions : List Execution}

/-- What the hub does with a command for one node: execute, pass on or drop it. -/
theorem AtStage.readSingleCommand
    [Zero K]
    (stage : net.AtStage union hub members executions)
    (knows : (net.node hub).Knows hub members)
    {command : Command}
    {later : List Command}
    (isCommands : net.toHub = command :: later)
    (pushable : CommandSession.Pushable command)
    (single : command.destination ≠ 0)
    (reading : BitVec 32) :
    ((net.withCommands later).absorb hub members hub
        ((net.node hub).readCommand union command reading)).AtStage union hub
      members
      (if command.destination.toNat = hub then
        [{ id := hub, command := command, reading := reading }]
      else
        []) := by
  obtain ⟨stopped, noCommands, noFrames, noMessages, isFront, -⟩ :=
    stage.of_unread isCommands pushable.2
  have framesBefore : (net.withCommands later).commandFrames = [] := noFrames
  have messagesBefore : responses (net.withCommands later).toServer = [] :=
    noMessages
  unfold AtStage
  rw [commandFrames_absorb, framesBefore, responses_absorb, messagesBefore,
    if_pos rfl, absorb_node_self, List.nil_append, List.nil_append]
  show
    Stage union hub members _ (net.withCommands later).unreadCommands _ _
      net.front? _
  rw [noCommands, isFront, HubNode.readCommand, if_neg pushable.2,
    if_neg single, knows.nodeId]
  split
  · rename_i isHub
    rw [HubNode.executeCommand_of_kept _ _ pushable.1]
    have answered :
        command.AnsweredBy union hub members
          [{ id := command.destination.toNat
             command := command
             reading := reading }]
          (HubNode.commandResult command reading) :=
      .one single reading
    rw [isHub] at answered
    exact .answered stopped answered
  · split
    · have isCopies :
          copies members hub
              [(command.destination.toNat, .commandsRequest command)] =
            [requestFrame hub command command.destination.toNat] := by
        have notAll : command.destination.toNat ≠ 0 := fun zero =>
          single (BitVec.eq_of_toNat_eq zero)
        simp [copies, requestFrame, notAll]
      dsimp only
      rw [isCopies]
      exact .asked stopped single
    · rename_i unknown
      refine .dropped stopped single fun isMember => unknown ?_
      exact (knows.exists_iff _).mpr isMember

/-- The hub reads what the PC has written. -/
theorem AtStage.readCommand
    [Zero K]
    (stage : net.AtStage union hub members executions)
    (knows : (net.node hub).Knows hub members)
    (isMember : hub ∈ members)
    (distinct : members.Nodup)
    (few : members.length ≤ 256)
    {command : Command}
    {later : List Command}
    (isCommands : net.toHub = command :: later)
    (kept : command.cmd ≠ byteOf 'r')
    (reading : BitVec 32) :
    ((net.withCommands later).absorb hub members hub
        ((net.node hub).readCommand union command reading)).AtStage union hub
      members (executions ++ net.executedBy hub (.readSerial reading)) := by
  unfold executedBy
  rw [isCommands]
  by_cases isDiscovery : command.cmd = byteOf 'D'
  · simp only [if_pos isDiscovery, List.append_nil]
    exact stage.readDiscoveryAnswer isCommands isDiscovery reading
  · have none : executions = [] :=
      (stage.of_unread isCommands isDiscovery).2.2.2.2.2
    simp only [if_neg isDiscovery, none, List.nil_append, knows.nodeId]
    by_cases toAll : command.destination = 0
    · have read :=
        stage.readTotalCommand knows isMember distinct few isCommands
          ⟨kept, isDiscovery⟩ toAll reading
      rw [if_pos (.inl toAll), HubNode.readCommand, if_neg isDiscovery,
        if_pos toAll]
      exact read
    · simp only [toAll, false_or]
      exact
        stage.readSingleCommand knows isCommands ⟨kept, isDiscovery⟩ toAll
          reading

end CommandNet

namespace Stage

variable {K : Type} [Add K] {union : FloatTo4Bytes K} {hub : Nat}
    {members : List Nat} {node : HubNode K}
    {unread : List Command} {frames rest : List CanFrame}
    {messages : List (BitVec 32)} {front : Option Command}
    {executions : List Execution} {frame : CanFrame}

/-- A request that reaches a node: the hub has sent it, and the response goes back. -/
theorem deliver_request
    (stage :
      Stage union hub members node unread frames messages front executions)
    (delivered : frames.Perm (frame :: rest))
    {command : Command}
    (isRequest : frame.message = .commandsRequest command)
    (reading : BitVec 32) :
    frame.sender = hub ∧
      front = some command ∧
      Stage union hub members node unread
        (rest ++
          [responseFrame hub
            { id := frame.receiver, command := command, reading := reading }])
        messages front
        (executions ++
          [{ id := frame.receiver, command := command, reading := reading }]) := by
  obtain ⟨execution, isExecution⟩ :
      ∃ execution : Execution,
        execution =
          { id := frame.receiver, command := command, reading := reading } :=
    ⟨_, rfl⟩
  rw [← isExecution]
  cases stage with
  | idle stopped => cases delivered.nil_eq
  | unread stopped => cases delivered.nil_eq
  | answered stopped answered => cases delivered.nil_eq
  | dropped stopped single unknown => cases delivered.nil_eq
  | answering stopped answered =>
      obtain ⟨⟩ := delivered.symm.eq_singleton
      cases isRequest
  | asked stopped single =>
      obtain ⟨⟩ := delivered.symm.eq_singleton
      obtain ⟨⟩ := isRequest
      refine ⟨rfl, rfl, .answering stopped ?_⟩
      rw [isExecution]
      exact .one single reading
  | collecting toAll ownId onBus order places same counting missing =>
      rename_i sent asked replied added own
      have onBus := delivered.symm.trans onBus
      have isFrame : ∃ id ∈ asked, frame = requestFrame hub sent id := by
        have member := onBus.subset List.mem_cons_self
        rcases List.mem_append.mp member with isAsked | isReply
        · obtain ⟨id, isMember, same⟩ := List.mem_map.mp isAsked
          exact ⟨id, isMember, same.symm⟩
        · obtain ⟨other, -, same⟩ := List.mem_map.mp isReply
          rw [← same] at isRequest
          cases isRequest
      obtain ⟨id, isAsked, isFrame⟩ := isFrame
      subst isFrame
      obtain ⟨⟩ := isRequest
      have others := List.perm_cons_erase isAsked
      have isId : execution.id = id := by
        rw [isExecution]
        rfl
      refine ⟨rfl, rfl, ?_⟩
      have onBusAfter :
          (rest ++ [responseFrame hub execution]).Perm
            ((asked.erase id).map (requestFrame hub command) ++
              (execution :: replied).map (responseFrame hub)) := by
        have without :
            (requestFrame hub command id :: rest).Perm
              (requestFrame hub command id ::
                ((asked.erase id).map (requestFrame hub command) ++
                  replied.map (responseFrame hub))) :=
          onBus.trans ((others.map _).append_right _)
        have rest := without.cons_inv
        rw [List.map_cons]
        exact
          (List.perm_append_singleton _ _).trans
            ((rest.cons _).trans List.perm_middle.symm)
      have orderAfter :
          (executions ++ [execution]).Perm
            (own :: added ++ execution :: replied) :=
        (List.perm_append_singleton _ _).trans
          ((order.cons _).trans List.perm_middle.symm)
      have placesAfter :
          ((executions ++ [execution]).map (·.id) ++ asked.erase id).Perm
            members := by
        rw [List.map_append, List.append_assoc]
        refine List.Perm.trans ?_ places
        refine List.Perm.append_left _ ?_
        rw [List.map_singleton, isId]
        exact others.symm
      have sameAfter :
          ∀ other ∈ executions ++ [execution], other.command = command := by
        intro other member
        rcases List.mem_append.mp member with earlier | isNew
        · exact same other earlier
        · rw [List.mem_singleton.mp isNew, isExecution]
      have count :
          (asked.erase id).length + (execution :: replied).length =
            asked.length + replied.length := by
        have counted := others.length_eq
        rw [List.length_cons] at counted ⊢
        omega
      exact
        .collecting toAll ownId onBusAfter orderAfter placesAfter sameAfter
          (by rw [count]; exact counting) (by rw [count]; exact missing)

/-- A response that reaches the hub is passed on, or added to the total. -/
theorem deliver_response
    (stage :
      Stage union hub members node unread frames messages front executions)
    (few : members.length ≤ 256)
    (delivered : frames.Perm (frame :: rest))
    {value : BitVec 32}
    (isResponse : frame.message = .commandsResponse value) :
    frame.receiver = hub ∧
      Stage union hub members
        (node.receivedCommandResponseFromCAN union value).1 unread rest
        (messages ++
          responses (node.receivedCommandResponseFromCAN union value).2)
        front executions := by
  cases stage with
  | idle stopped => cases delivered.nil_eq
  | unread stopped => cases delivered.nil_eq
  | answered stopped answered => cases delivered.nil_eq
  | dropped stopped single unknown => cases delivered.nil_eq
  | asked stopped single =>
      obtain ⟨⟩ := delivered.symm.eq_singleton
      cases isResponse
  | answering stopped answered =>
      obtain ⟨⟩ := delivered.symm.eq_singleton
      obtain ⟨⟩ := isResponse
      rename_i sent execution
      have passedOn :=
        (HubNode.counting_zero stopped
          node.serialComm.totalCommandResult).response_of_zero union
          execution.result
      rw [passedOn]
      exact ⟨rfl, .answered stopped answered⟩
  | collecting toAll ownId onBus order places same counting missing =>
      rename_i sent asked replied added own
      have onBus := delivered.symm.trans onBus
      have isFrame : ∃ reply ∈ replied, frame = responseFrame hub reply := by
        have member := onBus.subset List.mem_cons_self
        rcases List.mem_append.mp member with isAsked | isReply
        · obtain ⟨id, -, same⟩ := List.mem_map.mp isAsked
          rw [← same] at isResponse
          cases isResponse
        · obtain ⟨reply, isMember, same⟩ := List.mem_map.mp isReply
          exact ⟨reply, isMember, same.symm⟩
      obtain ⟨reply, isReply, isFrame⟩ := isFrame
      subst isFrame
      obtain ⟨⟩ := isResponse
      have others := List.perm_cons_erase isReply
      have fewer :
          rest.Perm
            (asked.map (requestFrame hub sent) ++
              (replied.erase reply).map (responseFrame hub)) := by
        have without :
            (responseFrame hub reply :: rest).Perm
              (responseFrame hub reply ::
                (asked.map (requestFrame hub sent) ++
                  (replied.erase reply).map (responseFrame hub))) :=
          (onBus.trans ((others.map _).append_left _)).trans
            List.perm_middle
        exact without.cons_inv
      have orderAfter :
          executions.Perm
            (own :: (added ++ [reply]) ++ replied.erase reply) := by
        refine order.trans ((others.append_left _).trans (List.Perm.of_eq ?_))
        simp
      have count :
          asked.length + replied.length - 1 =
            asked.length + (replied.erase reply).length := by
        have counted := others.length_eq
        rw [List.length_cons] at counted
        omega
      have sum :
          totalOf union own added + union.floatValue reply.result =
            totalOf union own (added ++ [reply]) := by
        rw [totalOf, totalOf, List.foldl_append]
        rfl
      have fits : asked.length + replied.length ≤ 256 := by
        have all := places.length_eq
        have ordered := order.length_eq
        rw [List.length_append, List.length_map] at all
        rw [List.length_append, List.length_cons] at ordered
        omega
      obtain ⟨countingAfter, isTotal⟩ :=
        counting.response union missing fits reply.result
      rw [count, sum] at countingAfter isTotal
      refine ⟨rfl, ?_⟩
      rw [isTotal, HubNode.responses_totalAt, List.nil_append]
      by_cases last : asked.length + (replied.erase reply).length = 0
      · have noneAsked : asked = [] :=
          List.eq_nil_of_length_eq_zero (by omega)
        have noneLeft : replied.erase reply = [] :=
          List.eq_nil_of_length_eq_zero (by omega)
        rw [if_pos last]
        rw [noneAsked, noneLeft] at fewer
        rw [noneLeft, List.append_nil] at orderAfter
        rw [noneAsked, List.append_nil] at places
        rw [last] at countingAfter
        rw [fewer.eq_nil]
        exact
          .answered countingAfter.running
            (.total toAll ownId orderAfter places same)
      · rw [if_neg last]
        exact
          .collecting toAll ownId fewer orderAfter places same countingAfter
            (Nat.pos_of_ne_zero last)

end Stage

/-- The outcome leaves the registry alone and announces no node. -/
structure Outcome.Steady
    {K : Type}
    (outcome : Outcome K)
    (node : HubNode K) : Prop where
  glob :
    outcome.node.glob = { node.glob with hubNode := outcome.node.glob.hubNode }
  noWakeup : ∀ sent ∈ outcome.can, sent.2 ≠ .wakeupBroadcast

namespace HubNode

variable {K : Type} [Zero K] (union : FloatTo4Bytes K) (node : HubNode K)

/-- No command but a reset touches the registry. -/
theorem steady_readCommand
    {command : Command}
    (kept : command.cmd ≠ byteOf 'r')
    (reading : BitVec 32) :
    (node.readCommand union command reading).Steady node := by
  unfold readCommand
  split
  · have aside := node.aside_readDiscoveryAnswer
    exact ⟨aside.glob, aside.noWakeup⟩
  · split
    · rw [node.readTotalCommand_of_kept union reading kept]
      refine ⟨?_, by simp⟩
      dsimp only
      rw [sendTotalIfAllValueForTotalReceived_glob]
      rfl
    · rw [node.executeCommand_of_kept reading kept]
      split
      · exact ⟨rfl, nofun⟩
      · split
        · exact ⟨rfl, by simp⟩
        · exact ⟨rfl, nofun⟩

end HubNode

namespace CommandNet

variable {K Client : Type} {hub : Nat} {members : List Nat}
    {net : CommandNet K Client}

/-- The hub knows the members, and no other node is about to wake up. -/
structure Steady
    (hub : Nat)
    (members : List Nat)
    (net : CommandNet K Client) : Prop where
  knows : (net.node hub).Knows hub members
  noWakeup : ∀ frame ∈ net.frames, frame.message ≠ .wakeupBroadcast

/-- A steady outcome leaves a steady net. -/
theorem Steady.absorb
    (steady : net.Steady hub members)
    {id : Nat}
    {outcome : Outcome K}
    (outcomeSteady : outcome.Steady (net.node id)) :
    (net.absorb hub members id outcome).Steady hub members where
  knows := by
    by_cases isHub : id = hub
    · subst isHub
      rw [absorb_node_self]
      exact steady.knows.congr outcomeSteady.glob
    · rw [absorb_node_other isHub]
      exact steady.knows
  noWakeup := by
    intro frame member
    rcases List.mem_append.mp member with earlier | isNew
    · exact steady.noWakeup frame earlier
    · obtain ⟨sent, isSent, isMessage⟩ := exists_of_mem_copies isNew
      rw [isMessage]
      exact outcomeSteady.noWakeup sent isSent

section Deliver

variable {position : Nat} {frame : CanFrame}

/-- A delivered request is executed where it is delivered. -/
theorem executedBy_deliver_of_request
    (isFrame : net.frames[position]? = some frame)
    {command : Command}
    (isRequest : frame.message = .commandsRequest command)
    (reading : BitVec 32) :
    net.executedBy hub (.deliver position reading) =
      [{ id := frame.receiver, command := command, reading := reading }] := by
  simp only [executedBy, isFrame, isRequest]

theorem executedBy_deliver_of_noRequest
    (isFrame : net.frames[position]? = some frame)
    (noRequest : ∀ command, frame.message ≠ .commandsRequest command)
    (reading : BitVec 32) :
    net.executedBy hub (.deliver position reading) = [] := by
  simp only [executedBy, isFrame]

variable [Zero K] [Add K] {union : FloatTo4Bytes K}
    {executions : List Execution}

/-- Whatever frame is delivered, the stage goes on. -/
theorem AtStage.deliver
    (stage : net.AtStage union hub members executions)
    (hubPositive : 0 < hub)
    (few : members.length ≤ 256)
    (kept :
      ∀ command, net.front? = some command → command.cmd ≠ byteOf 'r')
    (isFrame : net.frames[position]? = some frame)
    (noWakeup : frame.message ≠ .wakeupBroadcast)
    (reading : BitVec 32) :
    let outcome :=
      (net.node frame.receiver).received union frame.sender reading
        frame.message
    outcome.Steady (net.node frame.receiver) ∧
      ((net.withFrames (net.frames.eraseIdx position)).absorb hub members
          frame.receiver outcome).AtStage union hub members
        (executions ++ net.executedBy hub (.deliver position reading)) := by
  intro outcome
  cases isCommand : frame.message.isCommand with
  | false =>
      have aside :=
        (net.node frame.receiver).aside_received union isCommand noWakeup
          frame.sender reading
      have without :
          (net.withFrames (net.frames.eraseIdx position)).AtStage union hub
            members executions :=
        stage.perm_frames (perm_commandFrames_of_noCommand isFrame isCommand)
      have noRequest : ∀ command, frame.message ≠ .commandsRequest command := by
        intro command isRequest
        rw [isRequest] at isCommand
        cases isCommand
      rw [executedBy_deliver_of_noRequest isFrame noRequest, List.append_nil]
      exact ⟨⟨aside.glob, aside.noWakeup⟩, without.absorb_aside aside⟩
  | true =>
      have delivered := perm_commandFrames isFrame isCommand
      cases isMessage : frame.message with
      | commandsRequest command =>
          obtain ⟨fromHub, isFront, after⟩ :=
            stage.deliver_request delivered isMessage reading
          have isOutcome :
              outcome =
                { node := net.node frame.receiver
                  serial := []
                  can :=
                    [(hub,
                      .commandsResponse
                        (HubNode.commandResult command reading))] } := by
            simp only [outcome, isMessage, fromHub, HubNode.received]
            rw [HubNode.executeCommand_of_kept _ _ (kept command isFront)]
          have isCopies :
              copies members frame.receiver
                  [(hub,
                    .commandsResponse
                      (HubNode.commandResult command reading))] =
                [responseFrame hub
                  { id := frame.receiver
                    command := command
                    reading := reading }] := by
            simp [copies, responseFrame, Execution.result,
              Nat.ne_of_gt hubPositive]
          refine ⟨?_, ?_⟩
          · rw [isOutcome]
            exact ⟨rfl, by simp⟩
          · rw [executedBy_deliver_of_request isFrame isMessage, isOutcome]
            unfold AtStage
            rw [commandFrames_absorb, responses_absorb]
            dsimp only
            rw [isCopies, show responses [] = [] from rfl, ite_self,
              List.append_nil]
            have sameNode :
                ((net.withFrames (net.frames.eraseIdx position)).absorb hub
                    members frame.receiver
                    { node := net.node frame.receiver
                      serial := []
                      can :=
                        [(hub,
                          .commandsResponse
                            (HubNode.commandResult command
                              reading))] }).node hub =
                  net.node hub := by
              by_cases isHub : frame.receiver = hub
              · rw [isHub, absorb_node_self]
              · rw [absorb_node_other isHub]
                rfl
            rw [sameNode]
            exact after
      | commandsResponse value =>
          obtain ⟨atHub, after⟩ :=
            stage.deliver_response few delivered isMessage
          have isOutcome :
              outcome =
                { node :=
                    ((net.node hub).receivedCommandResponseFromCAN union
                      value).1
                  serial :=
                    ((net.node hub).receivedCommandResponseFromCAN union
                      value).2
                  can := [] } := by
            simp only [outcome, isMessage, atHub, HubNode.received]
          have noRequest :
              ∀ command, frame.message ≠ .commandsRequest command := by
            intro command isRequest
            rw [isMessage] at isRequest
            cases isRequest
          refine ⟨?_, ?_⟩
          · rw [isOutcome, atHub]
            refine ⟨?_, fun sent member => absurd member List.not_mem_nil⟩
            dsimp only
            rw [HubNode.receivedCommandResponseFromCAN_glob]
          · rw [executedBy_deliver_of_noRequest isFrame noRequest,
              List.append_nil, isOutcome, atHub]
            unfold AtStage
            rw [commandFrames_absorb, responses_absorb, absorb_node_self,
              if_pos rfl]
            exact
              after.perm_frames (List.Perm.of_eq (List.append_nil _))
      | wakeupBroadcast => exact absurd isMessage noWakeup
      | isHubNode => rw [isMessage] at isCommand; cases isCommand
      | noLongerIsHubNode => rw [isMessage] at isCommand; cases isCommand
      | frequentData data0 data1 data2 data3 =>
          rw [isMessage] at isCommand
          cases isCommand
      | other => rw [isMessage] at isCommand; cases isCommand

end Deliver

end CommandNet

namespace CommandServer

variable {Client : Type} [DecidableEq Client]

/-- Executing the next command leaves the connected clients. -/
theorem executeNextFrom_clientSessions
    (server : CommandServer Client)
    (queue : List (CommandQueueElement Client)) :
    (server.executeNextFrom queue).1.clientSessions =
      server.clientSessions := by
  induction queue with
  | nil => rfl
  | cons element rest inductionHypothesis =>
      rw [executeNextFrom]
      split
      · exact inductionHypothesis
      · unfold expectACKs
        split <;> rfl

/-- A command that is removed without an answer has lost its client. -/
theorem mem_executeNextFrom_or_gone
    (server : CommandServer Client)
    {queue : List (CommandQueueElement Client)} :
    ∀ element ∈ queue,
      element ∈ (server.executeNextFrom queue).1.commandsQueue ∨
        server.clientGone element = true := by
  induction queue with
  | nil => exact nofun
  | cons front rest inductionHypothesis =>
      intro element member
      rw [executeNextFrom]
      split
      · rename_i gone
        rcases List.mem_cons.mp member with isFront | behind
        · exact .inr (isFront ▸ gone)
        · exact inductionHypothesis element behind
      · rw [expectACKs_commandsQueue]
        exact .inl member

omit [DecidableEq Client] in
/-- A response to anything but a reset removes the front. -/
theorem receivedCommandResponse_of_kept
    {server : CommandServer Client}
    {front : CommandQueueElement Client}
    {rest : List (CommandQueueElement Client)}
    (isQueue : server.commandsQueue = front :: rest)
    (kept : front.command.cmd ≠ byteOf 'r')
    (value : BitVec 32) :
    server.receivedCommandResponse value =
      (server.withQueue rest, some front) := by
  rw [receivedCommandResponse, isQueue]
  exact if_neg kept

end CommandServer

namespace CommandNet

variable {K Client : Type} {hub : Nat} {members : List Nat}
    {net : CommandNet K Client}

/-- No command is on the way. -/
structure Silent
    (hub : Nat)
    (net : CommandNet K Client) : Prop where
  stopped : (net.node hub).serialComm.runningTotalCommand = false
  commands : net.unreadCommands = []
  frames : net.commandFrames = []
  messages : responses net.toServer = []

section Server

variable [Add K] {union : FloatTo4Bytes K} {executions : List Execution}

/-- When the queue is empty, nothing is on the way. -/
theorem AtStage.silent
    (stage : net.AtStage union hub members executions)
    (isEmpty : net.server.commandsQueue = []) :
    net.Silent hub ∧ executions = [] := by
  have noFront : net.front? = none := by
    rw [front?, isEmpty]
    rfl
  unfold AtStage at stage
  rw [noFront] at stage
  generalize isCommands : net.unreadCommands = commands at stage
  generalize isFrames : net.commandFrames = frames at stage
  generalize isMessages : responses net.toServer = messages at stage
  cases stage with
  | idle stopped => exact ⟨⟨stopped, isCommands, isFrames, isMessages⟩, rfl⟩

/-- When a response arrives, it answers the front, and nothing else is on the way. -/
theorem AtStage.of_response
    (stage : net.AtStage union hub members executions)
    {value : BitVec 32}
    {later : List Message}
    (isMessages : net.toServer = .response value :: later) :
    (net.withMessages later).Silent hub ∧
      ∃ front rest,
        net.server.commandsQueue = front :: rest ∧
          front.command.AnsweredBy union hub members executions value := by
  have isResponses : responses net.toServer = value :: responses later := by
    rw [isMessages]
    rfl
  unfold AtStage at stage
  rw [isResponses] at stage
  generalize isCommands : net.unreadCommands = commands at stage
  generalize isFrames : net.commandFrames = frames at stage
  generalize isLater : responses later = others at stage
  generalize isFront : net.front? = front at stage
  cases stage with
  | answered stopped answered =>
      refine ⟨⟨stopped, isCommands, isFrames, isLater⟩, ?_⟩
      unfold front? at isFront
      cases isQueue : net.server.commandsQueue with
      | nil =>
          rw [isQueue] at isFront
          cases isFront
      | cons element rest =>
          rw [isQueue] at isFront
          obtain ⟨⟩ := isFront
          exact ⟨element, rest, rfl, answered⟩

/-- The server writes the next command, if there is one. -/
theorem Silent.serve
    [DecidableEq Client]
    (silent : net.Silent hub)
    (server : CommandServer Client)
    (pushable :
      ∀ element ∈ server.commandsQueue,
        CommandSession.Pushable element.command)
    (union : FloatTo4Bytes K)
    (members : List Nat) :
    (net.serve server.executeNextInCommandQueue).AtStage union hub members
      [] := by
  obtain ⟨suffix, isWritten, -⟩ := server.executeNextInCommandQueue_spec
  have isFront :
      (net.serve server.executeNextInCommandQueue).front? =
        server.executeNextInCommandQueue.2.map (·.command) := by
    rw [← isWritten]
    rfl
  have isCommands :
      (net.serve server.executeNextInCommandQueue).unreadCommands =
        (server.executeNextInCommandQueue.2.toList.map
          (·.command)).filter fun command => command.cmd ≠ byteOf 'D' := by
    have added :=
      List.filter_append
        (p := fun command : Command => command.cmd ≠ byteOf 'D')
        net.toHub
        (server.executeNextInCommandQueue.2.toList.map (·.command))
    have none :
        (net.toHub.filter fun command => command.cmd ≠ byteOf 'D') = [] :=
      silent.commands
    rw [none, List.nil_append] at added
    exact added
  unfold AtStage
  rw [isFront, isCommands]
  show
    Stage union hub members (net.node hub) _ net.commandFrames
      (responses net.toServer) _ []
  rw [silent.frames, silent.messages]
  cases written : server.executeNextInCommandQueue.2 with
  | none => exact .idle silent.stopped
  | some element =>
      rw [written] at isWritten
      have queued : element ∈ server.commandsQueue :=
        suffix.subset (List.mem_of_mem_head? isWritten)
      have notDiscovery := (pushable element queued).2
      have kept :
          ((some element).toList.map
              (·.command)).filter
            (fun command => command.cmd ≠ byteOf 'D') =
            [element.command] := by
        simp [notDiscovery]
      rw [kept]
      exact .unread silent.stopped

/-- What the server changes apart from its queue does not matter to the stage. -/
theorem AtStage.withServer
    (stage : net.AtStage union hub members executions)
    {server : CommandServer Client}
    (sameFront :
      server.commandsQueue.head? = net.server.commandsQueue.head?) :
    (net.withServer server).AtStage union hub members executions := by
  have isFront : (net.withServer server).front? = net.front? := by
    unfold front?
    rw [← sameFront]
    rfl
  unfold AtStage
  rw [isFront]
  exact stage

/-- A message that is no response leaves the stage. -/
theorem AtStage.dropMessage
    (stage : net.AtStage union hub members executions)
    {message : Message}
    {later : List Message}
    (isMessages : net.toServer = message :: later)
    (noResponse : responses [message] = []) :
    (net.withMessages later).AtStage union hub members executions := by
  have same : responses later = responses net.toServer := by
    rw [isMessages, ← List.singleton_append, responses_append, noResponse,
      List.nil_append]
  unfold AtStage
  show
    Stage union hub members (net.node hub) net.unreadCommands
      net.commandFrames (responses later) net.front? executions
  rw [same]
  exact stage

/-- The answer to a discovery is no command of the queue. -/
theorem AtStage.addAnswer
    (stage : net.AtStage union hub members executions) :
    (net.withCommands (net.toHub ++ [discoveryAnswer])).AtStage union hub
      members executions := by
  have same :
      (net.withCommands (net.toHub ++ [discoveryAnswer])).unreadCommands =
        net.unreadCommands := by
    unfold unreadCommands withCommands
    rw [List.filter_append]
    exact List.append_nil _
  unfold AtStage
  rw [same]
  exact stage

omit [Add K] in
/-- The server prints a response and writes the next command. -/
theorem perform_response_of_kept
    [DecidableEq Client]
    (later : List Message)
    {front : CommandQueueElement Client}
    {rest : List (CommandQueueElement Client)}
    (isQueue : net.server.commandsQueue = front :: rest)
    (kept : front.command.cmd ≠ byteOf 'r')
    (value : BitVec 32) :
    (net.withMessages later).perform (.response value) =
      (net.withMessages later).serve
        (net.server.withQueue rest).executeNextInCommandQueue := by
  have sameServer : (net.withMessages later).server = net.server := rfl
  simp only [perform, sameServer,
    CommandServer.receivedCommandResponse_of_kept isQueue kept value,
    Option.isSome_some, if_true]

end Server

end CommandNet

namespace CommandSession

variable {K Client : Type} [DecidableEq Client]

/-- What clients rely on. -/
structure Serves
    [Add K]
    (union : FloatTo4Bytes K)
    (hub : Nat)
    (members : List Nat)
    (session : CommandSession K Client) : Prop where
  /-- Every answer is the result of what was executed for its own command. -/
  answered :
    ∀ answer ∈ session.answers,
      answer.element.command.AnsweredBy union hub members
        answer.executions answer.value
  /-- Commands are answered in the order of their pushes, and none twice. -/
  ordered :
    (session.answers.map (·.element) ++
        session.net.server.commandsQueue).Sublist
      session.pushed
  numbered :
    session.pushed.Pairwise fun earlier later =>
      earlier.number < later.number
  /-- Only the commands of clients that are gone get lost. -/
  accounted :
    ∀ element ∈ session.pushed,
      element ∈ session.answers.map (·.element) ∨
        element ∈ session.net.server.commandsQueue ∨
        session.net.server.clientGone element = true

/-- What the answers rest on: at most one command is on the way. -/
structure Proceeds
    [Add K]
    (union : FloatTo4Bytes K)
    (hub : Nat)
    (members : List Nat)
    (session : CommandSession K Client) : Prop where
  serves : session.Serves union hub members
  stage :
    session.net.AtStage union hub members session.executions
  steady : session.net.Steady hub members
  pushable :
    ∀ element ∈ session.net.server.commandsQueue,
      Pushable element.command
  below :
    ∀ element ∈ session.pushed,
      element.number < session.net.server.pushes

section Steps

variable [Add K] {union : FloatTo4Bytes K} {hub : Nat}
    {members : List Nat} {session : CommandSession K Client}

/-- The command that the PC waits for is no reset. -/
theorem Proceeds.kept_front
    (proceeds : session.Proceeds union hub members)
    {command : Command}
    (isFront : session.net.front? = some command) :
    Pushable command := by
  obtain ⟨element, isElement, isCommand⟩ := Option.map_eq_some_iff.mp isFront
  rw [← isCommand]
  exact proceeds.pushable element (List.mem_of_mem_head? isElement)

/-- The hub never reads a reset. -/
theorem Proceeds.kept_of_unread
    (proceeds : session.Proceeds union hub members)
    {command : Command}
    {later : List Command}
    (isCommands : session.net.toHub = command :: later) :
    command.cmd ≠ byteOf 'r' := by
  by_cases isDiscovery : command.cmd = byteOf 'D'
  · rw [isDiscovery]
    decide
  · have isFront :=
      (proceeds.stage.of_unread isCommands isDiscovery).2.2.2.2.1
    exact (proceeds.kept_front isFront).1

/-- A step of the hub or of a node. -/
theorem Proceeds.ofNodes
    (proceeds : session.Proceeds union hub members)
    {net : CommandNet K Client}
    {executions : List Execution}
    (sameServer : net.server = session.net.server)
    (stage : net.AtStage union hub members executions)
    (steady : net.Steady hub members) :
    ({ session with net := net, executions := executions }).Proceeds union hub
      members where
  serves :=
    { answered := proceeds.serves.answered
      ordered := by
        rw [sameServer]
        exact proceeds.serves.ordered
      numbered := proceeds.serves.numbered
      accounted := by
        intro element member
        rw [sameServer]
        exact proceeds.serves.accounted element member }
  stage := stage
  steady := steady
  pushable := by
    rw [sameServer]
    exact proceeds.pushable
  below := by
    intro element member
    rw [sameServer]
    exact proceeds.below element member

/-- Clients connect and are removed. -/
theorem Proceeds.withClients
    (proceeds : session.Proceeds union hub members)
    {clients : List Client}
    (stillGone :
      ∀ element ∈ session.pushed, ∀ client,
        element.client = some client →
        client ∉ session.net.server.clientSessions →
        client ∉ clients) :
    (session.withClients clients).Proceeds union hub members where
  serves :=
    { answered := proceeds.serves.answered
      ordered := proceeds.serves.ordered
      numbered := proceeds.serves.numbered
      accounted := by
        intro element member
        rcases proceeds.serves.accounted element member with
            isAnswered | queued | gone
        · exact .inl isAnswered
        · exact .inr (.inl queued)
        · refine .inr (.inr ?_)
          unfold CommandServer.clientGone at gone ⊢
          cases isClient : element.client with
          | none =>
              rw [isClient] at gone
              cases gone
          | some client =>
              rw [isClient] at gone
              have absent :
                  client ∉ session.net.server.clientSessions := by
                simpa using gone
              simpa [CommandSession.withClients, CommandNet.withServer] using
                stillGone element member client isClient absent }
  stage := proceeds.stage.withServer rfl
  steady := ⟨proceeds.steady.knows, proceeds.steady.noWakeup⟩
  pushable := proceeds.pushable
  below := proceeds.below

end Steps

section Server

variable [Add K] {union : FloatTo4Bytes K} {hub : Nat}
    {members : List Nat} {session : CommandSession K Client}

/-- The server executes the next command of a queue that covers what it must. -/
theorem Proceeds.serve
    {net : CommandNet K Client}
    {server : CommandServer Client}
    {pushed : List (CommandQueueElement Client)}
    {answers : List (Answer Client)}
    (silent : net.Silent hub)
    (steady : net.Steady hub members)
    (answered :
      ∀ answer ∈ answers,
        answer.element.command.AnsweredBy union hub members
          answer.executions answer.value)
    (ordered :
      (answers.map (·.element) ++ server.commandsQueue).Sublist pushed)
    (numbered :
      pushed.Pairwise fun earlier later => earlier.number < later.number)
    (accounted :
      ∀ element ∈ pushed,
        element ∈ answers.map (·.element) ∨
          element ∈ server.commandsQueue ∨
          server.clientGone element = true)
    (pushable :
      ∀ element ∈ server.commandsQueue, Pushable element.command)
    (below : ∀ element ∈ pushed, element.number < server.pushes) :
    ({ net := net.serve server.executeNextInCommandQueue
       pushed := pushed
       executions := []
       answers := answers } :
      CommandSession K Client).Proceeds union hub members := by
  obtain ⟨suffix, -, pushes⟩ := server.executeNextInCommandQueue_spec
  have sameClients :
      server.executeNextInCommandQueue.1.clientSessions =
        server.clientSessions :=
    server.executeNextFrom_clientSessions server.commandsQueue
  have sameGone :
      ∀ element,
        server.executeNextInCommandQueue.1.clientGone element =
          server.clientGone element := by
    intro element
    unfold CommandServer.clientGone
    rw [sameClients]
  refine ⟨⟨answered, ?_, numbered, ?_⟩, ?_, ?_, ?_, ?_⟩
  · exact (suffix.sublist.append_left _).trans ordered
  · intro element member
    show _ ∨ _ ∨ server.executeNextInCommandQueue.1.clientGone element = true
    rw [sameGone]
    rcases accounted element member with isAnswered | queued | gone
    · exact .inl isAnswered
    · exact .inr (server.mem_executeNextFrom_or_gone element queued)
    · exact .inr (.inr gone)
  · exact silent.serve server pushable union members
  · exact ⟨steady.knows, steady.noWakeup⟩
  · intro element member
    exact pushable element (suffix.subset member)
  · intro element member
    show element.number < server.executeNextInCommandQueue.1.pushes
    rw [pushes]
    exact below element member

end Server

end CommandSession

namespace CommandSession

variable {K Client : Type} [DecidableEq Client]

section Step

variable [Zero K] [Add K] {union : FloatTo4Bytes K} {hub : Nat}
    {members : List Nat} {session after : CommandSession K Client}

omit [DecidableEq Client] [Zero K] [Add K] in
/-- A step of the hub or of a node is recorded by what it executes. -/
theorem record_of_nodes
    {action : NetAction Client}
    (ofNodes : action.OfNodes)
    (net : CommandNet K Client) :
    session.record hub action net =
      { session with
        net := net
        executions :=
          session.executions ++ session.net.executedBy hub action } := by
  cases action with
  | readServer => cases ofNodes
  | push command client => cases ofNodes
  | readSerial reading => simp [record, CommandNet.answeredBy, CommandNet.pushedBy]
  | discovery id => simp [record, CommandNet.answeredBy, CommandNet.pushedBy]
  | deliver position reading =>
      simp [record, CommandNet.answeredBy, CommandNet.pushedBy]
  | other receiver sender message =>
      simp [record, CommandNet.answeredBy, CommandNet.pushedBy]

/-- The hub and the nodes keep the session going. -/
theorem Proceeds.stepOfNodes
    (proceeds : session.Proceeds union hub members)
    (hubPositive : 0 < hub)
    (isMember : hub ∈ members)
    (distinct : members.Nodup)
    (few : members.length ≤ 256)
    {action : NetAction Client}
    (ofNodes : action.OfNodes)
    (ordinary : session.Ordinary (.net action))
    {net : CommandNet K Client}
    (taken : session.net.next hub members union action = some net) :
    (session.record hub action net).Proceeds union hub members := by
  rw [record_of_nodes ofNodes]
  cases action with
  | readServer => cases ofNodes
  | push command client => cases ofNodes
  | readSerial reading =>
      unfold CommandNet.next at taken
      cases isCommands : session.net.toHub with
      | nil =>
          rw [isCommands] at taken
          cases taken
      | cons command later =>
          rw [isCommands] at taken
          obtain ⟨⟩ := taken
          have kept := proceeds.kept_of_unread isCommands
          have fewer :
              (session.net.withCommands later).Steady hub members :=
            ⟨proceeds.steady.knows, proceeds.steady.noWakeup⟩
          exact
            proceeds.ofNodes rfl
              (proceeds.stage.readCommand proceeds.steady.knows isMember
                distinct few isCommands kept reading)
              (fewer.absorb
                ((session.net.node hub).steady_readCommand union kept
                  reading))
  | discovery id =>
      obtain ⟨⟩ := taken
      have aside := (session.net.node id).aside_sendPCDiscovery
      refine proceeds.ofNodes rfl ?_ (proceeds.steady.absorb
        ⟨aside.glob, aside.noWakeup⟩)
      show CommandNet.AtStage union hub members _ (session.executions ++ [])
      rw [List.append_nil]
      exact proceeds.stage.absorb_aside aside
  | deliver position reading =>
      obtain ⟨frame, isFrame, taken⟩ := Option.bind_eq_some_iff.mp taken
      obtain ⟨outcome, handled, isAfter⟩ := Option.map_eq_some_iff.mp taken
      have noWakeup :=
        proceeds.steady.noWakeup frame (List.mem_of_getElem? isFrame)
      simp only [HubNode.handle, noWakeup, false_and, if_false,
        Option.some.injEq] at handled
      obtain ⟨outcomeSteady, stage⟩ :=
        proceeds.stage.deliver hubPositive few
          (fun command isFront => (proceeds.kept_front isFront).1) isFrame
          noWakeup reading
      have fewer :
          (session.net.withFrames
            (session.net.frames.eraseIdx position)).Steady hub members :=
        ⟨proceeds.steady.knows, fun other member =>
          proceeds.steady.noWakeup other (List.mem_of_mem_eraseIdx member)⟩
      subst handled isAfter
      exact proceeds.ofNodes rfl stage (fewer.absorb outcomeSteady)
  | other receiver sender message =>
      simp only [CommandNet.next] at taken
      split at taken
      · cases taken
      · rename_i noCommand
        obtain ⟨outcome, handled, isAfter⟩ := Option.map_eq_some_iff.mp taken
        have noWakeup : message ≠ .wakeupBroadcast := ordinary
        simp only [HubNode.handle, noWakeup, false_and, if_false,
          Option.some.injEq] at handled
        have aside :=
          (session.net.node receiver).aside_received union
            (Bool.eq_false_iff.mpr noCommand) noWakeup sender 0
        subst handled isAfter
        refine proceeds.ofNodes rfl ?_ (proceeds.steady.absorb
          ⟨aside.glob, aside.noWakeup⟩)
        show CommandNet.AtStage union hub members _ (session.executions ++ [])
        rw [List.append_nil]
        exact proceeds.stage.absorb_aside aside

end Step

end CommandSession

namespace CommandSession

variable {K Client : Type} [DecidableEq Client]

section ServerStep

variable [Add K] {union : FloatTo4Bytes K} {hub : Nat}
    {members : List Nat} {session after : CommandSession K Client}

/-- A client pushes a command. -/
theorem Proceeds.push
    (proceeds : session.Proceeds union hub members)
    {command : Command}
    (pushable : Pushable command)
    (client : Option Client) :
    (session.record hub (.push command client)
        (session.net.serve
          (session.net.server.addCommandToQueue command client))).Proceeds
      union hub members := by
  obtain ⟨element, isElement⟩ :
      ∃ element : CommandQueueElement Client,
        element =
          { number := session.net.server.pushes
            command := command
            client := client } :=
    ⟨_, rfl⟩
  have isRecord :
      session.record hub (.push command client)
          (session.net.serve
            (session.net.server.addCommandToQueue command client)) =
        { session with
          net :=
            session.net.serve
              (session.net.server.addCommandToQueue command client)
          pushed := session.pushed ++ [element] } := by
    simp [record, CommandNet.answeredBy, CommandNet.pushedBy,
      CommandNet.executedBy, isElement]
  have isQueue :
      (session.net.server.push command client).commandsQueue =
        session.net.server.commandsQueue ++ [element] := by
    rw [isElement]
    rfl
  have numbered :
      (session.pushed ++ [element]).Pairwise fun earlier later =>
        earlier.number < later.number := by
    refine List.pairwise_append.mpr
      ⟨proceeds.serves.numbered, List.pairwise_singleton _ _, ?_⟩
    intro earlier member later isNew
    rw [List.mem_singleton.mp isNew, isElement]
    exact proceeds.below earlier member
  have below :
      ∀ other ∈ session.pushed ++ [element],
        other.number <
          (session.net.server.push command client).pushes := by
    intro other member
    rcases List.mem_append.mp member with earlier | isNew
    · exact Nat.lt_succ_of_lt (proceeds.below other earlier)
    · rw [List.mem_singleton.mp isNew, isElement]
      exact Nat.lt_succ_self _
  have ordered :
      (session.answers.map (·.element) ++
          (session.net.server.push command client).commandsQueue).Sublist
        (session.pushed ++ [element]) := by
    rw [isQueue, ← List.append_assoc]
    exact proceeds.serves.ordered.append_right _
  have accounted :
      ∀ other ∈ session.pushed ++ [element],
        other ∈ session.answers.map (·.element) ∨
          other ∈ (session.net.server.push command client).commandsQueue ∨
          (session.net.server.push command client).clientGone other =
            true := by
    intro other member
    rw [isQueue]
    rcases List.mem_append.mp member with earlier | isNew
    · rcases proceeds.serves.accounted other earlier with
          isAnswered | queued | gone
      · exact .inl isAnswered
      · exact .inr (.inl (List.mem_append_left _ queued))
      · exact .inr (.inr gone)
    · exact .inr (.inl (List.mem_append_right _ isNew))
  have allPushable :
      ∀ other ∈ (session.net.server.push command client).commandsQueue,
        Pushable other.command := by
    intro other member
    rw [isQueue] at member
    rcases List.mem_append.mp member with earlier | isNew
    · exact proceeds.pushable other earlier
    · rw [List.mem_singleton.mp isNew, isElement]
      exact pushable
  rw [isRecord]
  by_cases isEmpty : session.net.server.commandsQueue = []
  · obtain ⟨silent, noExecution⟩ := proceeds.stage.silent isEmpty
    rw [CommandServer.addCommandToQueue_of_empty isEmpty, noExecution]
    exact
      Proceeds.serve silent proceeds.steady proceeds.serves.answered ordered
        numbered accounted allPushable below
  · rw [CommandServer.addCommandToQueue_of_nonempty isEmpty]
    have isNet :
        session.net.serve (session.net.server.push command client, none) =
          session.net.withServer
            (session.net.server.push command client) := by
      simp [CommandNet.serve, CommandNet.withServer]
    rw [isNet]
    exact
      { serves :=
          { answered := proceeds.serves.answered
            ordered := ordered
            numbered := numbered
            accounted := accounted }
        stage :=
          proceeds.stage.withServer
            (CommandServer.push_head isEmpty command client)
        steady := ⟨proceeds.steady.knows, proceeds.steady.noWakeup⟩
        pushable := allPushable
        below := below }

/-- The server handles a message that is no response. -/
theorem Proceeds.handleOther
    (proceeds : session.Proceeds union hub members)
    {message : Message}
    {later : List Message}
    (isMessages : session.net.toServer = message :: later)
    (noResponse : responses [message] = []) :
    ({ session with
        net := (session.net.withMessages later).perform message }).Proceeds
      union hub members := by
  have dropped := proceeds.stage.dropMessage isMessages noResponse
  cases message with
  | response value => cases noResponse
  | frequentData data0 illuminance data3 =>
      exact
        proceeds.ofNodes rfl dropped
          ⟨proceeds.steady.knows, proceeds.steady.noWakeup⟩
  | pcDiscovery =>
      exact
        proceeds.ofNodes rfl dropped.addAnswer
          ⟨proceeds.steady.knows, proceeds.steady.noWakeup⟩
  | listNodes nodesList fits =>
      have isNet :
          (session.net.withMessages later).perform
              (.listNodes nodesList fits) =
            (session.net.withMessages later).withServer
              { session.net.server with
                nodeIds := nodesList.map BitVec.toNat } := by
        simp [CommandNet.perform, CommandNet.serve, CommandNet.withServer,
          CommandNet.withMessages]
      rw [isNet]
      exact
        { serves :=
            { answered := proceeds.serves.answered
              ordered := proceeds.serves.ordered
              numbered := proceeds.serves.numbered
              accounted := proceeds.serves.accounted }
          stage := dropped.withServer rfl
          steady := ⟨proceeds.steady.knows, proceeds.steady.noWakeup⟩
          pushable := proceeds.pushable
          below := proceeds.below }

/-- The server prints a response and goes on to the next command. -/
theorem Proceeds.handleResponse
    (proceeds : session.Proceeds union hub members)
    {value : BitVec 32}
    {later : List Message}
    (isMessages : session.net.toServer = .response value :: later) :
    (session.record hub .readServer
        ((session.net.withMessages later).perform
          (.response value))).Proceeds union hub members := by
  obtain ⟨silent, front, rest, isQueue, isAnswer⟩ :=
    proceeds.stage.of_response isMessages
  have kept : front.command.cmd ≠ byteOf 'r' :=
    (proceeds.pushable front (by rw [isQueue]; exact List.mem_cons_self)).1
  have received :=
    CommandServer.receivedCommandResponse_of_kept isQueue kept value
  have isAnswered :
      session.net.answeredBy .readServer = some (front, value) := by
    simp only [CommandNet.answeredBy, isMessages, received, Option.map_some]
  have isNet :=
    CommandNet.perform_response_of_kept later isQueue kept value
  have isRecord :
      session.record hub .readServer
          ((session.net.withMessages later).perform (.response value)) =
        { net :=
            (session.net.withMessages later).serve
              (session.net.server.withQueue rest).executeNextInCommandQueue
          pushed := session.pushed
          executions := []
          answers :=
            session.answers ++
              [{ element := front
                 executions := session.executions
                 value := value }] } := by
    simp only [record, isAnswered, isNet]
  have elements :
      (session.answers ++
            [({ element := front
                executions := session.executions
                value := value } : Answer Client)]).map (·.element) ++
          rest =
        session.answers.map (·.element) ++
          session.net.server.commandsQueue := by
    rw [isQueue, List.map_append, List.append_assoc]
    rfl
  rw [isRecord]
  refine
    Proceeds.serve silent
      ⟨proceeds.steady.knows, proceeds.steady.noWakeup⟩ ?_ ?_
      proceeds.serves.numbered ?_ ?_ proceeds.below
  · intro answer member
    rcases List.mem_append.mp member with earlier | isNew
    · exact proceeds.serves.answered answer earlier
    · rw [List.mem_singleton.mp isNew]
      exact isAnswer
  · rw [CommandServer.withQueue_commandsQueue, elements]
    exact proceeds.serves.ordered
  · intro element member
    rw [CommandServer.withQueue_commandsQueue, ← or_assoc, ← List.mem_append,
      elements, List.mem_append, or_assoc]
    exact proceeds.serves.accounted element member
  · intro element member
    apply proceeds.pushable element
    rw [isQueue]
    exact List.mem_cons_of_mem _ member

/-- The server handles a message. -/
theorem Proceeds.readServer
    (proceeds : session.Proceeds union hub members)
    {message : Message}
    {later : List Message}
    (isMessages : session.net.toServer = message :: later) :
    (session.record hub .readServer
        ((session.net.withMessages later).perform message)).Proceeds union
      hub members := by
  have isRecord
      (noAnswer : session.net.answeredBy .readServer = none) :
      session.record hub .readServer
          ((session.net.withMessages later).perform message) =
        { session with
          net := (session.net.withMessages later).perform message } := by
    simp [record, noAnswer, CommandNet.pushedBy, CommandNet.executedBy]
  cases message with
  | response value => exact proceeds.handleResponse isMessages
  | frequentData data0 illuminance data3 =>
      rw [isRecord (by simp [CommandNet.answeredBy, isMessages])]
      exact proceeds.handleOther isMessages rfl
  | pcDiscovery =>
      rw [isRecord (by simp [CommandNet.answeredBy, isMessages])]
      exact proceeds.handleOther isMessages rfl
  | listNodes nodesList fits =>
      rw [isRecord (by simp [CommandNet.answeredBy, isMessages])]
      exact proceeds.handleOther isMessages rfl

variable [Zero K]

/-- Every ordinary step keeps the session going. -/
theorem Proceeds.step
    (proceeds : session.Proceeds union hub members)
    (hubPositive : 0 < hub)
    (isMember : hub ∈ members)
    (distinct : members.Nodup)
    (few : members.length ≤ 256)
    {action : SessionAction Client}
    (ordinary : session.Ordinary action)
    (taken : session.next hub members union action = some after) :
    after.Proceeds union hub members := by
  cases action with
  | commandTimedOut => exact ordinary.elim
  | accept client =>
      obtain ⟨⟩ := taken
      refine proceeds.withClients ?_
      intro element member other isClient absent present
      rcases List.mem_append.mp present with before | isNew
      · exact absent before
      · rw [List.mem_singleton.mp isNew] at isClient
        exact ordinary element member isClient
  | removeClientSession client =>
      simp only [next] at taken
      split at taken
      · obtain ⟨⟩ := taken
        refine proceeds.withClients ?_
        intro element member other _ absent present
        exact absent (List.mem_of_mem_erase present)
      · cases taken
  | net action =>
      obtain ⟨net, isNext, isAfter⟩ := Option.map_eq_some_iff.mp taken
      subst isAfter
      by_cases ofNodes : action.OfNodes
      · exact
          proceeds.stepOfNodes hubPositive isMember distinct few ofNodes
            ordinary isNext
      · cases action with
        | push command client =>
            obtain ⟨⟩ := isNext
            exact proceeds.push ordinary client
        | readServer =>
            unfold CommandNet.next at isNext
            cases isMessages : session.net.toServer with
            | nil =>
                rw [isMessages] at isNext
                cases isNext
            | cons message later =>
                rw [isMessages] at isNext
                obtain ⟨⟩ := isNext
                exact proceeds.readServer isMessages
        | readSerial reading => exact absurd trivial ofNodes
        | discovery id => exact absurd trivial ofNodes
        | deliver position reading => exact absurd trivial ofNodes
        | other receiver sender message => exact absurd trivial ofNodes

end ServerStep

end CommandSession

namespace CommandSession

variable {K Client : Type}

/-- A session starts with empty histories and with no command on the way. -/
structure Opens
    (hub : Nat)
    (members : List Nat)
    (session : CommandSession K Client) : Prop where
  idle : session.net.Idle
  stopped :
    (session.net.node hub).serialComm.runningTotalCommand = false
  nodeId : (session.net.node hub).glob.nodeId = hub
  lists : (session.net.node hub).glob.Lists members.toFinset
  noWakeup :
    ∀ frame ∈ session.net.frames, frame.message ≠ .wakeupBroadcast
  pushed : session.pushed = []
  executions : session.executions = []
  answers : session.answers = []

section Runs

variable [DecidableEq Client] [Zero K] [Add K] {union : FloatTo4Bytes K}
    {hub : Nat} {members : List Nat} {start session : CommandSession K Client}

omit [Zero K] in
/-- Everything is in place for the first command. -/
theorem Opens.proceeds
    (opens : start.Opens hub members)
    (distinct : members.Nodup)
    (union : FloatTo4Bytes K) :
    start.Proceeds union hub members := by
  have noCommands : start.net.unreadCommands = [] := by
    refine List.filter_eq_nil_iff.mpr fun command member => ?_
    rw [opens.idle.commands command member]
    decide
  have noFrames : start.net.commandFrames = [] := by
    refine List.filter_eq_nil_iff.mpr fun frame member => ?_
    rw [opens.idle.frames frame member]
    decide
  have noFront : start.net.front? = none := by
    rw [CommandNet.front?, opens.idle.queue]
    rfl
  refine ⟨⟨?_, ?_, ?_, ?_⟩, ?_, ?_, ?_, ?_⟩
  · rw [opens.answers]
    exact nofun
  · rw [opens.answers, opens.idle.queue, opens.pushed]
    exact List.Sublist.refl _
  · rw [opens.pushed]
    exact .nil
  · rw [opens.pushed]
    exact nofun
  · unfold CommandNet.AtStage
    rw [noCommands, noFrames, opens.idle.messages, noFront, opens.executions]
    exact .idle opens.stopped
  · exact
      ⟨HubNode.knows_of_lists opens.nodeId opens.lists distinct,
        opens.noWakeup⟩
  · rw [opens.idle.queue]
    exact nofun
  · rw [opens.pushed]
    exact nofun

/-- The session goes on in every state of every run. -/
theorem proceeds_of_run
    (hubPositive : 0 < hub)
    (isMember : hub ∈ members)
    (distinct : members.Nodup)
    (few : members.length ≤ 256)
    (opens : start.Opens hub members)
    (run : Run (next hub members union) Ordinary start session) :
    session.Proceeds union hub members :=
  run.invariant
    (fun session => session.Proceeds union hub members)
    (opens.proceeds distinct union)
    (fun proceeds ordinary taken =>
      proceeds.step hubPositive isMember distinct few ordinary taken)

/--
However clients come, go and push, and in whatever order everything on the way is
handled between discoveries and other frames, as long as no command times out every
client gets the answer to its own command: the value that the node has returned for
it, or the total over one execution by every node.  Commands are answered in the order
of their pushes.
-/
theorem serves_of_run
    (hubPositive : 0 < hub)
    (isMember : hub ∈ members)
    (distinct : members.Nodup)
    (few : members.length ≤ 256)
    (opens : start.Opens hub members)
    (run : Run (next hub members union) Ordinary start session) :
    session.Serves union hub members :=
  (proceeds_of_run hubPositive isMember distinct few opens run).serves

end Runs

section Examples

/-- Hub 2 with nodes 1 and 5, and two clients. -/
def office : CommandSession Int Nat where
  net :=
    { server := { CommandServer.started with clientSessions := [7, 8] }
      toHub := []
      toServer := []
      node := fun id =>
        { glob := ((Glob.boot id 2).registerNewNode 5).registerNewNode 1
          serialComm :=
            { numNodesWaitingResult := 1
              runningTotalCommand := false
              totalCommandResult := 7
              pcDiscoveryHadResponse := true } }
      frames := [] }
  pushed := []
  executions := []
  answers := []

theorem opens_office : office.Opens 2 [1, 2, 5] where
  idle :=
    { queue := rfl
      commands := nofun
      messages := rfl
      frames := nofun }
  stopped := rfl
  nodeId := rfl
  lists := by
    have two : (Glob.boot 2 2).Lists {2} := Glob.lists_boot (by decide) 2
    have three : ((Glob.boot 2 2).registerNewNode 5).Lists {5, 2} :=
      two.registerNewNode (by decide) (by decide)
    have four :
        (((Glob.boot 2 2).registerNewNode 5).registerNewNode 1).Lists
          {1, 5, 2} :=
      three.registerNewNode (by decide) (by decide)
    have same : ([1, 2, 5] : List Nat).toFinset = {1, 5, 2} := by decide
    rw [same]
    exact four
  noWakeup := nofun
  pushed := rfl
  executions := rfl
  answers := rfl

/--
A total for client 7 and a result of node 5 for client 8; a third command is lost,
because client 8 leaves before it can be written.
-/
theorem serves_of_run_office :
    ∃ session : CommandSession Int Nat,
      Run (next 2 [1, 2, 5] singlePrecision) Ordinary office session ∧
        (session.answers.map fun answer =>
            (answer.element.client, answer.value)) =
          [(some 7, 0x40C00000), (some 8, threeF)] ∧
        session.pushed.length = 3 ∧
        session.net.server.commandsQueue = [] ∧
        session.Serves singlePrecision 2 [1, 2, 5] := by
  obtain ⟨session, run, observed⟩ :=
    exists_run_of_observed
      (next 2 [1, 2, 5] singlePrecision)
      Ordinary
      office
      [.net (.push (getFrom 0) (some 7)), .net (.push (getFrom 5) (some 8)),
        .net (.readSerial oneF), .net (.push (getFrom 2) (some 8)),
        .net (.deliver 1 threeF), .net (.deliver 1 0),
        .net (.other 2 5 .isHubNode), .net (.deliver 0 twoF),
        .net (.deliver 0 0), .net (.discovery 2), .net .readServer,
        .net .readServer, .removeClientSession 8, .net (.readSerial oneF),
        .net (.deliver 0 threeF), .net (.deliver 0 0), .net (.readSerial 0),
        .net .readServer]
      (fun session =>
        decide
          ((session.answers.map fun answer =>
              (answer.element.client, answer.value)) =
            [(some 7, 0x40C00000), (some 8, threeF)] ∧
            session.pushed.length = 3 ∧
            session.net.server.commandsQueue = []))
      (by decide +kernel)
  rw [decide_eq_true_eq] at observed
  obtain ⟨answers, pushes, queue⟩ := observed
  exact
    ⟨session, run, answers, pushes, queue,
      serves_of_run (by decide) (by decide) (by decide) (by decide)
        opens_office run⟩

end Examples

end CommandSession

end DistributedLighting
