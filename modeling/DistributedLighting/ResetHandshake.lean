import DistributedLighting.CommandServer

namespace DistributedLighting

/-!
# The reset of all nodes

The PC, the hub and the other nodes with everything that is on the way between
them: commands and messages on the serial line, in their order, and CAN frames,
which may be delivered in any order.  A reset is followed by one acknowledgement of
every node, although the hub forgets that it is waiting for them.
-/

/-- A CAN frame on its way to one node. -/
structure CanFrame where
  receiver : Nat
  sender : Nat
  message : CanMessage
  deriving DecidableEq

/-- The PC, the nodes and what is on the way between them. -/
structure CommandNet (K Client : Type) where
  server : CommandServer Client
  toHub : List Command
  toServer : List Message
  node : Nat → HubNode K
  frames : List CanFrame

/-- What one of the parties does next, with its input. -/
inductive NetAction (Client : Type) where
  /-- The hub reads a command. -/
  | readSerial (reading : BitVec 32)
  /-- The timer of a node starts a discovery. -/
  | discovery (id : Nat)
  /-- One of the frames is delivered. -/
  | deliver (position : Nat) (reading : BitVec 32)
  /-- A node receives a frame that has nothing to do with commands. -/
  | other (receiver sender : Nat) (message : CanMessage)
  /-- The PC handles a message. -/
  | readServer
  | push (command : Command) (client : Option Client)

/-- The hub, a node or the PC takes what is on the way to it. -/
def NetAction.Takes {Client : Type} : NetAction Client → Prop
  | .readSerial _ => True
  | .deliver _ _ => True
  | .readServer => True
  | _ => False

/-- The step is one of the hub or of another node. -/
def NetAction.OfNodes {Client : Type} : NetAction Client → Prop
  | .readServer => False
  | .push _ _ => False
  | _ => True

/-- The command and the response of a CAN frame. -/
def CanMessage.isCommand : CanMessage → Bool
  | .commandsRequest _ => true
  | .commandsResponse _ => true
  | _ => false

/-- The command `r`, which the PC sends to all nodes. -/
def Command.IsReset (command : Command) : Prop :=
  command.cmd = byteOf 'r' ∧ command.destination = 0

instance (command : Command) : Decidable command.IsReset :=
  inferInstanceAs
    (Decidable (command.cmd = byteOf 'r' ∧ command.destination = 0))

namespace CommandNet

variable {K Client : Type}

section Steps

variable (hub : Nat) (members : List Nat)

/-- The copies of the frames that a node sends; destination 0 is a broadcast. -/
def copies
    (sender : Nat)
    (can : List (Nat × CanMessage)) : List CanFrame :=
  can.flatMap fun sent =>
    if sent.1 = 0 then
      (members.filter fun id => id ≠ sender).map fun receiver =>
        { receiver := receiver, sender := sender, message := sent.2 }
    else
      [{ receiver := sent.1, sender := sender, message := sent.2 }]

/-- A node has handled something; only the hub is connected to the PC. -/
def absorb
    (net : CommandNet K Client)
    (id : Nat)
    (outcome : Outcome K) : CommandNet K Client :=
  { net with
    node := Function.update net.node id outcome.node
    toServer :=
      if id = hub then net.toServer ++ outcome.serial else net.toServer
    frames := net.frames ++ copies members id outcome.can }

/-- A node handles an event. -/
def handleAt
    [Zero K] [Add K]
    (union : FloatTo4Bytes K)
    (net : CommandNet K Client)
    (id : Nat)
    (event : HubEvent) : Option (CommandNet K Client) :=
  ((net.node id).handle union event).map (net.absorb hub members id)

/-- The net with other frames on the way. -/
def withFrames
    (net : CommandNet K Client)
    (frames : List CanFrame) : CommandNet K Client :=
  { net with frames := frames }

/-- The net with other commands on the way to the hub. -/
def withCommands
    (net : CommandNet K Client)
    (commands : List Command) : CommandNet K Client :=
  { net with toHub := commands }

/-- The net with other messages on the way to the PC. -/
def withMessages
    (net : CommandNet K Client)
    (messages : List Message) : CommandNet K Client :=
  { net with toServer := messages }

/-- The net with another state of the server. -/
def withServer
    (net : CommandNet K Client)
    (server : CommandServer Client) : CommandNet K Client :=
  { net with server := server }

/-- The server has run a handler, which may have written a command. -/
def serve
    (net : CommandNet K Client)
    (executed :
      CommandServer Client × Option (CommandQueueElement Client)) :
    CommandNet K Client :=
  { net with
    server := executed.1
    toHub := net.toHub ++ (executed.2.toList.map (·.command)) }

/-- What the PC does with a message. -/
def perform
    [DecidableEq Client]
    (net : CommandNet K Client) : Message → CommandNet K Client
  | .frequentData _ _ _ => net
  | .response value =>
      let answered := net.server.receivedCommandResponse value
      if answered.2.isSome then
        net.serve answered.1.executeNextInCommandQueue
      else
        net.serve (answered.1, none)
  | .pcDiscovery => net.withCommands (net.toHub ++ [discoveryAnswer])
  | .listNodes nodesList _ =>
      net.serve
        ({ net.server with nodeIds := nodesList.map BitVec.toNat }, none)

/-- One step of the PC, the hub or a node. -/
def next
    [Zero K] [Add K]
    [DecidableEq Client]
    (union : FloatTo4Bytes K)
    (net : CommandNet K Client) :
    NetAction Client → Option (CommandNet K Client)
  | .readSerial reading =>
      match net.toHub with
      | [] => none
      | command :: later =>
          (net.withCommands later).handleAt hub members union hub
            (.command command reading)
  | .discovery id => net.handleAt hub members union id .discovery
  | .deliver position reading =>
      net.frames[position]?.bind fun frame =>
        (net.withFrames (net.frames.eraseIdx position)).handleAt hub members
          union frame.receiver (.frame frame.sender reading frame.message)
  | .other receiver sender message =>
      if message.isCommand then
        none
      else
        net.handleAt hub members union receiver (.frame sender 0 message)
  | .readServer =>
      match net.toServer with
      | [] => none
      | message :: later =>
          some ((net.withMessages later).perform message)
  | .push command client =>
      some (net.serve (net.server.addCommandToQueue command client))

end Steps

/-- The acknowledgements that have been or will be sent by nodes that the hub has asked. -/
def acksOnTheWay (net : CommandNet K Client) : Nat :=
  (responses net.toServer).length +
    net.frames.countP fun frame => frame.message.isCommand

/-- The resets that the hub has not read yet. -/
def unread (net : CommandNet K Client) : Nat :=
  net.toHub.countP fun command => command.IsReset

/-- The acknowledgements that the PC has not received yet. -/
def outstanding
    (members : List Nat)
    (net : CommandNet K Client) : Nat :=
  net.acksOnTheWay + net.unread * members.length

end CommandNet

/-- A command frame of the reset: its broadcast, or an acknowledgement for the hub. -/
def CanFrame.Acknowledges
    (hub : Nat)
    (frame : CanFrame) : Prop :=
  match frame.message with
  | .commandsRequest command =>
      command.IsReset ∧ frame.sender = hub ∧ frame.receiver ≠ hub
  | .commandsResponse value => value = 1 ∧ frame.receiver = hub
  | _ => True

namespace CommandNet

variable {K Client : Type} {hub : Nat} {members : List Nat}
    {net : CommandNet K Client}

/-- What is on the way belongs to the reset, and the hub forwards what it receives. -/
structure Channels
    (hub : Nat)
    (net : CommandNet K Client) : Prop where
  values : ∀ value ∈ responses net.toServer, value = 1
  frames : ∀ frame ∈ net.frames, frame.Acknowledges hub
  commands :
    ∀ command ∈ net.toHub, command.IsReset ∨ command = discoveryAnswer
  once : net.unread ≤ 1
  idle :
    net.unread = 0 →
      (net.node hub).serialComm.runningTotalCommand = false
  fresh :
    0 < net.unread →
      (net.frames.countP fun frame => frame.message.isCommand) = 0

end CommandNet

/-- The outcome has nothing to do with commands. -/
structure Outcome.Quiet
    {K : Type}
    (outcome : Outcome K)
    (node : HubNode K) : Prop where
  serial : responses outcome.serial = []
  can : ∀ sent ∈ outcome.can, sent.2.isCommand = false
  running :
    outcome.node.serialComm.runningTotalCommand =
      node.serialComm.runningTotalCommand

namespace HubNode

variable {K : Type} (union : FloatTo4Bytes K) (node : HubNode K)

/-- A discovery and its answer are quiet. -/
theorem quiet_sendPCDiscovery : node.sendPCDiscovery.Quiet node := by
  unfold sendPCDiscovery
  dsimp only
  split
  · exact ⟨rfl, by simp [CanMessage.isCommand], rfl⟩
  · exact ⟨rfl, by simp, rfl⟩

theorem quiet_discoveryAnswer
    [Zero K]
    (reading : BitVec 32) :
    (node.readCommand union discoveryAnswer reading).Quiet node := by
  have isDiscovery : discoveryAnswer.cmd = byteOf 'D' := rfl
  rw [readCommand, if_pos isDiscovery]
  unfold readDiscoveryAnswer
  dsimp only
  split
  · exact ⟨rfl, by simp, rfl⟩
  · exact
      ⟨responses_sendListNodesToPC node.glob,
        by simp [CanMessage.isCommand], rfl⟩

/-- Frames other than commands are quiet. -/
theorem quiet_received
    [Zero K] [Add K]
    {message : CanMessage}
    (noCommand : message.isCommand = false)
    (sender : Nat)
    (reading : BitVec 32) :
    (node.received union sender reading message).Quiet node := by
  cases message with
  | wakeupBroadcast => exact ⟨responses_announce _, nofun, rfl⟩
  | isHubNode => exact ⟨rfl, nofun, rfl⟩
  | noLongerIsHubNode =>
      refine ⟨rfl, nofun, ?_⟩
      unfold received
      dsimp only
      split <;> rfl
  | frequentData data0 data1 data2 data3 => exact ⟨rfl, nofun, rfl⟩
  | commandsRequest command => cases noCommand
  | commandsResponse value => cases noCommand
  | other => exact ⟨rfl, nofun, rfl⟩

end HubNode

namespace CanFrame

/-- A frame that is no command is not in the way of the reset. -/
theorem acknowledges_of_noCommand
    {frame : CanFrame}
    (noCommand : frame.message.isCommand = false)
    (hub : Nat) :
    frame.Acknowledges hub := by
  unfold Acknowledges
  cases isMessage : frame.message <;>
    simp_all [CanMessage.isCommand]

end CanFrame

namespace CommandNet

section Counts

variable {K Client : Type} {hub : Nat} {members : List Nat}
    {net : CommandNet K Client} {id : Nat} {outcome : Outcome K}

/-- A copy carries one of the messages that were sent. -/
theorem exists_of_mem_copies
    {sender : Nat}
    {can : List (Nat × CanMessage)}
    {frame : CanFrame}
    (member : frame ∈ copies members sender can) :
    ∃ sent ∈ can, frame.message = sent.2 := by
  obtain ⟨sent, isSent, member⟩ := List.mem_flatMap.mp member
  refine ⟨sent, isSent, ?_⟩
  split at member
  · obtain ⟨receiver, -, isFrame⟩ := List.mem_map.mp member
    rw [← isFrame]
  · rw [List.mem_singleton.mp member]

/-- Delivering a frame removes it from the frames on the way. -/
theorem perm_eraseIdx
    {frames : List CanFrame}
    {position : Nat}
    {frame : CanFrame}
    (isFrame : frames[position]? = some frame) :
    (frame :: frames.eraseIdx position).Perm frames := by
  obtain ⟨inRange, same⟩ := List.getElem?_eq_some_iff.mp isFrame
  rw [← same]
  exact List.getElem_cons_eraseIdx_perm inRange

/-- The acknowledgements on the way once a node has handled something. -/
theorem acksOnTheWay_absorb :
    (net.absorb hub members id outcome).acksOnTheWay =
      net.acksOnTheWay +
        ((if id = hub then (responses outcome.serial).length else 0) +
          (copies members id outcome.can).countP
            fun frame => frame.message.isCommand) := by
  unfold acksOnTheWay absorb
  dsimp only
  rw [List.countP_append]
  split
  · rw [responses_append, List.length_append]
    omega
  · omega

/-- A broadcast reaches all members but its sender. -/
theorem countP_broadcast
    (message : CanMessage)
    (isMember : id ∈ members)
    (distinct : members.Nodup)
    (isCommand : message.isCommand = true) :
    ((copies members id [(0, message)]).countP
        fun frame => frame.message.isCommand) + 1 =
      members.length := by
  have isErased :
      (members.filter fun other => other ≠ id) = members.erase id := by
    rw [distinct.erase_eq_filter]
    exact List.filter_congr fun other _ => by simp [bne, beq_eq_decide]
  have all :
      ∀ frame ∈ copies members id [(0, message)],
        frame.message.isCommand = true := by
    intro frame member
    obtain ⟨sent, isSent, isMessage⟩ := exists_of_mem_copies member
    rw [isMessage, List.mem_singleton.mp isSent]
    exact isCommand
  have copied :
      (copies members id [(0, message)]).length =
        (members.erase id).length := by
    rw [← isErased]
    simp [copies]
  rw [List.countP_eq_length.mpr all, copied,
    List.length_erase_of_mem isMember]
  exact Nat.sub_add_cancel (List.length_pos_of_mem isMember)

/-- A node that has handled something is the only one that changes. -/
theorem absorb_node_self :
    (net.absorb hub members id outcome).node id = outcome.node := by
  unfold absorb
  exact Function.update_self _ _ _

theorem absorb_node_other
    {other : Nat}
    (different : id ≠ other) :
    (net.absorb hub members id outcome).node other = net.node other := by
  unfold absorb
  exact Function.update_of_ne different.symm _ _

/-- The acknowledgements on the way without a frame that is delivered. -/
theorem acksOnTheWay_eraseIdx
    {position : Nat}
    {frame : CanFrame}
    (isFrame : net.frames[position]? = some frame) :
    (net.withFrames (net.frames.eraseIdx position)).acksOnTheWay +
        (if frame.message.isCommand then 1 else 0) =
      net.acksOnTheWay := by
  have counted :=
    (perm_eraseIdx isFrame).countP_eq fun frame => frame.message.isCommand
  rw [List.countP_cons] at counted
  show
    (responses net.toServer).length + List.countP _ _ + _ =
      (responses net.toServer).length + List.countP _ _
  rw [← counted, Nat.add_assoc]
  rfl

end Counts

namespace Channels

variable {K Client : Type} {hub : Nat} {members : List Nat}
    {net : CommandNet K Client} {id : Nat} {outcome : Outcome K}

/-- A quiet outcome keeps the channels and the count. -/
theorem absorb_quiet
    (channels : net.Channels hub)
    (members : List Nat)
    {id : Nat}
    {outcome : Outcome K}
    (quiet : outcome.Quiet (net.node id)) :
    (net.absorb hub members id outcome).Channels hub ∧
      (net.absorb hub members id outcome).acksOnTheWay =
        net.acksOnTheWay := by
  have noCopies :
      ∀ frame ∈ copies members id outcome.can,
        frame.message.isCommand = false := by
    intro frame member
    obtain ⟨sent, isSent, isMessage⟩ := exists_of_mem_copies member
    rw [isMessage]
    exact quiet.can sent isSent
  have noneCounted :
      ((copies members id outcome.can).countP
        fun frame => frame.message.isCommand) = 0 := by
    refine List.countP_eq_zero.mpr fun frame member => ?_
    rw [noCopies frame member]
    decide
  have sameResponses :
      responses (net.absorb hub members id outcome).toServer =
        responses net.toServer := by
    unfold absorb
    dsimp only
    split
    · rw [responses_append, quiet.serial, List.append_nil]
    · rfl
  constructor
  · exact
      { values := by rw [sameResponses]; exact channels.values
        frames := by
          intro frame member
          rcases List.mem_append.mp member with earlier | isNew
          · exact channels.frames frame earlier
          · exact CanFrame.acknowledges_of_noCommand (noCopies frame isNew) hub
        commands := channels.commands
        once := channels.once
        idle := by
          intro read
          have running := channels.idle read
          by_cases isHub : id = hub
          · subst isHub
            rw [absorb_node_self, quiet.running]
            exact running
          · rw [absorb_node_other isHub]
            exact running
        fresh := by
          intro waits
          show List.countP _ (net.frames ++ copies members id outcome.can) = 0
          rw [List.countP_append, noneCounted, channels.fresh waits] }
  · rw [acksOnTheWay_absorb, noneCounted, quiet.serial]
    simp

/-- Channels lose a frame that is no command. -/
theorem eraseIdx
    (channels : net.Channels hub)
    (position : Nat) :
    (net.withFrames (net.frames.eraseIdx position)).Channels hub where
  values := channels.values
  frames := fun frame member =>
    channels.frames frame (List.mem_of_mem_eraseIdx member)
  commands := channels.commands
  once := channels.once
  idle := channels.idle
  fresh := by
    intro waits
    have none := channels.fresh waits
    rw [List.countP_eq_zero] at none ⊢
    exact fun frame member => none frame (List.mem_of_mem_eraseIdx member)

/-- A command frame is delivered after the hub has read the reset. -/
theorem read_of_command
    (channels : net.Channels hub)
    {frame : CanFrame}
    (member : frame ∈ net.frames)
    (isCommand : frame.message.isCommand = true) :
    net.unread = 0 := by
  by_contra waits
  have none := channels.fresh (Nat.pos_of_ne_zero waits)
  exact List.countP_eq_zero.mp none frame member isCommand

/-- What a delivered command frame causes is on the way in its place. -/
theorem absorb_command
    (channels : net.Channels hub)
    {position : Nat}
    {frame : CanFrame}
    (isFrame : net.frames[position]? = some frame)
    (isCommand : frame.message.isCommand = true)
    (values :
      id = hub → ∀ value ∈ responses outcome.serial, value = 1)
    (acknowledges :
      ∀ copy ∈ copies members id outcome.can, copy.Acknowledges hub)
    (stopped :
      id = hub → outcome.node.serialComm.runningTotalCommand = false)
    (one :
      (if id = hub then (responses outcome.serial).length else 0) +
          (copies members id outcome.can).countP
            (fun frame => frame.message.isCommand) =
        1) :
    let after :=
      (net.withFrames (net.frames.eraseIdx position)).absorb hub members id
        outcome
    after.Channels hub ∧ after.acksOnTheWay = net.acksOnTheWay := by
  intro after
  have read :=
    channels.read_of_command (List.mem_of_getElem? isFrame) isCommand
  have fewer := channels.eraseIdx position
  constructor
  · exact
      { values := by
          intro value member
          by_cases isHub : id = hub
          · simp only [after, absorb, if_pos isHub, responses_append,
              List.mem_append] at member
            rcases member with earlier | isNew
            · exact channels.values value earlier
            · exact values isHub value isNew
          · simp only [after, absorb, if_neg isHub] at member
            exact channels.values value member
        frames := by
          intro other member
          rcases List.mem_append.mp member with earlier | isNew
          · exact fewer.frames other earlier
          · exact acknowledges other isNew
        commands := channels.commands
        once := channels.once
        idle := by
          intro _
          by_cases isHub : id = hub
          · have isStopped := stopped isHub
            subst isHub
            rw [absorb_node_self]
            exact isStopped
          · rw [absorb_node_other isHub]
            exact channels.idle read
        fresh := by
          intro waits
          exact absurd read (Nat.ne_of_gt waits) }
  · have erased := acksOnTheWay_eraseIdx isFrame
    rw [if_pos isCommand] at erased
    rw [acksOnTheWay_absorb, one, erased]

/-- A node executes the reset and acknowledges it to the hub. -/
theorem deliver_request
    [Zero K] [Add K]
    {union : FloatTo4Bytes K}
    (channels : net.Channels hub)
    (hubPositive : 0 < hub)
    {position : Nat}
    {frame : CanFrame}
    (isFrame : net.frames[position]? = some frame)
    {command : Command}
    (isRequest : frame.message = .commandsRequest command)
    (reading : BitVec 32) :
    let after :=
      (net.withFrames (net.frames.eraseIdx position)).absorb hub members
        frame.receiver
        ((net.node frame.receiver).received union frame.sender reading
          frame.message)
    after.Channels hub ∧ after.acksOnTheWay = net.acksOnTheWay := by
  have isCommand : frame.message.isCommand = true := by
    rw [isRequest]
    rfl
  have acknowledges := channels.frames frame (List.mem_of_getElem? isFrame)
  rw [CanFrame.Acknowledges, isRequest] at acknowledges
  obtain ⟨isReset, fromHub, notHub⟩ := acknowledges
  have isOutcome :
      (net.node frame.receiver).received union frame.sender reading
          frame.message =
        { node := (net.node frame.receiver).reset
          serial := (net.node frame.receiver).glob.resetGlob.announce
          can := [(hub, .commandsResponse 1)] } := by
    rw [isRequest, fromHub, HubNode.received,
      HubNode.executeCommand_of_reset _ _ isReset.1]
  have isCopies :
      copies members frame.receiver [(hub, .commandsResponse 1)] =
        [{ receiver := hub, sender := frame.receiver,
           message := .commandsResponse 1 }] := by
    simp [copies, Nat.ne_of_gt hubPositive]
  rw [isOutcome]
  apply channels.absorb_command isFrame isCommand
  · exact fun isHub => absurd isHub notHub
  · rw [isCopies]
    intro copy member
    rw [List.mem_singleton.mp member]
    exact ⟨rfl, rfl⟩
  · exact fun isHub => absurd isHub notHub
  · rw [isCopies, if_neg notHub]
    rfl

/-- The hub passes an acknowledgement on to the PC. -/
theorem deliver_response
    [Zero K] [Add K]
    {union : FloatTo4Bytes K}
    (channels : net.Channels hub)
    {position : Nat}
    {frame : CanFrame}
    (isFrame : net.frames[position]? = some frame)
    {value : BitVec 32}
    (isResponse : frame.message = .commandsResponse value)
    (reading : BitVec 32) :
    let after :=
      (net.withFrames (net.frames.eraseIdx position)).absorb hub members
        frame.receiver
        ((net.node frame.receiver).received union frame.sender reading
          frame.message)
    after.Channels hub ∧ after.acksOnTheWay = net.acksOnTheWay := by
  have member : frame ∈ net.frames := List.mem_of_getElem? isFrame
  have isCommand : frame.message.isCommand = true := by
    rw [isResponse]
    rfl
  have acknowledges := channels.frames frame member
  rw [CanFrame.Acknowledges, isResponse] at acknowledges
  obtain ⟨isOne, isHub⟩ := acknowledges
  have stopped := channels.idle (channels.read_of_command member isCommand)
  have isOutcome :
      (net.node frame.receiver).received union frame.sender reading
          frame.message =
        { node := net.node hub, serial := [.response 1], can := [] } := by
    rw [isResponse, isHub, isOne, HubNode.received,
      (HubNode.counting_zero stopped 0).response_of_zero]
  rw [isOutcome]
  apply channels.absorb_command isFrame isCommand
  · intro _ value member
    exact List.mem_singleton.mp member
  · exact nofun
  · exact fun _ => stopped
  · rw [if_pos isHub]
    rfl

/-- What the hub has read is no longer unread. -/
theorem unread_withCommands
    {command : Command}
    {later : List Command}
    (isCommands : net.toHub = command :: later) :
    net.unread =
      (net.withCommands later).unread + (if command.IsReset then 1 else 0) := by
  unfold unread withCommands
  rw [isCommands, List.countP_cons]
  simp

/-- The hub reads the reset, asks the other nodes and acknowledges it itself. -/
theorem read_reset
    [Zero K]
    {union : FloatTo4Bytes K}
    (channels : net.Channels hub)
    (keepsOne : union.value (union.floatValue 1) = 1)
    (isMember : hub ∈ members)
    (distinct : members.Nodup)
    {command : Command}
    {later : List Command}
    (isCommands : net.toHub = command :: later)
    (isReset : command.IsReset)
    (reading : BitVec 32) :
    let after :=
      (net.withCommands later).absorb hub members hub
        ((net.node hub).readCommand union command reading)
    after.Channels hub ∧
      after.outstanding members = net.outstanding members := by
  intro after
  have counted := unread_withCommands isCommands
  rw [if_pos isReset] at counted
  have once := channels.once
  have noneLeft : (net.withCommands later).unread = 0 := by omega
  have noFrames := channels.fresh (by omega)
  have notDiscovery : command.cmd ≠ byteOf 'D' := by
    rw [isReset.1]
    decide
  have isOutcome :
      (net.node hub).readCommand union command reading =
        { node := (net.node hub).reset.storeResult (union.floatValue 1)
          serial := (net.node hub).glob.resetGlob.announce ++ [.response 1]
          can := [(0, .commandsRequest command)] } := by
    rw [HubNode.readCommand, if_neg notDiscovery, if_pos isReset.2,
      HubNode.readTotalCommand_of_reset _ _ _ isReset.1, keepsOne]
  have others :=
    countP_broadcast (.commandsRequest command) isMember distinct rfl
  have isFrames :
      ∀ frame ∈ copies members hub [(0, .commandsRequest command)],
        frame.Acknowledges hub := by
    intro frame member
    simp only [copies, List.flatMap_cons, List.flatMap_nil, if_true,
      List.append_nil, List.mem_map, List.mem_filter] at member
    obtain ⟨receiver, ⟨-, different⟩, isFrame⟩ := member
    rw [← isFrame]
    exact ⟨isReset, rfl, of_decide_eq_true different⟩
  have isResponses :
      responses
          ((net.node hub).glob.resetGlob.announce ++ [.response 1]) =
        [1] := by
    rw [responses_append, responses_announce]
    rfl
  simp only [after, isOutcome]
  constructor
  · exact
      { values := by
          intro value member
          simp only [absorb, if_true, responses_append] at member
          rcases List.mem_append.mp member with earlier | isNew
          · exact channels.values value earlier
          · rw [← responses_append, isResponses] at isNew
            exact List.mem_singleton.mp isNew
        frames := by
          intro frame member
          rcases List.mem_append.mp member with earlier | isNew
          · exact channels.frames frame earlier
          · exact isFrames frame isNew
        commands := fun other member =>
          channels.commands other (by
            rw [isCommands]
            exact List.mem_cons_of_mem _ member)
        once := Nat.le_trans (Nat.le_of_eq noneLeft) (Nat.zero_le 1)
        idle := by
          intro _
          rw [absorb_node_self]
          rfl
        fresh := by
          intro waits
          exact absurd noneLeft (Nat.ne_of_gt waits) }
  · have sameAcks :
        (net.withCommands later).acksOnTheWay = net.acksOnTheWay :=
      rfl
    have isUnread :
        ((net.withCommands later).absorb hub members hub
          { node := (net.node hub).reset.storeResult (union.floatValue 1)
            serial :=
              (net.node hub).glob.resetGlob.announce ++ [.response 1]
            can := [(0, .commandsRequest command)] }).unread =
          0 :=
      noneLeft
    unfold outstanding
    rw [acksOnTheWay_absorb, isUnread, isResponses, if_pos rfl, sameAcks,
      counted, noneLeft]
    dsimp only
    rw [List.length_singleton, Nat.add_comm 1, others]
    omega

/-- The hub reads an answer to its discovery. -/
theorem read_discoveryAnswer
    [Zero K]
    {union : FloatTo4Bytes K}
    (channels : net.Channels hub)
    {later : List Command}
    (isCommands : net.toHub = discoveryAnswer :: later)
    (reading : BitVec 32) :
    let after :=
      (net.withCommands later).absorb hub members hub
        ((net.node hub).readCommand union discoveryAnswer reading)
    after.Channels hub ∧
      after.outstanding members = net.outstanding members := by
  intro after
  have notReset : ¬ discoveryAnswer.IsReset := by decide
  have counted := unread_withCommands isCommands
  rw [if_neg notReset, Nat.add_zero] at counted
  have fewer : (net.withCommands later).Channels hub :=
    { values := channels.values
      frames := channels.frames
      commands := fun other member =>
        channels.commands other (by
          rw [isCommands]
          exact List.mem_cons_of_mem _ member)
      once := counted ▸ channels.once
      idle := fun read => channels.idle (counted.trans read)
      fresh := fun waits => channels.fresh (counted ▸ waits) }
  obtain ⟨kept, sameAcks⟩ :=
    fewer.absorb_quiet members
      (HubNode.quiet_discoveryAnswer union (net.node hub) reading)
  have isAcks : after.acksOnTheWay = net.acksOnTheWay := sameAcks
  have isUnread : after.unread = net.unread := counted.symm
  refine ⟨kept, ?_⟩
  unfold outstanding
  rw [isAcks, isUnread]

/-- The channels do not depend on the server. -/
theorem withServer
    (channels : net.Channels hub)
    (server : CommandServer Client) :
    (net.withServer server).Channels hub where
  values := channels.values
  frames := channels.frames
  commands := channels.commands
  once := channels.once
  idle := channels.idle
  fresh := channels.fresh

/-- The PC takes a message that is no response from the line. -/
theorem dropMessage
    (channels : net.Channels hub)
    (members : List Nat)
    {message : Message}
    {later : List Message}
    (isMessages : net.toServer = message :: later)
    (noResponse : responses [message] = []) :
    (net.withMessages later).Channels hub ∧
      (net.withMessages later).outstanding members =
        net.outstanding members := by
  have same : responses net.toServer = responses later := by
    rw [isMessages, ← List.singleton_append, responses_append, noResponse,
      List.nil_append]
  constructor
  · exact
      { values := by
          intro value member
          apply channels.values
          rw [same]
          exact member
        frames := channels.frames
        commands := channels.commands
        once := channels.once
        idle := channels.idle
        fresh := channels.fresh }
  · unfold CommandNet.outstanding acksOnTheWay
    rw [same]
    rfl

/-- The PC answers a discovery. -/
theorem addAnswer
    (channels : net.Channels hub)
    (members : List Nat) :
    (net.withCommands (net.toHub ++ [discoveryAnswer])).Channels hub ∧
      (net.withCommands (net.toHub ++ [discoveryAnswer])).outstanding
          members =
        net.outstanding members := by
  have sameUnread :
      (net.withCommands (net.toHub ++ [discoveryAnswer])).unread =
        net.unread := by
    unfold unread withCommands
    dsimp only
    rw [List.countP_append]
    rfl
  constructor
  · exact
      { values := channels.values
        frames := channels.frames
        commands := by
          intro command member
          rcases List.mem_append.mp member with earlier | isNew
          · exact channels.commands command earlier
          · exact .inr (List.mem_singleton.mp isNew)
        once := sameUnread ▸ channels.once
        idle := fun read => channels.idle (sameUnread ▸ read)
        fresh := fun some => channels.fresh (sameUnread ▸ some) }
  · unfold CommandNet.outstanding
    rw [sameUnread]
    rfl

/-- What is quiet or takes the place of a command frame leaves the count. -/
theorem outstanding_absorb
    {start : CommandNet K Client}
    (isUnread : start.unread = net.unread)
    (sameAcks :
      (start.absorb hub members id outcome).acksOnTheWay =
        net.acksOnTheWay) :
    (start.absorb hub members id outcome).outstanding members =
      net.outstanding members := by
  have unread :
      (start.absorb hub members id outcome).unread = net.unread :=
    isUnread
  unfold outstanding
  rw [sameAcks, unread]

/-- Delivering a frame leaves the count, whatever the frame. -/
theorem deliver
    [Zero K] [Add K]
    (channels : net.Channels hub)
    (members : List Nat)
    (union : FloatTo4Bytes K)
    (hubPositive : 0 < hub)
    {position : Nat}
    {frame : CanFrame}
    (isFrame : net.frames[position]? = some frame)
    (reading : BitVec 32) :
    let after :=
      (net.withFrames (net.frames.eraseIdx position)).absorb hub members
        frame.receiver
        ((net.node frame.receiver).received union frame.sender reading
          frame.message)
    after.Channels hub ∧ after.acksOnTheWay = net.acksOnTheWay := by
  cases isCommand : frame.message.isCommand with
  | false =>
      have fewer := channels.eraseIdx position
      obtain ⟨kept, sameAcks⟩ :=
        fewer.absorb_quiet members
          (HubNode.quiet_received union (net.node frame.receiver) isCommand
            frame.sender reading)
      have erased := acksOnTheWay_eraseIdx isFrame
      rw [isCommand] at erased
      exact ⟨kept, sameAcks.trans erased⟩
  | true =>
      cases isMessage : frame.message with
      | commandsRequest command =>
          rw [← isMessage]
          exact channels.deliver_request hubPositive isFrame isMessage reading
      | commandsResponse value =>
          rw [← isMessage]
          exact channels.deliver_response isFrame isMessage reading
      | wakeupBroadcast => rw [isMessage] at isCommand; cases isCommand
      | isHubNode => rw [isMessage] at isCommand; cases isCommand
      | noLongerIsHubNode => rw [isMessage] at isCommand; cases isCommand
      | frequentData data0 data1 data2 data3 =>
          rw [isMessage] at isCommand
          cases isCommand
      | other => rw [isMessage] at isCommand; cases isCommand

/-- Every step of the hub and the nodes keeps the channels and the count. -/
theorem step
    [Zero K] [Add K] [DecidableEq Client]
    {union : FloatTo4Bytes K}
    {after : CommandNet K Client}
    (channels : net.Channels hub)
    (keepsOne : union.value (union.floatValue 1) = 1)
    (hubPositive : 0 < hub)
    (isMember : hub ∈ members)
    (distinct : members.Nodup)
    {action : NetAction Client}
    (ofNodes : action.OfNodes)
    (taken : net.next hub members union action = some after) :
    after.server = net.server ∧
      after.Channels hub ∧
      after.outstanding members = net.outstanding members := by
  cases action with
  | readSerial reading =>
      unfold next at taken
      cases isCommands : net.toHub with
      | nil =>
          rw [isCommands] at taken
          cases taken
      | cons command later =>
          rw [isCommands] at taken
          obtain ⟨⟩ := taken
          rcases channels.commands command (by rw [isCommands]; simp) with
              isReset | isAnswer
          · exact
              ⟨rfl,
                channels.read_reset keepsOne isMember distinct isCommands
                  isReset reading⟩
          · subst isAnswer
            exact ⟨rfl, channels.read_discoveryAnswer isCommands reading⟩
  | discovery id =>
      obtain ⟨⟩ := taken
      obtain ⟨kept, sameAcks⟩ :=
        channels.absorb_quiet members (net.node id).quiet_sendPCDiscovery
      exact ⟨rfl, kept, outstanding_absorb rfl sameAcks⟩
  | deliver position reading =>
      obtain ⟨frame, isFrame, taken⟩ := Option.bind_eq_some_iff.mp taken
      obtain ⟨outcome, handled, isAfter⟩ := Option.map_eq_some_iff.mp taken
      simp only [HubNode.handle] at handled
      split at handled
      · cases handled
      · obtain ⟨⟩ := handled
        obtain ⟨kept, sameAcks⟩ :=
          channels.deliver members union hubPositive isFrame reading
        subst isAfter
        exact ⟨rfl, kept, outstanding_absorb rfl sameAcks⟩
  | other receiver sender message =>
      simp only [next] at taken
      split at taken
      · cases taken
      · rename_i noCommand
        obtain ⟨outcome, handled, isAfter⟩ := Option.map_eq_some_iff.mp taken
        simp only [HubNode.handle] at handled
        split at handled
        · cases handled
        · obtain ⟨⟩ := handled
          obtain ⟨kept, sameAcks⟩ :=
            channels.absorb_quiet members
              (HubNode.quiet_received union (net.node receiver)
                (Bool.eq_false_iff.mpr noCommand) sender 0)
          subst isAfter
          exact ⟨rfl, kept, outstanding_absorb rfl sameAcks⟩
  | readServer => exact absurd ofNodes not_false
  | push command client => exact absurd ofNodes not_false

end Channels

/-- The PC waits for the acknowledgements of the reset at the front of its queue. -/
structure Waits
    {K Client : Type}
    (hub : Nat)
    (members : List Nat)
    (element : CommandQueueElement Client)
    (net : CommandNet K Client) : Prop where
  channels : net.Channels hub
  numbered : net.server.Numbered
  front : net.server.commandsQueue.head? = some element
  expected : net.server.expectedNumberOfResetACK = members.length
  counted :
    net.server.numberOfResetACKReceived + net.outstanding members =
      members.length
  missing : net.server.numberOfResetACKReceived < members.length

/-- The PC has removed the reset, and no acknowledgement is on the way. -/
structure Done
    {K Client : Type}
    (element : CommandQueueElement Client)
    (net : CommandNet K Client) : Prop where
  removed : element ∉ net.server.commandsQueue
  noSurplus : net.acksOnTheWay = 0

namespace Waits

variable {K Client : Type} {hub : Nat} {members : List Nat}
    {element : CommandQueueElement Client} {net after : CommandNet K Client}

/-- The PC handles a message that is no response. -/
theorem congr
    (waits : net.Waits hub members element)
    (channels : after.Channels hub)
    (numbered : after.server.Numbered)
    (front :
      after.server.commandsQueue.head? = net.server.commandsQueue.head?)
    (expected :
      after.server.expectedNumberOfResetACK =
        net.server.expectedNumberOfResetACK)
    (received :
      after.server.numberOfResetACKReceived =
        net.server.numberOfResetACKReceived)
    (outstanding : after.outstanding members = net.outstanding members) :
    after.Waits hub members element where
  channels := channels
  numbered := numbered
  front := front.trans waits.front
  expected := expected.trans waits.expected
  counted := by rw [received, outstanding]; exact waits.counted
  missing := received ▸ waits.missing

/-- Some acknowledgement is still outstanding. -/
theorem outstanding_pos (waits : net.Waits hub members element) :
    0 < net.outstanding members := by
  have counted := waits.counted
  have missing := waits.missing
  omega

/-- The PC has received one more acknowledgement. -/
theorem acknowledged_iff
    (waits : net.Waits hub members element) :
    (net.server.countACK 1).acknowledged = true ↔
      net.outstanding members = 1 := by
  have counted := waits.counted
  have positive := waits.outstanding_pos
  have isCount :
      (net.server.countACK 1).acknowledged = true ↔
        net.server.expectedNumberOfResetACK ≤
          net.server.numberOfResetACKReceived + 1 := by
    simp [CommandServer.acknowledged, CommandServer.countACK]
  rw [isCount, waits.expected]
  omega

/-- The reset stands before the other commands. -/
theorem queue
    (waits : net.Waits hub members element) :
    ∃ rest, net.server.commandsQueue = element :: rest :=
  List.head?_eq_some_iff.mp waits.front

/-- The reset is removed by the last acknowledgement that is outstanding. -/
theorem removes_iff
    (waits : net.Waits hub members element)
    (isReset : element.command.IsReset) :
    net.server.Removes 1 ↔ net.outstanding members = 1 := by
  rw [← waits.acknowledged_iff]
  unfold CommandServer.Removes
  obtain ⟨rest, isQueue⟩ := waits.queue
  rw [isQueue]
  exact ⟨fun removes => removes isReset.1, fun all _ => all⟩

/-- The handler of a response that removes nothing, and of one that removes the front. -/
theorem perform_response_of_none
    [DecidableEq Client]
    (net : CommandNet K Client)
    {value : BitVec 32}
    {server : CommandServer Client}
    (answered :
      net.server.receivedCommandResponse value = (server, none)) :
    net.perform (.response value) = net.serve (server, none) := by
  simp [perform, answered]

theorem perform_response_of_some
    [DecidableEq Client]
    (net : CommandNet K Client)
    {value : BitVec 32}
    {server : CommandServer Client}
    {front : CommandQueueElement Client}
    (answered :
      net.server.receivedCommandResponse value = (server, some front)) :
    net.perform (.response value) =
      net.serve server.executeNextInCommandQueue := by
  simp [perform, answered]

/-- A handler that writes nothing leaves the serial line alone. -/
theorem serve_none (server : CommandServer Client) :
    net.serve (server, none) = net.withServer server := by
  simp [serve, withServer]

/-- Receiving an acknowledgement leaves one less outstanding. -/
theorem outstanding_withMessages
    (members : List Nat)
    {value : BitVec 32}
    {later : List Message}
    (isMessages : net.toServer = .response value :: later) :
    (net.withMessages later).outstanding members + 1 =
      net.outstanding members := by
  have isResponses :
      responses net.toServer = value :: responses later := by
    rw [isMessages]
    rfl
  have isUnread : (net.withMessages later).unread = net.unread := rfl
  unfold CommandNet.outstanding
  rw [isUnread]
  unfold acksOnTheWay withMessages
  rw [isResponses, List.length_cons]
  dsimp only
  omega

/-- The last acknowledgement removes the reset, and none is on the way any more. -/
theorem response_of_last
    [DecidableEq Client]
    (waits : net.Waits hub members element)
    (isReset : element.command.IsReset)
    {later : List Message}
    (isMessages : net.toServer = .response 1 :: later)
    (acknowledged : (net.server.countACK 1).acknowledged = true) :
    ((net.withMessages later).perform (.response 1)).Done element := by
  obtain ⟨rest, isQueue⟩ := waits.queue
  have answered :=
    CommandServer.receivedCommandResponse_of_reset isQueue isReset.1 1
  rw [if_pos acknowledged] at answered
  have isAfter :
      (net.withMessages later).perform (.response 1) =
        (net.withMessages later).serve
          ((net.server.countACK 1).withQueue
            rest).executeNextInCommandQueue :=
    perform_response_of_some (net.withMessages later) answered
  have suffix :=
    ((net.server.countACK 1).withQueue rest).executeNextInCommandQueue_spec.1
  rw [isAfter]
  constructor
  · intro member
    have behind :=
      waits.numbered.front_lt isQueue element (suffix.subset member)
    exact Nat.lt_irrefl _ behind
  · show (net.withMessages later).acksOnTheWay = 0
    have one := waits.acknowledged_iff.mp acknowledged
    have fewer := outstanding_withMessages members isMessages
    unfold CommandNet.outstanding at one fewer
    omega

/-- An acknowledgement before the last one is counted, and the reset stays. -/
theorem response_of_not_last
    [DecidableEq Client]
    (waits : net.Waits hub members element)
    (isReset : element.command.IsReset)
    {later : List Message}
    (isMessages : net.toServer = .response 1 :: later)
    (notAcknowledged : ¬ (net.server.countACK 1).acknowledged = true) :
    ((net.withMessages later).perform (.response 1)).Waits hub members
      element := by
  obtain ⟨rest, isQueue⟩ := waits.queue
  have answered :=
    CommandServer.receivedCommandResponse_of_reset isQueue isReset.1 1
  rw [if_neg notAcknowledged] at answered
  have isAfter :
      (net.withMessages later).perform (.response 1) =
        (net.withMessages later).withServer (net.server.countACK 1) :=
    (perform_response_of_none (net.withMessages later) answered).trans
      (serve_none _)
  have isCount :
      (net.server.countACK 1).numberOfResetACKReceived =
        net.server.numberOfResetACKReceived + 1 := by
    rw [CommandServer.countACK, if_pos rfl]
  have notLast := mt waits.acknowledged_iff.mpr notAcknowledged
  have fewer := outstanding_withMessages members isMessages
  have counted := waits.counted
  have positive := waits.outstanding_pos
  rw [isAfter]
  refine
    { channels := ?_
      numbered := waits.numbered.of_suffix (List.suffix_refl _) rfl
      front := waits.front
      expected := waits.expected
      counted := ?_
      missing := ?_ }
  · exact
      { values := fun value member =>
          waits.channels.values value <| by
            rw [isMessages]
            exact List.mem_cons_of_mem _ member
        frames := waits.channels.frames
        commands := waits.channels.commands
        once := waits.channels.once
        idle := waits.channels.idle
        fresh := waits.channels.fresh }
  · show
      (net.server.countACK 1).numberOfResetACKReceived +
          (net.withMessages later).outstanding members =
        members.length
    rw [isCount]
    omega
  · show
      (net.server.countACK 1).numberOfResetACKReceived < members.length
    rw [isCount]
    omega

/-- The PC receives an acknowledgement. -/
theorem response
    [DecidableEq Client]
    (waits : net.Waits hub members element)
    (isReset : element.command.IsReset)
    {value : BitVec 32}
    {later : List Message}
    (isMessages : net.toServer = .response value :: later) :
    let after := (net.withMessages later).perform (.response value)
    after.Waits hub members element ∨ after.Done element := by
  intro after
  have isOne : value = 1 := by
    apply waits.channels.values
    rw [isMessages]
    exact List.mem_cons_self
  subst isOne
  by_cases acknowledged : (net.server.countACK 1).acknowledged = true
  · exact .inr (waits.response_of_last isReset isMessages acknowledged)
  · exact .inl (waits.response_of_not_last isReset isMessages acknowledged)

/-- The PC receives any other message. -/
theorem message
    [DecidableEq Client]
    (waits : net.Waits hub members element)
    {message : Message}
    {later : List Message}
    (isMessages : net.toServer = message :: later)
    (noResponse : responses [message] = []) :
    ((net.withMessages later).perform message).Waits hub members element := by
  obtain ⟨channels, outstanding⟩ :=
    waits.channels.dropMessage members isMessages noResponse
  cases message with
  | response value => cases noResponse
  | frequentData node value16b pwm =>
      exact waits.congr channels waits.numbered rfl rfl rfl outstanding
  | pcDiscovery =>
      obtain ⟨answered, sameOutstanding⟩ :=
        channels.addAnswer members
      exact
        waits.congr answered waits.numbered rfl rfl rfl
          (sameOutstanding.trans outstanding)
  | listNodes nodesList fits =>
      have isServed :
          (net.withMessages later).perform (.listNodes nodesList fits) =
            (net.withMessages later).withServer
              { net.server with nodeIds := nodesList.map BitVec.toNat } :=
        serve_none _
      rw [isServed]
      exact
        waits.congr (channels.withServer _)
          (waits.numbered.of_suffix (List.suffix_refl _) rfl) rfl rfl rfl
          outstanding

/-- A command that is pushed meanwhile waits behind the reset. -/
theorem push
    [DecidableEq Client]
    (waits : net.Waits hub members element)
    (command : Command)
    (client : Option Client) :
    (net.serve (net.server.addCommandToQueue command client)).Waits hub
      members element := by
  have some : net.server.commandsQueue ≠ [] := by
    intro isEmpty
    have front := waits.front
    rw [isEmpty] at front
    cases front
  rw [CommandServer.addCommandToQueue_of_nonempty some, serve_none]
  exact
    waits.congr (waits.channels.withServer _)
      (waits.numbered.push command client)
      (CommandServer.push_head some command client) rfl rfl rfl

end Waits

/-- No command is outstanding: nothing is queued, and no answer is on the way. -/
structure Idle
    {K Client : Type}
    (net : CommandNet K Client) : Prop where
  queue : net.server.commandsQueue = []
  commands : ∀ command ∈ net.toHub, command = discoveryAnswer
  messages : responses net.toServer = []
  frames : ∀ frame ∈ net.frames, frame.message.isCommand = false

/--
Every acknowledgement has the value 1.  As long as the reset is queued, the PC
has received all of them but the outstanding ones, and somebody can go on; the last
one removes the reset, and leaves none for the next command.
-/
structure Handshake
    {K Client : Type}
    [Zero K] [Add K] [DecidableEq Client]
    (union : FloatTo4Bytes K)
    (hub : Nat)
    (members : List Nat)
    (element : CommandQueueElement Client)
    (net : CommandNet K Client) : Prop where
  values : ∀ value ∈ responses net.toServer, value = 1
  counted :
    element ∈ net.server.commandsQueue →
      0 < net.outstanding members ∧
        net.server.numberOfResetACKReceived + net.outstanding members =
          members.length
  last :
    element ∈ net.server.commandsQueue →
    ∀ value later,
      net.toServer = .response value :: later →
      (net.server.Removes value ↔ net.outstanding members = 1)
  goesOn :
    element ∈ net.server.commandsQueue →
    ∃ action after,
      action.Takes ∧ net.next hub members union action = some after
  noSurplus :
    element ∉ net.server.commandsQueue → net.acksOnTheWay = 0

section Issue

variable {K Client : Type} {hub : Nat} {members : List Nat}
    {net : CommandNet K Client}

/-- Then no command is on the bus. -/
theorem Idle.countP_frames (idle : net.Idle) :
    (net.frames.countP fun frame => frame.message.isCommand) = 0 := by
  refine List.countP_eq_zero.mpr fun frame member => ?_
  rw [idle.frames frame member]
  decide

/-- Then the hub has no reset to read. -/
theorem Idle.unread_eq_zero (idle : net.Idle) : net.unread = 0 := by
  refine List.countP_eq_zero.mpr fun other member => ?_
  rw [idle.commands other member]
  decide

/-- Then the numbering of the queue is sound for want of commands. -/
theorem Idle.numbered (idle : net.Idle) : net.server.Numbered where
  ascending := by
    rw [idle.queue]
    exact .nil
  pushed := by
    rw [idle.queue]
    exact fun _ member => absurd member List.not_mem_nil

variable [DecidableEq Client]

/-- The PC issues the reset while no command is outstanding. -/
theorem Idle.issued
    {command : Command}
    {client : Option Client}
    (idle : net.Idle)
    (nodeIds : net.server.nodeIds.length = members.length)
    (isMember : hub ∈ members)
    (isReset : command.IsReset)
    (connected :
      net.server.clientGone
          { number := net.server.pushes
            command := command
            client := client } =
        false) :
    (net.serve (net.server.addCommandToQueue command client)).Waits hub
      members
      { number := net.server.pushes, command := command, client := client } := by
  let element : CommandQueueElement Client :=
    { number := net.server.pushes, command := command, client := client }
  have isQueue :
      (net.server.push command client).commandsQueue = [element] := by
    simp [CommandServer.push, idle.queue, element]
  have isServed :
      net.server.addCommandToQueue command client =
        ((net.server.push command client).expectACKs element,
          some element) := by
    rw [CommandServer.addCommandToQueue_of_empty idle.queue,
      CommandServer.executeNextInCommandQueue_eq,
      CommandServer.executeNextSection_of_connected isQueue connected]
  have expects :
      (net.server.push command client).expectACKs element =
        { net.server.push command client with
          numberOfResetACKReceived := 0
          expectedNumberOfResetACK := net.server.nodeIds.length } :=
    if_pos isReset.1
  rw [isServed]
  have isUnread :
      (net.serve
          ((net.server.push command client).expectACKs element,
            some element)).unread =
        1 := by
    show List.countP _ (net.toHub ++ [command]) = 1
    have none : List.countP _ net.toHub = 0 := idle.unread_eq_zero
    rw [List.countP_append, none]
    simp [isReset]
  have isAcks :
      (net.serve
          ((net.server.push command client).expectACKs element,
            some element)).acksOnTheWay =
        0 := by
    show (responses net.toServer).length + List.countP _ net.frames = 0
    rw [idle.messages, idle.countP_frames]
    rfl
  have someMember := List.length_pos_of_mem isMember
  exact
    { channels :=
        { values := by
            show ∀ value ∈ responses net.toServer, value = 1
            rw [idle.messages]
            exact fun _ member => absurd member List.not_mem_nil
          frames := fun frame member =>
            CanFrame.acknowledges_of_noCommand (idle.frames frame member) hub
          commands := by
            intro other member
            rcases List.mem_append.mp member with earlier | isNew
            · exact .inr (idle.commands other earlier)
            · rw [List.mem_singleton.mp isNew]
              exact .inl isReset
          once := Nat.le_of_eq isUnread
          idle := by
            intro none
            rw [isUnread] at none
            cases none
          fresh := fun _ => idle.countP_frames }
      numbered :=
        (idle.numbered.push command client).of_suffix
          (by
            show ((net.server.push command client).expectACKs
              element).commandsQueue <:+ _
            rw [CommandServer.expectACKs_commandsQueue])
          (CommandServer.expectACKs_pushes _ _)
      front := by
        show ((net.server.push command client).expectACKs
          element).commandsQueue.head? = _
        rw [CommandServer.expectACKs_commandsQueue, isQueue]
        rfl
      expected := by
        show ((net.server.push command client).expectACKs
          element).expectedNumberOfResetACK = _
        rw [expects]
        exact nodeIds
      counted := by
        show ((net.server.push command client).expectACKs
          element).numberOfResetACKReceived + _ = _
        rw [outstanding, isUnread, isAcks, expects]
        simp
      missing := by
        show ((net.server.push command client).expectACKs
          element).numberOfResetACKReceived < _
        rw [expects]
        exact someMember }

end Issue

section Runs

variable {K Client : Type} [Zero K] [Add K] [DecidableEq Client]
    {union : FloatTo4Bytes K} {hub : Nat} {members : List Nat}
    {element : CommandQueueElement Client} {net after : CommandNet K Client}

/-- As long as an acknowledgement is outstanding, somebody can go on. -/
theorem exists_takes (positive : 0 < net.outstanding members) :
    ∃ action after,
      action.Takes ∧ net.next hub members union action = some after := by
  cases isCommands : net.toHub with
  | cons command later =>
      refine
        ⟨.readSerial 0,
          (net.withCommands later).absorb hub members hub
            ((net.node hub).readCommand union command 0),
          trivial, ?_⟩
      rw [next, isCommands]
      rfl
  | nil =>
      cases isMessages : net.toServer with
      | cons message later =>
          refine
            ⟨.readServer, (net.withMessages later).perform message, trivial,
              ?_⟩
          rw [next, isMessages]
      | nil =>
          have isFrames :
              0 < net.frames.countP fun frame => frame.message.isCommand := by
            simpa [outstanding, acksOnTheWay, unread, isCommands, isMessages,
              responses] using positive
          obtain ⟨frame, member, isCommand⟩ := List.countP_pos_iff.mp isFrames
          obtain ⟨position, inRange, isFrame⟩ := List.mem_iff_getElem.mp member
          have found : net.frames[position]? = some frame := by
            rw [List.getElem?_eq_getElem inRange, isFrame]
          have noWakeup : frame.message ≠ .wakeupBroadcast := by
            intro isWakeup
            rw [isWakeup] at isCommand
            cases isCommand
          refine
            ⟨.deliver position 0,
              (net.withFrames (net.frames.eraseIdx position)).absorb hub
                members frame.receiver
                ((net.node frame.receiver).received union frame.sender 0
                  frame.message),
              trivial, ?_⟩
          rw [next, found, Option.bind_some, handleAt, HubNode.handle,
            if_neg fun wakeup => noWakeup wakeup.1, Option.map_some]
          rfl

/-- The handshake while the PC waits. -/
theorem Waits.handshake
    (waits : net.Waits hub members element)
    (isReset : element.command.IsReset) :
    net.Handshake union hub members element where
  values := waits.channels.values
  counted := fun _ => ⟨waits.outstanding_pos, waits.counted⟩
  last := by
    intro _ value later isMessages
    have isOne : value = 1 := by
      apply waits.channels.values
      rw [isMessages]
      exact List.mem_cons_self
    rw [isOne]
    exact waits.removes_iff isReset
  goesOn := fun _ => exists_takes waits.outstanding_pos
  noSurplus := fun removed =>
    absurd (List.mem_of_mem_head? waits.front) removed

/-- The handshake once the reset has been removed. -/
theorem Done.handshake (done : net.Done element) :
    net.Handshake union hub members element where
  values := by
    have none : responses net.toServer = [] := by
      apply List.eq_nil_of_length_eq_zero
      have noSurplus := done.noSurplus
      unfold acksOnTheWay at noSurplus
      omega
    rw [none]
    nofun
  counted := fun queued => absurd queued done.removed
  last := fun queued => absurd queued done.removed
  goesOn := fun queued => absurd queued done.removed
  noSurplus := fun _ => done.noSurplus

/-- Every step keeps the PC waiting, or completes the handshake. -/
theorem Waits.step
    (waits : net.Waits hub members element)
    (keepsOne : union.value (union.floatValue 1) = 1)
    (hubPositive : 0 < hub)
    (isMember : hub ∈ members)
    (distinct : members.Nodup)
    (isReset : element.command.IsReset)
    {action : NetAction Client}
    (taken : net.next hub members union action = some after) :
    after.Waits hub members element ∨ after.Done element := by
  have ofNodes :
      action.OfNodes → after.Waits hub members element := by
    intro ofNodes
    obtain ⟨sameServer, channels, outstanding⟩ :=
      waits.channels.step keepsOne hubPositive isMember distinct ofNodes taken
    exact
      waits.congr channels (sameServer ▸ waits.numbered)
        (by rw [sameServer]) (by rw [sameServer]) (by rw [sameServer])
        outstanding
  cases action with
  | readSerial reading => exact .inl (ofNodes trivial)
  | discovery id => exact .inl (ofNodes trivial)
  | deliver position reading => exact .inl (ofNodes trivial)
  | other receiver sender message => exact .inl (ofNodes trivial)
  | push command client =>
      obtain ⟨⟩ := taken
      exact .inl (waits.push command client)
  | readServer =>
      unfold next at taken
      cases isMessages : net.toServer with
      | nil =>
          rw [isMessages] at taken
          cases taken
      | cons message later =>
          rw [isMessages] at taken
          obtain ⟨⟩ := taken
          cases message with
          | response value => exact waits.response isReset isMessages
          | frequentData node value16b pwm =>
              exact .inl (waits.message isMessages rfl)
          | pcDiscovery => exact .inl (waits.message isMessages rfl)
          | listNodes nodesList fits =>
              exact .inl (waits.message isMessages rfl)

/--
The PC issues a reset to as many nodes as it knows of, in whatever state earlier
commands have left the hub.  Then in every run up to the removal of the reset the
hub and the nodes send one acknowledgement each.
-/
theorem handshake_of_run
    {before : CommandNet K Client}
    {command : Command}
    {client : Option Client}
    (keepsOne : union.value (union.floatValue 1) = 1)
    (hubPositive : 0 < hub)
    (isMember : hub ∈ members)
    (distinct : members.Nodup)
    (idle : before.Idle)
    (nodeIds : before.server.nodeIds.length = members.length)
    (isReset : command.IsReset)
    (isElement :
      element =
        { number := before.server.pushes
          command := command
          client := client })
    (connected : before.server.clientGone element = false)
    (run :
      Run (next hub members union)
        (fun net _ => element ∈ net.server.commandsQueue)
        (before.serve (before.server.addCommandToQueue command client))
        net) :
    net.Handshake union hub members element := by
  have elementIsReset : element.command.IsReset := by
    rw [isElement]
    exact isReset
  have reached : net.Waits hub members element ∨ net.Done element := by
    refine
      run.invariant
        (fun net => net.Waits hub members element ∨ net.Done element)
        (.inl ?_) ?_
    · subst isElement
      exact idle.issued nodeIds isMember isReset connected
    · intro earlier later action reached queued taken
      rcases reached with waits | done
      · exact
          waits.step keepsOne hubPositive isMember distinct elementIsReset
            taken
      · exact absurd queued done.removed
  rcases reached with waits | done
  · exact waits.handshake elementIsReset
  · exact done.handshake

section Examples

/-- Three nodes, with a total command of hub 1 that was never completed. -/
def abandoned : CommandNet Int Nat where
  server := { CommandServer.started with nodeIds := [1, 2, 3] }
  toHub := []
  toServer := []
  node := fun id =>
    { glob := .boot id 1
      serialComm :=
        { numNodesWaitingResult := 2
          runningTotalCommand := true
          totalCommandResult := 7
          pcDiscoveryHadResponse := false } }
  frames := []

/-- The command `r` with its type 0. -/
def resetCommand : Command where
  cmd := byteOf 'r'
  destination := 0
  value := 0

/--
The nodes answer while they register each other again, the later one first, and the
PC has removed the reset at the end.
-/
theorem handshake_three_nodes :
    ∃ net : CommandNet Int Nat,
      Run (next 1 [1, 2, 3] singlePrecision)
          (fun net _ =>
            { number := 0, command := resetCommand, client := none } ∈
              net.server.commandsQueue)
          (abandoned.serve
            (abandoned.server.addCommandToQueue resetCommand none))
          net ∧
        net.server.commandsQueue = [] ∧
        net.Handshake singlePrecision 1 [1, 2, 3]
          { number := 0, command := resetCommand, client := none } := by
  obtain ⟨net, run, observed⟩ :=
    exists_run_of_observed
      (next 1 [1, 2, 3] singlePrecision)
      (fun net _ =>
        { number := 0, command := resetCommand, client := none } ∈
          net.server.commandsQueue)
      (abandoned.serve
        (abandoned.server.addCommandToQueue resetCommand none))
      [.readSerial 0, .deliver 1 0, .other 1 3 .wakeupBroadcast,
        .deliver 0 0, .deliver 0 0, .deliver 0 0, .readServer, .readServer,
        .readServer, .readServer, .readServer]
      (fun net => decide (net.server.commandsQueue = []))
      (by decide +kernel)
  rw [decide_eq_true_eq] at observed
  refine ⟨net, run, observed, ?_⟩
  exact
    handshake_of_run (by decide +kernel) (by decide) (by decide) (by decide)
      { queue := rfl
        commands := fun _ member => absurd member List.not_mem_nil
        messages := rfl
        frames := fun _ member => absurd member List.not_mem_nil }
      rfl (by decide) rfl rfl run

end Examples

end Runs

end CommandNet

end DistributedLighting
