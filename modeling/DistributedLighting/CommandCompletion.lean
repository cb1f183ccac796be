import DistributedLighting.CommandSession

namespace DistributedLighting

/-!
# Every command of a session is answered

Each step of the hub, of a node or of the PC takes something that is on the way and
puts less in its place.  Left alone, a session comes to its end after boundedly many of
these steps, in whatever order, and then the PC waits for nothing any more.
-/

/-- How many further steps a frame can cause, with its own delivery. -/
def CanMessage.work : CanMessage → Nat
  | .commandsRequest _ => 3
  | .commandsResponse _ => 2
  | .frequentData _ _ _ _ => 2
  | _ => 1

/-- A command is read, executed everywhere and answered. -/
def commandWork (members : List Nat) : Nat :=
  3 * members.length + 2

/-- A message is handled; the answer to a discovery is a command. -/
def Message.work (members : List Nat) : Message → Nat
  | .pcDiscovery => commandWork members + 1
  | _ => 1

/-- The steps that the frames on the bus can cause. -/
def framesWork (frames : List CanFrame) : Nat :=
  (frames.map fun frame => frame.message.work).sum

/-- The steps that the messages to the PC can cause. -/
def messagesWork
    (members : List Nat)
    (messages : List Message) : Nat :=
  (messages.map (Message.work members)).sum

namespace CommandNet

variable {K Client : Type}

/--
The steps that are left: for what is on the way, and for the commands that wait behind
the one that has been written.
-/
def work
    (members : List Nat)
    (net : CommandNet K Client) : Nat :=
  net.toHub.length * commandWork members +
    framesWork net.frames +
    messagesWork members net.toServer +
    (net.server.commandsQueue.length - 1) * commandWork members

end CommandNet

section Sums

variable (members : List Nat) (id : Nat)

theorem framesWork_append (first second : List CanFrame) :
    framesWork (first ++ second) = framesWork first + framesWork second := by
  unfold framesWork
  rw [List.map_append, List.sum_append]

theorem messagesWork_append (first second : List Message) :
    messagesWork members (first ++ second) =
      messagesWork members first + messagesWork members second := by
  unfold messagesWork
  rw [List.map_append, List.sum_append]

/-- The work for a delivered frame and for the others. -/
theorem framesWork_eraseIdx
    {frames : List CanFrame}
    {position : Nat}
    {frame : CanFrame}
    (isFrame : frames[position]? = some frame) :
    framesWork frames =
      frame.message.work + framesWork (frames.eraseIdx position) := by
  have summed :=
    ((CommandNet.perm_eraseIdx isFrame).map
      fun frame => frame.message.work).sum_eq
  rw [List.map_cons, List.sum_cons] at summed
  exact summed.symm

/-- A broadcast costs at most one delivery for every member. -/
theorem framesWork_broadcast_le (message : CanMessage) :
    framesWork (CommandNet.copies members id [(0, message)]) ≤
      members.length * message.work := by
  have bound :
      ((members.filter fun other => other ≠ id).map
          fun _ => message.work).sum ≤
        members.length * message.work := by
    rw [List.map_const', List.sum_replicate, smul_eq_mul]
    exact Nat.mul_le_mul_right _ (List.length_filter_le _ _)
  simpa [framesWork, CommandNet.copies, Function.comp_def] using bound

/-- A frame for one node costs one delivery. -/
theorem framesWork_single
    {receiver : Nat}
    (single : receiver ≠ 0)
    (message : CanMessage) :
    framesWork (CommandNet.copies members id [(receiver, message)]) =
      message.work := by
  simp [framesWork, CommandNet.copies, single]

/-- The list of the nodes is one message. -/
theorem messagesWork_sendListNodesToPC_le (glob : Glob) :
    messagesWork members glob.sendListNodesToPC ≤ 1 := by
  unfold Glob.sendListNodesToPC
  split
  · exact Nat.le_refl 1
  · exact Nat.zero_le 1

theorem messagesWork_sendTotal_le
    {K : Type}
    (union : FloatTo4Bytes K)
    (node : HubNode K) :
    messagesWork members
        (node.sendTotalIfAllValueForTotalReceived union).2 ≤
      1 := by
  unfold HubNode.sendTotalIfAllValueForTotalReceived
  split
  · exact Nat.le_refl 1
  · exact Nat.zero_le 1

end Sums

/-- What a handler causes: its frames, and its messages if it is the hub's. -/
def Outcome.work
    {K : Type}
    (hub : Nat)
    (members : List Nat)
    (id : Nat)
    (outcome : Outcome K) : Nat :=
  framesWork (CommandNet.copies members id outcome.can) +
    if id = hub then messagesWork members outcome.serial else 0

namespace HubNode

variable {K : Type} [Zero K] {hub id : Nat} {members : List Nat}
    (union : FloatTo4Bytes K) (node : HubNode K)

/-- A command causes fewer steps than are reserved for it. -/
theorem work_readCommand
    (isMember : hub ∈ members)
    {command : Command}
    (kept : command.cmd ≠ byteOf 'r')
    (reading : BitVec 32) :
    (node.readCommand union command reading).work hub members hub <
      commandWork members := by
  have positive : 0 < members.length := List.length_pos_of_mem isMember
  unfold Outcome.work commandWork
  rw [if_pos rfl]
  unfold readCommand
  split
  · unfold readDiscoveryAnswer
    dsimp only
    split
    · show 0 + 0 < _
      omega
    · have listed :=
        messagesWork_sendListNodesToPC_le members node.glob
      have frames :=
        framesWork_broadcast_le members hub .isHubNode
      rw [show CanMessage.isHubNode.work = 1 from rfl] at frames
      show
        framesWork (CommandNet.copies members hub [(0, .isHubNode)]) +
            messagesWork members node.glob.sendListNodesToPC <
          _
      omega
  · split
    · have frames :=
        framesWork_broadcast_le members hub (.commandsRequest command)
      have total :=
        messagesWork_sendTotal_le members union
          (node.countNodes.storeResult
            (union.floatValue (commandResult command reading)))
      rw [show (CanMessage.commandsRequest command).work = 3 from rfl]
        at frames
      rw [node.readTotalCommand_of_kept union reading kept]
      dsimp only
      omega
    · rw [node.executeCommand_of_kept reading kept]
      split
      · show 0 + 1 < _
        omega
      · split
        · rename_i single _ _
          have notAll : command.destination.toNat ≠ 0 := fun zero =>
            single (BitVec.eq_of_toNat_eq zero)
          dsimp only
          rw [framesWork_single members hub notAll]
          show 3 + 0 < _
          omega
        · show 0 + 0 < _
          omega

/-- A frame causes less than it was worth. -/
theorem work_received
    [Add K]
    (hubPositive : 0 < hub)
    {message : CanMessage}
    (noWakeup : message ≠ .wakeupBroadcast)
    (kept :
      ∀ command,
        message = .commandsRequest command → command.cmd ≠ byteOf 'r')
    {sender : Nat}
    (fromHub : ∀ command, message = .commandsRequest command → sender = hub)
    (reading : BitVec 32) :
    (node.received union sender reading message).work hub members id <
      message.work := by
  unfold Outcome.work
  cases message with
  | wakeupBroadcast => exact absurd rfl noWakeup
  | isHubNode => simp [received, framesWork, messagesWork, CommandNet.copies,
      CanMessage.work]
  | noLongerIsHubNode => simp [received, framesWork, messagesWork,
      CommandNet.copies, CanMessage.work]
  | other => simp [received, framesWork, messagesWork, CommandNet.copies,
      CanMessage.work]
  | frequentData data0 data1 data2 data3 =>
      have one :
          (if id = hub then
              messagesWork members
                [.frequentData data0 (joinBytes data2 data1) data3]
            else 0) ≤ 1 := by
        split
        · exact Nat.le_refl 1
        · exact Nat.zero_le 1
      rw [received]
      dsimp only
      show 0 + _ < 2
      omega
  | commandsRequest command =>
      rw [received, node.executeCommand_of_kept reading (kept command rfl),
        fromHub command rfl]
      dsimp only
      rw [framesWork_single members id (Nat.ne_of_gt hubPositive)]
      show 2 + (if id = hub then 0 else 0) < 3
      rw [ite_self]
      omega
  | commandsResponse value =>
      have one :
          messagesWork members
              (node.receivedCommandResponseFromCAN union value).2 ≤
            1 := by
        unfold receivedCommandResponseFromCAN
        split
        · exact Nat.le_refl 1
        · exact messagesWork_sendTotal_le members union _
      rw [received]
      dsimp only
      show 0 + _ < 2
      split
      · omega
      · exact Nat.succ_pos 1

end HubNode

namespace CommandNet

variable {K Client : Type} {hub id : Nat} (members : List Nat)
    {net : CommandNet K Client}

/-- What a handler causes is added to what is left. -/
theorem work_absorb (outcome : Outcome K) :
    (net.absorb hub members id outcome).work members =
      net.work members + outcome.work hub members id := by
  have frames :
      framesWork (net.absorb hub members id outcome).frames =
        framesWork net.frames +
          framesWork (copies members id outcome.can) :=
    framesWork_append _ _
  have messages :
      messagesWork members (net.absorb hub members id outcome).toServer =
        messagesWork members net.toServer +
          if id = hub then messagesWork members outcome.serial else 0 := by
    unfold absorb
    dsimp only
    split
    · exact messagesWork_append members _ _
    · rfl
  unfold work Outcome.work
  rw [frames, messages]
  show
    net.toHub.length * commandWork members + _ + _ +
        (net.server.commandsQueue.length - 1) * commandWork members =
      _
  omega

/-- What the hub reads is no longer left. -/
theorem work_withCommands
    {command : Command}
    {later : List Command}
    (isCommands : net.toHub = command :: later) :
    (net.withCommands later).work members + commandWork members =
      net.work members := by
  unfold work withCommands
  rw [isCommands, List.length_cons, Nat.succ_mul]
  dsimp only
  omega

theorem work_withFrames
    {position : Nat}
    {frame : CanFrame}
    (isFrame : net.frames[position]? = some frame) :
    (net.withFrames (net.frames.eraseIdx position)).work members +
        frame.message.work =
      net.work members := by
  unfold work withFrames
  rw [framesWork_eraseIdx isFrame]
  dsimp only
  omega

theorem work_withMessages
    {message : Message}
    {later : List Message}
    (isMessages : net.toServer = message :: later) :
    (net.withMessages later).work members + message.work members =
      net.work members := by
  unfold work withMessages messagesWork
  rw [isMessages, List.map_cons, List.sum_cons]
  dsimp only
  omega

/-- The next command was waiting before it is written. -/
theorem work_serve_le
    [DecidableEq Client]
    (net : CommandNet K Client)
    (server : CommandServer Client) :
    (net.serve server.executeNextInCommandQueue).work members ≤
      (net.withServer { server with commandsQueue := [] }).work members +
        server.commandsQueue.length * commandWork members := by
  obtain ⟨suffix, isWritten, -⟩ := server.executeNextInCommandQueue_spec
  have shorter := suffix.length_le
  unfold work serve withServer
  dsimp only
  rw [List.length_append, List.length_map]
  cases isQueue : server.executeNextInCommandQueue.1.commandsQueue with
  | nil =>
      rw [isQueue] at isWritten
      rw [← isWritten]
      simp
  | cons front rest =>
      rw [isQueue] at isWritten shorter
      rw [← isWritten]
      have within :
          (rest.length + 1) * commandWork members ≤
            server.commandsQueue.length * commandWork members :=
        Nat.mul_le_mul_right _ shorter
      rw [Nat.succ_mul] at within
      simp only [List.head?_cons, Option.toList_some, List.length_cons,
        Nat.add_sub_cancel, Nat.add_mul, Nat.one_mul,
        List.length_nil, Nat.zero_sub, Nat.zero_mul]
      omega

end CommandNet

namespace CommandSession

variable {K Client : Type} [DecidableEq Client] [Zero K] [Add K]
    {union : FloatTo4Bytes K} {hub : Nat} {members : List Nat}
    {session : CommandSession K Client}

/-- The hub, a node or the PC takes what is on the way to it. -/
def Takes (_ : CommandSession K Client) : SessionAction Client → Prop
  | .net action => action.Takes
  | _ => False

instance
    (session : CommandSession K Client) :
    (action : SessionAction Client) → Decidable (session.Takes action)
  | .net (.readSerial _) => isTrue trivial
  | .net (.deliver _ _) => isTrue trivial
  | .net .readServer => isTrue trivial
  | .net (.discovery _) => isFalse not_false
  | .net (.other _ _ _) => isFalse not_false
  | .net (.push _ _) => isFalse not_false
  | .commandTimedOut => isFalse not_false
  | .accept _ => isFalse not_false
  | .removeClientSession _ => isFalse not_false

omit [Zero K] in
/-- The PC handles a message. -/
theorem Proceeds.work_perform_lt
    (proceeds : session.Proceeds union hub members)
    {message : Message}
    {later : List Message}
    (isMessages : session.net.toServer = message :: later) :
    ((session.net.withMessages later).perform message).work members <
      session.net.work members := by
  have before := CommandNet.work_withMessages members isMessages
  cases message with
  | frequentData data0 illuminance data3 =>
      rw [show (Message.frequentData data0 illuminance data3).work members = 1
        from rfl] at before
      show (session.net.withMessages later).work members < _
      omega
  | listNodes nodesList fits =>
      rw [show (Message.listNodes nodesList fits).work members = 1 from rfl]
        at before
      have same :
          ((session.net.withMessages later).perform
              (.listNodes nodesList fits)).work members =
            (session.net.withMessages later).work members := by
        simp [CommandNet.perform, CommandNet.serve, CommandNet.work]
      omega
  | pcDiscovery =>
      rw [show Message.pcDiscovery.work members = commandWork members + 1
        from rfl] at before
      have more :
          ((session.net.withMessages later).perform .pcDiscovery).work
              members =
            (session.net.withMessages later).work members +
              commandWork members := by
        simp only [CommandNet.perform, CommandNet.withCommands,
          CommandNet.work, List.length_append, List.length_singleton,
          Nat.succ_mul]
        omega
      omega
  | response value =>
      rw [show (Message.response value).work members = 1 from rfl] at before
      obtain ⟨-, front, rest, isQueue, -⟩ :=
        proceeds.stage.of_response isMessages
      have kept : front.command.cmd ≠ byteOf 'r' :=
        (proceeds.pushable front (by rw [isQueue]; exact List.mem_cons_self)).1
      have isNet :=
        CommandNet.perform_response_of_kept later isQueue kept value
      have served :=
        CommandNet.work_serve_le members (session.net.withMessages later)
          (session.net.server.withQueue rest)
      have same :
          ((session.net.withMessages later).withServer
                { session.net.server.withQueue rest with
                  commandsQueue := [] }).work members +
              rest.length * commandWork members =
            (session.net.withMessages later).work members := by
        unfold CommandNet.work CommandNet.withServer CommandNet.withMessages
        dsimp only
        rw [isQueue]
        simp
      rw [isNet]
      rw [CommandServer.withQueue_commandsQueue, same] at served
      omega

/-- Taking a command, a frame or a message leaves less to do. -/
theorem Proceeds.work_lt
    (proceeds : session.Proceeds union hub members)
    (hubPositive : 0 < hub)
    (isMember : hub ∈ members)
    {action : NetAction Client}
    (takes : action.Takes)
    {net : CommandNet K Client}
    (taken : session.net.next hub members union action = some net) :
    net.work members < session.net.work members := by
  cases action with
  | discovery id => cases takes
  | other receiver sender message => cases takes
  | push command client => cases takes
  | readSerial reading =>
      unfold CommandNet.next at taken
      cases isCommands : session.net.toHub with
      | nil =>
          rw [isCommands] at taken
          cases taken
      | cons command later =>
          rw [isCommands] at taken
          obtain ⟨⟩ := taken
          have kept := proceeds.kept_of_unread isCommands
          have less :=
            (session.net.node hub).work_readCommand union isMember kept
              reading
          have before :=
            CommandNet.work_withCommands members isCommands
          rw [CommandNet.work_absorb]
          show _ + ((session.net.node hub).readCommand _ _ _).work _ _ _ < _
          omega
  | deliver position reading =>
      obtain ⟨frame, isFrame, taken⟩ := Option.bind_eq_some_iff.mp taken
      obtain ⟨outcome, handled, isAfter⟩ := Option.map_eq_some_iff.mp taken
      have noWakeup :=
        proceeds.steady.noWakeup frame (List.mem_of_getElem? isFrame)
      simp only [HubNode.handle, noWakeup, false_and, if_false,
        Option.some.injEq] at handled
      have asked :
          ∀ command,
            frame.message = .commandsRequest command →
              frame.sender = hub ∧ command.cmd ≠ byteOf 'r' := by
        intro command isRequest
        have isCommand : frame.message.isCommand = true := by
          rw [isRequest]
          rfl
        obtain ⟨fromHub, isFront, -⟩ :=
          proceeds.stage.deliver_request
            (CommandNet.perm_commandFrames isFrame isCommand) isRequest
            reading
        exact ⟨fromHub, (proceeds.kept_front isFront).1⟩
      have less :
          ((session.net.node frame.receiver).received union frame.sender
              reading frame.message).work hub members frame.receiver <
            frame.message.work :=
        (session.net.node frame.receiver).work_received union hubPositive
          noWakeup
          (fun command isRequest => (asked command isRequest).2)
          (fun command isRequest => (asked command isRequest).1) reading
      have before :=
        CommandNet.work_withFrames members isFrame
      subst handled isAfter
      rw [CommandNet.work_absorb]
      show _ + ((session.net.node frame.receiver).received _ _ _ _).work _ _ _ < _
      omega
  | readServer =>
      unfold CommandNet.next at taken
      cases isMessages : session.net.toServer with
      | nil =>
          rw [isMessages] at taken
          cases taken
      | cons message later =>
          rw [isMessages] at taken
          obtain ⟨⟩ := taken
          exact proceeds.work_perform_lt isMessages

end CommandSession

namespace CommandSession

variable {K Client : Type} [DecidableEq Client] [Zero K] [Add K]
    {union : FloatTo4Bytes K} {hub : Nat} {members : List Nat}
    {start session : CommandSession K Client}

/-- Nobody has anything to take. -/
def Stuck
    (union : FloatTo4Bytes K)
    (hub : Nat)
    (members : List Nat)
    (session : CommandSession K Client) : Prop :=
  ∀ action, session.Takes action → session.next hub members union action = none

/-- When nobody has anything to take, nothing is on the way. -/
theorem Proceeds.empty_of_stuck
    (proceeds : session.Proceeds union hub members)
    (stuck : session.Stuck union hub members) :
    session.net.toHub = [] ∧
      session.net.frames = [] ∧
      session.net.toServer = [] := by
  refine ⟨?_, ?_, ?_⟩
  · have none := Option.map_eq_none_iff.mp (stuck (.net (.readSerial 0)) trivial)
    unfold CommandNet.next at none
    cases isCommands : session.net.toHub with
    | nil => rfl
    | cons command later =>
        rw [isCommands] at none
        cases none
  · have none := Option.map_eq_none_iff.mp (stuck (.net (.deliver 0 0)) trivial)
    cases isFrames : session.net.frames with
    | nil => rfl
    | cons frame later =>
        have noWakeup :=
          proceeds.steady.noWakeup frame (by rw [isFrames]; simp)
        simp [CommandNet.next, isFrames, CommandNet.handleAt, HubNode.handle,
          noWakeup] at none
  · have none := Option.map_eq_none_iff.mp (stuck (.net .readServer) trivial)
    unfold CommandNet.next at none
    cases isMessages : session.net.toServer with
    | nil => rfl
    | cons message later =>
        rw [isMessages] at none
        cases none

/-- Then the PC does not wait for a command that the hub can pass on. -/
theorem Proceeds.queue_of_stuck
    (proceeds : session.Proceeds union hub members)
    (known :
      ∀ element ∈ session.net.server.commandsQueue,
        element.command.destination = 0 ∨
          element.command.destination.toNat ∈ members)
    (stuck : session.Stuck union hub members) :
    session.net.server.commandsQueue = [] := by
  obtain ⟨noCommands, noFrames, noMessages⟩ := proceeds.empty_of_stuck stuck
  have isCommands : session.net.unreadCommands = [] := by
    rw [CommandNet.unreadCommands, noCommands]
    rfl
  have isFrames : session.net.commandFrames = [] := by
    rw [CommandNet.commandFrames, noFrames]
    rfl
  have isMessages : responses session.net.toServer = [] := by
    rw [noMessages]
    rfl
  have stage := proceeds.stage
  unfold CommandNet.AtStage at stage
  rw [isCommands, isFrames, isMessages] at stage
  cases isQueue : session.net.server.commandsQueue with
  | nil => rfl
  | cons front rest =>
      have isFront : session.net.front? = some front.command := by
        rw [CommandNet.front?, isQueue]
        rfl
      rw [isFront] at stage
      generalize session.executions = executions at stage
      cases stage with
      | collecting toAll ownId onBus order places same counting missing =>
          have none := onBus.length_eq
          rw [List.length_nil, List.length_append, List.length_map,
            List.length_map] at none
          omega
      | dropped stopped single unknown =>
          rcases known front (by rw [isQueue]; exact List.mem_cons_self) with
              toAll | isMember
          · exact absurd toAll single
          · exact absurd isMember unknown

/-- Whoever takes something pushes nothing. -/
theorem pushed_of_takes
    {action : SessionAction Client}
    (takes : session.Takes action)
    {after : CommandSession K Client}
    (taken : session.next hub members union action = some after) :
    after.pushed = session.pushed := by
  cases action with
  | commandTimedOut => cases takes
  | accept client => cases takes
  | removeClientSession client => cases takes
  | net action =>
      obtain ⟨net, -, isAfter⟩ := Option.map_eq_some_iff.mp taken
      subst isAfter
      unfold record
      split
      · cases action with
        | push command client => cases takes
        | readSerial reading => exact List.append_nil _
        | discovery id => exact List.append_nil _
        | deliver position reading => exact List.append_nil _
        | other receiver sender message => exact List.append_nil _
        | readServer => exact List.append_nil _
      · rfl

/--
However a session is left alone, with whatever is taken first, it ends after no more
steps than are left to do.  If besides all commands were for nodes that the hub knows,
each has then been answered, or its client is gone.
-/
theorem completes_of_run
    (hubPositive : 0 < hub)
    (isMember : hub ∈ members)
    (distinct : members.Nodup)
    (few : members.length ≤ 256)
    (opens : start.Opens hub members)
    (run : Run (next hub members union) Ordinary start session)
    {schedule : List (SessionAction Client)}
    {after : CommandSession K Client}
    (leftAlone :
      runSchedule (next hub members union) Takes session schedule =
        some after) :
    schedule.length ≤ session.net.work members ∧
      ((∀ element ∈ session.pushed,
          element.command.destination = 0 ∨
            element.command.destination.toNat ∈ members) →
        after.Stuck union hub members →
        after.net.server.commandsQueue = [] ∧
          ∀ element ∈ session.pushed,
            element ∈ after.answers.map (·.element) ∨
              after.net.server.clientGone element = true) := by
  have proceeds :=
    proceeds_of_run hubPositive isMember distinct few opens run
  obtain ⟨⟨proceedsAfter, samePushed⟩, within⟩ :=
    length_le_of_runSchedule
      (fun later =>
        later.Proceeds union hub members ∧ later.pushed = session.pushed)
      (fun later => later.net.work members)
      (by
        intro before later action held takes taken
        obtain ⟨proceeds, same⟩ := held
        have sameLater := (pushed_of_takes takes taken).trans same
        cases action with
        | commandTimedOut => cases takes
        | accept client => cases takes
        | removeClientSession client => cases takes
        | net action =>
            have ordinary : before.Ordinary (.net action) := by
              cases action <;> trivial
            have proceedsLater :=
              proceeds.step hubPositive isMember distinct few ordinary taken
            refine ⟨⟨proceedsLater, sameLater⟩, ?_⟩
            obtain ⟨net, isNext, isLater⟩ :=
              Option.map_eq_some_iff.mp taken
            have isNet : later.net = net := by
              rw [← isLater]
              unfold record
              split <;> rfl
            rw [isNet]
            exact proceeds.work_lt hubPositive isMember takes isNext)
      ⟨proceeds, rfl⟩ leftAlone
  refine ⟨by omega, fun known stuck => ?_⟩
  have accounted := proceedsAfter.serves.accounted
  rw [samePushed] at accounted
  have isEmpty : after.net.server.commandsQueue = [] := by
    refine proceedsAfter.queue_of_stuck (fun element member => ?_) stuck
    have queued :=
      proceedsAfter.serves.ordered.subset (List.mem_append_right _ member)
    rw [samePushed] at queued
    exact known element queued
  refine ⟨isEmpty, fun element member => ?_⟩
  rcases accounted element member with isAnswered | queued | gone
  · exact .inl isAnswered
  · rw [isEmpty] at queued
    cases queued
  · exact .inr gone

section Examples

/-- Two clients have pushed a command each, and nothing has been read yet. -/
def pushTwo : List (SessionAction Nat) :=
  [.net (.push (getFrom 0) (some 7)), .net (.push (getFrom 5) (some 8))]

/-- Everything is taken, with the later frame first. -/
def takeAll : List (SessionAction Nat) :=
  [.net (.readSerial oneF), .net (.deliver 1 threeF), .net (.deliver 1 0),
    .net (.deliver 0 twoF), .net (.deliver 0 0), .net .readServer,
    .net (.readSerial oneF), .net (.deliver 0 threeF), .net (.deliver 0 0),
    .net .readServer]

/-- A session of two commands is over after ten steps. -/
theorem completes_of_run_office :
    ∃ session after : CommandSession Int Nat,
      Run (next 2 [1, 2, 5] singlePrecision) Ordinary office session ∧
        runSchedule (next 2 [1, 2, 5] singlePrecision) Takes session
            takeAll =
          some after ∧
        after.answers.length = 2 ∧
        takeAll.length ≤ session.net.work [1, 2, 5] ∧
        (after.Stuck singlePrecision 2 [1, 2, 5] →
          after.net.server.commandsQueue = [] ∧
            ∀ element ∈ session.pushed,
              element ∈ after.answers.map (·.element) ∨
                after.net.server.clientGone element = true) := by
  obtain ⟨session, run, observed⟩ :=
    exists_run_of_observed
      (next 2 [1, 2, 5] singlePrecision)
      Ordinary
      office
      pushTwo
      (fun session =>
        decide
            (∀ element ∈ session.pushed,
              element.command.destination = 0 ∨
                element.command.destination.toNat ∈ [1, 2, 5]) &&
          (runSchedule (next 2 [1, 2, 5] singlePrecision) Takes session
            takeAll).any
            fun after : CommandSession Int Nat =>
              decide (after.answers.length = 2))
      (by decide +kernel)
  rw [Bool.and_eq_true, decide_eq_true_eq] at observed
  obtain ⟨known, completed⟩ := observed
  obtain ⟨after, leftAlone, answers⟩ :=
    (Option.any_eq_true _ _).mp completed
  have completes :=
    completes_of_run (by decide) (by decide) (by decide) (by decide)
      opens_office run leftAlone
  exact
    ⟨session, after, run, leftAlone, of_decide_eq_true answers, completes.1,
      completes.2 known⟩

end Examples

end CommandSession

end DistributedLighting
