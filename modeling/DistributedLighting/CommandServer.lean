import DistributedLighting.HubCommands

namespace DistributedLighting

/-!
# The command queue of the PC

The server writes one command at a time and keeps it at the front of
`commandsQueue` until it has been answered or has timed out.  The emptiness of the
queue and the next command to write are looked at in separate critical sections,
which are the steps of this module.
-/

/-- `CommandQueueElement`; `number` is its place in the order of the pushes. -/
structure CommandQueueElement (Client : Type) where
  number : Nat
  command : Command
  /-- The null pointer stands for the console of the server itself. -/
  client : Option Client
  deriving DecidableEq

/-- The members of `Server` that take part in commands. -/
structure CommandServer (Client : Type) where
  commandsQueue : List (CommandQueueElement Client)
  clientSessions : List Client
  nodeIds : List Nat
  expectedNumberOfResetACK : Nat
  numberOfResetACKReceived : Nat
  /-- How many commands have been pushed since the server was started. -/
  pushes : Nat

/-- What one critical section of `executeNextInCommandQueue` does. -/
inductive ExecuteNext (Client : Type) where
  | nothing
  /-- The client is gone: its command is removed and the next one is executed. -/
  | skipped
  | written (element : CommandQueueElement Client)

namespace CommandServer

variable {Client : Type} [DecidableEq Client]

/-- The server with another queue. -/
def withQueue
    (server : CommandServer Client)
    (queue : List (CommandQueueElement Client)) : CommandServer Client :=
  { server with commandsQueue := queue }

/-- `commandsQueue.push` in `addCommandToQueue` -/
def push
    (server : CommandServer Client)
    (command : Command)
    (client : Option Client) : CommandServer Client :=
  { server with
    commandsQueue :=
      server.commandsQueue ++
        [{ number := server.pushes, command := command, client := client }]
    pushes := server.pushes + 1 }

/-- `clientNoLongerConnected && !isServer` -/
def clientGone
    (server : CommandServer Client)
    (element : CommandQueueElement Client) : Bool :=
  match element.client with
  | none => false
  | some client => !server.clientSessions.contains client

/-- Before a reset is written, its acknowledgements are counted from zero. -/
def expectACKs
    (server : CommandServer Client)
    (element : CommandQueueElement Client) : CommandServer Client :=
  if element.command.cmd = byteOf 'r' then
    { server with
      numberOfResetACKReceived := 0
      expectedNumberOfResetACK := server.nodeIds.length }
  else
    server

/-- One critical section of `executeNextInCommandQueue`. -/
def executeNextSection
    (server : CommandServer Client) :
    CommandServer Client × ExecuteNext Client :=
  match server.commandsQueue with
  | [] => (server, .nothing)
  | element :: rest =>
      if server.clientGone element then
        (server.withQueue rest, .skipped)
      else
        (server.expectACKs element, .written element)

/-- `executeNextInCommandQueue` from a given rest of the queue on. -/
def executeNextFrom (server : CommandServer Client) :
    List (CommandQueueElement Client) →
      CommandServer Client × Option (CommandQueueElement Client)
  | [] => (server.withQueue [], none)
  | element :: rest =>
      if server.clientGone element then
        server.executeNextFrom rest
      else
        ((server.withQueue (element :: rest)).expectACKs element, some element)

/-- `executeNextInCommandQueue` as a whole, with the command that it writes. -/
def executeNextInCommandQueue
    (server : CommandServer Client) :
    CommandServer Client × Option (CommandQueueElement Client) :=
  server.executeNextFrom server.commandsQueue

/-- `addCommandToQueue` as a whole, with the command that it writes. -/
def addCommandToQueue
    (server : CommandServer Client)
    (command : Command)
    (client : Option Client) :
    CommandServer Client × Option (CommandQueueElement Client) :=
  let pushed := server.push command client
  if pushed.commandsQueue.length = 1 then
    pushed.executeNextInCommandQueue
  else
    (pushed, none)

/-- `numberOfResetACKReceived++` for the value 1 -/
def countACK
    (server : CommandServer Client)
    (value : BitVec 32) : CommandServer Client :=
  { server with
    numberOfResetACKReceived :=
      if value = 1 then
        server.numberOfResetACKReceived + 1
      else
        server.numberOfResetACKReceived }

/-- The acknowledgements of all nodes have arrived. -/
def acknowledged (server : CommandServer Client) : Bool :=
  server.expectedNumberOfResetACK ≤ server.numberOfResetACKReceived

/--
The critical section of `receivedCommandResponse`: the command whose response it
prints and which it removes, if any.
-/
def receivedCommandResponse
    (server : CommandServer Client)
    (value : BitVec 32) :
    CommandServer Client × Option (CommandQueueElement Client) :=
  match server.commandsQueue with
  | [] => (server, none)
  | element :: rest =>
      if element.command.cmd = byteOf 'r' then
        if (server.countACK value).acknowledged then
          ((server.countACK value).withQueue rest, some element)
        else
          (server.countACK value, none)
      else
        (server.withQueue rest, some element)

/-- The front has been answered, and a reset by all nodes. -/
def Removes
    (server : CommandServer Client)
    (value : BitVec 32) : Prop :=
  match server.commandsQueue with
  | [] => False
  | front :: _ =>
      front.command.cmd = byteOf 'r' →
      (server.countACK value).acknowledged = true

instance (server : CommandServer Client) (value : BitVec 32) :
    Decidable (server.Removes value) :=
  match isQueue : server.commandsQueue with
  | [] => isFalse (by rw [Removes, isQueue]; exact not_false)
  | front :: _ =>
      decidable_of_iff
        (front.command.cmd = byteOf 'r' →
          (server.countACK value).acknowledged = true)
        (by rw [Removes, isQueue])

/--
The critical section of `commandTimedOut`, with the command that it removes.
Removing from an empty queue is undefined.
-/
def commandTimedOut
    (server : CommandServer Client) :
    Option (CommandServer Client × CommandQueueElement Client) :=
  match server.commandsQueue with
  | [] => none
  | element :: rest => some (server.withQueue rest, element)

end CommandServer

namespace CommandServer

variable {Client : Type}

@[simp]
theorem withQueue_commandsQueue
    (server : CommandServer Client)
    (queue : List (CommandQueueElement Client)) :
    (server.withQueue queue).commandsQueue = queue :=
  rfl

@[simp]
theorem withQueue_self (server : CommandServer Client) :
    server.withQueue server.commandsQueue = server :=
  rfl

@[simp]
theorem expectACKs_commandsQueue
    (server : CommandServer Client)
    (element : CommandQueueElement Client) :
    (server.expectACKs element).commandsQueue = server.commandsQueue := by
  unfold expectACKs
  split <;> rfl

@[simp]
theorem expectACKs_pushes
    (server : CommandServer Client)
    (element : CommandQueueElement Client) :
    (server.expectACKs element).pushes = server.pushes := by
  unfold expectACKs
  split <;> rfl

@[simp]
theorem withQueue_pushes
    (server : CommandServer Client)
    (queue : List (CommandQueueElement Client)) :
    (server.withQueue queue).pushes = server.pushes :=
  rfl

/-- A push leaves the front where it is. -/
theorem push_head
    {server : CommandServer Client}
    (some : server.commandsQueue ≠ [])
    (command : Command)
    (client : Option Client) :
    (server.push command client).commandsQueue.head? =
      server.commandsQueue.head? := by
  cases isQueue : server.commandsQueue with
  | nil => exact absurd isQueue some
  | cons front rest => simp [push, isQueue]

/-- A response removes the front, or leaves the queue as it is. -/
theorem receivedCommandResponse_cases
    (server : CommandServer Client)
    (value : BitVec 32) :
    (server.receivedCommandResponse value).1.pushes = server.pushes ∧
      ((server.receivedCommandResponse value).2 = none ∧
          (server.receivedCommandResponse value).1.commandsQueue =
            server.commandsQueue ∨
        ∃ element rest,
          server.commandsQueue = element :: rest ∧
            (server.receivedCommandResponse value).2 = some element ∧
            (server.receivedCommandResponse value).1.commandsQueue =
              rest) := by
  unfold receivedCommandResponse
  cases isQueue : server.commandsQueue with
  | nil => exact ⟨rfl, .inl ⟨rfl, isQueue⟩⟩
  | cons element rest =>
      dsimp only
      split
      · split
        · exact ⟨rfl, .inr ⟨element, rest, rfl, rfl, rfl⟩⟩
        · exact ⟨rfl, .inl ⟨rfl, isQueue⟩⟩
      · exact ⟨rfl, .inr ⟨element, rest, rfl, rfl, rfl⟩⟩

/-- A response to a reset is counted, and the last one removes the reset. -/
theorem receivedCommandResponse_of_reset
    {server : CommandServer Client}
    {element : CommandQueueElement Client}
    {rest : List (CommandQueueElement Client)}
    (isQueue : server.commandsQueue = element :: rest)
    (isReset : element.command.cmd = byteOf 'r')
    (value : BitVec 32) :
    server.receivedCommandResponse value =
      if (server.countACK value).acknowledged then
        ((server.countACK value).withQueue rest, some element)
      else
        (server.countACK value, none) := by
  rw [receivedCommandResponse, isQueue]
  dsimp only
  rw [if_pos isReset]

/-- A response removes a command exactly when the front has been answered. -/
theorem isSome_receivedCommandResponse_iff
    (server : CommandServer Client)
    (value : BitVec 32) :
    (server.receivedCommandResponse value).2.isSome = true ↔
      server.Removes value := by
  unfold receivedCommandResponse Removes
  cases server.commandsQueue with
  | nil => simp
  | cons front rest =>
      dsimp only
      split_ifs <;> simp_all

/-- The queued commands are numbered in the order of the pushes. -/
structure Numbered (server : CommandServer Client) : Prop where
  ascending :
    server.commandsQueue.Pairwise fun earlier later =>
      earlier.number < later.number
  pushed :
    ∀ element ∈ server.commandsQueue, element.number < server.pushes

namespace Numbered

variable {server after : CommandServer Client}

/-- Removing commands from the front keeps the order. -/
theorem of_suffix
    (numbered : server.Numbered)
    (suffix : after.commandsQueue <:+ server.commandsQueue)
    (pushes : after.pushes = server.pushes) :
    after.Numbered where
  ascending := numbered.ascending.sublist suffix.sublist
  pushed := by
    intro element member
    rw [pushes]
    exact numbered.pushed element (suffix.subset member)

/-- A new command has the greatest number. -/
theorem push
    (numbered : server.Numbered)
    (command : Command)
    (client : Option Client) :
    (server.push command client).Numbered where
  ascending := by
    refine List.pairwise_append.mpr
      ⟨numbered.ascending, List.pairwise_singleton _ _, ?_⟩
    intro earlier member later isNew
    rw [List.mem_singleton.mp isNew]
    exact numbered.pushed earlier member
  pushed := by
    intro element member
    rcases List.mem_append.mp member with earlier | isNew
    · exact Nat.lt_succ_of_lt (numbered.pushed element earlier)
    · rw [List.mem_singleton.mp isNew]
      exact Nat.lt_succ_self _

/-- The front has the smallest number. -/
theorem front_lt
    (numbered : server.Numbered)
    {front : CommandQueueElement Client}
    {rest : List (CommandQueueElement Client)}
    (isQueue : server.commandsQueue = front :: rest) :
    ∀ element ∈ rest, front.number < element.number := by
  have ascending := numbered.ascending
  rw [isQueue] at ascending
  exact (List.pairwise_cons.mp ascending).1

/-- Nothing in the queue has a smaller number than the front. -/
theorem head_le
    (numbered : server.Numbered)
    {front : CommandQueueElement Client}
    (isFront : front ∈ server.commandsQueue.head?) :
    ∀ element ∈ server.commandsQueue, front.number ≤ element.number := by
  intro element member
  cases isQueue : server.commandsQueue with
  | nil =>
      rw [isQueue] at isFront
      cases isFront
  | cons first rest =>
      rw [isQueue] at isFront member
      obtain ⟨⟩ := isFront
      rcases List.mem_cons.mp member with same | behind
      · rw [same]
      · exact Nat.le_of_lt (numbered.front_lt isQueue element behind)

end Numbered

/-- A later server: commands were removed, or pushed behind the others. -/
structure Follows (later server : CommandServer Client) : Prop where
  numbered : later.Numbered
  pushes : server.pushes ≤ later.pushes
  queue :
    ∀ element ∈ later.commandsQueue,
      element ∈ server.commandsQueue ∨ server.pushes ≤ element.number

namespace Follows

variable {server later last : CommandServer Client}

theorem of_suffix
    (numbered : server.Numbered)
    (suffix : later.commandsQueue <:+ server.commandsQueue)
    (pushes : later.pushes = server.pushes) :
    later.Follows server where
  numbered := numbered.of_suffix suffix pushes
  pushes := Nat.le_of_eq pushes.symm
  queue := fun _ member => .inl (suffix.subset member)

theorem push
    (numbered : server.Numbered)
    (command : Command)
    (client : Option Client) :
    (server.push command client).Follows server where
  numbered := numbered.push command client
  pushes := Nat.le_succ _
  queue := by
    intro element member
    rcases List.mem_append.mp member with earlier | isNew
    · exact .inl earlier
    · rw [List.mem_singleton.mp isNew]
      exact .inr (Nat.le_refl _)

theorem trans
    (first : later.Follows server)
    (second : last.Follows later) :
    last.Follows server where
  numbered := second.numbered
  pushes := Nat.le_trans first.pushes second.pushes
  queue := by
    intro element member
    rcases second.queue element member with earlier | isNew
    · exact first.queue element earlier
    · exact .inr (Nat.le_trans first.pushes isNew)

end Follows

/-- A server that has just been started. -/
def started : CommandServer Client where
  commandsQueue := []
  clientSessions := []
  nodeIds := []
  expectedNumberOfResetACK := 0
  numberOfResetACKReceived := 0
  pushes := 0

theorem numbered_started : (started : CommandServer Client).Numbered where
  ascending := .nil
  pushed := nofun

variable [DecidableEq Client]

@[simp]
theorem expectACKs_clientGone
    (server : CommandServer Client)
    (element front : CommandQueueElement Client) :
    (server.expectACKs element).clientGone front =
      server.clientGone front := by
  unfold expectACKs
  split <;> rfl

/-- The front is written when its client is connected. -/
theorem executeNextSection_of_connected
    {server : CommandServer Client}
    {front : CommandQueueElement Client}
    {rest : List (CommandQueueElement Client)}
    (isQueue : server.commandsQueue = front :: rest)
    (connected : server.clientGone front = false) :
    server.executeNextSection =
      (server.expectACKs front, .written front) := by
  rw [executeNextSection, isQueue]
  simp [connected]

/-- What is executed next does not depend on the commands before it. -/
theorem executeNextFrom_withQueue
    (server : CommandServer Client)
    (queue rest : List (CommandQueueElement Client)) :
    (server.withQueue queue).executeNextFrom rest =
      server.executeNextFrom rest := by
  induction rest with
  | nil => rfl
  | cons element rest inductionHypothesis =>
      rw [executeNextFrom, executeNextFrom, inductionHypothesis]
      rfl

/-- The whole function runs its critical section again after each skip. -/
theorem executeNextInCommandQueue_eq (server : CommandServer Client) :
    server.executeNextInCommandQueue =
      match server.executeNextSection with
      | (after, .nothing) => (after, none)
      | (after, .skipped) => after.executeNextInCommandQueue
      | (after, .written element) => (after, some element) := by
  unfold executeNextInCommandQueue executeNextSection
  cases isQueue : server.commandsQueue with
  | nil =>
      show (server.withQueue [], none) = (server, none)
      rw [← isQueue, withQueue_self]
  | cons element rest =>
      rw [executeNextFrom]
      by_cases gone : server.clientGone element = true
      · simp only [if_pos gone]
        exact (server.executeNextFrom_withQueue rest rest).symm
      · simp only [if_neg gone]
        rw [← isQueue, withQueue_self]

/-- What `executeNextInCommandQueue` leaves: the first command of a connected client. -/
theorem executeNextFrom_spec
    (server : CommandServer Client)
    (queue : List (CommandQueueElement Client)) :
    (server.executeNextFrom queue).1.commandsQueue <:+ queue ∧
      (server.executeNextFrom queue).1.commandsQueue.head? =
        (server.executeNextFrom queue).2 ∧
      (server.executeNextFrom queue).1.pushes = server.pushes := by
  induction queue with
  | nil => exact ⟨List.suffix_refl _, rfl, rfl⟩
  | cons element rest inductionHypothesis =>
      rw [executeNextFrom]
      by_cases gone : server.clientGone element = true
      · rw [if_pos gone]
        exact
          ⟨inductionHypothesis.1.trans (List.suffix_cons _ _),
            inductionHypothesis.2⟩
      · rw [if_neg gone]
        simp

/-- After `executeNextInCommandQueue` the front, if any, has just been written. -/
theorem executeNextInCommandQueue_spec (server : CommandServer Client) :
    server.executeNextInCommandQueue.1.commandsQueue <:+
        server.commandsQueue ∧
      server.executeNextInCommandQueue.1.commandsQueue.head? =
        server.executeNextInCommandQueue.2 ∧
      server.executeNextInCommandQueue.1.pushes = server.pushes :=
  server.executeNextFrom_spec server.commandsQueue

/-- A command that is pushed onto the empty queue is executed. -/
theorem addCommandToQueue_of_empty
    {server : CommandServer Client}
    (isEmpty : server.commandsQueue = [])
    (command : Command)
    (client : Option Client) :
    server.addCommandToQueue command client =
      (server.push command client).executeNextInCommandQueue := by
  unfold addCommandToQueue
  exact if_pos (by simp [push, isEmpty])

/-- Any other command waits. -/
theorem addCommandToQueue_of_nonempty
    {server : CommandServer Client}
    (some : server.commandsQueue ≠ [])
    (command : Command)
    (client : Option Client) :
    server.addCommandToQueue command client =
      (server.push command client, none) := by
  unfold addCommandToQueue
  exact if_neg (by simpa [push] using some)

/-- Executing the next command only removes commands. -/
theorem Follows.executed
    {server later : CommandServer Client}
    (follows : later.Follows server) :
    later.executeNextInCommandQueue.1.Follows server := by
  obtain ⟨suffix, -, pushes⟩ := later.executeNextInCommandQueue_spec
  exact follows.trans (.of_suffix follows.numbered suffix pushes)

end CommandServer

end DistributedLighting
