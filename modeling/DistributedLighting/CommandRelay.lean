import DistributedLighting.HubCommands

namespace DistributedLighting

/-!
# Commands on their way from the PC to a node

The PC writes a sync byte and the six bytes of a command.  The hub reads the six
bytes back into a command and, for another node, writes them once more into a
CAN frame.  A payload byte may look like a sync byte: the hub stays aligned
because it takes six bytes after each sync byte that it finds.
-/

/-- The `char` of both platforms: eight bits with a sign. -/
abbrev SignedChar := Int8

namespace Command

/--
`Command::Command(uint8_t *buffer)`, in the PC and in the firmware; the byte
`cmd` stands for an `int8_t` of the same bits.
-/
def ofBuffer (buffer : Nat → Byte) : Command where
  destination := buffer 0
  cmd := buffer 1
  value := joinResponse (buffer 2) (buffer 3) (buffer 4) (buffer 5)

/-- The bytes that `toByteArray` stores, from `array[0]` to `array[5]`. -/
def bytes (command : Command) : List Byte :=
  [command.destination, command.cmd,
    responseByte command.value 24, responseByte command.value 16,
    responseByte command.value 8, responseByte command.value 0]

/-- `Command::toByteArray(uint8_t *array)` of the PC. -/
def toByteArray (command : Command) : List Byte :=
  command.bytes

/-- `Command::toByteArray(char *array)` of the firmware. -/
def toCharArray (command : Command) : List SignedChar :=
  command.bytes.map Int8.ofBitVec

/-- `int8_t cmd` as comparisons see it. -/
def cmdValue (command : Command) : Int :=
  command.cmd.toInt

/-- `Command::setType`: the conversion to `uint32_t` extends the sign. -/
def setType
    (command : Command)
    (type : SignedChar) : Command :=
  { command with value := type.toBitVec.signExtend 32 }

/-- `Command::getType`: `(int8_t)value` -/
def getType (command : Command) : SignedChar :=
  Int8.ofBitVec (command.value.setWidth 8)

/-- `Command::Command(char cmd, uint8_t destination, char type)` -/
def ofType
    (cmd destination : Byte)
    (type : SignedChar) : Command :=
  setType { cmd := cmd, destination := destination, value := 0 } type

/-- `Command::Command()` -/
def null : Command where
  cmd := 0
  destination := 0
  value := 0

/-- What the PC writes to the serial port: `buf[0] = 255`, then `toByteArray(buf + 1)`. -/
def serialBytes (command : Command) : List Byte :=
  syncByte :: command.toByteArray

-- What the server answers to a discovery is such a command.
example : discoveryAnswer.serialBytes = discoveryReply := by decide

/-- Reading the bytes of a command back gives the command. -/
theorem ofBuffer_bytes
    (command : Command)
    {buffer : Nat → Byte}
    (stored : ∀ index, index < 6 → buffer index = command.bytes.getD index 0) :
    ofBuffer buffer = command := by
  unfold ofBuffer
  simp only [stored 0 (by decide), stored 1 (by decide), stored 2 (by decide),
    stored 3 (by decide), stored 4 (by decide), stored 5 (by decide)]
  simp [bytes, joinResponse_bytes]

/-- The type that was set is the type that is read. -/
@[simp] theorem getType_setType
    (command : Command)
    (type : SignedChar) :
    (command.setType type).getType = type := by
  have kept : (type.toBitVec.signExtend 32).setWidth 8 = type.toBitVec := by
    refine BitVec.eq_of_getLsbD_eq ?_
    intro index inRange
    have inWord : index < 32 := by omega
    simp only [BitVec.getLsbD_setWidth, BitVec.getLsbD_signExtend, inRange,
      inWord, decide_true, Bool.true_and, if_true]
  simp only [getType, setType, kept, Int8.ofBitVec_toBitVec]

end Command

/-- The fields of `sendingFrame`. -/
structure CommandFrame where
  destination : Nat
  data : FrameData
  can_dlc : Nat

/--
`Communication::sendCommandRequest`: the frame keeps what `previous` has beyond
the bytes of the command.
-/
def sendCommandRequest
    (previous : FrameData)
    (destination : Nat)
    (command : Command) : CommandFrame where
  destination := destination
  data index :=
    if index < command.toCharArray.length then
      (command.toCharArray.getD index 0).toBitVec
    else
      previous index
  can_dlc := command.toCharArray.length

/-- The branch `CAN_COMMANDS_REQUEST` of `received` rebuilds the command. -/
def CommandFrame.command (frame : CommandFrame) : Command :=
  .ofBuffer frame.data

/-- The frames of the requests among what a handler sends. -/
def requestFrames
    (previous : FrameData)
    (can : List (Nat × CanMessage)) : List CommandFrame :=
  can.filterMap fun sent =>
    match sent.2 with
    | .commandsRequest command => some (sendCommandRequest previous sent.1 command)
    | _ => none

/-- One command that the hub has read: the node before it, and what the node sent. -/
structure ReadRecord (K : Type) where
  node : HubNode K
  command : Command
  can : List (Nat × CanMessage)

/-- The hub, the bytes of the PC that it has not read, and the commands that it has. -/
structure SerialInput (K : Type) where
  node : HubNode K
  unread : List Byte
  log : List (ReadRecord K)

/--
What happens at the hub: `Serial.available()` finds a byte, or anything else that
leaves `node`.
-/
inductive SerialStep (K : Type) where
  | available (reading : BitVec 32)
  | meanwhile (node : HubNode K)

/-- `Serial.readBytes(buf, 6)`, which waits for six bytes. -/
def readBytes (unread : List Byte) : Option ((Nat → Byte) × List Byte) :=
  if 6 ≤ unread.length then
    some (fun index => unread.getD index 0, unread.drop 6)
  else
    none

namespace SerialInput

variable {K : Type} [Zero K]

/-- One pass of the loop of `SerialComm::readSerial`. -/
def readNext
    (union : FloatTo4Bytes K)
    (input : SerialInput K)
    (reading : BitVec 32) : SerialInput K :=
  match input.unread with
  | [] => input
  | byte :: rest =>
      if byte = syncByte then
        match readBytes rest with
        | none => input
        | some (buf, later) =>
            let outcome := input.node.readCommand union (.ofBuffer buf) reading
            { node := outcome.node
              unread := later
              log := input.log ++ [⟨input.node, .ofBuffer buf, outcome.can⟩] }
      else
        { input with unread := rest }

/-- Take one step. -/
def step
    (union : FloatTo4Bytes K)
    (input : SerialInput K) : SerialStep K → SerialInput K
  | .available reading => input.readNext union reading
  | .meanwhile node => { input with node := node }

/-- Any number of calls of `SerialComm::readSerial`, with what happens between them. -/
def readSerial
    (union : FloatTo4Bytes K)
    (steps : List (SerialStep K))
    (input : SerialInput K) : SerialInput K :=
  steps.foldl (step union) input

end SerialInput

/-- The bytes of a list of commands, as the PC writes them. -/
def pcStream (commands : List Command) : List Byte :=
  commands.flatMap Command.serialBytes

/-- How often `Serial.available()` finds a byte. -/
def availableCount {K : Type} (steps : List (SerialStep K)) : Nat :=
  steps.countP fun step =>
    match step with
    | .available _ => true
    | .meanwhile _ => false

namespace ReadRecord

variable {K : Type}

/-- The commands that the hub passes on: those for all nodes, and for another known node. -/
def Relayed (record : ReadRecord K) : Prop :=
  record.command.destination = 0 ∨
    (record.command.destination.toNat ≠ record.node.glob.nodeId ∧
      record.node.glob.checkIfNodeExists
        record.command.destination.toNat = true)

instance (record : ReadRecord K) : Decidable record.Relayed :=
  inferInstanceAs (Decidable (_ ∨ _))

/-- The one request that `readSerial` sends for a command, or none. -/
def Requests (record : ReadRecord K) : Prop :=
  ∀ previous,
    requestFrames previous record.can =
      if record.Relayed then
        [sendCommandRequest previous record.command.destination.toNat
          record.command]
      else
        []

end ReadRecord

section Relay

variable {K : Type} [Zero K] (union : FloatTo4Bytes K)

/-- The frame of a request carries the command. -/
theorem command_sendCommandRequest
    (previous : FrameData)
    (destination : Nat)
    (command : Command) :
    (sendCommandRequest previous destination command).command = command := by
  apply Command.ofBuffer_bytes
  intro index inFrame
  have length : command.toCharArray.length = 6 := rfl
  simp only [sendCommandRequest, length, inFrame, if_true]
  have stored :
      (command.toCharArray.getD index 0).toBitVec =
        command.bytes.getD index 0 := by
    interval_cases index <;> simp [Command.toCharArray, Command.bytes]
  exact stored

/-- A command other than a discovery answer is passed on as it is. -/
theorem requests_readCommand
    (node : HubNode K)
    {command : Command}
    (notDiscovery : command.cmd ≠ byteOf 'D')
    (reading : BitVec 32) :
    ReadRecord.Requests
      ⟨node, command, (node.readCommand union command reading).can⟩ := by
  intro previous
  simp only [HubNode.readCommand, if_neg notDiscovery, ReadRecord.Relayed]
  by_cases total : command.destination = 0
  · simp [total, HubNode.readTotalCommand, requestFrames]
  · simp only [total, if_false, false_or]
    by_cases own : command.destination.toNat = node.glob.nodeId
    · simp [own, requestFrames]
    · by_cases known : node.glob.checkIfNodeExists command.destination.toNat
      · simp [own, known, requestFrames]
      · simp [own, known, requestFrames]

namespace SerialInput

/-- One pass of the loop reads the first command of the stream. -/
theorem readNext_pcStream
    (node : HubNode K)
    (command : Command)
    (rest : List Command)
    (log : List (ReadRecord K))
    (reading : BitVec 32) :
    readNext union ⟨node, pcStream (command :: rest), log⟩ reading =
      { node := (node.readCommand union command reading).node
        unread := pcStream rest
        log :=
          log ++
            [⟨node, command, (node.readCommand union command reading).can⟩] } := by
  have rebuilt :
      Command.ofBuffer
          (fun index => (command.toByteArray ++ pcStream rest).getD index 0) =
        command := by
    apply Command.ofBuffer_bytes
    intro index inCommand
    have inArray : index < command.toByteArray.length := inCommand
    simp only [List.getD_append _ _ _ _ inArray]
    rfl
  have long : 6 ≤ (command.toByteArray ++ pcStream rest).length := by
    simp [Command.toByteArray, Command.bytes]
  have dropped :
      (command.toByteArray ++ pcStream rest).drop 6 = pcStream rest :=
    List.drop_left' rfl
  have shape :
      pcStream (command :: rest) =
        syncByte :: (command.toByteArray ++ pcStream rest) :=
    rfl
  simp only [readNext, shape, if_true, readBytes, if_pos long, rebuilt, dropped]

/-- Every command of the log was sent on as it is. -/
def Faithful (input : SerialInput K) : Prop :=
  ∀ record ∈ input.log, record.Requests

/-- A sequence of steps reads the commands one after another. -/
theorem readSerial_pcStream
    (steps : List (SerialStep K))
    (commands : List Command)
    (notDiscovery : ∀ command ∈ commands, command.cmd ≠ byteOf 'D')
    (node : HubNode K)
    (log : List (ReadRecord K))
    (faithful : Faithful ⟨node, pcStream commands, log⟩) :
    let final := readSerial union steps ⟨node, pcStream commands, log⟩
    final.log.map ReadRecord.command =
        log.map ReadRecord.command ++ commands.take (availableCount steps) ∧
      final.unread = pcStream (commands.drop (availableCount steps)) ∧
      final.Faithful := by
  induction steps generalizing commands node log with
  | nil =>
      simpa [readSerial, availableCount] using faithful
  | cons next later inductionHypothesis =>
      cases next with
      | meanwhile other =>
          exact inductionHypothesis commands notDiscovery other log faithful
      | available reading =>
          have counted :
              availableCount (.available reading :: later) =
                availableCount later + 1 :=
            List.countP_cons_of_pos rfl
          cases commands with
          | nil =>
              have idle :=
                inductionHypothesis [] notDiscovery node log faithful
              simp only [List.take_nil, List.drop_nil] at idle ⊢
              exact idle
          | cons command rest =>
              obtain ⟨notFirst, notRest⟩ := List.forall_mem_cons.mp notDiscovery
              have first :
                  ReadRecord.Requests
                    ⟨node, command,
                      (node.readCommand union command reading).can⟩ :=
                requests_readCommand union node notFirst reading
              have extended :=
                inductionHypothesis rest notRest
                  (node.readCommand union command reading).node
                  (log ++
                    [⟨node, command,
                      (node.readCommand union command reading).can⟩])
                  (by
                    intro record listed
                    rcases List.mem_append.mp listed with old | new
                    · exact faithful record old
                    · rw [List.mem_singleton.mp new]
                      exact first)
              simp only [readSerial, List.foldl_cons, step,
                readNext_pcStream union node command rest log reading,
                counted, List.take_succ_cons, List.drop_succ_cons]
              simpa [readSerial] using extended

end SerialInput

/-- A command that has arrived as it was sent, with the signs of `cmd` and of its type. -/
structure Survives (sent arrived : Command) : Prop where
  destination : arrived.destination = sent.destination
  cmd : arrived.cmdValue = sent.cmdValue
  value : arrived.value = sent.value
  getType : arrived.getType = sent.getType
  setType :
    ∀ (command : Command) type,
      sent = command.setType type → arrived.getType = type

theorem Survives.refl (command : Command) : Survives command command where
  destination := rfl
  cmd := rfl
  value := rfl
  getType := rfl
  setType _ type built := by
    rw [built, Command.getType_setType]

/--
However the calls of `readSerial` are placed and whatever happens between them, the
hub reads the commands of the PC in order, and what it relays arrives as it was.
-/
theorem commands_survive_relay
    (commands : List Command)
    (notDiscovery : ∀ command ∈ commands, command.cmd ≠ byteOf 'D')
    (node : HubNode K)
    (steps : List (SerialStep K)) :
    let final := SerialInput.readSerial union steps ⟨node, pcStream commands, []⟩
    final.log.map ReadRecord.command =
        commands.take (availableCount steps) ∧
      final.unread = pcStream (commands.drop (availableCount steps)) ∧
      (commands.length ≤ availableCount steps →
        final.log.map ReadRecord.command = commands ∧ final.unread = []) ∧
      ∀ record ∈ final.log,
        ∀ previous,
          (record.Relayed →
            ∃ frame,
              requestFrames previous record.can = [frame] ∧
                frame.destination = record.command.destination.toNat ∧
                Survives record.command frame.command) ∧
            (¬ record.Relayed → requestFrames previous record.can = []) := by
  intro final
  obtain ⟨inOrder, unread, faithful⟩ :=
    SerialInput.readSerial_pcStream union steps commands notDiscovery node []
      (fun record listed => absurd listed List.not_mem_nil)
  refine ⟨inOrder, unread, ?_, ?_⟩
  · intro enough
    have all : commands.take (availableCount steps) = commands :=
      List.take_of_length_le enough
    have nothing : commands.drop (availableCount steps) = [] :=
      List.drop_of_length_le enough
    rw [all] at inOrder
    rw [nothing] at unread
    exact ⟨inOrder, unread⟩
  · intro record listed previous
    have requests := faithful record listed previous
    constructor
    · intro relayed
      rw [if_pos relayed] at requests
      refine ⟨_, requests, rfl, ?_⟩
      rw [command_sendCommandRequest]
      exact .refl record.command
    · intro kept
      rwa [if_neg kept] at requests

end Relay

/-- Two commands whose bytes look like sync bytes, at a hub that knows node 255. -/
theorem commands_survive_relay_sync_bytes :
    let commands : List Command :=
      [⟨255, 255, 0xFFFFFFFF⟩, ⟨byteOf 'g', 0, 0xFFFFFFFF⟩]
    let node : HubNode Int :=
      { HubNode.boot 1 with
        glob := ((Glob.boot 1 0).registerNewNode 255) }
    let final :=
      SerialInput.readSerial singlePrecision [.available 0, .available 0]
        ⟨node, pcStream commands, []⟩
    (∀ command ∈ commands, command.cmd ≠ byteOf 'D') ∧
      final.log.map ReadRecord.command = commands ∧
      final.log.map (fun record => decide record.Relayed) = [true, true] := by
  intro commands node final
  have notDiscovery : ∀ command ∈ commands, command.cmd ≠ byteOf 'D' := by
    decide
  have survived :=
    commands_survive_relay singlePrecision commands notDiscovery node
      [.available 0, .available 0]
  exact ⟨notDiscovery, (survived.2.2.1 (by decide)).1, by decide +kernel⟩

end DistributedLighting
