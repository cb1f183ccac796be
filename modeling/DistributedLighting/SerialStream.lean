import DistributedLighting.DutyCycleFrames
import DistributedLighting.SinglePrecision

namespace DistributedLighting

/-!
# The serial stream from the hub to the PC

The firmware writes messages that start with a sync byte, and debug text between
them.  `Server::handle_read_serial` searches for sync bytes and skips over each
message by a length of its own.  A run of the handler is a fold over the buffer
that counts down to the place where the next search starts.
-/

/-- The byte of a character. -/
def byteOf (character : Char) : Byte :=
  BitVec.ofNat 8 character.toNat

/-- The sync byte. -/
def syncByte : Byte := 255

/-- `(value >> shift) & 0xFF` -/
def responseByte
    (value : BitVec 32)
    (shift : Nat) : Byte :=
  ((value >>> shift) &&& 0xFF).setWidth 8

/-- The messages of the firmware. -/
inductive Message where
  /-- `sendOnSerial` and the forwarding of `CAN_FREQUENT_DATA` -/
  | frequentData (node : Byte) (value16b : BitVec 16) (pwm : Byte)
  /-- `sendResponse` -/
  | response (value : BitVec 32)
  /-- `sendPCDiscovery` -/
  | pcDiscovery
  /-- `sendListNodesToPC`, where the length fits into `numTotalNodes` -/
  | listNodes (nodesList : List Byte) (fits : nodesList.length < 256)

namespace Message

/-- The bytes that the firmware writes. -/
def bytes : Message → List Byte
  | .frequentData node value16b pwm =>
      [syncByte, byteOf 'F', node, lowByte value16b, highByte value16b, pwm]
  | .response value =>
      [syncByte, byteOf 'R', responseByte value 24, responseByte value 16,
        responseByte value 8, responseByte value 0]
  | .pcDiscovery => [syncByte, byteOf 'D']
  | .listNodes nodesList _ =>
      [syncByte, byteOf 'L', BitVec.ofNat 8 nodesList.length] ++ nodesList

end Message

/-- What the PC does with a message. -/
inductive ServerAction where
  | receivedFrequentData (nodeId pwm : Byte) (iluminance : ℚ)
  | receivedCommandResponse (value : BitVec 32)
  | writeToSerialPort (buf : List Byte)
  | receivedNodeIds (nodeIds : List Nat)
  deriving DecidableEq

/-- The members of `Server` that the handler uses, and what it has done. -/
structure Server where
  nodeIds : List Nat
  unfinishedSerialString : List Byte
  actions : List ServerAction
  deriving DecidableEq

/-- `Command('D', 0, ' ').toByteArray` behind a sync byte. -/
def discoveryReply : List Byte :=
  [syncByte, 0, byteOf 'D', 0, 0, 0, byteOf ' ']

/-- The value of a response, from the most significant byte on. -/
def joinResponse (first second third fourth : Byte) : BitVec 32 :=
  first.setWidth 32 <<< 24 ||| second.setWidth 32 <<< 16 |||
    third.setWidth 32 <<< 8 ||| fourth.setWidth 32

/-- What the handler finds at a sync byte. -/
structure Reading where
  sizeMsg : Nat
  action : Option ServerAction
  unfinished : Bool

/-- The body of the loop of `handle_read_serial`, from the sync byte on. -/
def readMessage (line : List Byte) : Reading :=
  let byte := fun index => line.getD index 0
  if line.length ≥ 2 then
    if byte 1 = byteOf 'F' then
      if line.length ≥ 6 then
        let value16b := joinBytes (byte 4) (byte 3)
        { sizeMsg := 6
          action :=
            some
              (.receivedFrequentData (byte 2) (byte 5)
                (toSingle ((value16b.toNat : ℚ) / 10)))
          unfinished := false }
      else
        { sizeMsg := 6, action := none, unfinished := true }
    else if byte 1 = byteOf 'R' then
      if line.length ≥ 5 then
        { sizeMsg := 5
          action :=
            some
              (.receivedCommandResponse
                (joinResponse (byte 2) (byte 3) (byte 4) (byte 5)))
          unfinished := false }
      else
        { sizeMsg := 5, action := none, unfinished := true }
    else if byte 1 = byteOf 'D' then
      { sizeMsg := 2
        action := some (.writeToSerialPort discoveryReply)
        unfinished := false }
    else if byte 1 = byteOf 'L' then
      if line.length ≥ 3 then
        let numNodes := (byte 2).toNat
        if line.length ≥ 3 + numNodes then
          { sizeMsg := 3 + numNodes
            action :=
              some
                (.receivedNodeIds
                  (((line.drop 3).take numNodes).map BitVec.toNat))
            unfinished := false }
        else
          { sizeMsg := 3 + numNodes, action := none, unfinished := true }
      else
        { sizeMsg := 3, action := none, unfinished := true }
    else
      { sizeMsg := 2, action := none, unfinished := false }
  else
    { sizeMsg := 2, action := none, unfinished := false }

namespace Server

/-- Perform an action; a list of nodes replaces `nodeIds`. -/
def perform
    (server : Server)
    (action : ServerAction) : Server :=
  { server with
    nodeIds :=
      match action with
      | .receivedNodeIds nodeIds => nodeIds
      | _ => server.nodeIds
    actions := server.actions ++ [action] }

@[simp] theorem actions_perform
    (server : Server)
    (action : ServerAction) :
    (server.perform action).actions = server.actions ++ [action] :=
  rfl

/-- What one sync byte leaves. -/
def found
    (server : Server)
    (line : List Byte) : Server :=
  let reading := readMessage line
  let performed :=
    match reading.action with
    | some action => server.perform action
    | none => server
  if reading.unfinished then
    { performed with unfinishedSerialString := line }
  else
    performed

/-- The loop of `handle_read_serial`; `skip` bytes are left before `offset`. -/
def readFrom : Nat → List Byte → Server → Server
  | _, [], server => server
  | skip + 1, _ :: rest, server => readFrom skip rest server
  | 0, byte :: rest, server =>
      if byte = syncByte then
        readFrom ((readMessage (byte :: rest)).sizeMsg - 1) rest
          (server.found (byte :: rest))
      else
        readFrom 0 rest server

/-- `Server::handle_read_serial` -/
def handleReadSerial
    (server : Server)
    (buffer : List Byte) : Server :=
  readFrom 0 (server.unfinishedSerialString ++ buffer)
    { server with unfinishedSerialString := [] }

end Server

/-- Debug text of the firmware. -/
def Text := { text : List Byte // syncByte ∉ text }

/-- No text. -/
def Text.empty : Text := ⟨[], List.not_mem_nil⟩

namespace Message

/-- The action that a message asks for. -/
def action : Message → ServerAction
  | .frequentData node value16b pwm =>
      .receivedFrequentData node pwm (toSingle ((value16b.toNat : ℚ) / 10))
  | .response value => .receivedCommandResponse value
  | .pcDiscovery => .writeToSerialPort discoveryReply
  | .listNodes nodesList _ => .receivedNodeIds (nodesList.map BitVec.toNat)

/-- A response whose last byte looks like a sync byte. -/
def EndsInSync : Message → Prop
  | .response value => responseByte value 0 = syncByte
  | _ => False

instance (message : Message) : Decidable message.EndsInSync :=
  match message with
  | .response _ => inferInstanceAs (Decidable (_ = _))
  | .frequentData .. | .pcDiscovery | .listNodes .. =>
      inferInstanceAs (Decidable False)

end Message

/-- The bytes of a stream of messages, each with the text before it. -/
def streamBytes (stream : List (Text × Message)) : List Byte :=
  stream.flatMap fun item => item.1.val ++ item.2.bytes

/-- The handler performs exactly the actions of the messages, in order. -/
def Decodes
    (server : Server)
    (stream : List (Text × Message)) : Prop :=
  server.handleReadSerial (streamBytes stream) =
    (stream.map fun item => item.2.action).foldl Server.perform server

/-- The messages without any text. -/
def plain (messages : List Message) : List (Text × Message) :=
  messages.map fun message => (.empty, message)

section Reading

/-- The bits of a byte of a response. -/
theorem getLsbD_responseByte
    (value : BitVec 32)
    (shift position : Nat) :
    (responseByte value shift).getLsbD position =
      (decide (position < 8) && value.getLsbD (shift + position)) := by
  have mask :
      ∀ position, position < 8 → (0xFF#32).getLsbD position = true := by
    decide
  simp only [responseByte, BitVec.getLsbD_setWidth, BitVec.getLsbD_and,
    BitVec.getLsbD_ushiftRight]
  by_cases low : position < 8
  · simp [low, mask position low]
  · simp [low]

/-- The four bytes of a response give its value back. -/
theorem joinResponse_bytes (value : BitVec 32) :
    joinResponse (responseByte value 24) (responseByte value 16)
        (responseByte value 8) (responseByte value 0) =
      value := by
  refine BitVec.eq_of_getLsbD_eq ?_
  intro index inRange
  simp only [joinResponse, BitVec.getLsbD_or, BitVec.getLsbD_shiftLeft,
    BitVec.getLsbD_setWidth, getLsbD_responseByte]
  have within :
      ∀ shift,
        shift ≤ index →
        index < shift + 8 →
        index - shift < 8 ∧ index - shift < 32 ∧
          shift + (index - shift) = index := by
    omega
  rcases Nat.lt_or_ge index 8 with first | notFirst
  · have below : index < 16 ∧ index < 24 := by omega
    simp [first, inRange, below]
  · rcases Nat.lt_or_ge index 16 with second | notSecond
    · obtain ⟨inByte, inWord, restored⟩ := within 8 notFirst second
      have below : index < 24 ∧ ¬ index < 8 := by omega
      simp [second, inRange, below, inByte, inWord, restored]
    · rcases Nat.lt_or_ge index 24 with third | notThird
      · obtain ⟨inByte, inWord, restored⟩ := within 16 notSecond third
        have below :
            ¬ index < 16 ∧ ¬ index < 8 ∧ ¬ index - 8 < 8 := by
          omega
        simp [third, inRange, below, inByte, inWord, restored]
      · obtain ⟨inByte, inWord, restored⟩ := within 24 notThird inRange
        have below :
            ¬ index < 24 ∧ ¬ index < 16 ∧ ¬ index < 8 ∧
              ¬ index - 8 < 8 ∧ ¬ index - 16 < 8 := by
          omega
        simp [inRange, below, inByte, inWord, restored]

/-- How far the handler moves on after a message. -/
def Message.skipped : Message → Nat
  | .response _ => 5
  | message => message.bytes.length

/-- A whole message at the front of the line is read as its action. -/
theorem readMessage_bytes
    (message : Message)
    (rest : List Byte) :
    readMessage (message.bytes ++ rest) =
      { sizeMsg := message.skipped
        action := some message.action
        unfinished := false } := by
  cases message with
  | frequentData node value16b pwm =>
      simp [readMessage, Message.bytes, Message.skipped, Message.action,
        joinBytes_split]
  | response value =>
      have notF : byteOf 'R' ≠ byteOf 'F' := by decide
      simp [readMessage, Message.bytes, Message.skipped, Message.action,
        notF, joinResponse_bytes]
  | pcDiscovery =>
      have notF : byteOf 'D' ≠ byteOf 'F' := by decide
      have notR : byteOf 'D' ≠ byteOf 'R' := by decide
      simp [readMessage, Message.bytes, Message.skipped, Message.action,
        notF, notR]
  | listNodes nodesList fits =>
      have notF : byteOf 'L' ≠ byteOf 'F' := by decide
      have notR : byteOf 'L' ≠ byteOf 'R' := by decide
      have notD : byteOf 'L' ≠ byteOf 'D' := by decide
      have size : 3 + nodesList.length = nodesList.length + 1 + 1 + 1 := by
        omega
      simp [readMessage, Message.bytes, Message.skipped, Message.action,
        notF, notR, notD, Nat.mod_eq_of_lt fits, size]

/-- A message is at most one byte longer than the handler assumes. -/
theorem Message.length_bytes_le (message : Message) :
    message.bytes.length ≤ message.skipped + 1 := by
  cases message <;> simp [Message.bytes, Message.skipped]

/-- The second byte of a message is not a sync byte. -/
theorem Message.exists_bytes (message : Message) :
    ∃ type rest,
      message.bytes = syncByte :: type :: rest ∧ type ≠ syncByte := by
  cases message with
  | frequentData => exact ⟨byteOf 'F', _, rfl, by decide⟩
  | response => exact ⟨byteOf 'R', _, rfl, by decide⟩
  | pcDiscovery => exact ⟨byteOf 'D', _, rfl, by decide⟩
  | listNodes => exact ⟨byteOf 'L', _, rfl, by decide⟩

/-- Whatever is read as the action of a message is as long as the handler assumes. -/
theorem sizeMsg_of_action
    {line : List Byte}
    {message : Message}
    (acts : (readMessage line).action = some message.action) :
    (readMessage line).sizeMsg = message.skipped ∧
      (readMessage line).sizeMsg ≤ line.length ∧
      (readMessage line).unfinished = false := by
  unfold readMessage at acts ⊢
  dsimp only at acts ⊢
  split_ifs at acts ⊢ with two isF six isR five isD isL three whole
  · cases message with
    | frequentData => exact ⟨rfl, six, rfl⟩
    | response => cases acts
    | pcDiscovery => cases acts
    | listNodes => cases acts
  · cases message with
    | frequentData => cases acts
    | response => exact ⟨rfl, five, rfl⟩
    | pcDiscovery => cases acts
    | listNodes => cases acts
  · cases message with
    | frequentData => cases acts
    | response => cases acts
    | pcDiscovery => exact ⟨rfl, two, rfl⟩
    | listNodes => cases acts
  · cases message with
    | frequentData => cases acts
    | response => cases acts
    | pcDiscovery => cases acts
    | listNodes nodesList fits =>
        simp only [Message.action, Option.some.injEq,
          ServerAction.receivedNodeIds.injEq] at acts
        have count := congrArg List.length acts
        simp only [List.length_map, List.length_take,
          List.length_drop] at count
        refine ⟨?_, whole, rfl⟩
        simp only [Message.skipped, Message.bytes, List.length_append,
          List.length_cons, List.length_nil]
        omega

/-- An unfinished message performs nothing and reaches beyond the line. -/
theorem readMessage_of_unfinished
    {line : List Byte}
    (unfinished : (readMessage line).unfinished = true) :
    (readMessage line).action = none ∧
      line.length ≤ (readMessage line).sizeMsg := by
  unfold readMessage at unfinished ⊢
  dsimp only at unfinished ⊢
  split_ifs at unfinished ⊢
  · exact ⟨rfl, by dsimp only; omega⟩
  · exact ⟨rfl, by dsimp only; omega⟩
  · exact ⟨rfl, by dsimp only; omega⟩
  · exact ⟨rfl, by dsimp only; omega⟩

/-- The search goes on at least two bytes later. -/
theorem two_le_sizeMsg (line : List Byte) :
    2 ≤ (readMessage line).sizeMsg := by
  unfold readMessage
  dsimp only
  split_ifs <;> dsimp only <;> omega

end Reading

namespace Server

section Search

variable {server : Server}

/-- Skipping is dropping. -/
theorem readFrom_skip
    (skip : Nat)
    (line : List Byte)
    (server : Server) :
    readFrom skip line server = readFrom 0 (line.drop skip) server := by
  induction line generalizing skip with
  | nil =>
      simp [readFrom]
  | cons byte rest inductionHypothesis =>
      cases skip with
      | zero => rfl
      | succ skip => exact inductionHypothesis skip

/-- Bytes before the sync byte are skipped. -/
theorem readFrom_text
    {text : List Byte}
    (noSync : syncByte ∉ text)
    (rest : List Byte)
    (server : Server) :
    readFrom 0 (text ++ rest) server = readFrom 0 rest server := by
  induction text with
  | nil => rfl
  | cons byte text inductionHypothesis =>
      rw [List.mem_cons, not_or] at noSync
      show readFrom 0 (byte :: (text ++ rest)) server = _
      rw [readFrom, if_neg (Ne.symm noSync.1)]
      exact inductionHypothesis noSync.2

/-- What happens at a sync byte. -/
theorem readFrom_sync
    (rest : List Byte)
    (server : Server) :
    readFrom 0 (syncByte :: rest) server =
      readFrom 0
        ((syncByte :: rest).drop (readMessage (syncByte :: rest)).sizeMsg)
        (server.found (syncByte :: rest)) := by
  have positive := two_le_sizeMsg (syncByte :: rest)
  obtain ⟨size, successor⟩ :
      ∃ size, (readMessage (syncByte :: rest)).sizeMsg = size + 1 :=
    ⟨(readMessage (syncByte :: rest)).sizeMsg - 1, by omega⟩
  rw [readFrom, if_pos rfl, readFrom_skip, successor]
  rfl

/-- An unfinished message at the end of the line is kept. -/
theorem readFrom_of_unfinished
    {rest : List Byte}
    (unfinished : (readMessage (syncByte :: rest)).unfinished = true)
    (server : Server) :
    readFrom 0 (syncByte :: rest) server =
      { server with unfinishedSerialString := syncByte :: rest } := by
  obtain ⟨nothing, beyond⟩ := readMessage_of_unfinished unfinished
  rw [readFrom_sync, List.drop_eq_nil_of_le beyond]
  simp [readFrom, found, nothing, unfinished]

/-- A whole message is performed; a response leaves its last byte to the search. -/
theorem readFrom_bytes
    (message : Message)
    (rest : List Byte)
    (server : Server) :
    readFrom 0 (message.bytes ++ rest) server =
      readFrom 0 (message.bytes.drop message.skipped ++ rest)
        (server.perform message.action) := by
  obtain ⟨type, payload, bytes, _⟩ := message.exists_bytes
  have reading := readMessage_bytes message rest
  have within : message.skipped ≤ message.bytes.length := by
    cases message <;> simp [Message.bytes, Message.skipped]
  have sync :
      message.bytes ++ rest = syncByte :: (type :: payload ++ rest) := by
    rw [bytes]
    rfl
  rw [← List.drop_append_of_le_length within]
  rw [sync] at reading ⊢
  rw [readFrom_sync, found, reading]
  rfl

/-- A sync byte in front of anything but a type is skipped with the next byte. -/
theorem readFrom_stray
    {next : Byte}
    (rest : List Byte)
    (notType :
      next ≠ byteOf 'F' ∧ next ≠ byteOf 'R' ∧ next ≠ byteOf 'D' ∧
        next ≠ byteOf 'L')
    (server : Server) :
    readFrom 0 (syncByte :: next :: rest) server =
      readFrom 0 rest server := by
  have reading :
      readMessage (syncByte :: next :: rest) = ⟨2, none, false⟩ := by
    simp [readMessage, notType]
  rw [readFrom_sync, found, reading]
  rfl

/-- A sync byte at the end of the line is forgotten. -/
theorem readFrom_lone (server : Server) :
    readFrom 0 [syncByte] server = server := by
  rw [readFrom_sync]
  simp [readMessage, found, readFrom]

end Search

section InStep

variable {server : Server}

/-- The search after a message continues with what follows it. -/
theorem readFrom_message
    (message : Message)
    (rest : List Byte)
    (clear :
      message.EndsInSync →
      ∀ next after,
        rest = next :: after →
        next ≠ syncByte ∧ next ≠ byteOf 'F' ∧ next ≠ byteOf 'R' ∧
          next ≠ byteOf 'D' ∧ next ≠ byteOf 'L')
    (server : Server) :
    readFrom 0 (message.bytes ++ rest) server =
      readFrom 0 rest (server.perform message.action) := by
  rw [readFrom_bytes]
  cases message with
  | frequentData => rfl
  | pcDiscovery => rfl
  | listNodes nodesList fits =>
      simp [Message.skipped]
  | response value =>
      show readFrom 0 (responseByte value 0 :: rest) _ = _
      by_cases ends : responseByte value 0 = syncByte
      · rw [ends]
        cases rest with
        | nil => exact readFrom_lone _
        | cons next after =>
            obtain ⟨notSync, notType⟩ := clear ends next after rfl
            rw [readFrom_stray after notType]
            have noSync : syncByte ∉ [next] := by
              simpa using notSync.symm
            exact (readFrom_text noSync after _).symm
      · have noSync : syncByte ∉ [responseByte value 0] := by
          simpa using Ne.symm ends
        exact readFrom_text noSync rest _

/-- A response that ends in a sync byte swallows the sync byte behind it. -/
theorem readFrom_swallowed
    {message : Message}
    (ends : message.EndsInSync)
    (rest : List Byte)
    (server : Server) :
    readFrom 0 (message.bytes ++ syncByte :: rest) server =
      readFrom 0 rest (server.perform message.action) := by
  rw [readFrom_bytes]
  cases message with
  | frequentData => exact ends.elim
  | pcDiscovery => exact ends.elim
  | listNodes => exact ends.elim
  | response value =>
      have ends : responseByte value 0 = syncByte := ends
      show readFrom 0 (responseByte value 0 :: syncByte :: rest) _ = _
      rw [ends]
      exact readFrom_stray rest (by decide) _

end InStep

section OutOfStep

/-- A sync byte adds at most one action. -/
theorem actions_found
    (server : Server)
    (line : List Byte) :
    (server.found line).actions =
      server.actions ++ (readMessage line).action.toList := by
  unfold found
  dsimp only
  cases (readMessage line).unfinished <;>
    cases (readMessage line).action <;>
    simp [perform]

/-- What the handler has done it does not take back. -/
theorem prefix_readFrom
    (skip : Nat)
    (line : List Byte)
    (server : Server) :
    server.actions <+: (readFrom skip line server).actions := by
  induction line generalizing skip server with
  | nil => simp [readFrom]
  | cons byte rest inductionHypothesis =>
      cases skip with
      | succ skip => exact inductionHypothesis skip server
      | zero =>
          rw [readFrom]
          split
          · refine List.IsPrefix.trans ?_ (inductionHypothesis _ _)
            rw [actions_found]
            exact List.prefix_append _ _
          · exact inductionHypothesis 0 server

/-- Nor do later calls take it back. -/
theorem prefix_foldl
    (chunks : List (List Byte))
    (server : Server) :
    server.actions <+:
      (chunks.foldl handleReadSerial server).actions := by
  induction chunks generalizing server with
  | nil => simp
  | cons chunk rest inductionHypothesis =>
      have handled :
          server.actions <+: (server.handleReadSerial chunk).actions :=
        prefix_readFrom 0 (server.unfinishedSerialString ++ chunk)
          { server with unfinishedSerialString := [] }
      exact handled.trans (inductionHypothesis _)

/-- The bytes of messages without text. -/
def messageBytes (messages : List Message) : List Byte :=
  messages.flatMap Message.bytes

/-- One call of the handler with nothing unfinished. -/
theorem handleReadSerial_of_finished
    {server : Server}
    (finished : server.unfinishedSerialString = [])
    (buffer : List Byte) :
    server.handleReadSerial buffer = readFrom 0 buffer server := by
  unfold handleReadSerial
  rw [finished, List.nil_append, ← finished]

/-- Behind the sync byte of a message there is no sync byte before its payload. -/
theorem two_le_of_sync
    {line : List Byte}
    {distance : Nat}
    {message : Message}
    {messages : List Message}
    (passed : 1 ≤ distance)
    (remaining :
      syncByte :: line =
        (messageBytes (message :: messages)).drop distance) :
    2 ≤ distance := by
  by_contra early
  have one : distance = 1 := by omega
  subst one
  obtain ⟨type, payload, bytes, notSync⟩ := message.exists_bytes
  have second :
      (messageBytes (message :: messages)).drop 1 =
        type :: (payload ++ messageBytes messages) := by
    simp [messageBytes, bytes]
  rw [second] at remaining
  exact notSync (List.cons_eq_cons.mp remaining).1.symm

/-- Where the search of a line goes on, counted from behind the sync byte. -/
theorem drop_sizeMsg_sub_one (line : List Byte) :
    line.drop ((readMessage (syncByte :: line)).sizeMsg - 1) =
      (syncByte :: line).drop (readMessage (syncByte :: line)).sizeMsg := by
  have positive := two_le_sizeMsg (syncByte :: line)
  obtain ⟨less, successor⟩ :
      ∃ less, (readMessage (syncByte :: line)).sizeMsg = less + 1 :=
    ⟨(readMessage (syncByte :: line)).sizeMsg - 1, by omega⟩
  rw [successor]
  rfl

/-- The rest of a line and what comes after it. -/
theorem drop_append_future
    {line future stream : List Byte}
    {distance : Nat}
    (skip : Nat)
    (remaining : line ++ future = stream.drop distance) :
    line.drop skip ++ future =
      stream.drop (distance + min skip line.length) := by
  rw [← List.drop_drop, ← remaining,
    List.drop_append_of_le_length (Nat.min_le_right _ _)]
  rcases Nat.le_total skip line.length with within | beyond
  · rw [Nat.min_eq_left within]
  · rw [Nat.min_eq_right beyond, List.drop_length,
      List.drop_eq_nil_of_le beyond]

/-- An action out of step uses up more of the stream than its message. -/
theorem exists_outOfStep_action
    {line future : List Byte}
    {distance : Nat}
    {message : Message}
    {messages : List Message}
    (passed : 1 ≤ distance)
    (remaining :
      syncByte :: line ++ future =
        (messageBytes (message :: messages)).drop distance)
    (acts :
      (readMessage (syncByte :: line)).action = some message.action) :
    ∃ further next others,
      1 ≤ further ∧
        messages = next :: others ∧
        line.drop ((readMessage (syncByte :: line)).sizeMsg - 1) ++
            future =
          (messageBytes messages).drop further := by
  obtain ⟨size, within, _⟩ := sizeMsg_of_action acts
  have later := two_le_of_sync passed remaining
  have long := message.length_bytes_le
  have positive := two_le_sizeMsg (syncByte :: line)
  have split :
      messageBytes (message :: messages) =
        message.bytes ++ messageBytes messages := by
    simp [messageBytes]
  have lengths := congrArg List.length remaining
  rw [split] at lengths
  simp only [List.length_append, List.length_drop] at lengths
  have left := drop_append_future (readMessage (syncByte :: line)).sizeMsg remaining
  have used :
      message.bytes.drop
        (distance + (readMessage (syncByte :: line)).sizeMsg) = [] :=
    List.drop_eq_nil_of_le (by omega)
  rw [Nat.min_eq_left within, split, List.drop_append, used,
    List.nil_append] at left
  cases messages with
  | nil =>
      simp only [messageBytes, List.flatMap_nil, List.length_nil] at lengths
      simp only [List.length_cons] at within lengths
      omega
  | cons next others =>
      refine
        ⟨distance + (readMessage (syncByte :: line)).sizeMsg -
            message.bytes.length,
          next, others, by omega, rfl, ?_⟩
      rw [drop_sizeMsg_sub_one]
      exact left

/-- A line that is read out of step, when the same holds of what comes after it. -/
theorem outOfStep_line
    (later : Server → Server)
    {future : List Byte}
    (grows : ∀ server, server.actions <+: (later server).actions)
    (atEnd :
      ∀ (carried : List Byte) (distance : Nat) (message : Message)
        (messages : List Message) (server : Server),
        server.unfinishedSerialString = carried →
        1 ≤ distance →
        carried ++ future =
          (messageBytes (message :: messages)).drop distance →
        (later server).actions ≠
          server.actions ++ (message :: messages).map Message.action)
    (line : List Byte)
    (skip distance : Nat)
    (message : Message)
    (messages : List Message)
    (server : Server)
    (finished : server.unfinishedSerialString = [])
    (passed : 1 ≤ distance)
    (remaining :
      line.drop skip ++ future =
        (messageBytes (message :: messages)).drop distance) :
    (later (readFrom skip line server)).actions ≠
      server.actions ++ (message :: messages).map Message.action := by
  induction line generalizing skip distance message messages server with
  | nil =>
      rw [List.drop_nil] at remaining
      exact atEnd [] distance message messages server finished passed remaining
  | cons byte rest inductionHypothesis =>
      cases skip with
      | succ skip =>
          exact
            inductionHypothesis skip distance message messages server finished
              passed remaining
      | zero =>
          by_cases isSync : byte = syncByte
          · subst isSync
            have remaining :
                syncByte :: rest ++ future =
                  (messageBytes (message :: messages)).drop distance :=
              remaining
            cases unfinished : (readMessage (syncByte :: rest)).unfinished with
            | true =>
                rw [readFrom_of_unfinished unfinished]
                exact
                  atEnd (syncByte :: rest) distance message messages _ rfl
                    passed remaining
            | false =>
                rw [readFrom, if_pos rfl]
                cases acts : (readMessage (syncByte :: rest)).action with
                | none =>
                    have kept : server.found (syncByte :: rest) = server := by
                      simp [found, acts, unfinished]
                    rw [kept]
                    refine
                      inductionHypothesis _
                        (distance +
                          min (readMessage (syncByte :: rest)).sizeMsg
                            (syncByte :: rest).length)
                        message messages server finished
                        (Nat.le_add_right_of_le passed) ?_
                    rw [drop_sizeMsg_sub_one]
                    exact drop_append_future _ remaining
                | some action =>
                    have performed :
                        server.found (syncByte :: rest) =
                          server.perform action := by
                      simp [found, acts, unfinished]
                    rw [performed]
                    intro same
                    have grown :=
                      (prefix_readFrom
                        ((readMessage (syncByte :: rest)).sizeMsg - 1)
                        rest (server.perform action)).trans (grows _)
                    rw [same, actions_perform, List.prefix_append_right_inj] at grown
                    have isFirst : action = message.action := by
                      obtain ⟨_, split⟩ := grown
                      exact (List.cons_eq_cons.mp split).1
                    subst isFirst
                    obtain ⟨further, next, others, beyond, shape, left⟩ :=
                      exists_outOfStep_action passed remaining acts
                    subst shape
                    refine
                      inductionHypothesis _ further next others
                        (server.perform message.action) finished beyond left ?_
                    rw [same]
                    simp
          · rw [readFrom, if_neg isSync]
            refine
              inductionHypothesis 0 (distance + 1) message messages server
                finished (Nat.le_succ_of_le passed) ?_
            rw [← List.drop_drop, ← remaining]
            rfl

/--
A search that has passed the sync byte of a message never performs exactly the
messages from there on, however the stream is cut: whatever it finds begins
behind the type of the message, and no message is skipped short by more than a
byte.
-/
theorem outOfStep
    (chunks : List (List Byte))
    (line : List Byte)
    (skip distance : Nat)
    (message : Message)
    (messages : List Message)
    (server : Server)
    (finished : server.unfinishedSerialString = [])
    (passed : 1 ≤ distance)
    (remaining :
      line.drop skip ++ chunks.flatten =
        (messageBytes (message :: messages)).drop distance) :
    (chunks.foldl handleReadSerial (readFrom skip line server)).actions ≠
      server.actions ++ (message :: messages).map Message.action := by
  induction chunks generalizing line skip distance message messages server with
  | nil =>
      refine
        outOfStep_line id ?_ ?_ line skip distance message messages
          server finished passed remaining
      · exact fun _ => List.prefix_refl _
      · intro _ _ first others unread _ _ _ same
        have lengths := congrArg List.length same
        simp at lengths
  | cons chunk rest inductionHypothesis =>
      refine
        outOfStep_line
          (fun read => (chunk :: rest).foldl handleReadSerial read)
          (prefix_foldl _) ?_ line skip distance message messages server
          finished passed remaining
      intro carried further first others unread isCarried beyond left
      have next :
          unread.handleReadSerial chunk =
            readFrom 0 (carried ++ chunk)
              { unread with unfinishedSerialString := [] } := by
        unfold handleReadSerial
        rw [isCarried]
      show (rest.foldl handleReadSerial (unread.handleReadSerial chunk)).actions ≠ _
      rw [next]
      refine
        inductionHypothesis (carried ++ chunk) 0 further first others
          { unread with unfinishedSerialString := [] } rfl beyond ?_
      rw [← left]
      simp

end OutOfStep

/-- The actions that are performed are appended in order. -/
theorem actions_foldl_perform
    (performed : List ServerAction)
    (server : Server) :
    (performed.foldl perform server).actions =
      server.actions ++ performed := by
  induction performed generalizing server with
  | nil => simp
  | cons action rest inductionHypothesis =>
      simp [inductionHypothesis]

end Server

/--
No text that follows a response ending in a sync byte begins like the type of a
message, and there is such a text wherever another message follows.
-/
def Harmless : List (Text × Message) → Prop
  | (_, first) :: (text, second) :: rest =>
      (first.EndsInSync →
        ∃ next after,
          text.val = next :: after ∧
            next ≠ byteOf 'F' ∧ next ≠ byteOf 'R' ∧ next ≠ byteOf 'D' ∧
            next ≠ byteOf 'L') ∧
      Harmless ((text, second) :: rest)
  | _ => True

/-- No response before the last message ends in a sync byte. -/
def InStep (messages : List Message) : Prop :=
  ∀ message ∈ messages.dropLast, ¬ message.EndsInSync

instance (messages : List Message) : Decidable (InStep messages) :=
  inferInstanceAs (Decidable (∀ message ∈ messages.dropLast, _))

instance
    (server : Server)
    (stream : List (Text × Message)) :
    Decidable (Decodes server stream) :=
  inferInstanceAs (Decidable (_ = _))

section Decoding

/-- The bytes of a stream without text. -/
theorem streamBytes_plain (messages : List Message) :
    streamBytes (plain messages) = Server.messageBytes messages := by
  simp [streamBytes, plain, Server.messageBytes, Text.empty,
    List.flatMap_map]

/-- Without the responses that end in a sync byte every text is harmless. -/
theorem harmless_of_inStep
    {stream : List (Text × Message)}
    (inStep : InStep (stream.map Prod.snd)) :
    Harmless stream := by
  induction stream with
  | nil => trivial
  | cons first rest inductionHypothesis =>
      cases rest with
      | nil => trivial
      | cons second rest =>
          refine ⟨fun ends => ?_, inductionHypothesis ?_⟩
          · exact absurd ends (inStep first.2 (by simp))
          · intro message present
            refine inStep message ?_
            simp only [List.map_cons, List.dropLast_cons_cons] at present ⊢
            exact List.mem_cons_of_mem _ present

/-- A harmless stream is performed message by message. -/
theorem readFrom_of_harmless
    {stream : List (Text × Message)}
    (harmless : Harmless stream)
    (server : Server) :
    Server.readFrom 0 (streamBytes stream) server =
      (stream.map fun item => item.2.action).foldl Server.perform server := by
  induction stream generalizing server with
  | nil => rfl
  | cons first rest inductionHypothesis =>
      obtain ⟨text, message⟩ := first
      have bytes :
          streamBytes ((text, message) :: rest) =
            text.val ++ (message.bytes ++ streamBytes rest) := by
        simp [streamBytes]
      have later : Harmless rest := by
        cases rest with
        | nil => trivial
        | cons second rest => exact harmless.2
      rw [bytes, Server.readFrom_text text.property, Server.readFrom_message]
      · exact inductionHypothesis later _
      · intro ends next after follows
        cases rest with
        | nil => cases follows
        | cons second rest =>
            obtain ⟨start, others, begins, notType⟩ := harmless.1 ends
            have isStart : next = start := by
              simp only [streamBytes, List.flatMap_cons, begins,
                List.cons_append] at follows
              exact (List.cons_eq_cons.mp follows).1.symm
            subst isStart
            refine ⟨fun isSync => second.1.property ?_, notType⟩
            rw [begins, ← isSync]
            exact List.mem_cons_self

/-- Messages without text are performed only when the search stays in step. -/
theorem inStep_of_actions
    {messages : List Message}
    {server : Server}
    (finished : server.unfinishedSerialString = [])
    (performed :
      (Server.readFrom 0 (Server.messageBytes messages) server).actions =
        server.actions ++ messages.map Message.action) :
    InStep messages := by
  induction messages generalizing server with
  | nil => simp [InStep]
  | cons first rest inductionHypothesis =>
      cases rest with
      | nil => simp [InStep]
      | cons second rest =>
          have bytes :
              Server.messageBytes (first :: second :: rest) =
                first.bytes ++ Server.messageBytes (second :: rest) := by
            simp [Server.messageBytes]
          have actions :
              server.actions ++ (first :: second :: rest).map Message.action =
                (server.perform first.action).actions ++
                  (second :: rest).map Message.action := by
            simp
          rw [bytes, actions] at performed
          have inTime : ¬ first.EndsInSync := by
            intro ends
            obtain ⟨type, payload, shape, _⟩ := second.exists_bytes
            have sync :
                Server.messageBytes (second :: rest) =
                  syncByte :: (type :: payload ++ Server.messageBytes rest) := by
              simp [Server.messageBytes, shape]
            rw [sync, Server.readFrom_swallowed ends] at performed
            refine
              Server.outOfStep [] (type :: payload ++ Server.messageBytes rest)
                0 1 second rest (server.perform first.action) finished
                (Nat.le_refl 1) ?_ performed
            rw [sync]
            simp
          rw [Server.readFrom_message _ _ (fun ends => absurd ends inTime)]
            at performed
          have later : InStep (second :: rest) :=
            inductionHypothesis (by exact finished) performed
          intro message present
          rw [List.dropLast_cons_cons, List.mem_cons] at present
          rcases present with isFirst | isLater
          · rw [isFirst]
            exact inTime
          · exact later message isLater

/--
When the handler performs exactly the messages: without text, if and only if no
response before the last message ends in a sync byte; the same condition decides
whether it does so with every text between the messages; and with a given text it
is enough that the text is harmless.
-/
theorem decodes_iff_inStep
    (server : Server)
    (finished : server.unfinishedSerialString = []) :
    (∀ messages,
      Decodes server (plain messages) ↔ InStep messages) ∧
    (∀ messages,
      (∀ stream : List (Text × Message),
        stream.map Prod.snd = messages → Decodes server stream) ↔
        InStep messages) ∧
    (∀ stream, Harmless stream → Decodes server stream) := by
  have enough : ∀ stream, Harmless stream → Decodes server stream := by
    intro stream harmless
    unfold Decodes
    rw [Server.handleReadSerial_of_finished finished]
    exact readFrom_of_harmless harmless server
  have messagesOf :
      ∀ messages, (plain messages).map Prod.snd = messages := by
    intro messages
    simp [plain]
  have needed :
      ∀ messages, Decodes server (plain messages) → InStep messages := by
    intro messages decodes
    have actions := congrArg Server.actions decodes
    rw [Server.handleReadSerial_of_finished finished, streamBytes_plain,
      Server.actions_foldl_perform] at actions
    refine inStep_of_actions finished (actions.trans ?_)
    simp [plain]
  refine ⟨fun messages => ⟨needed messages, fun inStep => ?_⟩,
    fun messages => ⟨fun all => ?_, fun inStep stream isStream => ?_⟩, enough⟩
  · exact enough _ (harmless_of_inStep ((messagesOf messages).symm ▸ inStep))
  · exact needed messages (all (plain messages) (messagesOf messages))
  · exact enough stream (harmless_of_inStep (isStream ▸ inStep))

/-- The PC after its start, before it has read anything. -/
def Server.start : Server :=
  { nodeIds := [], unfinishedSerialString := [], actions := [] }

/-- A discovery, some text, and the acknowledgement 1 of a command. -/
theorem decodes_discovery_text_ack :
    Decodes Server.start
      [(.empty, .pcDiscovery), (⟨[byteOf 'A'], by decide⟩, .response 1)] :=
  (decodes_iff_inStep Server.start rfl).2.2 _
    ⟨fun ends => ends.elim, trivial⟩

/-- The discovery behind the response 255 is not answered. -/
theorem not_decodes_response_255 :
    ¬ Decodes Server.start (plain [.response 255, .pcDiscovery]) := by
  decide +kernel

end Decoding

end DistributedLighting
