import DistributedLighting.SerialStream

namespace DistributedLighting

/-!
# The serial stream in chunks

`async_read_until` hands the stream over in chunks that contain a sync byte
each, and `Server::handle_read_serial` keeps an unfinished message for the next
chunk.  Where the chunks end decides whether a message is still read as itself:
the sync byte of a message and the last byte of a response may not stand alone.
-/

namespace Server

/-- The handler runs once for each chunk. -/
def readChunks
    (server : Server)
    (chunks : List (List Byte)) : Server :=
  chunks.foldl handleReadSerial server

end Server

/-- The bytes of messages in chunks, as `async_read_until` delivers them. -/
structure Cutting (messages : List Message) where
  chunks : List (List Byte)
  whole : chunks.flatten = Server.messageBytes messages
  synced : ∀ chunk ∈ chunks, syncByte ∈ chunk

/-- One chunk for each message. -/
def Cutting.oneByOne (messages : List Message) : Cutting messages where
  chunks := messages.map Message.bytes
  whole := by rw [Server.messageBytes, List.flatMap_def]
  synced := by
    intro chunk present
    obtain ⟨message, _, isBytes⟩ := List.mem_map.mp present
    obtain ⟨type, payload, bytes, _⟩ := message.exists_bytes
    rw [← isBytes, bytes]
    exact List.mem_cons_self

/-- A chunk ends behind that many bytes. -/
def EndsAt : List (List Byte) → Nat → Prop
  | [], _ => False
  | chunk :: rest, position =>
      position = chunk.length ∨
        chunk.length ≤ position ∧ EndsAt rest (position - chunk.length)

/--
A response whose last byte is in a later chunk ends in 0, and one that ends in a
sync byte ends its chunk.
-/
def Message.Tolerates
    (ends : Nat → Prop) : Message → Prop
  | .response value =>
      (ends 5 → responseByte value 0 = 0) ∧
        (responseByte value 0 = syncByte → ends 6)
  | _ => True

/-- No sync byte of a message ends a chunk, and the responses tolerate the chunks. -/
def CleanEnds (ends : Nat → Prop) : List Message → Prop
  | [] => True
  | message :: later =>
      ¬ ends 1 ∧
        message.Tolerates ends ∧
        CleanEnds (fun position => ends (message.bytes.length + position))
          later

/-- The chunks end where the messages tolerate it. -/
def Cutting.Clean
    {messages : List Message}
    (cutting : Cutting messages) : Prop :=
  CleanEnds (EndsAt cutting.chunks) messages

/-- The handler performs the same actions with both cuttings. -/
def SameActions
    (server : Server)
    {messages : List Message}
    (first second : Cutting messages) : Prop :=
  (server.readChunks first.chunks).actions =
    (server.readChunks second.chunks).actions

section Ends

variable {line : List Byte} {chunks : List (List Byte)}

/-- No chunk ends inside the first one. -/
theorem not_endsAt
    {position : Nat}
    (inside : position < line.length) :
    ¬ EndsAt (line :: chunks) position := by
  rintro (atEnd | ⟨beyond, _⟩)
  · exact Nat.ne_of_lt inside atEnd
  · exact Nat.not_le_of_gt inside beyond

/-- Bytes in front of the first chunk move all ends. -/
theorem endsAt_append
    (before : List Byte)
    (position : Nat) :
    EndsAt ((before ++ line) :: chunks) (before.length + position) ↔
      EndsAt (line :: chunks) position := by
  simp only [EndsAt, List.length_append, Nat.add_right_inj,
    Nat.add_le_add_iff_left, Nat.add_sub_add_left]

/-- Joining the first two chunks removes one end. -/
theorem endsAt_joined
    (chunk : List Byte)
    {position : Nat}
    (elsewhere : position ≠ line.length) :
    EndsAt (line :: chunk :: chunks) position ↔
      EndsAt ((line ++ chunk) :: chunks) position := by
  simp only [EndsAt, List.length_append, elsewhere, false_or]
  rw [← Nat.sub_sub]
  constructor
  · rintro ⟨beyond, atEnd | ⟨further, later⟩⟩
    · exact .inl (by omega)
    · exact .inr ⟨by omega, later⟩
  · rintro (atEnd | ⟨beyond, later⟩)
    · exact ⟨by omega, .inl (by omega)⟩
    · exact ⟨by omega, .inr ⟨by omega, later⟩⟩

/-- The messages only ask for ends behind their first byte. -/
theorem cleanEnds_congr
    {first second : Nat → Prop}
    {messages : List Message}
    (same : ∀ position, 1 ≤ position → (first position ↔ second position)) :
    CleanEnds first messages ↔ CleanEnds second messages := by
  induction messages generalizing first second with
  | nil => rfl
  | cons message later inductionHypothesis =>
      have tolerates : message.Tolerates first ↔ message.Tolerates second := by
        cases message with
        | response value =>
            simp only [Message.Tolerates, same 5 (by decide),
              same 6 (by decide)]
        | frequentData => rfl
        | pcDiscovery => rfl
        | listNodes => rfl
      simp only [CleanEnds]
      rw [same 1 (Nat.le_refl 1), tolerates, inductionHypothesis]
      intro position positive
      exact same _ (Nat.le_add_left_of_le positive)

end Ends

section Parts

/-- The last byte of a joined response. -/
theorem responseByte_joinResponse (first second third fourth : Byte) :
    responseByte (joinResponse first second third fourth) 0 = fourth := by
  refine BitVec.eq_of_getLsbD_eq ?_
  intro index inByte
  have below : index < 16 ∧ index < 24 ∧ index < 32 := by omega
  simp only [getLsbD_responseByte, joinResponse, BitVec.getLsbD_or,
    BitVec.getLsbD_shiftLeft, BitVec.getLsbD_setWidth]
  simp [inByte, below]

/-- A part of a message is shorter than the message. -/
theorem length_lt_of_part
    {message : Message}
    {line missing : List Byte}
    (part : message.bytes = line ++ missing)
    (incomplete : missing ≠ []) :
    line.length < message.bytes.length := by
  rw [part, List.length_append]
  exact Nat.lt_add_of_pos_right (List.length_pos_of_ne_nil incomplete)

/-- The first bytes of a message are unfinished, except for a response without its last byte. -/
theorem readMessage_of_part
    {message : Message}
    {line missing : List Byte}
    (part : message.bytes = line ++ missing)
    (incomplete : missing ≠ [])
    (typed : 2 ≤ line.length)
    (notLast : message.skipped < message.bytes.length → line.length ≠ 5) :
    (readMessage line).unfinished = true := by
  have shorter := length_lt_of_part part incomplete
  obtain ⟨sync, type, rest, shape⟩ :
      ∃ sync type rest, line = sync :: type :: rest := by
    cases line with
    | nil => simp at typed
    | cons sync others =>
        cases others with
        | nil => simp at typed
        | cons type rest => exact ⟨sync, type, rest, rfl⟩
  subst shape
  cases message with
  | frequentData node value16b pwm =>
      simp only [Message.bytes, List.cons_append, List.cons.injEq] at part
      simp only [Message.bytes, List.length_cons, List.length_nil] at shorter
      have short : ¬ 6 ≤ rest.length + 1 + 1 := by omega
      simp [readMessage, ← part.2.1, short]
  | response value =>
      simp only [Message.bytes, List.cons_append, List.cons.injEq] at part
      simp only [Message.bytes, Message.skipped, List.length_cons,
        List.length_nil] at shorter notLast
      have short : ¬ 5 ≤ rest.length + 1 + 1 := by omega
      have notF : byteOf 'R' ≠ byteOf 'F' := by decide
      simp [readMessage, ← part.2.1, short, notF]
  | pcDiscovery =>
      simp only [Message.bytes, List.length_cons, List.length_nil] at shorter
      omega
  | listNodes nodesList fits =>
      have notF : byteOf 'L' ≠ byteOf 'F' := by decide
      have notR : byteOf 'L' ≠ byteOf 'R' := by decide
      have notD : byteOf 'L' ≠ byteOf 'D' := by decide
      simp only [Message.bytes, List.cons_append, List.cons.injEq] at part
      cases rest with
      | nil => simp [readMessage, ← part.2.1, notF, notR, notD]
      | cons count others =>
          simp only [List.cons_append, List.cons.injEq] at part
          simp only [Message.bytes, List.length_append, List.length_cons,
            List.length_nil] at shorter
          have short :
              ¬ 3 + nodesList.length ≤ others.length + 1 + 1 + 1 := by
            omega
          simp [readMessage, ← part.2.1, ← part.2.2.1, notF, notR, notD,
            Nat.mod_eq_of_lt fits, short]

/-- The first bytes of a message are kept, except for a response without its last byte. -/
theorem readFrom_of_part
    {message : Message}
    {line missing : List Byte}
    (part : message.bytes = line ++ missing)
    (incomplete : missing ≠ [])
    (typed : 2 ≤ line.length)
    (notLast : message.skipped < message.bytes.length → line.length ≠ 5)
    (server : Server) :
    Server.readFrom 0 line server =
      { server with unfinishedSerialString := line } := by
  have unfinished := readMessage_of_part part incomplete typed notLast
  obtain ⟨type, payload, bytes, _⟩ := message.exists_bytes
  cases line with
  | nil => cases typed
  | cons first rest =>
      have isSync : first = syncByte := by
        rw [bytes] at part
        exact (List.cons_eq_cons.mp part).1.symm
      subst isSync
      exact Server.readFrom_of_unfinished unfinished server

/-- A response without its last byte is taken as if that byte were 0. -/
theorem readFrom_five
    {value : BitVec 32}
    {line : List Byte}
    {last : Byte}
    (five : (Message.response value).bytes = line ++ [last])
    (server : Server) :
    Server.readFrom 0 line server =
      server.perform
        (.receivedCommandResponse
          (joinResponse (responseByte value 24) (responseByte value 16)
            (responseByte value 8) 0)) := by
  have five :
      [syncByte, byteOf 'R', responseByte value 24, responseByte value 16,
          responseByte value 8] ++ [responseByte value 0] =
        line ++ [last] := five
  have shape := (List.append_inj' five rfl).1.symm
  have reading :
      readMessage line =
        ⟨5,
          some
            (.receivedCommandResponse
              (joinResponse (responseByte value 24) (responseByte value 16)
                (responseByte value 8) 0)),
          false⟩ := by
    have notF : byteOf 'R' ≠ byteOf 'F' := by decide
    simp [shape, readMessage, notF]
  rw [shape] at reading ⊢
  rw [Server.readFrom_sync, Server.found, reading]
  rfl

end Parts

/-- From a line and the chunks after it, the handler performs the given messages. -/
def Performs
    (server : Server)
    (line : List Byte)
    (chunks : List (List Byte))
    (messages : List Message) : Prop :=
  ((Server.readFrom 0 line server).readChunks chunks).actions =
    server.actions ++ messages.map Message.action

section Chunks

variable
  {server : Server} {line : List Byte} {chunks : List (List Byte)}
  {message : Message} {later : List Message}

/-- An action that has been performed is the first of the messages. -/
theorem Performs.first_action
    {action : ServerAction}
    (performs : Performs server line chunks (message :: later))
    (read : Server.readFrom 0 line server = server.perform action) :
    action = message.action := by
  have grown := Server.prefix_foldl chunks (Server.readFrom 0 line server)
  unfold Performs Server.readChunks at performs
  rw [performs, read, Server.actions_perform,
    List.prefix_append_right_inj] at grown
  obtain ⟨_, split⟩ := grown
  exact (List.cons_eq_cons.mp split).1

/-- A line that performs the first message leaves the others to what remains. -/
theorem performs_cons_iff
    {remaining : List Byte}
    (read :
      Server.readFrom 0 line server =
        Server.readFrom 0 remaining (server.perform message.action)) :
    Performs server line chunks (message :: later) ↔
      Performs (server.perform message.action) remaining chunks later := by
  unfold Performs
  rw [read, Server.actions_perform, List.map_cons, List.append_assoc,
    List.singleton_append]

/-- A message that is whole in the line. -/
theorem performs_iff_of_whole
    (finished : server.unfinishedSerialString = [])
    (whole : line ++ chunks.flatten = Server.messageBytes later)
    (next :
      Performs (server.perform message.action) line chunks later ↔
        CleanEnds (EndsAt (line :: chunks)) later) :
    Performs server (message.bytes ++ line) chunks (message :: later) ↔
      CleanEnds (EndsAt ((message.bytes ++ line) :: chunks))
        (message :: later) := by
  have long : 2 ≤ message.bytes.length := by
    obtain ⟨type, payload, bytes, _⟩ := message.exists_bytes
    simp [bytes]
  have within :
      ∀ position, position < message.bytes.length →
        ¬ EndsAt ((message.bytes ++ line) :: chunks) position := by
    intro position inside
    refine not_endsAt ?_
    rw [List.length_append]
    exact Nat.lt_add_right _ inside
  have moved :
      (fun position =>
          EndsAt ((message.bytes ++ line) :: chunks)
            (message.bytes.length + position)) =
        EndsAt (line :: chunks) := by
    funext position
    exact propext (endsAt_append _ _)
  by_cases swallows : message.EndsInSync ∧ line ≠ []
  · obtain ⟨ends, notEnd⟩ := swallows
    constructor
    · intro performs
      exfalso
      cases later with
      | nil =>
          simp only [Server.messageBytes, List.flatMap_nil,
            List.append_eq_nil_iff] at whole
          exact notEnd whole.1
      | cons second others =>
          obtain ⟨type, payload, bytes, _⟩ := second.exists_bytes
          obtain ⟨first, rest, shape⟩ := List.exists_cons_of_ne_nil notEnd
          have isSync : first = syncByte := by
            rw [shape, Server.messageBytes, List.flatMap_cons, bytes] at whole
            exact (List.cons_eq_cons.mp whole).1
          rw [shape, isSync] at performs whole
          unfold Performs Server.readChunks at performs
          rw [Server.readFrom_swallowed ends, List.map_cons,
            ← List.singleton_append, ← List.append_assoc,
            ← Server.actions_perform] at performs
          refine
            Server.outOfStep chunks rest 0 1 second others
              (server.perform message.action) finished (Nat.le_refl 1) ?_
              performs
          rw [← whole]
          rfl
    · rintro ⟨_, tolerates, _⟩
      exfalso
      cases message with
      | response value =>
          have atEnd :=
            (endsAt_append (Message.response value).bytes 0).mp
              (tolerates.2 ends)
          exact
            not_endsAt (List.length_pos_of_ne_nil notEnd) atEnd
      | frequentData => exact ends.elim
      | pcDiscovery => exact ends.elim
      | listNodes => exact ends.elim
  · have read :
        Server.readFrom 0 (message.bytes ++ line) server =
          Server.readFrom 0 line (server.perform message.action) := by
      refine Server.readFrom_message message line ?_ server
      intro ends first rest shape
      exact absurd ⟨ends, shape ▸ List.cons_ne_nil _ _⟩ swallows
    have tolerates :
        message.Tolerates (EndsAt ((message.bytes ++ line) :: chunks)) := by
      cases message with
      | response value =>
          refine
            ⟨fun ends => absurd ends (within 5 (by simp [Message.bytes])),
              fun ends => ?_⟩
          refine (endsAt_append (Message.response value).bytes 0).mpr ?_
          refine .inl ?_
          by_contra notEnd
          exact
            swallows
              ⟨ends, List.ne_nil_of_length_pos (Nat.pos_of_ne_zero (Ne.symm notEnd))⟩
      | frequentData => trivial
      | pcDiscovery => trivial
      | listNodes => trivial
    rw [performs_cons_iff read, next, CleanEnds, moved]
    exact
      ⟨fun clean => ⟨within 1 long, tolerates, clean⟩,
        fun clean => clean.2.2⟩

/-- A message whose sync byte stands alone in the line is never read. -/
theorem not_performs_lone
    (finished : server.unfinishedSerialString = [])
    (whole :
      syncByte :: chunks.flatten =
        Server.messageBytes (message :: later)) :
    ¬ Performs server [syncByte] chunks (message :: later) := by
  intro performs
  unfold Performs Server.readChunks at performs
  rw [Server.readFrom_lone] at performs
  refine
    Server.outOfStep chunks [] 0 1 message later server finished
      (Nat.le_refl 1) ?_ performs
  rw [← whole]
  rfl

/-- A part of a message that is kept is read with the next chunk. -/
theorem performs_iff_of_kept
    {chunk : List Byte}
    (finished : server.unfinishedSerialString = [])
    (kept :
      Server.readFrom 0 line server =
        { server with unfinishedSerialString := line })
    (messages : List Message) :
    Performs server line (chunk :: chunks) messages ↔
      Performs server (line ++ chunk) chunks messages := by
  have next :
      (Server.readFrom 0 line server).handleReadSerial chunk =
        Server.readFrom 0 (line ++ chunk) server := by
    rw [kept]
    unfold Server.handleReadSerial
    dsimp only
    rw [← finished]
  unfold Performs Server.readChunks
  rw [List.foldl_cons, next]

/-- A response whose last byte is in the next chunk is right only when that byte is 0. -/
theorem performs_iff_of_five
    {value : BitVec 32}
    {last : Byte}
    {chunk : List Byte}
    (five : (Message.response value).bytes = line ++ [last])
    (finished : server.unfinishedSerialString = [])
    (next :
      Performs (server.perform (.receivedCommandResponse value)) chunk chunks
          later ↔
        CleanEnds (EndsAt (chunk :: chunks)) later) :
    Performs server line ((last :: chunk) :: chunks)
        (.response value :: later) ↔
      CleanEnds (EndsAt (line :: (last :: chunk) :: chunks))
        (.response value :: later) := by
  have isLast : responseByte value 0 = last := by
    have five :
        [syncByte, byteOf 'R', responseByte value 24, responseByte value 16,
            responseByte value 8] ++ [responseByte value 0] =
          line ++ [last] := five
    exact List.singleton_inj.mp (List.append_inj' five rfl).2
  have length : line.length = 5 := by
    have lengths := congrArg List.length five
    simp only [Message.bytes, List.length_append, List.length_cons,
      List.length_nil] at lengths
    omega
  have read := readFrom_five five server
  have atFive : EndsAt (line :: (last :: chunk) :: chunks) 5 :=
    .inl length.symm
  by_cases zero : last = 0
  · have isValue :
        joinResponse (responseByte value 24) (responseByte value 16)
            (responseByte value 8) 0 =
          value := by
      rw [← zero, ← isLast]
      exact joinResponse_bytes value
    have moved :
        (fun position =>
            EndsAt (line :: (last :: chunk) :: chunks) (6 + position)) =
          EndsAt (chunk :: chunks) := by
      funext position
      refine propext ?_
      have elsewhere : 6 + position ≠ line.length := by omega
      have shifted :
          EndsAt ((line ++ [last] ++ chunk) :: chunks)
              ((line ++ [last]).length + position) ↔
            EndsAt (chunk :: chunks) position :=
        endsAt_append (line ++ [last]) position
      rw [endsAt_joined _ elsewhere]
      rw [List.append_assoc, List.length_append, length] at shifted
      exact shifted
    have performed :
        Performs server line ((last :: chunk) :: chunks)
            (.response value :: later) ↔
          Performs (server.perform (.receivedCommandResponse value)) chunk
            chunks later := by
      have skipped :
          (Server.readFrom 0 line server).handleReadSerial (last :: chunk) =
            Server.readFrom 0 chunk
              (server.perform (.receivedCommandResponse value)) := by
        have nothing :
            (server.perform
              (.receivedCommandResponse value)).unfinishedSerialString = [] :=
          finished
        rw [read, isValue, Server.handleReadSerial_of_finished nothing, zero]
        exact
          Server.readFrom_text (show syncByte ∉ [0] by decide) chunk _
      unfold Performs Server.readChunks
      rw [List.foldl_cons, skipped, Server.actions_perform, List.map_cons,
        List.append_assoc, List.singleton_append]
      rfl
    rw [performed, next]
    have notSync : ¬ responseByte value 0 = syncByte := by
      rw [isLast, zero]
      decide
    have length6 : (Message.response value).bytes.length = 6 := rfl
    rw [CleanEnds, length6, moved]
    exact
      ⟨fun clean =>
          ⟨not_endsAt (by omega),
            ⟨fun _ => isLast.trans zero, fun ends => absurd ends notSync⟩,
            clean⟩,
        fun clean => clean.2.2⟩
  · constructor
    · intro performs
      have same := performs.first_action read
      injection same with same
      have byte := congrArg (responseByte · 0) same
      rw [responseByte_joinResponse] at byte
      exact absurd (isLast.symm.trans byte.symm) zero
    · intro clean
      exact absurd (isLast.symm.trans (clean.2.1.1 atFive)) zero

/-- Joining a part of a message to the next chunk removes no end that matters. -/
theorem cleanEnds_joined
    {chunk : List Byte}
    (typed : 2 ≤ line.length)
    (shorter : line.length < message.bytes.length)
    (notLast : message.skipped < message.bytes.length → line.length ≠ 5) :
    CleanEnds (EndsAt (line :: chunk :: chunks)) (message :: later) ↔
      CleanEnds (EndsAt ((line ++ chunk) :: chunks)) (message :: later) := by
  have same :
      ∀ position, position ≠ line.length →
        (EndsAt (line :: chunk :: chunks) position ↔
          EndsAt ((line ++ chunk) :: chunks) position) :=
    fun _ elsewhere => endsAt_joined chunk elsewhere
  have tolerates :
      message.Tolerates (EndsAt (line :: chunk :: chunks)) ↔
        message.Tolerates (EndsAt ((line ++ chunk) :: chunks)) := by
    cases message with
    | response value =>
        simp only [Message.bytes, Message.skipped, List.length_cons,
          List.length_nil] at shorter notLast
        simp only [Message.Tolerates]
        rw [same 5 (by omega), same 6 (by omega)]
    | frequentData => rfl
    | pcDiscovery => rfl
    | listNodes => rfl
  have behind :
      (fun position =>
          EndsAt (line :: chunk :: chunks)
            (message.bytes.length + position)) =
        fun position =>
          EndsAt ((line ++ chunk) :: chunks)
            (message.bytes.length + position) := by
    funext position
    exact propext (same _ (by omega))
  rw [CleanEnds, CleanEnds, same 1 (by omega), tolerates, behind]

/-- A message at the front of the stream is whole in the line, or a part of it is missing. -/
theorem line_cases
    (whole :
      line ++ chunks.flatten =
        Server.messageBytes (message :: later)) :
    (∃ remaining,
      line = message.bytes ++ remaining ∧
        remaining ++ chunks.flatten = Server.messageBytes later) ∨
      ∃ missing,
        missing ≠ [] ∧
          message.bytes = line ++ missing ∧
          chunks.flatten = missing ++ Server.messageBytes later := by
  rw [Server.messageBytes, List.flatMap_cons,
    List.append_eq_append_iff] at whole
  rcases whole with ⟨missing, part, flat⟩ | ⟨remaining, isLine, rest⟩
  · by_cases complete : missing = []
    · refine .inl ⟨[], ?_, ?_⟩
      · rw [part, complete, List.append_nil, List.append_nil]
      · rw [flat, complete]
        rfl
    · exact .inr ⟨missing, complete, part, flat⟩
  · exact .inl ⟨remaining, isLine, rest.symm⟩

/-- From a place where a message starts, the messages are performed with clean ends only. -/
theorem performs_iff_cleanEnds
    (messages : List Message)
    (server : Server)
    (line : List Byte)
    (chunks : List (List Byte))
    (finished : server.unfinishedSerialString = [])
    (nonempty : ∀ chunk ∈ chunks, chunk ≠ [])
    (whole : line ++ chunks.flatten = Server.messageBytes messages) :
    Performs server line chunks messages ↔
      CleanEnds (EndsAt (line :: chunks)) messages := by
  -- Every step reads a message or joins a chunk to the line.
  induction size : chunks.length + messages.length using
      Nat.strong_induction_on generalizing messages server line chunks with
  | h size inductionHypothesis =>
  cases messages with
  | nil =>
      have nothing : line = [] ∧ chunks.flatten = [] := by
        simpa [Server.messageBytes] using whole
      obtain ⟨isEmpty, flat⟩ := nothing
      have none : chunks = [] := by
        cases chunks with
        | nil => rfl
        | cons chunk rest =>
            simp only [List.flatten_cons, List.append_eq_nil_iff] at flat
            exact absurd flat.1 (nonempty chunk List.mem_cons_self)
      subst isEmpty none
      simp [Performs, Server.readChunks, Server.readFrom, CleanEnds]
  | cons message later =>
      rcases line_cases whole with
        ⟨remaining, isLine, rest⟩ | ⟨missing, incomplete, part, flat⟩
      · subst isLine
        refine performs_iff_of_whole finished rest ?_
        refine
          inductionHypothesis _ ?_ later (server.perform message.action)
            remaining chunks finished nonempty rest rfl
        simp only [List.length_cons] at size
        omega
      · cases chunks with
        | nil =>
            simp [incomplete] at flat
        | cons chunk others =>
            have nonemptyOthers : ∀ chunk ∈ others, chunk ≠ [] :=
              fun later present =>
                nonempty later (List.mem_cons_of_mem _ present)
            have joined :
                Performs server (line ++ chunk) others (message :: later) ↔
                  CleanEnds (EndsAt ((line ++ chunk) :: others))
                    (message :: later) := by
              refine
                inductionHypothesis _ ?_ (message :: later) server
                  (line ++ chunk) others finished nonemptyOthers ?_ rfl
              · simp only [List.length_cons] at size ⊢
                omega
              · rw [← whole, List.flatten_cons, List.append_assoc]
            rcases Nat.lt_trichotomy line.length 1 with none | one | more
            · have isEmpty : line = [] :=
                List.length_eq_zero_iff.mp (Nat.lt_one_iff.mp none)
              subst isEmpty
              have kept :
                  Server.readFrom 0 [] server =
                    { server with unfinishedSerialString := [] } := by
                show server = { server with unfinishedSerialString := [] }
                rw [← finished]
              rw [performs_iff_of_kept finished kept, joined]
              refine cleanEnds_congr fun position positive => ?_
              exact (endsAt_joined chunk (Nat.ne_of_gt positive)).symm
            · obtain ⟨first, isLine⟩ := List.length_eq_one_iff.mp one
              obtain ⟨type, payload, bytes, _⟩ := message.exists_bytes
              have isSync : first = syncByte := by
                rw [bytes, isLine] at part
                exact (List.cons_eq_cons.mp part).1.symm
              subst isLine isSync
              exact
                iff_of_false (not_performs_lone finished whole)
                  fun clean => clean.1 (.inl rfl)
            · by_cases last :
                  message.skipped < message.bytes.length ∧ line.length = 5
              · obtain ⟨longer, five⟩ := last
                cases message with
                | response value =>
                    obtain ⟨byte, isMissing⟩ : ∃ byte, missing = [byte] := by
                      apply List.length_eq_one_iff.mp
                      have lengths := congrArg List.length part
                      simp only [Message.bytes, List.length_append,
                        List.length_cons, List.length_nil] at lengths
                      omega
                    subst isMissing
                    obtain ⟨first, rest, shape⟩ :=
                      List.exists_cons_of_ne_nil
                        (nonempty chunk List.mem_cons_self)
                    subst shape
                    obtain ⟨isFirst, isRest⟩ := List.cons_eq_cons.mp flat
                    subst isFirst
                    refine performs_iff_of_five part finished ?_
                    refine
                      inductionHypothesis _ ?_ later
                        (server.perform (.receivedCommandResponse value))
                        rest others finished nonemptyOthers isRest rfl
                    simp only [List.length_cons] at size
                    omega
                | frequentData => exact absurd longer (Nat.lt_irrefl _)
                | pcDiscovery => exact absurd longer (Nat.lt_irrefl _)
                | listNodes => exact absurd longer (Nat.lt_irrefl _)
              · have notLast :
                    message.skipped < message.bytes.length →
                      line.length ≠ 5 :=
                  fun longer five => last ⟨longer, five⟩
                have kept :=
                  readFrom_of_part part incomplete more notLast server
                have shorter := length_lt_of_part part incomplete
                rw [performs_iff_of_kept finished kept, joined]
                exact (cleanEnds_joined more shorter notLast).symm

end Chunks

section Independence

/-- A cutting performs exactly the messages if and only if it is clean. -/
theorem Cutting.actions_iff_clean
    {messages : List Message}
    (cutting : Cutting messages)
    {server : Server}
    (finished : server.unfinishedSerialString = []) :
    (server.readChunks cutting.chunks).actions =
        server.actions ++ messages.map Message.action ↔
      cutting.Clean := by
  have nonempty : ∀ chunk ∈ cutting.chunks, chunk ≠ [] :=
    fun chunk present =>
      List.ne_nil_of_mem (cutting.synced chunk present)
  have atStart :=
    performs_iff_cleanEnds messages server [] cutting.chunks finished
      nonempty cutting.whole
  have behind :
      CleanEnds (EndsAt ([] :: cutting.chunks)) messages ↔
        cutting.Clean := by
    refine cleanEnds_congr fun position positive => ?_
    simp [EndsAt, Nat.ne_of_gt positive]
  exact atStart.trans behind

/-- With one chunk for each message the messages are performed. -/
theorem Cutting.actions_oneByOne
    (messages : List Message)
    {server : Server}
    (finished : server.unfinishedSerialString = []) :
    (server.readChunks (oneByOne messages).chunks).actions =
      server.actions ++ messages.map Message.action := by
  simp only [oneByOne, Server.readChunks]
  induction messages generalizing server with
  | nil => simp
  | cons message later inductionHypothesis =>
      have first :
          server.handleReadSerial message.bytes =
            server.perform message.action := by
        have alone :=
          Server.readFrom_message message []
            (fun _ _ _ => nofun) server
        rw [List.append_nil] at alone
        rw [Server.handleReadSerial_of_finished finished, alone]
        rfl
      rw [List.map_cons, List.foldl_cons, first,
        inductionHypothesis (by exact finished), Server.actions_perform,
        List.map_cons, List.append_assoc, List.singleton_append]

/-- There are at most as many chunks as sync bytes. -/
theorem Cutting.length_le_count
    {messages : List Message}
    (cutting : Cutting messages) :
    cutting.chunks.length ≤
      (Server.messageBytes messages).count syncByte := by
  have counted :
      ∀ chunks : List (List Byte),
        (∀ chunk ∈ chunks, syncByte ∈ chunk) →
        chunks.length ≤ chunks.flatten.count syncByte := by
    intro chunks synced
    induction chunks with
    | nil => exact Nat.zero_le _
    | cons chunk rest inductionHypothesis =>
        have here : 1 ≤ chunk.count syncByte :=
          List.one_le_count_iff.mpr (synced chunk List.mem_cons_self)
        have later :=
          inductionHypothesis fun chunk present =>
            synced chunk (List.mem_cons_of_mem _ present)
        rw [List.flatten_cons, List.count_append, List.length_cons]
        omega
  rw [← cutting.whole]
  exact counted cutting.chunks cutting.synced

/-- There are at most as many messages as sync bytes. -/
theorem length_le_count_messageBytes (messages : List Message) :
    messages.length ≤ (Server.messageBytes messages).count syncByte := by
  have short := (Cutting.oneByOne messages).length_le_count
  rwa [Cutting.oneByOne, List.length_map] at short

/-- The cutting behind the first sync byte, when another one follows. -/
theorem exists_cutting_behind_sync
    {messages : List Message}
    (several : 2 ≤ (Server.messageBytes messages).count syncByte) :
    ∃ cutting : Cutting messages, ¬ cutting.Clean := by
  cases messages with
  | nil => simp [Server.messageBytes] at several
  | cons message later =>
      obtain ⟨type, payload, bytes, _⟩ := message.exists_bytes
      have shape :
          Server.messageBytes (message :: later) =
            syncByte :: (type :: payload ++ Server.messageBytes later) := by
        simp [Server.messageBytes, bytes]
      have further :
          syncByte ∈ type :: payload ++ Server.messageBytes later := by
        rw [shape, List.count_cons_self] at several
        exact List.one_le_count_iff.mp (by omega)
      refine
        ⟨{ chunks :=
             [[syncByte], type :: payload ++ Server.messageBytes later]
           whole := by rw [shape]; simp
           synced := ?_ },
          fun clean => clean.1 (.inl rfl)⟩
      intro chunk present
      rcases List.mem_pair.mp present with isFirst | isSecond
      · rw [isFirst]
        exact List.mem_singleton_self _
      · rw [isSecond]
        exact further

/-- A stream with a single sync byte leaves nothing to cut. -/
theorem Cutting.clean_of_count_le
    {messages : List Message}
    (single : (Server.messageBytes messages).count syncByte ≤ 1)
    (cutting : Cutting messages) :
    cutting.Clean := by
  have few := (length_le_count_messageBytes messages).trans single
  have fewChunks := cutting.length_le_count.trans single
  have whole := cutting.whole
  unfold Clean
  cases messages with
  | nil => trivial
  | cons message later =>
      have last : later = [] := by
        simpa using few
      subst last
      have bytes : Server.messageBytes [message] = message.bytes := by
        simp [Server.messageBytes]
      rw [bytes] at single whole
      obtain ⟨type, payload, shape, _⟩ := message.exists_bytes
      have chunks : cutting.chunks = [message.bytes] := by
        cases isChunks : cutting.chunks with
        | nil =>
            rw [isChunks, shape] at whole
            cases whole
        | cons chunk rest =>
            rw [isChunks, List.length_cons] at fewChunks
            have none : rest = [] :=
              List.length_eq_zero_iff.mp (by omega)
            rw [isChunks, none, List.flatten_singleton] at whole
            rw [none, whole]
      rw [chunks]
      have inside :
          ∀ position, position < message.bytes.length →
            ¬ EndsAt [message.bytes] position :=
        fun _ => not_endsAt
      refine ⟨inside 1 (by rw [shape]; simp), ?_, trivial⟩
      cases message with
      | response value =>
          exact
            ⟨fun ends => absurd ends (inside 5 (by simp [Message.bytes])),
              fun _ => .inl rfl⟩
      | frequentData => trivial
      | pcDiscovery => trivial
      | listNodes => trivial

/--
A cutting performs the same actions as one chunk for each message if and only if
it is clean; and all cuttings of a stream perform the same actions if and only if
the stream has at most one sync byte, which leaves nothing to cut.
-/
theorem sameActions_iff
    (server : Server)
    (finished : server.unfinishedSerialString = []) :
    (∀ messages (cutting : Cutting messages),
      SameActions server cutting (.oneByOne messages) ↔ cutting.Clean) ∧
    (∀ messages,
      (∀ first second : Cutting messages, SameActions server first second) ↔
        (Server.messageBytes messages).count syncByte ≤ 1) := by
  have toMessages :
      ∀ messages (cutting : Cutting messages),
        SameActions server cutting (.oneByOne messages) ↔
          cutting.Clean := by
    intro messages cutting
    unfold SameActions
    rw [Cutting.actions_oneByOne messages finished]
    exact cutting.actions_iff_clean finished
  refine ⟨toMessages, fun messages => ⟨fun same => ?_, fun single => ?_⟩⟩
  · by_contra several
    obtain ⟨cutting, dirty⟩ :=
      exists_cutting_behind_sync (Nat.not_le.mp several)
    exact dirty ((toMessages messages cutting).mp (same _ _))
  · intro first second
    have firstClean := first.clean_of_count_le single
    have secondClean := second.clean_of_count_le single
    exact
      ((toMessages messages first).mpr firstClean).trans
        ((toMessages messages second).mpr secondClean).symm

/-- A node list that is cut before its last node, and a discovery. -/
def Cutting.insideList :
    Cutting [.listNodes [1, 255, 2] (by decide), .pcDiscovery] where
  chunks := [[255, 76, 3, 1, 255], [2, 255, 68]]
  whole := by decide
  synced := by decide

/-- Two discoveries, cut behind the first sync byte. -/
def Cutting.behindSync : Cutting [.pcDiscovery, .pcDiscovery] where
  chunks := [[255], [68, 255, 68]]
  whole := by decide
  synced := by decide

/-- The list is kept for the second chunk. -/
theorem sameActions_insideList :
    SameActions Server.start .insideList (.oneByOne _) :=
  ((sameActions_iff Server.start rfl).1 _ _).mpr (by
    simp [Cutting.Clean, Cutting.insideList, CleanEnds, EndsAt,
      Message.Tolerates, Message.bytes])

/-- The first discovery is lost. -/
theorem not_sameActions_behindSync :
    ¬ SameActions Server.start .behindSync (.oneByOne _) := by
  unfold SameActions
  decide +kernel

end Independence

end DistributedLighting
