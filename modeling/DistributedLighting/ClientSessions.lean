import DistributedLighting.CommandParser
import DistributedLighting.Runs

namespace DistributedLighting

/-!
# The sessions of the TCP clients

A client is removed by whichever of its pending operations reports an error, and
each of them may.  `removeClientSession` erases where it has found the client without
asking whether it has, and a client that is gone may still have a line read.  The
handlers run one at a time, and the connection of a client outlives its removal, as
it does while the queue holds a command of it.
-/

/-- A call of `removeClientSession`; erasing the end iterator leaves nothing defined. -/
structure Removal (Client : Type) where
  client : Client
  before : List Client
  after : Option (List Client)

/-- The server with its connections. -/
structure Sessions (K Client : Type) where
  server : CommandedServer K Client
  clientSessions : List Client
  /-- Every connection so far. -/
  accepted : List Client
  /-- Whether `async_read_some` is pending. -/
  reading : Client → Bool
  /-- How many `async_write` are pending. -/
  pendingSends : Client → Nat
  removals : List (Removal Client)

/-- What completes or arrives. -/
inductive SessionEvent (K Client : Type) where
  | accept (client : Client)
  | read (client : Client) (millis : Int) (line : List Byte)
  | readError (client : Client)
  | sent (client : Client)
  | sendError (client : Client)
  /-- The server sends a response to a client. -/
  | send (client : Client)
  | frequentData (time : Int) (nodeId : Byte) (values : FrequentDataValues K)
  | receivedNodeIds (nodeIds : List Int)

/-- `clientSessions.erase(find(…, client))` -/
def eraseSession
    {Client : Type}
    [DecidableEq Client]
    (clientSessions : List Client)
    (client : Client) : Option (List Client) :=
  if client ∈ clientSessions then
    some (clientSessions.erase client)
  else
    none

/-- Erase a client from the streams of every node. -/
def eraseStreams
    {Client : Type}
    [DecidableEq Client]
    (activeStreams : ActiveStreams Client)
    (client : Client) : ActiveStreams Client :=
  fun node other =>
    if other = some client then none else activeStreams node other

namespace Sessions

variable {K Client : Type} [DecidableEq Client]

/-- `Server::removeClientSession` -/
def removeClientSession
    (sessions : Sessions K Client)
    (client : Client) : Sessions K Client :=
  let erased := eraseSession sessions.clientSessions client
  { sessions with
    clientSessions := erased.getD sessions.clientSessions
    server :=
      { sessions.server with
        activeStreams := eraseStreams sessions.server.activeStreams client }
    removals :=
      sessions.removals ++ [⟨client, sessions.clientSessions, erased⟩] }

/-- `ServerConnection::sendMessage` -/
def sendMessage
    (sessions : Sessions K Client)
    (client : Client) : Sessions K Client :=
  { sessions with
    pendingSends :=
      Function.update sessions.pendingSends client
        (sessions.pendingSends client + 1) }

/-- A write has completed. -/
def completeSend
    (sessions : Sessions K Client)
    (client : Client) : Sessions K Client :=
  { sessions with
    pendingSends :=
      Function.update sessions.pendingSends client
        (sessions.pendingSends client - 1) }

/-- `tcp_start_accept` and `ServerConnection::start` -/
def accept
    (sessions : Sessions K Client)
    (client : Client) : Sessions K Client :=
  { sessions with
    clientSessions := sessions.clientSessions ++ [client]
    accepted := sessions.accepted ++ [client]
    reading := Function.update sessions.reading client true }.sendMessage client

/-- The handler of `start_receive_read` for a line. -/
def receive
    (sessions : Sessions K Client)
    (client : Client)
    (millis : Int)
    (line : List Byte) : Sessions K Client :=
  let after := Commands.interpreted sessions.server millis line (some client)
  let executed := { sessions with server := after.server }
  if after.textOutputStream.length > 0 then
    executed.sendMessage client
  else
    executed

/-- `Server::receivedFrequentData`: the streams of the node, then the last-minute buffer. -/
def receivedFrequentData
    (sessions : Sessions K Client)
    (time : Int)
    (nodeId : Byte)
    (values : FrequentDataValues K) : Sessions K Client :=
  { sessions with
    pendingSends := fun client =>
      match sessions.server.activeStreams nodeId (some client) with
      | none => sessions.pendingSends client
      | some streaming =>
          if streaming.1 || streaming.2 then
            sessions.pendingSends client + 1
          else
            sessions.pendingSends client
    server :=
      { sessions.server with
        lastMinuteBuffer :=
          sessions.server.lastMinuteBuffer.addToLastMinuteBuffer time nodeId
            values } }

/-- React to an event that can occur. -/
def next
    (sessions : Sessions K Client) :
    SessionEvent K Client → Option (Sessions K Client)
  | .accept client =>
      if client ∈ sessions.accepted then
        none
      else
        some (sessions.accept client)
  | .read client millis line =>
      if sessions.reading client then
        some (sessions.receive client millis line)
      else
        none
  | .readError client =>
      if sessions.reading client then
        some
          ({ sessions with
            reading := Function.update sessions.reading client false
            }.removeClientSession client)
      else
        none
  | .sent client =>
      if 0 < sessions.pendingSends client then
        some (sessions.completeSend client)
      else
        none
  | .sendError client =>
      if 0 < sessions.pendingSends client then
        some ((sessions.completeSend client).removeClientSession client)
      else
        none
  | .send client =>
      if client ∈ sessions.accepted then
        some (sessions.sendMessage client)
      else
        none
  | .frequentData time nodeId values =>
      some (sessions.receivedFrequentData time nodeId values)
  | .receivedNodeIds nodeIds =>
      some
        { sessions with server := { sessions.server with nodeIds := nodeIds } }

omit [DecidableEq Client] in
/-- The server before its first client. -/
def started (lastTimeAddedEntry millisFileWritingStated : Int) :
    Sessions K Client where
  server :=
    { mtxNodeIds := .unlocked
      nodeIds := []
      lastMinuteBuffer := .constructed lastTimeAddedEntry
      activeStreams := fun _ _ => none
      fileName := ""
      writingToFile := false
      millisFileWritingStated := millisFileWritingStated }
  clientSessions := []
  accepted := []
  reading := fun _ => false
  pendingSends := fun _ => 0
  removals := []

/-- Every removal takes out the client and nothing else. -/
def Removal.Exact (removal : Removal Client) : Prop :=
  removal.after =
    some (removal.before.filter fun other => other ≠ removal.client)

/-- Every client was removed as it should be, and has no stream any more. -/
structure Kept (sessions : Sessions K Client) : Prop where
  removals : ∀ removal ∈ sessions.removals, Removal.Exact removal
  streams :
    ∀ removal ∈ sessions.removals,
      ∀ node,
        sessions.server.activeStreams node (some removal.client) = none

/--
A client that is gone neither reports a further error nor has a line read that
switches a stream.
-/
def Tidy (sessions : Sessions K Client) : SessionEvent K Client → Prop
  | .readError client | .sendError client => client ∈ sessions.clientSessions
  | .read client _ line =>
      Commands.Switches sessions.server line → client ∈ sessions.clientSessions
  | .accept _ | .sent _ | .send _ | .frequentData .. | .receivedNodeIds _ => True

/-- What a run that stays tidy keeps. -/
structure Sound (sessions : Sessions K Client) : Prop where
  free : sessions.server.mtxNodeIds = .unlocked
  nodup : sessions.clientSessions.Nodup
  accepted :
    ∀ client ∈ sessions.clientSessions, client ∈ sessions.accepted
  gone :
    ∀ removal ∈ sessions.removals,
      removal.client ∉ sessions.clientSessions ∧
        removal.client ∈ sessions.accepted
  kept : Kept sessions

namespace Sound

variable {sessions changed : Sessions K Client}

/-- Only the members that the invariant is about matter. -/
theorem congr
    (sound : Sound sessions)
    (sameMutex : changed.server.mtxNodeIds = sessions.server.mtxNodeIds)
    (sameStreams :
      changed.server.activeStreams = sessions.server.activeStreams)
    (sameSessions : changed.clientSessions = sessions.clientSessions)
    (sameAccepted : changed.accepted = sessions.accepted)
    (sameRemovals : changed.removals = sessions.removals) :
    Sound changed := by
  constructor
  · rw [sameMutex, sound.free]
  · rw [sameSessions]
    exact sound.nodup
  · rw [sameSessions, sameAccepted]
    exact sound.accepted
  · rw [sameSessions, sameAccepted, sameRemovals]
    exact sound.gone
  · constructor
    · rw [sameRemovals]
      exact sound.kept.removals
    · rw [sameRemovals, sameStreams]
      exact sound.kept.streams

theorem sendMessage
    (sound : Sound sessions)
    (client : Client) :
    Sound (sessions.sendMessage client) :=
  sound.congr rfl rfl rfl rfl rfl

theorem completeSend
    (sound : Sound sessions)
    (client : Client) :
    Sound (sessions.completeSend client) :=
  sound.congr rfl rfl rfl rfl rfl

theorem accept
    (sound : Sound sessions)
    {client : Client}
    (fresh : client ∉ sessions.accepted) :
    Sound (sessions.accept client) := by
  apply Sound.sendMessage
  constructor
  · exact sound.free
  · refine List.nodup_append.mpr
      ⟨sound.nodup, List.nodup_singleton client, ?_⟩
    intro other listed same isClient isSame
    rw [List.mem_singleton.mp isClient] at isSame
    exact fresh (isSame ▸ sound.accepted other listed)
  · intro other listed
    rcases List.mem_append.mp listed with old | new
    · exact List.mem_append_left _ (sound.accepted other old)
    · exact List.mem_append_right _ new
  · intro removal removed
    obtain ⟨notListed, wasAccepted⟩ := sound.gone removal removed
    refine ⟨?_, List.mem_append_left _ wasAccepted⟩
    intro listed
    rcases List.mem_append.mp listed with old | new
    · exact notListed old
    · exact fresh (List.mem_singleton.mp new ▸ wasAccepted)
  · exact ⟨sound.kept.removals, sound.kept.streams⟩

/-- A client that is there is taken out, with its streams. -/
theorem removeClientSession
    (sound : Sound sessions)
    {client : Client}
    (present : client ∈ sessions.clientSessions) :
    Sound (sessions.removeClientSession client) := by
  have erased :
      eraseSession sessions.clientSessions client =
        some (sessions.clientSessions.filter fun other => other ≠ client) := by
    rw [eraseSession, if_pos present, sound.nodup.erase_eq_filter]
    congr 1
    apply List.filter_congr
    intro other _
    by_cases same : other = client
    · simp [same]
    · simp [same]
  have remaining :
      (sessions.removeClientSession client).clientSessions =
        sessions.clientSessions.filter fun other => other ≠ client := by
    simp only [Sessions.removeClientSession, erased, Option.getD_some]
  constructor
  · exact sound.free
  · rw [remaining]
    exact sound.nodup.filter _
  · intro other listed
    rw [remaining] at listed
    exact sound.accepted other (List.mem_of_mem_filter listed)
  · intro removal removed
    rw [remaining]
    rcases List.mem_append.mp removed with old | new
    · obtain ⟨notListed, wasAccepted⟩ := sound.gone removal old
      exact ⟨fun listed => notListed (List.mem_of_mem_filter listed),
        wasAccepted⟩
    · rw [List.mem_singleton.mp new]
      exact ⟨by simp, sound.accepted client present⟩
  · constructor
    · intro removal removed
      rcases List.mem_append.mp removed with old | new
      · exact sound.kept.removals removal old
      · rw [List.mem_singleton.mp new]
        exact erased
    · intro removal removed node
      simp only [Sessions.removeClientSession, eraseStreams]
      split
      · rfl
      · next isOther =>
          rcases List.mem_append.mp removed with old | new
          · exact sound.kept.streams removal old node
          · rw [List.mem_singleton.mp new] at isOther
            exact absurd rfl isOther

/-- A line of a client that is there, or one that switches no stream. -/
theorem receive
    (sound : Sound sessions)
    {client : Client}
    {millis : Int}
    {line : List Byte}
    (tidy :
      Commands.Switches sessions.server line →
      client ∈ sessions.clientSessions) :
    Sound (sessions.receive client millis line) := by
  have leaves :=
    Commands.interpreted_leaves sound.free millis line (some client)
  have executed :
      Sound
        { sessions with
          server :=
            (Commands.interpreted sessions.server millis line
              (some client)).server } := by
    constructor
    · exact leaves.mtxNodeIds.trans sound.free
    · exact sound.nodup
    · exact sound.accepted
    · exact sound.gone
    · refine ⟨sound.kept.removals, ?_⟩
      intro removal removed node
      refine (leaves.streams node (some removal.client) ?_).trans
        (sound.kept.streams removal removed node)
      intro switches isClient
      exact (sound.gone removal removed).1
        (Option.some.inj isClient ▸ tidy switches)
  simp only [Sessions.receive]
  split
  · exact executed.sendMessage client
  · exact executed

/-- What one tidy step keeps. -/
theorem next
    {event : SessionEvent K Client}
    (sound : Sound sessions)
    (tidy : Tidy sessions event)
    (taken : sessions.next event = some changed) :
    Sound changed := by
  cases event with
  | accept client =>
      simp only [Sessions.next] at taken
      split at taken
      · contradiction
      · next fresh =>
          obtain ⟨⟩ := taken
          exact sound.accept fresh
  | read client millis line =>
      simp only [Sessions.next] at taken
      split at taken
      · obtain ⟨⟩ := taken
        exact sound.receive tidy
      · contradiction
  | readError client =>
      simp only [Sessions.next] at taken
      split at taken
      · obtain ⟨⟩ := taken
        refine Sound.removeClientSession ?_ tidy
        exact sound.congr rfl rfl rfl rfl rfl
      · contradiction
  | sent client =>
      simp only [Sessions.next] at taken
      split at taken
      · obtain ⟨⟩ := taken
        exact sound.completeSend client
      · contradiction
  | sendError client =>
      simp only [Sessions.next] at taken
      split at taken
      · obtain ⟨⟩ := taken
        exact (sound.completeSend client).removeClientSession tidy
      · contradiction
  | send client =>
      simp only [Sessions.next] at taken
      split at taken
      · obtain ⟨⟩ := taken
        exact sound.sendMessage client
      · contradiction
  | frequentData time nodeId values =>
      obtain ⟨⟩ := taken
      exact sound.congr rfl rfl rfl rfl rfl
  | receivedNodeIds nodeIds =>
      obtain ⟨⟩ := taken
      exact sound.congr rfl rfl rfl rfl rfl

theorem started (lastTimeAddedEntry millisFileWritingStated : Int) :
    Sound
      (Sessions.started lastTimeAddedEntry millisFileWritingStated :
        Sessions K Client) where
  free := rfl
  nodup := List.nodup_nil
  accepted _ listed := absurd listed List.not_mem_nil
  gone _ removed := absurd removed List.not_mem_nil
  kept :=
    { removals := fun _ removed => absurd removed List.not_mem_nil
      streams := fun _ removed => absurd removed List.not_mem_nil }

end Sound

/--
As long as no client that is gone reports an error or switches a stream, every removal
takes out its client and nothing else, and no stream of a client outlives it.
-/
theorem kept_of_run
    {lastTimeAddedEntry millisFileWritingStated : Int}
    {sessions : Sessions K Client}
    (run :
      Run next Tidy (started lastTimeAddedEntry millisFileWritingStated)
        sessions) :
    Kept sessions := by
  have sound : Sound sessions :=
    run.invariant Sound (.started _ _) fun before tidy taken =>
      before.next tidy taken
  exact sound.kept

instance (sessions : Sessions K Client) :
    (event : SessionEvent K Client) → Decidable (Tidy sessions event)
  | .readError client | .sendError client =>
      inferInstanceAs (Decidable (client ∈ sessions.clientSessions))
  | .read client _ line =>
      inferInstanceAs
        (Decidable
          (Commands.Switches sessions.server line →
            client ∈ sessions.clientSessions))
  | .accept _ => inferInstanceAs (Decidable True)
  | .sent _ => inferInstanceAs (Decidable True)
  | .send _ => inferInstanceAs (Decidable True)
  | .frequentData .. => inferInstanceAs (Decidable True)
  | .receivedNodeIds _ => inferInstanceAs (Decidable True)

/-- The line with which a client switches the illuminance of node 1. -/
def switchLine : List Byte :=
  "s I 1".toList.map byteOf

/-- A client switches a stream, is removed by a write error, and has a line read after it. -/
theorem kept_of_run_gone_client :
    ∃ sessions : Sessions Int Nat,
      Run next Tidy (started 0 0) sessions ∧
        sessions.removals.map Removal.client = [7] ∧
        Kept sessions := by
  obtain ⟨sessions, run, observed⟩ :=
    exists_run_of_observed
      next
      Tidy
      (started 0 0 : Sessions Int Nat)
      [.receivedNodeIds [1], .accept 7, .read 7 0 switchLine, .sendError 7,
        .read 7 0 ("g I 1".toList.map byteOf)]
      (fun sessions => decide (sessions.removals.map Removal.client = [7]))
      (by decide +kernel)
  rw [decide_eq_true_eq] at observed
  exact ⟨sessions, run, observed, kept_of_run run⟩

/-- Two writes fail, and a line is read after them. -/
theorem not_kept_gone_client :
    ¬ ∀ sessions : Sessions Int Nat,
        Run next (fun _ _ => True) (started 0 0) sessions →
        Kept sessions := by
  intro all
  obtain ⟨sessions, run, observed⟩ :=
    exists_run_of_observed
      next
      (fun _ _ => True)
      (started 0 0 : Sessions Int Nat)
      [.receivedNodeIds [1], .accept 7, .send 7, .sendError 7, .sendError 7,
        .read 7 0 switchLine]
      (fun sessions =>
        decide (sessions.removals.map Removal.after = [some [], none]) &&
          decide
            (sessions.server.activeStreams 1 (some 7) = some (false, true)))
      (by decide +kernel)
  rw [Bool.and_eq_true, decide_eq_true_eq] at observed
  have undefinedRemoval : none ∈ sessions.removals.map Removal.after := by
    rw [observed.1]
    decide
  obtain ⟨removal, removed, isNone⟩ := List.mem_map.mp undefinedRemoval
  have exact := (all sessions run).removals removal removed
  rw [Removal.Exact, isNone] at exact
  cases exact

end Sessions

end DistributedLighting
