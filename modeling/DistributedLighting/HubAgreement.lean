import DistributedLighting.HubCommands
import DistributedLighting.TotalOrderBus

namespace DistributedLighting

/-!
# Which node is the hub

A node that hears from a PC makes itself the hub and tells the others; it tells
them again when the PC no longer answers.  It changes its own `hubNode` when it
sends, the others when they take the frame, and a node that boots later has
missed what was sent before.  What matters is therefore not `hubNode`, but what
it will be once a node has taken the frames that wait for it.
-/

/-- The frames that change `hubNode`. -/
inductive HubFrame where
  | isHubNode
  | noLongerIsHubNode
  deriving DecidableEq

namespace HubFrame

/-- The CAN frame. -/
def message : HubFrame → CanMessage
  | .isHubNode => .isHubNode
  | .noLongerIsHubNode => .noLongerIsHubNode

/-- The frame that a CAN frame is, unless it is about something else. -/
def ofMessage : CanMessage → Option HubFrame
  | .isHubNode => some .isHubNode
  | .noLongerIsHubNode => some .noLongerIsHubNode
  | _ => none

/-- `hubNode` after a frame. -/
def hubAfter
    (hub : Nat)
    (entry : Entry Nat HubFrame) : Nat :=
  match entry.frame with
  | .isHubNode => entry.sender
  | .noLongerIsHubNode => if hub = entry.sender then 0 else hub

/-- `hubNode` after several frames. -/
def hubAfterAll
    (hub : Nat)
    (entries : List (Entry Nat HubFrame)) : Nat :=
  entries.foldl hubAfter hub

section Folding

variable {hub own : Nat} {entries : List (Entry Nat HubFrame)}

theorem hubAfterAll_append (later : List (Entry Nat HubFrame)) :
    hubAfterAll hub (entries ++ later) =
      hubAfterAll (hubAfterAll hub entries) later :=
  List.foldl_append

/-- Behind a claim it no longer matters which node was the hub before. -/
theorem hubAfterAll_of_claimed
    {entry : Entry Nat HubFrame}
    (member : entry ∈ entries)
    (claimed : entry.frame = .isHubNode)
    (first second : Nat) :
    hubAfterAll first entries = hubAfterAll second entries := by
  induction entries generalizing first second with
  | nil => cases member
  | cons earliest rest inductionHypothesis =>
      rcases List.mem_cons.mp member with isEarliest | inRest
      · subst isEarliest
        have same : hubAfter first entry = hubAfter second entry := by
          unfold hubAfter
          rw [claimed]
        exact congrArg (fun hub => hubAfterAll hub rest) same
      · exact inductionHypothesis inRest _ _

/-- Frames of others do not make a node the hub. -/
theorem hubAfter_ne
    {entry : Entry Nat HubFrame}
    (foreign : entry.sender ≠ own)
    (positive : 0 < own)
    (different : hub ≠ own) :
    hubAfter hub entry ≠ own := by
  unfold hubAfter
  split
  · exact foreign
  · split
    · exact Nat.ne_of_lt positive
    · exact different

theorem hubAfterAll_ne
    (foreign : ∀ entry ∈ entries, entry.sender ≠ own)
    (positive : 0 < own)
    (different : hub ≠ own) :
    hubAfterAll hub entries ≠ own := by
  induction entries generalizing hub with
  | nil => exact different
  | cons earliest rest inductionHypothesis =>
      rw [List.forall_mem_cons] at foreign
      exact
        inductionHypothesis foreign.2
          (hubAfter_ne foreign.1 positive different)

/-- Withdrawals of others leave a hub in place, and no hub as well. -/
theorem hubAfterAll_of_withdrawn
    (foreign : ∀ entry ∈ entries, entry.sender ≠ own)
    (withdrawn : ∀ entry ∈ entries, entry.frame ≠ .isHubNode) :
    hubAfterAll own entries = own ∧ hubAfterAll 0 entries = 0 := by
  induction entries with
  | nil => exact ⟨rfl, rfl⟩
  | cons earliest rest inductionHypothesis =>
      rw [List.forall_mem_cons] at foreign withdrawn
      have kept : hubAfter own earliest = own ∧ hubAfter 0 earliest = 0 := by
        unfold hubAfter
        cases frame : earliest.frame with
        | isHubNode => exact absurd frame withdrawn.1
        | noLongerIsHubNode =>
            exact ⟨if_neg foreign.1.symm, ite_self 0⟩
      have later := inductionHypothesis foreign.2 withdrawn.2
      unfold hubAfterAll at later ⊢
      rw [List.foldl_cons, List.foldl_cons, kept.1, kept.2]
      exact later

end Folding

end HubFrame

/-- The hub frame that an event brings. -/
def HubEvent.hubFrame : HubEvent → Option HubFrame
  | .frame _ _ message => HubFrame.ofMessage message
  | _ => none

/-- The hub frames among what a node sends. -/
def hubFrames
    (sender : Nat)
    (can : List (Nat × CanMessage)) : List (Entry Nat HubFrame) :=
  (can.filterMap fun sent => HubFrame.ofMessage sent.2).map fun frame =>
    ⟨sender, frame⟩

/-- What a node sends carries its id. -/
theorem sender_of_mem_hubFrames
    {sender : Nat}
    {can : List (Nat × CanMessage)}
    {entry : Entry Nat HubFrame}
    (sent : entry ∈ hubFrames sender can) :
    entry.sender = sender := by
  obtain ⟨frame, _, isEntry⟩ := List.mem_map.mp sent
  rw [← isEntry]

/-- A booted node and the hub frames that wait for it. -/
structure Station (K : Type) where
  node : HubNode K
  waiting : List (Entry Nat HubFrame)

namespace Station

variable {K : Type}

/-- The id of the node. -/
def id (station : Station K) : Nat :=
  station.node.glob.nodeId

/-- `hubNode` -/
def hub (station : Station K) : Nat :=
  station.node.glob.hubNode

/-- `hubNode` once the node has taken the frames that wait for it. -/
def drainedHub (station : Station K) : Nat :=
  HubFrame.hubAfterAll station.hub station.waiting

/-- Frames of another node join the queue. -/
def hear
    (station : Station K)
    (entries : List (Entry Nat HubFrame)) : Station K :=
  { station with waiting := station.waiting ++ entries }

theorem drainedHub_hear
    (station : Station K)
    (entries : List (Entry Nat HubFrame)) :
    (station.hear entries).drainedHub =
      HubFrame.hubAfterAll station.drainedHub entries :=
  HubFrame.hubAfterAll_append entries

end Station

/-- The nodes that have booted, in this order. -/
abbrev HubNet (K : Type) := List (Station K)

/-- One step of one node. -/
inductive HubAction where
  | boot (id : Nat)
  | react (id : Nat) (event : HubEvent)
  | deliver (id : Nat)

namespace HubNet

variable {K : Type}

/-- The booted node with an id. -/
def station
    (net : HubNet K)
    (id : Nat) : Option (Station K) :=
  net.find? fun station => station.id = id

/-- One node acts, and all others do the same. -/
def update
    (net : HubNet K)
    (id : Nat)
    (acting : Station K)
    (others : Station K → Station K) : HubNet K :=
  net.map fun station =>
    if station.id = id then acting else others station

/--
One step.  A node boots once; a frame reaches the nodes that have booted before;
hub frames come from the queue only, and all other events from anywhere.
-/
def next
    [Zero K] [Add K]
    (union : FloatTo4Bytes K)
    (net : HubNet K) : HubAction → Option (HubNet K)
  | .boot id =>
      if id = 0 ∨ 256 ≤ id ∨ (net.station id).isSome then
        none
      else
        some (net ++ [{ node := .boot id, waiting := [] }])
  | .react id event =>
      (net.station id).bind fun station =>
        if event.hubFrame.isSome then
          none
        else
          (station.node.handle union event).map fun outcome =>
            net.update id { station with node := outcome.node }
              fun other => other.hear (hubFrames id outcome.can)
  | .deliver id =>
      (net.station id).bind fun station =>
        match station.waiting with
        | [] => none
        | entry :: rest =>
            some
              (net.update id
                { node :=
                    (station.node.received union entry.sender 0
                      entry.frame.message).node
                  waiting := rest }
                fun other => other)

/-- No hub frame is in flight. -/
def Quiet (net : HubNet K) : Prop :=
  ∀ station ∈ net, station.waiting = []

/-- All booted nodes have the same `hubNode`. -/
def HubsAgree (net : HubNet K) : Prop :=
  ∀ first ∈ net, ∀ second ∈ net, first.hub = second.hub

/--
A node boots only while `hubNode` of the others is 0, or will be; a node that
becomes the hub has no other claim waiting.
-/
def Orderly (net : HubNet K) : HubAction → Prop
  | .boot _ => ∀ station ∈ net, station.drainedHub = 0
  | .react id (.command command _) =>
      command.cmd = byteOf 'D' →
        ∀ station ∈ net.station id,
          station.hub ≠ id →
            ∀ entry ∈ station.waiting, entry.frame ≠ .isHubNode
  | _ => True

end HubNet

namespace HubNode

variable {K : Type} {node : HubNode K} {event : HubEvent}

/-- The id and the hub of a node are as before. -/
def SameHub (node after : HubNode K) : Prop :=
  after.glob.nodeId = node.glob.nodeId ∧
    after.glob.hubNode = node.glob.hubNode

/-- Everything that an event other than a hub frame can do to the hub. -/
inductive HubChange
    (node : HubNode K)
    (event : HubEvent)
    (outcome : Outcome K) : Prop where
  | keeps
      (same : node.SameHub outcome.node)
      (silent : ∀ sender, hubFrames sender outcome.can = [])
  | claims
      (command : Command)
      (reading : BitVec 32)
      (isCommand : event = .command command reading)
      (answered : command.cmd = byteOf 'D')
      (different : node.glob.hubNode ≠ node.glob.nodeId)
      (sameId : outcome.node.glob.nodeId = node.glob.nodeId)
      (hub : outcome.node.glob.hubNode = node.glob.nodeId)
      (sent : outcome.can = [(0, .isHubNode)])
  | withdraws
      (was : node.glob.hubNode = node.glob.nodeId)
      (sameId : outcome.node.glob.nodeId = node.glob.nodeId)
      (hub : outcome.node.glob.hubNode = 0)
      (sent : outcome.can = [(0, .noLongerIsHubNode)])

/-- A node that answers a PC and is not the hub claims to be it. -/
theorem readDiscoveryAnswer_of_claim
    (different : node.glob.hubNode ≠ node.glob.nodeId) :
    node.readDiscoveryAnswer.node.glob =
        { node.glob with hubNode := node.glob.nodeId } ∧
      node.readDiscoveryAnswer.can = [(0, .isHubNode)] := by
  unfold readDiscoveryAnswer
  dsimp only
  rw [if_neg different]
  exact ⟨rfl, rfl⟩

/-- The discovery timer keeps the hub, unless the PC of a hub has not answered. -/
theorem hubChange_sendPCDiscovery (node : HubNode K) :
    node.HubChange .discovery node.sendPCDiscovery := by
  unfold sendPCDiscovery
  dsimp only
  split
  · rename_i missed
    exact .withdraws missed.1 rfl rfl rfl
  · exact .keeps ⟨rfl, rfl⟩ fun _ => rfl

/-- No event changes the id. -/
theorem HubChange.sameId
    {outcome : Outcome K}
    (change : node.HubChange event outcome) :
    outcome.node.glob.nodeId = node.glob.nodeId := by
  cases change with
  | keeps same _ => exact same.1
  | claims _ _ _ _ _ sameId _ _ => exact sameId
  | withdraws _ sameId _ _ => exact sameId

variable [Zero K]

/-- No command changes the id or the hub of the node that executes it. -/
theorem sameHub_executeCommand
    (node : HubNode K)
    (command : Command)
    (reading : BitVec 32) :
    node.SameHub (node.executeCommand command reading).2.1 := by
  by_cases isReset : command.cmd = byteOf 'r'
  · rw [executeCommand_of_reset node reading isReset]
    exact ⟨rfl, rfl⟩
  · rw [executeCommand_of_kept node reading isReset]
    exact ⟨rfl, rfl⟩

variable (union : FloatTo4Bytes K)

theorem sameHub_readTotalCommand
    (node : HubNode K)
    (command : Command)
    (reading : BitVec 32) :
    node.SameHub (node.readTotalCommand union command reading).node := by
  unfold readTotalCommand SameHub
  dsimp only
  rw [sendTotalIfAllValueForTotalReceived_glob]
  exact sameHub_executeCommand node.countNodes command reading

/-- A command of the PC keeps the hub, unless it is an answer to a discovery. -/
theorem hubChange_readCommand
    (node : HubNode K)
    (command : Command)
    (reading : BitVec 32) :
    node.HubChange (.command command reading)
      (node.readCommand union command reading) := by
  unfold readCommand
  split
  · rename_i answered
    unfold readDiscoveryAnswer
    dsimp only
    split
    · exact .keeps ⟨rfl, rfl⟩ fun _ => rfl
    · rename_i different
      exact .claims command reading rfl answered different rfl rfl rfl
  · split
    · exact
        .keeps (sameHub_readTotalCommand union node command reading)
          fun _ => rfl
    · split
      · exact .keeps (sameHub_executeCommand node command reading) fun _ => rfl
      · split
        · exact .keeps ⟨rfl, rfl⟩ fun _ => rfl
        · exact .keeps ⟨rfl, rfl⟩ fun _ => rfl

variable [Add K]

/-- A frame that is no hub frame keeps the hub. -/
theorem hubChange_received
    (node : HubNode K)
    (sender : Nat)
    (reading : BitVec 32)
    {message : CanMessage}
    (plain : HubFrame.ofMessage message = none) :
    node.HubChange (.frame sender reading message)
      (node.received union sender reading message) := by
  cases message with
  | wakeupBroadcast => exact .keeps ⟨rfl, rfl⟩ fun _ => rfl
  | isHubNode => cases plain
  | noLongerIsHubNode => cases plain
  | frequentData _ _ _ _ => exact .keeps ⟨rfl, rfl⟩ fun _ => rfl
  | commandsRequest command =>
      exact .keeps (sameHub_executeCommand node command reading) fun _ => rfl
  | commandsResponse value =>
      have kept := receivedCommandResponseFromCAN_glob union node value
      refine .keeps ⟨?_, ?_⟩ fun _ => rfl
      · exact congrArg Glob.nodeId kept
      · exact congrArg Glob.hubNode kept
  | other => exact .keeps ⟨rfl, rfl⟩ fun _ => rfl

/-- An event that is no hub frame does one of three things to the hub. -/
theorem hubChange_handle
    (plain : event.hubFrame = none)
    {outcome : Outcome K}
    (handled : node.handle union event = some outcome) :
    node.HubChange event outcome := by
  cases event with
  | command command reading =>
      obtain ⟨⟩ := handled
      exact hubChange_readCommand union node command reading
  | frame sender reading message =>
      unfold handle at handled
      dsimp only at handled
      split at handled
      · cases handled
      · obtain ⟨⟩ := handled
        exact hubChange_received union node sender reading plain
  | discovery =>
      obtain ⟨⟩ := handled
      exact hubChange_sendPCDiscovery node

/-- A node takes a hub frame. -/
theorem received_hubFrame
    (node : HubNode K)
    (entry : Entry Nat HubFrame)
    (reading : BitVec 32) :
    let after :=
      (node.received union entry.sender reading entry.frame.message).node
    after.glob.nodeId = node.glob.nodeId ∧
      after.glob.hubNode = HubFrame.hubAfter node.glob.hubNode entry := by
  unfold HubFrame.hubAfter
  cases entry.frame with
  | isHubNode => exact ⟨rfl, rfl⟩
  | noLongerIsHubNode =>
      unfold HubFrame.message received
      dsimp only
      split <;> exact ⟨rfl, rfl⟩

end HubNode

namespace HubNet

variable {K : Type} {net after : HubNet K} {id : Nat}

/-- The nodes have ids of their own, and hub frames come from other nodes. -/
structure Sound (net : HubNet K) : Prop where
  distinct : (net.map Station.id).Nodup
  positive : ∀ station ∈ net, 0 < station.id
  known :
    ∀ station ∈ net,
      ∀ entry ∈ station.waiting,
        entry.sender ≠ station.id ∧
          ∃ other ∈ net, other.id = entry.sender

/-- All nodes will have the same `hubNode`. -/
def WillAgree (net : HubNet K) : Prop :=
  ∃ hub, ∀ station ∈ net, station.drainedHub = hub

/-- A station that is found has booted and has the id. -/
theorem mem_of_station
    {station : Station K}
    (found : net.station id = some station) :
    station ∈ net ∧ station.id = id := by
  refine ⟨List.mem_of_find?_eq_some found, ?_⟩
  have isId := List.find?_some found
  exact of_decide_eq_true isId

/-- What holds of the acting node and of the others holds after the update. -/
theorem forall_mem_update
    {acting : Station K}
    {others : Station K → Station K}
    {holds : Station K → Prop}
    (own : holds acting)
    (rest : ∀ other ∈ net, other.id ≠ id → holds (others other)) :
    ∀ station ∈ net.update id acting others, holds station := by
  intro station member
  obtain ⟨before, present, isStation⟩ := List.mem_map.mp member
  subst isStation
  split
  · exact own
  · rename_i different
    exact rest before present different

theorem mem_update_self
    {station acting : Station K}
    {others : Station K → Station K}
    (member : station ∈ net)
    (isId : station.id = id) :
    acting ∈ net.update id acting others :=
  List.mem_map.mpr ⟨station, member, if_pos isId⟩

theorem mem_update_other
    {other acting : Station K}
    {others : Station K → Station K}
    (member : other ∈ net)
    (different : other.id ≠ id) :
    others other ∈ net.update id acting others :=
  List.mem_map.mpr ⟨other, member, if_neg different⟩

theorem map_id_update
    {acting : Station K}
    {others : Station K → Station K}
    (own : acting.id = id)
    (same : ∀ other : Station K, (others other).id = other.id) :
    (net.update id acting others).map Station.id = net.map Station.id := by
  unfold update
  rw [List.map_map]
  refine List.map_congr_left fun station _ => ?_
  rw [Function.comp_apply]
  split
  · rename_i isId
    rw [own, isId]
  · exact same station

namespace Sound

variable (sound : net.Sound)
include sound

/-- Nodes with the same id are the same. -/
theorem eq_of_id
    {first second : Station K}
    (firstIn : first ∈ net)
    (secondIn : second ∈ net)
    (same : first.id = second.id) :
    first = second :=
  List.inj_on_of_nodup_map sound.distinct firstIn secondIn same

/-- A node that has booted is found. -/
theorem station_eq
    {station : Station K}
    (member : station ∈ net) :
    net.station station.id = some station := by
  cases found : net.station station.id with
  | none =>
      have absent := List.find?_eq_none.mp found station member
      exact absurd (decide_eq_true rfl) absent
  | some other =>
      have isOther := mem_of_station found
      rw [sound.eq_of_id isOther.1 member isOther.2]

/-- An update that keeps the ids keeps the network sound. -/
theorem update
    {acting : Station K}
    {others : Station K → Station K}
    (own : acting.id = id)
    (same : ∀ other : Station K, (others other).id = other.id)
    (actingKnown :
      ∀ entry ∈ acting.waiting,
        entry.sender ≠ acting.id ∧
          ∃ other ∈ net, other.id = entry.sender)
    (othersKnown :
      ∀ other ∈ net,
        other.id ≠ id →
          ∀ entry ∈ (others other).waiting,
            entry.sender ≠ other.id ∧
              ∃ sender ∈ net, sender.id = entry.sender)
    (present : ∃ station ∈ net, station.id = id) :
    (net.update id acting others).Sound where
  distinct := by
    rw [map_id_update own same]
    exact sound.distinct
  positive := by
    refine forall_mem_update ?_ fun other member _ => ?_
    · obtain ⟨station, member, isId⟩ := present
      rw [own, ← isId]
      exact sound.positive station member
    · rw [same]
      exact sound.positive other member
  known := by
    have stays :
        ∀ {sender : Nat},
          (∃ other ∈ net, other.id = sender) →
            ∃ other ∈ net.update id acting others, other.id = sender := by
      rintro sender ⟨other, member, isSender⟩
      have listed : sender ∈ net.map Station.id :=
        List.mem_map.mpr ⟨other, member, isSender⟩
      rw [← map_id_update own same] at listed
      exact List.mem_map.mp listed
    refine forall_mem_update ?_ fun other member different => ?_
    · intro entry queued
      exact
        ⟨(actingKnown entry queued).1, stays (actingKnown entry queued).2⟩
    · intro entry queued
      have from_ := othersKnown other member different entry queued
      rw [same]
      exact ⟨from_.1, stays from_.2⟩

end Sound

section Steps

variable [Zero K] [Add K] {union : FloatTo4Bytes K}

/-- Everything that one step of the network can do. -/
inductive StepCase
    (net : HubNet K) : HubAction → HubNet K → Prop where
  | boots
      (id : Nat)
      (positive : 0 < id)
      (fresh : ∀ station ∈ net, station.id ≠ id) :
      StepCase net (.boot id) (net ++ [{ node := .boot id, waiting := [] }])
  | reacts
      (id : Nat)
      (event : HubEvent)
      (station : Station K)
      (outcome : Outcome K)
      (found : net.station id = some station)
      (change : station.node.HubChange event outcome) :
      StepCase net (.react id event)
        (net.update id { station with node := outcome.node }
          fun other => other.hear (hubFrames id outcome.can))
  | delivers
      (id : Nat)
      (station : Station K)
      (entry : Entry Nat HubFrame)
      (rest : List (Entry Nat HubFrame))
      (taken : HubNode K)
      (found : net.station id = some station)
      (queued : station.waiting = entry :: rest)
      (sameId : taken.glob.nodeId = id)
      (hub : taken.glob.hubNode = HubFrame.hubAfter station.hub entry) :
      StepCase net (.deliver id)
        (net.update id { node := taken, waiting := rest } fun other => other)

/-- A step is one of three cases. -/
theorem step_case
    {action : HubAction}
    (taken : net.next union action = some after) :
    net.StepCase action after := by
  cases action with
  | boot id =>
      unfold next at taken
      dsimp only at taken
      split at taken
      · cases taken
      · rename_i free
        obtain ⟨⟩ := taken
        simp only [not_or] at free
        refine .boots id (Nat.pos_of_ne_zero free.1) ?_
        intro station member same
        apply free.2.2
        rw [HubNet.station, List.find?_isSome]
        exact ⟨station, member, decide_eq_true same⟩
  | react id event =>
      obtain ⟨station, found, handled⟩ := Option.bind_eq_some_iff.mp taken
      split at handled
      · cases handled
      · rename_i noFrame
        obtain ⟨outcome, isOutcome, isAfter⟩ :=
          Option.map_eq_some_iff.mp handled
        subst isAfter
        have plain : event.hubFrame = none :=
          Option.not_isSome_iff_eq_none.mp noFrame
        exact
          .reacts id event station outcome found
            (HubNode.hubChange_handle union plain isOutcome)
  | deliver id =>
      obtain ⟨station, found, handled⟩ := Option.bind_eq_some_iff.mp taken
      split at handled
      · cases handled
      · rename_i entry rest queued
        obtain ⟨⟩ := handled
        have received :=
          HubNode.received_hubFrame union station.node entry 0
        exact
          .delivers id station entry rest _ found queued
            (received.1.trans (mem_of_station found).2) received.2

end Steps

namespace StepCase

variable [Zero K] {action : HubAction} (step : net.StepCase action after)
include step

/-- A step keeps the ids apart and the queues foreign. -/
theorem sound (before : net.Sound) : after.Sound := by
  cases step with
  | boots id positive fresh =>
      refine
        { distinct := ?_
          positive := ?_
          known := ?_ }
      · rw [List.map_append, List.map_singleton, List.nodup_append']
        refine ⟨before.distinct, List.nodup_singleton _, ?_⟩
        intro other listed booted
        obtain ⟨station, member, isOther⟩ := List.mem_map.mp listed
        exact
          fresh station member
            (isOther.trans (List.mem_singleton.mp booted))
      · intro station member
        rcases List.mem_append.mp member with earlier | booted
        · exact before.positive station earlier
        · rw [List.mem_singleton.mp booted]
          exact positive
      · intro station member entry queued
        rcases List.mem_append.mp member with earlier | booted
        · obtain ⟨foreign, other, present, isSender⟩ :=
            before.known station earlier entry queued
          exact
            ⟨foreign, other, List.mem_append_left _ present, isSender⟩
        · rw [List.mem_singleton.mp booted] at queued
          cases queued
  | reacts id event station outcome found change =>
      obtain ⟨present, isId⟩ := mem_of_station found
      have sameId : outcome.node.glob.nodeId = station.id := change.sameId
      refine before.update (sameId.trans isId) (fun _ => rfl) ?_ ?_
        ⟨station, present, isId⟩
      · intro entry queued
        obtain ⟨foreign, known⟩ := before.known station present entry queued
        exact ⟨fun same => foreign (same.trans sameId), known⟩
      · intro other member different entry queued
        rcases List.mem_append.mp queued with earlier | sent
        · exact before.known other member entry earlier
        · rw [sender_of_mem_hubFrames sent]
          exact ⟨different.symm, station, present, isId⟩
  | delivers id station entry rest taken found queued sameId hub =>
      obtain ⟨present, isId⟩ := mem_of_station found
      refine before.update sameId (fun _ => rfl) ?_ ?_
        ⟨station, present, isId⟩
      · intro later inRest
        obtain ⟨foreign, known⟩ :=
          before.known station present later
            (queued ▸ List.mem_cons_of_mem entry inRest)
        exact ⟨fun same => foreign (same.trans (sameId.trans isId.symm)), known⟩
      · intro other member _ later waiting
        exact before.known other member later waiting

/-- An orderly step keeps what all nodes will agree on, or changes it for all. -/
theorem willAgree
    (before : net.Sound)
    (agree : net.WillAgree)
    (orderly : net.Orderly action) :
    after.WillAgree := by
  obtain ⟨hub, drained⟩ := agree
  cases step with
  | boots id positive fresh =>
      refine ⟨0, fun station member => ?_⟩
      rcases List.mem_append.mp member with earlier | booted
      · exact orderly station earlier
      · rw [List.mem_singleton.mp booted]
        rfl
  | reacts id event station outcome found change =>
      obtain ⟨present, isId⟩ := mem_of_station found
      have foreign :
          ∀ entry ∈ station.waiting, entry.sender ≠ station.id :=
        fun entry queued => (before.known station present entry queued).1
      have positive := before.positive station present
      have own := drained station present
      cases change with
      | keeps same silent =>
          refine ⟨hub, forall_mem_update ?_ fun other member _ => ?_⟩
          · unfold Station.drainedHub Station.hub
            rw [same.2]
            exact own
          · rw [silent, Station.drainedHub_hear]
            exact drained other member
      | claims command reading isCommand answered different sameId isHub sent =>
          subst isCommand
          have unclaimed :
              ∀ entry ∈ station.waiting, entry.frame ≠ .isHubNode :=
            orderly answered station found
              fun same => different (same.trans isId.symm)
          have kept := HubFrame.hubAfterAll_of_withdrawn foreign unclaimed
          refine ⟨id, forall_mem_update ?_ fun other member _ => ?_⟩
          · unfold Station.drainedHub Station.hub
            rw [isHub, ← isId]
            exact kept.1
          · rw [sent, Station.drainedHub_hear]
            rfl
      | withdraws was sameId isHub sent =>
          have wasHub : station.hub = station.id := was
          rw [Station.drainedHub, wasHub] at own
          have others :
              ∀ other ∈ net,
                (other.hear (hubFrames id outcome.can)).drainedHub =
                  if hub = id then 0 else hub := by
            intro other member
            rw [sent, Station.drainedHub_hear, drained other member]
            rfl
          by_cases claimed :
              ∃ entry ∈ station.waiting, entry.frame = .isHubNode
          · obtain ⟨entry, queued, isClaim⟩ := claimed
            have overtaken :=
              HubFrame.hubAfterAll_of_claimed queued isClaim station.id 0
            have notOwn : hub ≠ id := by
              rw [← own, overtaken, ← isId]
              exact
                HubFrame.hubAfterAll_ne foreign positive
                  (Nat.ne_of_lt positive)
            refine ⟨hub, forall_mem_update ?_ fun other member _ => ?_⟩
            · unfold Station.drainedHub Station.hub
              rw [isHub, ← overtaken]
              exact own
            · rw [others other member, if_neg notOwn]
          · have unclaimed :
                ∀ entry ∈ station.waiting, entry.frame ≠ .isHubNode :=
              fun entry queued isClaim => claimed ⟨entry, queued, isClaim⟩
            have kept := HubFrame.hubAfterAll_of_withdrawn foreign unclaimed
            have isOwn : hub = id := by
              rw [← own, kept.1, isId]
            refine ⟨0, forall_mem_update ?_ fun other member _ => ?_⟩
            · unfold Station.drainedHub Station.hub
              rw [isHub]
              exact kept.2
            · rw [others other member, if_pos isOwn]
  | delivers id station entry rest taken found queued sameId isHub =>
      refine ⟨hub, forall_mem_update ?_ fun other member _ => ?_⟩
      · rw [← drained station (mem_of_station found).1]
        unfold Station.drainedHub
        rw [queued]
        exact
          congrArg (fun hub => HubFrame.hubAfterAll hub rest) isHub
      · exact drained other member

end StepCase

section Agreement

variable [Zero K] [Add K] {union : FloatTo4Bytes K}

/-- In an orderly run all nodes will always have the same hub. -/
theorem willAgree_of_run
    (run : Run (next union) Orderly ([] : HubNet K) net) :
    net.Sound ∧ net.WillAgree := by
  apply run.invariant fun net => net.Sound ∧ net.WillAgree
  · refine ⟨⟨List.nodup_nil, ?_, ?_⟩, 0, ?_⟩ <;> intro station member <;>
      cases member
  · intro before after action holds orderly taken
    have step := step_case taken
    exact
      ⟨step.sound holds.1, step.willAgree holds.1 holds.2 orderly⟩

/--
In a run in which nodes boot and claim in order, all booted nodes have the same
`hubNode` whenever no hub frame is in flight.
-/
theorem hubsAgree_of_run
    (run : Run (next union) Orderly ([] : HubNet K) net)
    (quiet : net.Quiet) :
    net.HubsAgree := by
  obtain ⟨_, hub, drained⟩ := willAgree_of_run run
  have isHub : ∀ station ∈ net, station.hub = hub := by
    intro station member
    have will := drained station member
    rw [Station.drainedHub, quiet station member] at will
    exact will
  intro first firstIn second secondIn
  rw [isHub first firstIn, isHub second secondIn]

/-- All schedules of the network, whatever overlaps. -/
def Anyhow (_ : HubNet K) (_ : HubAction) : Prop := True

instance (net : HubNet K) (action : HubAction) :
    Decidable (net.Anyhow action) :=
  inferInstanceAs (Decidable True)

instance (net : HubNet K) (action : HubAction) :
    Decidable (net.Orderly action) :=
  match action with
  | .boot _ =>
      inferInstanceAs
        (Decidable (∀ station ∈ net, station.drainedHub = 0))
  | .react id (.command command _) =>
      inferInstanceAs
        (Decidable
          (command.cmd = byteOf 'D' →
            ∀ station ∈ net.station id,
              station.hub ≠ id →
                ∀ entry ∈ station.waiting, entry.frame ≠ .isHubNode))
  | .react _ (.frame _ _ _) => inferInstanceAs (Decidable True)
  | .react _ .discovery => inferInstanceAs (Decidable True)
  | .deliver _ => inferInstanceAs (Decidable True)

instance (net : HubNet K) : Decidable net.Quiet :=
  inferInstanceAs (Decidable (∀ station ∈ net, station.waiting = []))

instance (net : HubNet K) : Decidable net.HubsAgree :=
  inferInstanceAs
    (Decidable (∀ first ∈ net, ∀ second ∈ net, first.hub = second.hub))

/-- A claim, a withdrawal and a late node: two nodes agree on the second one. -/
theorem hubsAgree_two_nodes :
    ∃ net : HubNet Int,
      net.map Station.hub = [2, 2] ∧ net.Quiet ∧ net.HubsAgree := by
  obtain ⟨net, run, observed⟩ :=
    exists_run_of_observed (next singlePrecision) Orderly []
      [.boot 1, .react 1 (.command discoveryAnswer 0), .react 1 .discovery,
        .react 1 .discovery, .boot 2,
        .react 2 (.command discoveryAnswer 0), .deliver 1]
      (fun net => net.map Station.hub = [2, 2] ∧ net.Quiet)
      (by decide +kernel)
  have seen := of_decide_eq_true observed
  exact ⟨net, seen.1, seen.2, hubsAgree_of_run run seen.2⟩

/-- Two claims that cross: each node takes the other one for the hub. -/
theorem not_hubsAgree_two_claims :
    ¬ ∀ net : HubNet Int,
        Run (next singlePrecision) Anyhow [] net →
          net.Quiet → net.HubsAgree := by
  intro claim
  obtain ⟨net, run, observed⟩ :=
    exists_run_of_observed (next singlePrecision) Anyhow []
      [.boot 1, .boot 2, .react 1 (.command discoveryAnswer 0),
        .react 2 (.command discoveryAnswer 0), .deliver 1, .deliver 2]
      (fun net => net.Quiet ∧ ¬ net.HubsAgree)
      (by decide +kernel)
  have seen := of_decide_eq_true observed
  exact seen.2 (claim net run seen.1)

end Agreement

section Sharpness

variable [Zero K] [Add K] {union : FloatTo4Bytes K}

/-- Only frames are delivered. -/
def Delivers (_ : HubNet K) (action : HubAction) : Prop :=
  ∃ id, action = .deliver id

/-- The hub frames in flight. -/
def inFlight (net : HubNet K) : Nat :=
  (net.map fun station => station.waiting.length).sum

/-- A frame that waits can be delivered; what the nodes will agree on stays. -/
theorem exists_delivered
    (union : FloatTo4Bytes K)
    (sound : net.Sound)
    {station : Station K}
    (member : station ∈ net)
    {entry : Entry Nat HubFrame}
    {rest : List (Entry Nat HubFrame)}
    (queued : station.waiting = entry :: rest) :
    ∃ after,
      net.next union (.deliver station.id) = some after ∧
        after.map Station.drainedHub = net.map Station.drainedHub ∧
        after.inFlight < net.inFlight := by
  have found := sound.station_eq member
  have received := HubNode.received_hubFrame union station.node entry 0
  refine
    ⟨net.update station.id
      { node :=
          (station.node.received union entry.sender 0
            entry.frame.message).node
        waiting := rest }
      fun other => other, ?_, ?_, ?_⟩
  · rw [next, found, Option.bind_some, queued]
  · unfold update
    rw [List.map_map]
    refine List.map_congr_left fun other present => ?_
    rw [Function.comp_apply]
    split
    · rename_i isId
      rw [sound.eq_of_id present member isId]
      unfold Station.drainedHub
      rw [queued]
      exact
        congrArg (fun hub => HubFrame.hubAfterAll hub rest) received.2
    · rfl
  · unfold inFlight update
    rw [List.map_map]
    apply List.sum_lt_sum
    · intro other present
      rw [Function.comp_apply]
      split
      · rename_i isId
        rw [sound.eq_of_id present member isId, queued]
        exact Nat.le_succ _
      · exact Nat.le_refl _
    · refine ⟨station, member, ?_⟩
      rw [Function.comp_apply, if_pos rfl, queued]
      exact Nat.lt_succ_self _

/-- Deliveries alone lead to what the nodes will agree on. -/
theorem exists_quiet
    (union : FloatTo4Bytes K)
    (sound : net.Sound) :
    ∃ final,
      Run (next union) Delivers net final ∧
        final.Quiet ∧
        final.map Station.drainedHub = net.map Station.drainedHub := by
  induction left : net.inFlight using Nat.strongRecOn generalizing net with
  | ind left inductionHypothesis =>
      by_cases quiet : net.Quiet
      · exact ⟨net, .refl, quiet, rfl⟩
      · unfold Quiet at quiet
        push Not at quiet
        obtain ⟨station, member, waits⟩ := quiet
        obtain ⟨entry, rest, queued⟩ := List.exists_cons_of_ne_nil waits
        obtain ⟨after, taken, same, fewer⟩ :=
          exists_delivered union sound member queued
        obtain ⟨final, run, finalQuiet, finalSame⟩ :=
          inductionHypothesis after.inFlight (by rw [← left]; exact fewer)
            ((step_case taken).sound sound) rfl
        exact
          ⟨final,
            (Run.step (.deliver station.id) .refl ⟨_, rfl⟩ taken).append run,
            finalQuiet, finalSame.trans same⟩

/-- A step out of order spoils what the nodes will agree on. -/
theorem not_willAgree_of_not_orderly
    (sound : net.Sound)
    {action : HubAction}
    (hasty : ¬ net.Orderly action)
    (taken : net.next union action = some after) :
    ¬ after.WillAgree := by
  rintro ⟨hub, drained⟩
  cases action with
  | boot id =>
      cases step_case taken with
      | boots _ positive fresh =>
          apply hasty
          intro station member
          have booted :=
            drained _ (List.mem_append_right net (List.mem_singleton_self _))
          rw [drained station (List.mem_append_left _ member), ← booted]
          rfl
  | deliver id => exact hasty trivial
  | react id event =>
      cases event with
      | frame _ _ _ => exact hasty trivial
      | discovery => exact hasty trivial
      | command command reading =>
          unfold Orderly at hasty
          push Not at hasty
          obtain ⟨answered, station, found, other, entry, queued, isClaim⟩ :=
            hasty
          obtain ⟨member, isId⟩ := mem_of_station found
          obtain ⟨foreign, sender, senderIn, isSender⟩ :=
            sound.known station member entry queued
          have different : station.node.glob.hubNode ≠ station.node.glob.nodeId :=
            fun same => other (same.trans isId)
          obtain ⟨claimed, sent⟩ :=
            HubNode.readDiscoveryAnswer_of_claim different
          have ran :
              station.node.readCommand union command reading =
                station.node.readDiscoveryAnswer :=
            if_pos answered
          have isAfter :
              net.next union (.react id (.command command reading)) =
                some
                  (net.update id
                    { station with
                      node := station.node.readDiscoveryAnswer.node }
                    fun other =>
                      other.hear
                        (hubFrames id
                          station.node.readDiscoveryAnswer.can)) := by
            rw [← ran, next, found]
            rfl
          rw [isAfter] at taken
          obtain ⟨⟩ := taken
          have isHub := drained _ (mem_update_other senderIn (by
            rw [isSender, ← isId]
            exact foreign))
          rw [Station.drainedHub_hear, sent] at isHub
          have own := drained _ (mem_update_self member isId)
          rw [Station.drainedHub, Station.hub, claimed] at own
          have overtaken :=
            HubFrame.hubAfterAll_of_claimed queued isClaim station.id 0
          have notOwn :=
            HubFrame.hubAfterAll_ne
              (fun entry queued => (sound.known station member entry queued).1)
              (sound.positive station member)
              (Nat.ne_of_lt (sound.positive station member))
          rw [← overtaken] at notOwn
          apply notOwn
          exact own.trans (isHub.symm.trans isId.symm)

/--
In an orderly run, any step out of order can lead, by deliveries alone, to nodes
that disagree while no hub frame is in flight.
-/
theorem exists_disagreement_of_not_orderly
    (run : Run (next union) Orderly ([] : HubNet K) net)
    {action : HubAction}
    (hasty : ¬ net.Orderly action)
    (taken : net.next union action = some after) :
    ∃ final,
      Run (next union) Delivers after final ∧
        final.Quiet ∧
        ¬ final.HubsAgree := by
  have sound := (willAgree_of_run run).1
  obtain ⟨final, deliveries, quiet, same⟩ :=
    exists_quiet union ((step_case taken).sound sound)
  refine ⟨final, deliveries, quiet, fun agree => ?_⟩
  apply not_willAgree_of_not_orderly sound hasty taken
  have isDrained : ∀ station ∈ final, station.drainedHub = station.hub := by
    intro station member
    rw [Station.drainedHub, quiet station member]
    rfl
  cases shape : final with
  | nil =>
      rw [shape, List.map_nil, eq_comm, List.map_eq_nil_iff] at same
      rw [same]
      exact ⟨0, fun station member => nomatch member⟩
  | cons first rest =>
      have firstIn : first ∈ final := shape ▸ List.mem_cons_self
      refine ⟨first.hub, fun station member => ?_⟩
      have listed := List.mem_map_of_mem (f := Station.drainedHub) member
      rw [← same] at listed
      obtain ⟨other, otherIn, isSame⟩ := List.mem_map.mp listed
      rw [← isSame, isDrained other otherIn]
      exact agree other otherIn first firstIn

end Sharpness

end HubNet

end DistributedLighting
