import DistributedLighting.HubCommands

namespace DistributedLighting

/-!
# Answers of single nodes

A history records the commands that a hub has handled and the responses that have
reached it.  It decides how many responses the last total command still misses,
and the hub counts exactly these: a response is passed on to the PC when none is
missing, and added to the total otherwise.
-/

/-- What the history of a hub remembers of an event. -/
inductive HubEntry where
  /-- A total command, with the nodes that are registered and the hub's own result. -/
  | total (nodes : Nat) (result : BitVec 32)
  | reset
  /-- A command that is passed on to one other node. -/
  | passedOn (destination : Nat)
  /-- A command that no other node takes part in. -/
  | settled
  | response (sender : Nat) (value : BitVec 32)

/-- A hub and what has happened to it, newest first. -/
structure HubHistory (K : Type) where
  node : HubNode K
  entries : List HubEntry

namespace HubEntry

/-- The responses that the last total command still misses. -/
def missing : List HubEntry → Nat
  | [] => 0
  | .total nodes _ :: _ => nodes - 1
  | .reset :: _ => 0
  | .passedOn _ :: earlier => missing earlier
  | .settled :: earlier => missing earlier
  | .response _ _ :: earlier => missing earlier - 1

/-- The results that have been added to the last total command. -/
def summed
    {K : Type}
    [AddMonoid K]
    (union : FloatTo4Bytes K) : List HubEntry → K
  | [] => 0
  | .total _ result :: _ => union.floatValue result
  | .reset :: _ => 0
  | .passedOn _ :: earlier => summed union earlier
  | .settled :: earlier => summed union earlier
  | .response _ value :: earlier =>
      summed union earlier + union.floatValue value

/-- The node whose answer the last command waits for. -/
def awaited : List HubEntry → Option Nat
  | .passedOn destination :: _ => some destination
  | .response sender _ :: earlier =>
      if awaited earlier = some sender then none else awaited earlier
  | _ => none

/-- What an executed command leaves in the history. -/
def ofExecuted
    (command : Command)
    (otherwise : List HubEntry) : List HubEntry :=
  if command.cmd = byteOf 'r' then [.reset] else otherwise

end HubEntry

namespace HubNode

variable {K : Type}

/-- What an event leaves in the history. -/
def record
    (node : HubNode K) : HubEvent → List HubEntry
  | .command command reading =>
      if command.cmd = byteOf 'D' then
        []
      else if command.destination = 0 then
        HubEntry.ofExecuted command
          [.total node.glob.numTotalNodes (commandResult command reading)]
      else if command.destination.toNat = node.glob.nodeId then
        HubEntry.ofExecuted command [.settled]
      else if node.glob.checkIfNodeExists command.destination.toNat then
        [.passedOn command.destination.toNat]
      else
        [.settled]
  | .frame _ _ (.commandsRequest command) => HubEntry.ofExecuted command []
  | .frame sender _ (.commandsResponse value) => [.response sender value]
  | _ => []

end HubNode

namespace HubHistory

variable {K : Type}

/-- The history after an event. -/
def next
    [Zero K] [Add K]
    (union : FloatTo4Bytes K)
    (history : HubHistory K)
    (event : HubEvent) : Option (HubHistory K) :=
  (history.node.handle union event).map fun outcome =>
    { node := outcome.node
      entries := history.node.record event ++ history.entries }

/-- A hub after `setup()`. -/
def boot
    [Zero K]
    (nodeId : Nat) : HubHistory K where
  node := .boot nodeId
  entries := []

/-- The answer of the awaited node is passed on, and nothing else is written. -/
def PassesOn
    [Zero K] [Add K]
    (union : FloatTo4Bytes K)
    (history : HubHistory K)
    (value : BitVec 32) : Prop :=
  ∀ d reading,
    HubEntry.awaited history.entries = some d →
    (history.node.received union d reading
        (.commandsResponse value)).serial =
      [.response value]

/--
No total command misses a response; or it misses one, and the sum with the value
happens to have the bits of the value.
-/
def Settled
    [AddMonoid K]
    (union : FloatTo4Bytes K)
    (history : HubHistory K)
    (value : BitVec 32) : Prop :=
  HubEntry.missing history.entries = 0 ∨
    HubEntry.missing history.entries = 1 ∧
      union.value
          (HubEntry.summed union history.entries +
            union.floatValue value) =
        value

/-- The hub counts what the history misses. -/
structure Counts
    [AddMonoid K]
    (union : FloatTo4Bytes K)
    (history : HubHistory K) : Prop where
  counting :
    history.node.Counting
      (HubEntry.missing history.entries)
      (HubEntry.summed union history.entries)
  few : HubEntry.missing history.entries < maxNumNodes
  registered :
    0 < history.node.glob.numTotalNodes ∧
      history.node.glob.numTotalNodes ≤ maxNumNodes

end HubHistory

namespace HubHistory

variable {K : Type} [AddMonoid K] {union : FloatTo4Bytes K}

namespace Counts

variable {history after : HubHistory K}

/-- What leaves the counters and the missing responses alone keeps the invariant. -/
theorem congr
    (counts : Counts union history)
    (missing :
      HubEntry.missing after.entries = HubEntry.missing history.entries)
    (summed :
      HubEntry.summed union after.entries =
        HubEntry.summed union history.entries)
    (running :
      after.node.serialComm.runningTotalCommand =
        history.node.serialComm.runningTotalCommand)
    (waiting :
      after.node.serialComm.numNodesWaitingResult =
        history.node.serialComm.numNodesWaitingResult)
    (total :
      after.node.serialComm.totalCommandResult =
        history.node.serialComm.totalCommandResult)
    (registered :
      0 < after.node.glob.numTotalNodes ∧
        after.node.glob.numTotalNodes ≤ maxNumNodes) :
    Counts union after where
  counting := by
    rw [missing, summed]
    exact counts.counting.congr running waiting total
  few := by rw [missing]; exact counts.few
  registered := registered

/-- After a reset nothing is missing. -/
theorem of_reset
    {node : HubNode K}
    {entries : List HubEntry}
    (missing : HubEntry.missing entries = 0)
    (running : node.serialComm.runningTotalCommand = false)
    (registered : node.glob.numTotalNodes = 1) :
    Counts union { node := node, entries := entries } where
  counting := by rw [missing]; exact HubNode.counting_zero running _
  few := by rw [missing]; decide
  registered := by rw [registered]; decide

/-- Executing a command keeps the invariant, when its entries change no count. -/
theorem executed
    (counts : Counts union history)
    (command : Command)
    (reading : BitVec 32)
    (entries : List HubEntry)
    (missing :
      HubEntry.missing (entries ++ history.entries) =
        HubEntry.missing history.entries)
    (summed :
      HubEntry.summed union (entries ++ history.entries) =
        HubEntry.summed union history.entries) :
    Counts union
      { node := (history.node.executeCommand command reading).2.1
        entries :=
          HubEntry.ofExecuted command entries ++ history.entries } := by
  unfold HubEntry.ofExecuted
  by_cases isReset : command.cmd = byteOf 'r'
  · rw [if_pos isReset,
      history.node.executeCommand_of_reset reading isReset]
    exact of_reset rfl rfl rfl
  · rw [if_neg isReset,
      history.node.executeCommand_of_kept reading isReset]
    exact counts.congr missing summed rfl rfl rfl counts.registered

/-- A command from another hub keeps the invariant. -/
theorem request
    (counts : Counts union history)
    (command : Command)
    (reading : BitVec 32) :
    Counts union
      { node := (history.node.executeCommand command reading).2.1
        entries := HubEntry.ofExecuted command [] ++ history.entries } :=
  counts.executed command reading [] rfl rfl

/-- A command from the PC keeps the invariant. -/
theorem command
    (counts : Counts union history)
    (command : Command)
    (reading : BitVec 32) :
    Counts union
      { node := (history.node.readCommand union command reading).node
        entries :=
          history.node.record (.command command reading) ++
            history.entries } := by
  unfold HubNode.readCommand HubNode.record
  by_cases discovery : command.cmd = byteOf 'D'
  · simp only [if_pos discovery]
    unfold HubNode.readDiscoveryAnswer
    split <;> exact counts.congr rfl rfl rfl rfl rfl counts.registered
  simp only [if_neg discovery]
  by_cases total : command.destination = 0
  · simp only [if_pos total]
    unfold HubEntry.ofExecuted
    by_cases isReset : command.cmd = byteOf 'r'
    · rw [if_pos isReset,
        history.node.readTotalCommand_of_reset union reading isReset]
      exact of_reset rfl rfl rfl
    · rw [if_neg isReset]
      obtain ⟨someNode, few⟩ := counts.registered
      have fits : history.node.glob.numTotalNodes ≤ 256 :=
        Nat.le_trans few (by decide)
      have registered :
          (history.node.readTotalCommand union command
            reading).node.glob.numTotalNodes =
          history.node.glob.numTotalNodes := by
        rw [history.node.readTotalCommand_of_kept union reading isReset,
          HubNode.sendTotalIfAllValueForTotalReceived_glob]
        rfl
      refine
        { counting :=
            (HubNode.readTotalCommand_spec union _ isReset someNode fits
              reading).1
          few := Nat.lt_of_lt_of_le (Nat.sub_lt someNode Nat.one_pos) few
          registered := ?_ }
      rw [registered]
      exact counts.registered
  simp only [if_neg total]
  by_cases own : command.destination.toNat = history.node.glob.nodeId
  · simp only [if_pos own]
    exact counts.executed command reading [.settled] rfl rfl
  · simp only [if_neg own]
    split <;> exact counts.congr rfl rfl rfl rfl rfl counts.registered

/-- A response keeps the invariant. -/
theorem response
    (counts : Counts union history)
    (sender : Nat)
    (value : BitVec 32) :
    Counts union
      { node :=
          (history.node.receivedCommandResponseFromCAN union value).1
        entries := .response sender value :: history.entries } := by
  have few := counts.few
  by_cases none : HubEntry.missing history.entries = 0
  · have counting := counts.counting
    rw [none] at counting
    rw [counting.response_of_zero union value]
    have same :
        HubEntry.missing (.response sender value :: history.entries) =
          0 := by
      rw [HubEntry.missing, none]
    exact
      { counting := by rw [same]; exact HubNode.counting_zero counting.running _
        few := by rw [same]; decide
        registered := counts.registered }
  · have counted :=
      counts.counting.response union (Nat.pos_of_ne_zero none)
        (Nat.le_trans (Nat.le_of_lt few) (by decide)) value
    refine ⟨counted.1, Nat.lt_of_le_of_lt (Nat.sub_le _ 1) few, ?_⟩
    rw [HubNode.receivedCommandResponseFromCAN_glob]
    exact counts.registered

/-- Every event keeps the invariant. -/
theorem step
    (counts : Counts union history)
    {event : HubEvent}
    (taken : history.next union event = some after) :
    Counts union after := by
  obtain ⟨outcome, handled, isAfter⟩ := Option.map_eq_some_iff.mp taken
  subst isAfter
  cases event with
  | command command reading =>
      cases handled
      exact counts.command command reading
  | discovery =>
      cases handled
      unfold HubNode.sendPCDiscovery
      dsimp only
      split <;> exact counts.congr rfl rfl rfl rfl rfl counts.registered
  | frame sender reading message =>
      simp only [HubNode.handle] at handled
      split at handled
      · cases handled
      · rename_i spare
        cases Option.some.inj handled
        cases message with
        | wakeupBroadcast =>
            have few : history.node.glob.numTotalNodes < maxNumNodes := by
              by_contra full
              exact spare ⟨rfl, Nat.not_lt.mp full⟩
            exact
              counts.congr rfl rfl rfl rfl rfl
                ⟨Nat.succ_pos _, Nat.succ_le_of_lt few⟩
        | isHubNode =>
            exact counts.congr rfl rfl rfl rfl rfl counts.registered
        | noLongerIsHubNode =>
            unfold HubNode.received
            dsimp only
            split <;>
              exact counts.congr rfl rfl rfl rfl rfl counts.registered
        | frequentData =>
            exact counts.congr rfl rfl rfl rfl rfl counts.registered
        | commandsRequest command =>
            exact counts.request command reading
        | commandsResponse value => exact counts.response sender value
        | other => exact counts.congr rfl rfl rfl rfl rfl counts.registered

/-- The invariant holds after `setup()`. -/
theorem boot (nodeId : Nat) :
    Counts union (HubHistory.boot nodeId) :=
  of_reset rfl rfl rfl

end Counts

/--
In every history the answer of the awaited node is passed on as it is, if and only
if the history is settled.
-/
theorem passesOn_iff_settled
    {nodeId d : Nat}
    {history : HubHistory K}
    (run :
      Run (next union) (fun _ _ => True) (HubHistory.boot nodeId) history)
    (awaits : HubEntry.awaited history.entries = some d)
    (value : BitVec 32) :
    history.PassesOn union value ↔ history.Settled union value := by
  have counts : Counts union history :=
    run.invariant (Counts union) (.boot nodeId)
      fun counts _ taken => counts.step taken
  have few : HubEntry.missing history.entries ≤ 256 :=
    Nat.le_trans (Nat.le_of_lt counts.few) (by decide)
  have passes :
      history.PassesOn union value ↔
        (history.node.receivedCommandResponseFromCAN union value).2 =
          [.response value] :=
    ⟨fun passes => passes d 0 awaits, fun passes _ _ _ => passes⟩
  rw [passes]
  unfold Settled
  by_cases none : HubEntry.missing history.entries = 0
  · have counting := counts.counting
    rw [none] at counting
    rw [counting.response_of_zero union value]
    exact iff_of_true rfl (.inl none)
  · have positive := Nat.pos_of_ne_zero none
    rw [(counts.counting.response union positive few value).2]
    unfold HubNode.totalAt
    by_cases last : HubEntry.missing history.entries = 1
    · simp [last]
    · have more : HubEntry.missing history.entries - 1 ≠ 0 := by omega
      simp [more, none, last]

section Examples

/-- Node 1 becomes the hub and hears of node 2. -/
def pair : List HubEvent :=
  [.command discoveryAnswer 0, .frame 2 0 .wakeupBroadcast]

/-- A total that is answered, and then a command to node 2. -/
theorem passesOn_after_total :
    ∃ history,
      Run (next singlePrecision) (fun _ _ => True) (HubHistory.boot 1)
          history ∧
        HubEntry.awaited history.entries = some 2 ∧
        history.PassesOn singlePrecision threeF := by
  obtain ⟨history, run, observed⟩ :=
    exists_run_of_observed
      (next singlePrecision)
      (fun _ _ => True)
      (HubHistory.boot 1)
      (pair ++
        [.command (getFrom 0) oneF,
          .frame 2 0 (.commandsResponse twoF),
          .command (getFrom 2) 0])
      (fun history =>
        decide (HubEntry.awaited history.entries = some 2) &&
          decide (HubEntry.missing history.entries = 0))
      (by decide +kernel)
  rw [Bool.and_eq_true, decide_eq_true_eq, decide_eq_true_eq] at observed
  exact
    ⟨history, run, observed.1,
      (passesOn_iff_settled run observed.1 threeF).mpr (.inl observed.2)⟩

/--
Node 2 does not answer the total in time.  Its answer 2.0 to the next command is
then added to the hub's own 1.0, and the PC gets 3.0.
-/
theorem not_passesOn_after_timeout :
    ∃ history,
      Run (next singlePrecision) (fun _ _ => True) (HubHistory.boot 1)
          history ∧
        HubEntry.awaited history.entries = some 2 ∧
        ¬ history.PassesOn singlePrecision twoF := by
  obtain ⟨history, run, observed⟩ :=
    exists_run_of_observed
      (next singlePrecision)
      (fun _ _ => True)
      (HubHistory.boot 1)
      (pair ++ [.command (getFrom 0) oneF, .command (getFrom 2) 0])
      (fun history =>
        decide (HubEntry.awaited history.entries = some 2) &&
          decide
            (responses
                (history.node.received singlePrecision 2 0
                  (.commandsResponse twoF)).serial =
              [threeF]))
      (by decide +kernel)
  rw [Bool.and_eq_true, decide_eq_true_eq, decide_eq_true_eq] at observed
  obtain ⟨awaits, sum⟩ := observed
  refine ⟨history, run, awaits, ?_⟩
  intro passes
  rw [passes 2 0 awaits] at sum
  exact absurd sum (by decide)

end Examples

end HubHistory

end DistributedLighting
