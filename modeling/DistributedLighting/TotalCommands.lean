import DistributedLighting.HubCommands

namespace DistributedLighting

/-!
# Total commands

The hub asks all nodes, adds the results in the order of their arrival, and sends
the total when its countdown ends.  What else arrives in between leaves the
countdown and the sum alone.
-/

namespace HubEvent

/-- The response that an event brings to the hub, with the node that sent it. -/
def answer? : HubEvent → Option (Nat × BitVec 32)
  | .frame sender _ (.commandsResponse value) => some (sender, value)
  | _ => none

/-- Neither a command nor a change of the registry. -/
def Undisturbing : HubEvent → Prop
  | .command _ _ => False
  | .frame _ _ .wakeupBroadcast => False
  | .frame _ _ (.commandsRequest _) => False
  | _ => True

end HubEvent

/-- The responses among the events, in the order of their arrival. -/
def answers (traffic : List HubEvent) : List (Nat × BitVec 32) :=
  traffic.filterMap HubEvent.answer?

namespace HubNode

variable {K : Type} {union : FloatTo4Bytes K}

/-- React to events one after another, with all that is written to the PC. -/
def serve
    [Zero K] [Add K]
    (union : FloatTo4Bytes K)
    (node : HubNode K) : List HubEvent → Option (HubNode K × List Message)
  | [] => some (node, [])
  | event :: later =>
      (node.handle union event).bind fun outcome =>
        (outcome.node.serve union later).map fun final =>
          (final.1, outcome.serial ++ final.2)

/-- The count, and the total once nothing is missing. -/
structure Gathers
    (union : FloatTo4Bytes K)
    (missing : Nat)
    (sum : K)
    (node : HubNode K)
    (serial : List Message) : Prop where
  counting : node.Counting missing sum
  sent :
    responses serial = if missing = 0 then [union.value sum] else []

/-- The only response in what a countdown sends is the total. -/
theorem responses_totalAt
    (union : FloatTo4Bytes K)
    (missing : Nat)
    (sum : K) :
    responses (totalAt union missing sum) =
      if missing = 0 then [union.value sum] else [] := by
  unfold totalAt
  split <;> rfl

section Step

variable {missing : Nat} {sum : K} {node : HubNode K} {event : HubEvent}

/-- Other traffic is neither counted nor answered. -/
theorem handle_undisturbing
    [Zero K] [Add K]
    (union : FloatTo4Bytes K)
    (counting : node.Counting missing sum)
    (undisturbing : event.Undisturbing)
    (noAnswer : event.answer? = none) :
    ∃ outcome,
      node.handle union event = some outcome ∧
        outcome.node.Counting missing sum ∧
        responses outcome.serial = [] := by
  cases event with
  | command command reading => cases undisturbing
  | discovery =>
      refine ⟨_, rfl, ?_⟩
      unfold sendPCDiscovery
      dsimp only
      split <;> exact ⟨counting.congr rfl rfl rfl, rfl⟩
  | frame sender reading message =>
      cases message with
      | wakeupBroadcast => cases undisturbing
      | commandsRequest command => cases undisturbing
      | commandsResponse value => cases noAnswer
      | noLongerIsHubNode =>
          refine ⟨_, rfl, ?_, rfl⟩
          unfold received
          dsimp only
          split <;> exact counting.congr rfl rfl rfl
      | isHubNode => exact ⟨_, rfl, counting.congr rfl rfl rfl, rfl⟩
      | frequentData data0 data1 data2 data3 =>
          exact ⟨_, rfl, counting, rfl⟩
      | other => exact ⟨_, rfl, counting, rfl⟩

/-- An awaited response is counted and added. -/
theorem handle_answer
    [Zero K] [Add K]
    (union : FloatTo4Bytes K)
    {sender : Nat}
    {value : BitVec 32}
    (counting : node.Counting missing sum)
    (answer : event.answer? = some (sender, value))
    (positive : 0 < missing)
    (few : missing ≤ 256) :
    ∃ outcome,
      node.handle union event = some outcome ∧
        outcome.node.Counting (missing - 1) (sum + union.floatValue value) ∧
        outcome.serial =
          totalAt union (missing - 1) (sum + union.floatValue value) := by
  cases event with
  | command command reading => cases answer
  | discovery => cases answer
  | frame sender reading message =>
      cases message with
      | commandsResponse value =>
          cases answer
          exact ⟨_, rfl, counting.response union positive few value⟩
      | wakeupBroadcast => cases answer
      | isHubNode => cases answer
      | noLongerIsHubNode => cases answer
      | frequentData data0 data1 data2 data3 => cases answer
      | commandsRequest command => cases answer
      | other => cases answer

end Step

section Runs

variable [AddCommMonoid K]

/--
While no more than the missing responses arrive, the hub counts and adds them,
and sends nothing before the last one.
-/
theorem Gathers.serve
    {missing : Nat}
    {sum : K}
    {node : HubNode K}
    {serial : List Message}
    (gathers : node.Gathers union missing sum serial)
    {traffic : List HubEvent}
    (undisturbed : ∀ event ∈ traffic, event.Undisturbing)
    (few : missing ≤ 256)
    (enough : (answers traffic).length ≤ missing) :
    ∃ after written,
      node.serve union traffic = some (after, written) ∧
        after.Gathers union
          (missing - (answers traffic).length)
          (sum +
            ((answers traffic).map fun answer =>
              union.floatValue answer.2).sum)
          (serial ++ written) := by
  induction traffic generalizing missing sum node serial with
  | nil =>
      refine ⟨node, [], rfl, ?_⟩
      simpa [answers] using gathers
  | cons event later inductionHypothesis =>
      have laterUndisturbed : ∀ event ∈ later, event.Undisturbing :=
        fun event member => undisturbed event (List.mem_cons_of_mem _ member)
      cases isAnswer : event.answer? with
      | none =>
          have same : answers (event :: later) = answers later :=
            List.filterMap_cons_none isAnswer
          rw [same] at enough ⊢
          obtain ⟨outcome, handled, counting, silent⟩ :=
            handle_undisturbing union gathers.counting
              (undisturbed event List.mem_cons_self) isAnswer
          have kept :
              outcome.node.Gathers union missing sum
                (serial ++ outcome.serial) := by
            refine ⟨counting, ?_⟩
            rw [responses_append, silent, List.append_nil]
            exact gathers.sent
          obtain ⟨after, written, served, gathered⟩ :=
            inductionHypothesis kept laterUndisturbed few enough
          refine ⟨after, outcome.serial ++ written, ?_, ?_⟩
          · rw [HubNode.serve, handled, Option.bind_some, served]
            rfl
          · rw [← List.append_assoc]
            exact gathered
      | some answer =>
          have same : answers (event :: later) = answer :: answers later :=
            List.filterMap_cons_some isAnswer
          rw [same, List.length_cons] at enough
          have positive : 0 < missing := Nat.lt_of_lt_of_le (Nat.succ_pos _) enough
          obtain ⟨outcome, handled, counting, total⟩ :=
            handle_answer union gathers.counting isAnswer positive
              few
          have counted :
              outcome.node.Gathers union (missing - 1)
                (sum + union.floatValue answer.2)
                (serial ++ outcome.serial) := by
            refine ⟨counting, ?_⟩
            rw [responses_append, gathers.sent,
              if_neg (Nat.ne_of_gt positive), List.nil_append, total]
            exact responses_totalAt union _ _
          obtain ⟨after, written, served, gathered⟩ :=
            inductionHypothesis counted laterUndisturbed
              (Nat.le_trans (Nat.sub_le _ 1) few) (Nat.le_sub_one_of_lt enough)
          refine ⟨after, outcome.serial ++ written, ?_, ?_⟩
          · rw [HubNode.serve, handled, Option.bind_some, served]
            rfl
          · rw [same, List.map_cons, List.sum_cons, List.length_cons,
              ← List.append_assoc, ← add_assoc, Nat.add_comm,
              ← Nat.sub_sub]
            exact gathered

/-- The hub takes a get command for all nodes as a total command. -/
theorem readCommand_get
    (node : HubNode K)
    {command : Command}
    (isGet : command.cmd = byteOf 'g')
    (toAll : command.destination = 0)
    (reading : BitVec 32) :
    node.readCommand union command reading =
      node.readTotalCommand union command reading := by
  have notDiscovery : command.cmd ≠ byteOf 'D' := by
    rw [isGet]
    decide
  rw [readCommand, if_neg notDiscovery, if_pos toAll]

/--
What the PC gets for a get command to all `members` while the `traffic` arrives:
one response, with the bits of the sum of all results, and none before the last
node has answered.
-/
structure AnswersTotal
    (union : FloatTo4Bytes K)
    (node : HubNode K)
    (members : Finset Nat)
    (command : Command)
    (results : Nat → BitVec 32)
    (traffic : List HubEvent) : Prop where
  total :
    ∃ after serial,
      node.serve union
          (.command command (results node.glob.nodeId) :: traffic) =
        some (after, serial) ∧
      responses serial =
        [union.value (∑ id ∈ members, union.floatValue (results id))] ∧
      after.serialComm.runningTotalCommand = false
  notBefore :
    ∀ early late,
      traffic = early ++ late →
      answers late ≠ [] →
      ∃ during serial,
        node.serve union
            (.command command (results node.glob.nodeId) :: early) =
          some (during, serial) ∧
        responses serial = []

/--
Whatever earlier commands have left behind, a get command to all registered nodes
is answered once, with the sum of the results, when every other node has answered
in any order between any other traffic.
-/
theorem answersTotal_of_answers
    {node : HubNode K}
    {members : Finset Nat}
    {command : Command}
    {results : Nat → BitVec 32}
    {traffic : List HubEvent}
    (lists : node.glob.Lists members)
    (registered : node.glob.nodeId ∈ members)
    (fewNodes : members.card ≤ 256)
    (isGet : command.cmd = byteOf 'g')
    (toAll : command.destination = 0)
    (undisturbed : ∀ event ∈ traffic, event.Undisturbing)
    (answered :
      (answers traffic).Perm
        ((members.erase node.glob.nodeId).toList.map fun id =>
          (id, results id))) :
    node.AnswersTotal union members command results traffic := by
  have kept : command.cmd ≠ byteOf 'r' := by
    rw [isGet]
    decide
  have ownResult :
      commandResult command (results node.glob.nodeId) =
        results node.glob.nodeId :=
    if_pos isGet
  have someNode : 0 < members.card := Finset.card_pos.mpr ⟨_, registered⟩
  have others :
      (answers traffic).length = members.card - 1 := by
    rw [answered.length_eq, List.length_map, Finset.length_toList,
      Finset.card_erase_of_mem registered]
  have started :=
    node.readTotalCommand_spec union kept
      (lists.count ▸ someNode) (lists.count ▸ fewNodes)
      (results node.glob.nodeId)
  rw [lists.count, ownResult] at started
  have gathers :
      (node.readTotalCommand union command
          (results node.glob.nodeId)).node.Gathers union
        (members.card - 1)
        (union.floatValue (results node.glob.nodeId))
        (node.readTotalCommand union command
          (results node.glob.nodeId)).serial := by
    refine ⟨started.1, ?_⟩
    rw [started.2]
    exact responses_totalAt union _ _
  have few : members.card - 1 ≤ 256 := Nat.le_trans (Nat.sub_le _ 1) fewNodes
  have isServed :
      ∀ events,
        node.serve union
            (.command command (results node.glob.nodeId) :: events) =
          ((node.readTotalCommand union command
              (results node.glob.nodeId)).node.serve union events).map
            fun final =>
              (final.1,
                (node.readTotalCommand union command
                  (results node.glob.nodeId)).serial ++ final.2) := by
    intro events
    rw [← node.readCommand_get isGet toAll]
    rfl
  constructor
  · obtain ⟨after, written, served, gathered⟩ :=
      gathers.serve undisturbed few (Nat.le_of_eq others)
    rw [others, Nat.sub_self] at gathered
    refine ⟨after, _, by rw [isServed, served]; rfl, ?_,
      gathered.counting.running⟩
    have sum :
        union.floatValue (results node.glob.nodeId) +
            ((answers traffic).map fun answer =>
              union.floatValue answer.2).sum =
          ∑ id ∈ members, union.floatValue (results id) := by
      rw [(answered.map _).sum_eq, List.map_map,
        ← Finset.add_sum_erase members _ registered]
      exact congrArg _ (Finset.sum_map_toList _ _)
    rw [gathered.sent, if_pos rfl, sum]
  · intro early late isTraffic lastMissing
    have isAnswers : answers traffic = answers early ++ answers late := by
      rw [isTraffic]
      exact List.filterMap_append
    have some : 0 < (answers late).length :=
      List.length_pos_iff.mpr lastMissing
    have fewer : (answers early).length < members.card - 1 := by
      rw [← others, isAnswers, List.length_append]
      exact Nat.lt_add_of_pos_right some
    have earlyUndisturbed : ∀ event ∈ early, event.Undisturbing := by
      intro event member
      apply undisturbed
      rw [isTraffic]
      exact List.mem_append_left _ member
    obtain ⟨during, written, served, gathered⟩ :=
      gathers.serve earlyUndisturbed few (Nat.le_of_lt fewer)
    refine ⟨during, _, by rw [isServed, served]; rfl, ?_⟩
    rw [gathered.sent, if_neg (Nat.sub_ne_zero_of_lt fewer)]

end Runs

section Examples

/-- Hub 2 with nodes 1 and 5, in the middle of another total command. -/
def interrupted : HubNode Int where
  glob := ((Glob.boot 2 2).registerNewNode 5).registerNewNode 1
  serialComm :=
    { numNodesWaitingResult := 1
      runningTotalCommand := true
      totalCommandResult := 7
      pcDiscoveryHadResponse := true }

/-- Three nodes; the later one answers first, and other frames arrive in between. -/
theorem answersTotal_three_nodes :
    interrupted.AnswersTotal singlePrecision {1, 5, 2} (getFrom 0)
      (fun id => if id = 2 then oneF else twoF)
      [.frame 5 0 (.commandsResponse twoF), .frame 1 0 .other, .discovery,
        .frame 1 0 (.commandsResponse twoF)] := by
  have lists : interrupted.glob.Lists {1, 5, 2} := by
    have two : (Glob.boot 2 2).Lists {2} := Glob.lists_boot (by decide) 2
    have three : ((Glob.boot 2 2).registerNewNode 5).Lists {5, 2} :=
      two.registerNewNode (by decide) (by decide)
    exact three.registerNewNode (by decide) (by decide)
  refine
    answersTotal_of_answers lists (by decide) (by decide) rfl rfl ?_ ?_
  · simp [HubEvent.Undisturbing]
  · have others :
        (({1, 5, 2} : Finset Nat).erase interrupted.glob.nodeId).toList.Perm
          [5, 1] := by
      have isErased :
          ({1, 5, 2} : Finset Nat).erase interrupted.glob.nodeId =
            insert 5 {1} := by
        decide
      rw [isErased, ← Finset.toList_singleton 1]
      exact Finset.toList_insert (by decide)
    refine List.Perm.trans (List.Perm.of_eq ?_) (others.map _).symm
    rfl

end Examples

end HubNode

end DistributedLighting
