import DistributedLighting.NodeRegistry
import DistributedLighting.Runs

namespace DistributedLighting

/-!
# Sequences of registrations and resets

`registerNewNode` and `resetGlob` are called in any order, and are observed together
with the array elements that they access.  As long as no id is registered twice, the
registry is a function of the set of registered ids.  An id that is registered again
is listed again.
-/

/-- One access to the arrays of the registry. -/
inductive GlobAccess where
  | nodesList (index : Nat)
  | nodeIndexOnGainMatrix (index : Nat)
  deriving Repr, DecidableEq

/-- The element exists. -/
def GlobAccess.InRange : GlobAccess → Prop
  | .nodesList index => index < maxNumNodes
  | .nodeIndexOnGainMatrix index => index < maxNodeId + 1

/-- The entries that `findSlot` looks at. -/
def findSlotAccesses
    (nodesList : Nat → Nat)
    (id : Nat) : Nat → Nat → List Nat
  | 0, _ => []
  | remaining + 1, i =>
      if nodesList i > id ∨ nodesList i = 0 then
        [i]
      else
        i :: findSlotAccesses nodesList id remaining (i + 1)

/-- The entries that `moveDown` reads and writes. -/
def moveDownAccesses
    (nodesList : Nat → Nat)
    (oldVal : Nat) : Nat → Nat → List Nat
  | 0, _ => []
  | remaining + 1, j =>
      let moved := Function.update nodesList j oldVal
      if nodesList j = 0 then
        [j]
      else
        j :: moveDownAccesses moved (nodesList j) remaining (j + 1)

namespace Glob

/-- The accesses of the sorted insertion. -/
def insertAccesses
    (glob : Glob)
    (id : Nat) : List Nat :=
  findSlotAccesses glob.nodesList id (glob.numTotalNodes + 1) 0 ++
    match findSlot glob.nodesList id (glob.numTotalNodes + 1) 0 with
    | none => []
    | some i =>
        i ::
          moveDownAccesses glob.nodesList (glob.nodesList i)
              (glob.numTotalNodes - i) (i + 1) ++
            [i]

/-- The accesses of `registerNewNode`, with those of the list that a hub sends. -/
def registerAccesses
    (glob : Glob)
    (id : Nat) : List GlobAccess :=
  (glob.insertAccesses id).map .nodesList ++
    ((List.range (glob.numTotalNodes + 1)).flatMap fun i =>
      [.nodesList i,
        .nodeIndexOnGainMatrix ((glob.registerNewNode id).nodesList i)]) ++
    if glob.nodeId = glob.hubNode then
      (List.range (glob.numTotalNodes + 1)).map .nodesList
    else
      []

/-- The registry after the loop of `resetGlob`. -/
def cleared (glob : Glob) : Glob :=
  { glob with
    nodesList := (glob.clearEntries glob.numTotalNodes).1
    nodeIndexOnGainMatrix := (glob.clearEntries glob.numTotalNodes).2
    numTotalNodes := 0 }

/-- The accesses of `resetGlob`. -/
def resetAccesses (glob : Glob) : List GlobAccess :=
  ((List.range glob.numTotalNodes).flatMap fun i =>
    [.nodesList i,
      .nodeIndexOnGainMatrix ((glob.clearEntries i).1 i),
      .nodesList i]) ++
    glob.cleared.registerAccesses glob.nodeId

theorem resetGlob_eq (glob : Glob) :
    glob.resetGlob = glob.cleared.registerNewNode glob.nodeId :=
  rfl

end Glob

/-- A call that changes the registry. -/
inductive RegistryCall where
  | registerNewNode (id : Nat)
  | resetGlob
  deriving Repr, DecidableEq

/-- A registry with the ids registered since the last reset and all accesses so far. -/
structure RegistryHistory where
  glob : Glob
  registered : Finset Nat
  accesses : List GlobAccess

namespace RegistryHistory

/-- The zeroed globals, before any call. -/
def start (nodeId hubNode : Nat) : RegistryHistory where
  glob := .zeroed nodeId hubNode
  registered := ∅
  accesses := []

/-- One call. -/
def next (history : RegistryHistory) : RegistryCall → Option RegistryHistory
  | .registerNewNode id =>
      some
        { glob := history.glob.registerNewNode id
          registered := insert id history.registered
          accesses :=
            history.accesses ++ history.glob.registerAccesses id }
  | .resetGlob =>
      some
        { glob := history.glob.resetGlob
          registered := {history.glob.nodeId}
          accesses := history.accesses ++ history.glob.resetAccesses }

/--
Since the last reset the ids are distinct and no more than the arrays hold; the id
that a reset registers counts.
-/
def Distinct (history : RegistryHistory) : RegistryCall → Prop
  | .registerNewNode id =>
      id ∉ history.registered ∧
        0 < id ∧
        id ≤ maxNodeId ∧
        history.registered.card < maxNumNodes
  | .resetGlob => True

instance (history : RegistryHistory) (call : RegistryCall) :
    Decidable (history.Distinct call) :=
  match call with
  | .registerNewNode id =>
      inferInstanceAs
        (Decidable
          (id ∉ history.registered ∧
            0 < id ∧
            id ≤ maxNodeId ∧
            history.registered.card < maxNumNodes))
  | .resetGlob => .isTrue trivial

end RegistryHistory

section Accesses

variable {nodesList : Nat → Nat}

/-- The search stays below its bound. -/
theorem lt_of_mem_findSlotAccesses
    {id remaining i index : Nat}
    (accessed : index ∈ findSlotAccesses nodesList id remaining i) :
    index < i + remaining := by
  induction remaining generalizing i with
  | zero =>
      exact absurd accessed List.not_mem_nil
  | succ remaining inductionHypothesis =>
      unfold findSlotAccesses at accessed
      split at accessed
      · rw [List.mem_singleton] at accessed
        omega
      · rcases List.mem_cons.mp accessed with rfl | later
        · omega
        · have bound := inductionHypothesis later
          omega

theorem lt_of_findSlot
    {id remaining i slot : Nat}
    (found : findSlot nodesList id remaining i = some slot) :
    slot < i + remaining := by
  induction remaining generalizing i with
  | zero =>
      cases found
  | succ remaining inductionHypothesis =>
      unfold findSlot at found
      split at found
      · obtain ⟨⟩ := found
        omega
      · have bound := inductionHypothesis found
        omega

/-- So does the loop that moves the entries down. -/
theorem lt_of_mem_moveDownAccesses
    {oldVal remaining j index : Nat}
    (accessed : index ∈ moveDownAccesses nodesList oldVal remaining j) :
    index < j + remaining := by
  induction remaining generalizing nodesList oldVal j with
  | zero =>
      exact absurd accessed List.not_mem_nil
  | succ remaining inductionHypothesis =>
      unfold moveDownAccesses at accessed
      dsimp only at accessed
      split at accessed
      · rw [List.mem_singleton] at accessed
        omega
      · rcases List.mem_cons.mp accessed with rfl | later
        · omega
        · have bound := inductionHypothesis later
          omega

/-- The insertion only looks at the entries in use and at the next one. -/
theorem Glob.le_of_mem_insertAccesses
    {glob : Glob}
    {id index : Nat}
    (accessed : index ∈ glob.insertAccesses id) :
    index ≤ glob.numTotalNodes := by
  unfold insertAccesses at accessed
  rcases List.mem_append.mp accessed with searched | inserted
  · have bound := lt_of_mem_findSlotAccesses searched
    omega
  · cases found :
        findSlot glob.nodesList id (glob.numTotalNodes + 1) 0 with
    | none =>
        rw [found] at inserted
        exact absurd inserted List.not_mem_nil
    | some slot =>
        rw [found] at inserted
        have bound := lt_of_findSlot found
        rcases List.mem_append.mp inserted with moved | last
        · rcases List.mem_cons.mp moved with rfl | later
          · omega
          · have behind := lt_of_mem_moveDownAccesses later
            omega
        · rw [List.mem_singleton] at last
          omega

end Accesses

namespace Glob

variable {glob : Glob} {members : Finset Nat}

/-- The ids are those that the arrays are made for. -/
structure Sized (members : Finset Nat) : Prop where
  ids : ∀ id ∈ members, id ≤ maxNodeId
  card : members.card ≤ maxNumNodes

theorem sized_singleton
    {id : Nat}
    (ownId : id ≤ maxNodeId) :
    Sized {id} := by
  refine ⟨?_, by rw [Finset.card_singleton]; decide⟩
  intro other member
  rw [Finset.mem_singleton] at member
  exact member ▸ ownId

/-- The entries in use are members. -/
theorem Lists.mem_of_lt
    (lists : glob.Lists members)
    {i : Nat}
    (inUse : i < members.card) :
    glob.nodesList i ∈ members := by
  rw [lists.nodesList_eq inUse, ← Finset.mem_sort (· ≤ ·)]
  exact List.get_mem _ _

/-- Registering a new id stays inside the arrays. -/
theorem Lists.registerAccesses_inRange
    (lists : glob.Lists members)
    {id : Nat}
    (fresh : id ∉ members)
    (positive : 0 < id)
    (sized : Sized (insert id members)) :
    ∀ access ∈ glob.registerAccesses id, access.InRange := by
  have after := lists.registerNewNode fresh positive
  have size : (insert id members).card = glob.numTotalNodes + 1 := by
    rw [Finset.card_insert_of_notMem fresh, lists.count]
  have fits : glob.numTotalNodes < maxNumNodes := by
    have bound := sized.card
    omega
  intro access accessed
  unfold registerAccesses at accessed
  rcases List.mem_append.mp accessed with changed | sent
  · rcases List.mem_append.mp changed with inserted | numbered
    · obtain ⟨index, among, rfl⟩ := List.mem_map.mp inserted
      exact lt_of_le_of_lt (le_of_mem_insertAccesses among) fits
    · obtain ⟨i, inRange, isAccess⟩ := List.mem_flatMap.mp numbered
      rw [List.mem_range] at inRange
      rcases List.mem_cons.mp isAccess with rfl | isIndex
      · exact lt_of_lt_of_le inRange fits
      · rw [List.mem_singleton] at isIndex
        subst isIndex
        have member := after.mem_of_lt (size ▸ inRange)
        exact Nat.lt_succ_of_le (sized.ids _ member)
  · split at sent
    · obtain ⟨i, inRange, rfl⟩ := List.mem_map.mp sent
      exact lt_of_lt_of_le (List.mem_range.mp inRange) fits
    · exact absurd sent List.not_mem_nil

/-- The loop of `resetGlob` leaves the zeroed registry. -/
theorem Lists.cleared_eq (lists : glob.Lists members) :
    glob.cleared = zeroed glob.nodeId glob.hubNode := by
  obtain ⟨list, index⟩ := lists.tidy.clearEntries_eq
  unfold cleared zeroed
  rw [list, index]

/-- A reset stays inside the arrays. -/
theorem Lists.resetAccesses_inRange
    (lists : glob.Lists members)
    (sized : Sized members)
    (positive : 0 < glob.nodeId)
    (ownId : glob.nodeId ≤ maxNodeId) :
    ∀ access ∈ glob.resetAccesses, access.InRange := by
  intro access accessed
  unfold resetAccesses at accessed
  rcases List.mem_append.mp accessed with clearing | registering
  · obtain ⟨i, inRange, isAccess⟩ := List.mem_flatMap.mp clearing
    rw [List.mem_range, lists.count] at inRange
    have inList : i < maxNumNodes := lt_of_lt_of_le inRange sized.card
    have entry : (glob.clearEntries i).1 i = glob.nodesList i := by
      rw [(glob.clearEntries_eq i).1, if_neg (Nat.lt_irrefl i)]
    rw [entry] at isAccess
    simp only [List.mem_cons, List.not_mem_nil, or_false] at isAccess
    rcases isAccess with rfl | rfl | rfl
    · exact inList
    · exact Nat.lt_succ_of_le (sized.ids _ (lists.mem_of_lt inRange))
    · exact inList
  · rw [lists.cleared_eq] at registering
    have own : Sized (insert glob.nodeId ∅) := by
      rw [LawfulSingleton.insert_empty_eq]
      exact sized_singleton ownId
    exact
      (lists_zeroed glob.nodeId glob.hubNode).registerAccesses_inRange
        (Finset.notMem_empty _) positive own access registering

/-- The arrays and the counter of two registries agree. -/
structure SameRegistry (glob other : Glob) : Prop where
  nodesList : glob.nodesList = other.nodesList
  nodeIndexOnGainMatrix :
    glob.nodeIndexOnGainMatrix = other.nodeIndexOnGainMatrix
  numTotalNodes : glob.numTotalNodes = other.numTotalNodes

/-- The registry is a function of its members. -/
theorem Lists.sameRegistry
    {other : Glob}
    (lists : glob.Lists members)
    (also : other.Lists members) :
    SameRegistry glob other := by
  have same : glob.nodesList = other.nodesList := by
    funext i
    rw [lists.holds i, also.holds i]
  refine ⟨same, ?_, lists.count.trans also.count.symm⟩
  funext id
  by_cases listed : id ∈ members
  · obtain ⟨i, inRange, isId⟩ :=
      List.mem_iff_getElem.mp ((Finset.mem_sort (· ≤ ·)).mpr listed)
    rw [Finset.length_sort] at inRange
    have entry : glob.nodesList i = id :=
      (lists.nodesList_eq inRange).trans isId
    have index := lists.index i inRange
    have otherIndex := also.index i inRange
    rw [← same, entry] at otherIndex
    rw [entry] at index
    rw [index, otherIndex]
  · rw [lists.unlisted id listed, also.unlisted id listed]

end Glob

namespace RegistryHistory

open Glob

variable {nodeId hubNode : Nat} {history after final : RegistryHistory}

/-- The registry holds what has been registered and nothing was out of range. -/
structure Correct (nodeId : Nat) (history : RegistryHistory) : Prop where
  nodeId : history.glob.nodeId = nodeId
  lists : history.glob.Lists history.registered
  sized : Sized history.registered
  inRange : ∀ access ∈ history.accesses, access.InRange

theorem correct_start (nodeId hubNode : Nat) :
    (start nodeId hubNode).Correct nodeId where
  nodeId := rfl
  lists := lists_zeroed nodeId hubNode
  sized := ⟨fun _ none => absurd none (Finset.notMem_empty _), Nat.zero_le _⟩
  inRange := fun _ none => absurd none List.not_mem_nil

/-- Each call keeps the registry correct. -/
theorem Correct.next
    (correct : history.Correct nodeId)
    (positive : 0 < nodeId)
    (ownId : nodeId ≤ maxNodeId)
    {call : RegistryCall}
    (distinct : history.Distinct call)
    (taken : history.next call = some after) :
    after.Correct nodeId := by
  obtain ⟨isOwn, lists, sized, inRange⟩ := correct
  have both :
      ∀ {more : List GlobAccess},
        (∀ access ∈ more, access.InRange) →
          ∀ access ∈ history.accesses ++ more, access.InRange := by
    intro more moreInRange access accessed
    rcases List.mem_append.mp accessed with earlier | later
    · exact inRange access earlier
    · exact moreInRange access later
  cases call with
  | registerNewNode id =>
      obtain ⟨⟩ := taken
      obtain ⟨fresh, idPositive, idFits, spare⟩ := distinct
      have larger : Sized (insert id history.registered) := by
        refine ⟨?_, ?_⟩
        · intro other member
          rcases Finset.mem_insert.mp member with rfl | earlier
          · exact idFits
          · exact sized.ids other earlier
        · rw [Finset.card_insert_of_notMem fresh]
          exact spare
      exact
        ⟨isOwn, lists.registerNewNode fresh idPositive, larger,
          both
            (lists.registerAccesses_inRange fresh idPositive larger)⟩
  | resetGlob =>
      obtain ⟨⟩ := taken
      subst isOwn
      exact
        ⟨rfl, lists.resetGlob positive, sized_singleton ownId,
          both (lists.resetAccesses_inRange sized positive ownId)⟩

theorem correct_of_run
    (positive : 0 < nodeId)
    (ownId : nodeId ≤ maxNodeId)
    (run : Run next Distinct (start nodeId hubNode) final) :
    final.Correct nodeId :=
  run.invariant (Correct nodeId) (correct_start nodeId hubNode)
    fun correct distinct taken =>
      correct.next positive ownId distinct taken

/--
After any sequence of registrations and resets with distinct ids, all accesses were
in range and the registry lists exactly the registered ids; two nodes with the same
registered ids hold the same registry.
-/
theorem lists_of_run
    (positive : 0 < nodeId)
    (ownId : nodeId ≤ maxNodeId)
    (run : Run next Distinct (start nodeId hubNode) final) :
    (∀ access ∈ final.accesses, access.InRange) ∧
      final.glob.Lists final.registered ∧
      ∀ {otherId otherHub : Nat} {other : RegistryHistory},
        0 < otherId →
          otherId ≤ maxNodeId →
            Run next Distinct (start otherId otherHub) other →
              other.registered = final.registered →
                SameRegistry final.glob other.glob := by
  have correct := correct_of_run positive ownId run
  refine ⟨correct.inRange, correct.lists, ?_⟩
  intro otherId otherHub other otherPositive otherOwnId otherRun same
  have otherCorrect := correct_of_run otherPositive otherOwnId otherRun
  exact correct.lists.sameRegistry (same ▸ otherCorrect.lists)

/-- A node that boots, hears two others, is reset and hears them in another order. -/
theorem lists_after_reset :
    ∃ final,
      Run next Distinct (start 5 0) final ∧
        final.glob.listed = [2, 5, 9] ∧
        (∀ access ∈ final.accesses, access.InRange) ∧
        final.glob.Lists final.registered ∧
        ∀ {otherId otherHub : Nat} {other : RegistryHistory},
          0 < otherId →
            otherId ≤ maxNodeId →
              Run next Distinct (start otherId otherHub) other →
                other.registered = final.registered →
                  SameRegistry final.glob other.glob := by
  obtain ⟨final, run, observed⟩ :=
    exists_run_of_observed next Distinct (start 5 0)
      [.registerNewNode 5, .registerNewNode 2, .registerNewNode 9,
        .resetGlob, .registerNewNode 9, .registerNewNode 2]
      (fun final => final.glob.listed = [2, 5, 9]) (by decide +kernel)
  exact
    ⟨final, run, of_decide_eq_true observed,
      lists_of_run (by decide) (by decide) run⟩

end RegistryHistory

section Repetitions

/-- The registry after some wakeups. -/
def wakeups (nodeId hubNode : Nat) (ids : List Nat) : Glob :=
  ids.foldl Glob.registerNewNode (.boot nodeId hubNode)

/-- The registered ids, repeated ones once for each wakeup. -/
def wakeupEntries (nodeId : Nat) (ids : List Nat) : List Nat :=
  ids.foldl (fun entries id => placed id entries) [nodeId]

/--
A wakeup of a listed id changes nothing, so that the counter is the number of
distinct nodes.
-/
structure IdempotentWakeups
    (nodeId hubNode : Nat)
    (ids : List Nat) : Prop where
  unchanged :
    ∀ earlier id later,
      ids = earlier ++ id :: later →
        id ∈ (wakeups nodeId hubNode earlier).listed →
          (wakeups nodeId hubNode (earlier ++ [id])).SameRegistry
            (wakeups nodeId hubNode earlier)
  counted :
    ∀ earlier later,
      ids = earlier ++ later →
        (wakeups nodeId hubNode earlier).numTotalNodes =
          (nodeId :: earlier).toFinset.card

variable {nodeId hubNode : Nat}

/-- Every wakeup counts. -/
theorem numTotalNodes_wakeups (ids : List Nat) :
    (wakeups nodeId hubNode ids).numTotalNodes = ids.length + 1 := by
  have counts :
      ∀ (glob : Glob),
        (ids.foldl Glob.registerNewNode glob).numTotalNodes =
          ids.length + glob.numTotalNodes := by
    induction ids with
    | nil =>
        intro glob
        exact (Nat.zero_add _).symm
    | cons id rest inductionHypothesis =>
        intro glob
        rw [List.foldl_cons, inductionHypothesis, List.length_cons,
          Nat.add_right_comm, Nat.add_assoc]
        rfl
  exact counts (.boot nodeId hubNode)

/-- A repeated id is listed once more, in its place in the order. -/
theorem tidy_wakeups
    {ids : List Nat}
    (positive : 0 ∉ nodeId :: ids) :
    (wakeups nodeId hubNode ids).Tidy (wakeupEntries nodeId ids) := by
  rw [List.mem_cons, not_or] at positive
  have own : 0 < nodeId := Nat.pos_of_ne_zero (Ne.symm positive.1)
  have start : (Glob.boot nodeId hubNode).Tidy [nodeId] := by
    have tidy := (Glob.lists_boot own hubNode).tidy
    rw [Finset.sort_singleton] at tidy
    exact tidy
  have keeps :
      ∀ (glob : Glob) (entries : List Nat),
        glob.Tidy entries →
          (ids.foldl Glob.registerNewNode glob).Tidy
            (ids.foldl (fun entries id => placed id entries) entries) := by
    replace positive := positive.2
    induction ids with
    | nil =>
        intro glob entries tidy
        exact tidy
    | cons id rest inductionHypothesis =>
        intro glob entries tidy
        rw [List.mem_cons, not_or] at positive
        exact
          inductionHypothesis positive.2 _ _
            (tidy.registerNewNode
              (Nat.pos_of_ne_zero (Ne.symm positive.1)))
  exact keeps _ _ start

/-- The entries are the ids of all wakeups and the node's own. -/
theorem perm_wakeupEntries (nodeId : Nat) (ids : List Nat) :
    (wakeupEntries nodeId ids).Perm (nodeId :: ids) := by
  have keeps :
      ∀ entries : List Nat,
        (ids.foldl (fun entries id => placed id entries) entries).Perm
          (entries ++ ids) := by
    induction ids with
    | nil =>
        intro entries
        rw [List.append_nil]
        exact List.Perm.refl entries
    | cons id rest inductionHypothesis =>
        intro entries
        refine (inductionHypothesis (placed id entries)).trans ?_
        refine ((perm_placed entries).append_right rest).trans ?_
        exact List.perm_middle.symm
  exact keeps [nodeId]

/-- The first entries of a tidy registry are the ids that it holds. -/
theorem Glob.Tidy.listed_eq
    {glob : Glob}
    {entries : List Nat}
    (tidy : glob.Tidy entries) :
    glob.listed = entries := by
  refine List.ext_getElem ?_ fun i first second => ?_
  · rw [listed, List.length_map, List.length_range, tidy.count]
  · simp only [listed, List.getElem_map, List.getElem_range]
    rw [tidy.holds i, List.getD_eq_getElem _ _ second]

/-- Wakeups are idempotent exactly if there is nothing to repeat. -/
theorem idempotentWakeups_iff
    {ids : List Nat}
    (positive : 0 ∉ nodeId :: ids) :
    IdempotentWakeups nodeId hubNode ids ↔ (nodeId :: ids).Nodup := by
  constructor
  · intro idempotent
    have counted := idempotent.counted ids [] (List.append_nil ids).symm
    rw [numTotalNodes_wakeups, List.card_toFinset] at counted
    have whole :=
      (List.dedup_sublist (nodeId :: ids)).eq_of_length counted.symm
    exact List.dedup_eq_self.mp whole
  · intro distinct
    constructor
    · intro earlier id later split listed
      have positiveEarlier : 0 ∉ nodeId :: earlier := by
        rw [split] at positive
        intro zero
        exact positive (List.mem_append_left (id :: later) zero)
      rw [(tidy_wakeups positiveEarlier).listed_eq,
        (perm_wakeupEntries nodeId earlier).mem_iff] at listed
      rw [split, ← List.cons_append] at distinct
      exact
        absurd rfl
          ((List.nodup_append.mp distinct).2.2 id listed id
            List.mem_cons_self)
    · intro earlier later split
      rw [split, ← List.cons_append] at distinct
      rw [numTotalNodes_wakeups,
        List.toFinset_card_of_nodup (List.nodup_append.mp distinct).1]
      rfl

/-- Two nodes that wake up once each. -/
theorem idempotentWakeups_iff_two : IdempotentWakeups 1 0 [5, 3] :=
  (idempotentWakeups_iff (by decide)).mpr (by decide)

/-- A node that wakes up twice is listed twice. -/
theorem not_idempotentWakeups_reboot :
    2 ∈ (wakeups 1 0 [2]).listed ∧
      (wakeups 1 0 [2]).numTotalNodes = 2 ∧
      (wakeups 1 0 [2, 2]).listed = [1, 2, 2] ∧
      (wakeups 1 0 [2, 2]).numTotalNodes = 3 ∧
      ¬ IdempotentWakeups 1 0 [2, 2] := by
  refine ⟨by decide, rfl, by decide, rfl, ?_⟩
  intro idempotent
  exact absurd (idempotent.counted [2, 2] [] rfl) (by decide)

end Repetitions

end DistributedLighting
