import DistributedLighting.DutyCycleFrames

namespace DistributedLighting

/-!
# The registry of known nodes

The globals `nodesList`, `nodeIndexOnGainMatrix` and `numTotalNodes` with the two
functions that change them.  `registerNewNode` searches for the place of an id,
moves the ids behind it down by one and numbers all entries again.  What the
arrays stand for is a finite set of ids, in ascending order.
-/

/-- `MAX_NODE_ID` -/
def maxNodeId : Nat := 20

/-- The globals of one node that know about nodes. -/
structure Glob where
  nodeId : Nat
  nodesList : Nat → Nat
  nodeIndexOnGainMatrix : Nat → Nat
  numTotalNodes : Nat
  hubNode : Nat

/-- The first of the next entries that is free or belongs behind `id`. -/
def findSlot
    (nodesList : Nat → Nat)
    (id : Nat) : Nat → Nat → Option Nat
  | 0, _ => none
  | remaining + 1, i =>
      if nodesList i > id ∨ nodesList i = 0 then
        some i
      else
        findSlot nodesList id remaining (i + 1)

/-- Move the next entries down by one, until a free one has been filled. -/
def moveDown
    (nodesList : Nat → Nat)
    (oldVal : Nat) : Nat → Nat → Nat → Nat
  | 0, _ => nodesList
  | remaining + 1, j =>
      let moved := Function.update nodesList j oldVal
      if nodesList j = 0 then
        moved
      else
        moveDown moved (nodesList j) remaining (j + 1)

/-- `nodeIndexOnGainMatrix[nodesList[i]] = i` for the first entries. -/
def numberEntries
    (nodesList nodeIndexOnGainMatrix : Nat → Nat)
    (count : Nat) : Nat → Nat :=
  (List.range count).foldl
    (fun index i => Function.update index (nodesList i) i)
    nodeIndexOnGainMatrix

namespace Glob

/-- The sorted insertion of `registerNewNode`. -/
def insertSorted
    (glob : Glob)
    (id : Nat) : Nat → Nat :=
  match findSlot glob.nodesList id (glob.numTotalNodes + 1) 0 with
  | none => glob.nodesList
  | some i =>
      Function.update
        (moveDown glob.nodesList (glob.nodesList i)
          (glob.numTotalNodes - i) (i + 1))
        i id

/-- `registerNewNode`, without the list that a hub then sends to the PC. -/
def registerNewNode
    (glob : Glob)
    (id : Nat) : Glob :=
  let nodesList := glob.insertSorted id
  let numTotalNodes := glob.numTotalNodes + 1
  { glob with
    nodesList := nodesList
    numTotalNodes := numTotalNodes
    nodeIndexOnGainMatrix :=
      numberEntries nodesList glob.nodeIndexOnGainMatrix numTotalNodes }

/-- The loop of `resetGlob`. -/
def clearEntries (glob : Glob) : Nat → (Nat → Nat) × (Nat → Nat)
  | 0 => (glob.nodesList, glob.nodeIndexOnGainMatrix)
  | i + 1 =>
      let cleared := glob.clearEntries i
      (Function.update cleared.1 i 0,
        Function.update cleared.2 (cleared.1 i) 0)

/-- `resetGlob`, which registers the node itself again. -/
def resetGlob (glob : Glob) : Glob :=
  let cleared := glob.clearEntries glob.numTotalNodes
  { glob with
    nodesList := cleared.1
    nodeIndexOnGainMatrix := cleared.2
    numTotalNodes := 0 }.registerNewNode glob.nodeId

/-- The globals before `setup()` registers the node. -/
def zeroed (nodeId hubNode : Nat) : Glob where
  nodeId := nodeId
  nodesList := fun _ => 0
  nodeIndexOnGainMatrix := fun _ => 0
  numTotalNodes := 0
  hubNode := hubNode

/-- The registry after `setup()`. -/
def boot (nodeId hubNode : Nat) : Glob :=
  (zeroed nodeId hubNode).registerNewNode nodeId

/-- `checkIfNodeExists` -/
def checkIfNodeExists
    (glob : Glob)
    (destination : Nat) : Bool :=
  (List.range glob.numTotalNodes).any fun i =>
    destination = glob.nodesList i

/-- The ids that `sendListNodesToPC` sends. -/
def listed (glob : Glob) : List Nat :=
  (List.range glob.numTotalNodes).map glob.nodesList

@[simp] theorem nodeId_registerNewNode
    (glob : Glob)
    (id : Nat) :
    (glob.registerNewNode id).nodeId = glob.nodeId :=
  rfl

@[simp] theorem hubNode_registerNewNode
    (glob : Glob)
    (id : Nat) :
    (glob.registerNewNode id).hubNode = glob.hubNode :=
  rfl

@[simp] theorem nodeId_resetGlob (glob : Glob) :
    glob.resetGlob.nodeId = glob.nodeId :=
  rfl

@[simp] theorem hubNode_resetGlob (glob : Glob) :
    glob.resetGlob.hubNode = glob.hubNode :=
  rfl

end Glob

/-- An array of entries followed by free ones. -/
def Holds
    (array : Nat → Nat)
    (entries : List Nat) : Prop :=
  ∀ i, array i = entries.getD i 0

/-- The registry lists exactly the members of a set of ids, in ascending order. -/
structure Glob.Lists
    (glob : Glob)
    (members : Finset Nat) : Prop where
  count : glob.numTotalNodes = members.card
  holds : Holds glob.nodesList (members.sort (· ≤ ·))
  index :
    ∀ i < members.card,
      glob.nodeIndexOnGainMatrix (glob.nodesList i) = i
  unlisted :
    ∀ id, id ∉ members → glob.nodeIndexOnGainMatrix id = 0
  positive : 0 ∉ members

/-- The registry holds positive entries, perhaps repeated, and numbers nothing else. -/
structure Glob.Tidy
    (glob : Glob)
    (entries : List Nat) : Prop where
  count : glob.numTotalNodes = entries.length
  holds : Holds glob.nodesList entries
  unlisted : ∀ id, id ∉ entries → glob.nodeIndexOnGainMatrix id = 0
  positive : 0 ∉ entries

section Insertion

variable {array : Nat → Nat} {id : Nat}

/-- The slot lies behind the entries that are not larger. -/
theorem findSlot_eq
    (id : Nat)
    {entries : List Nat}
    {i : Nat}
    (at_ : ∀ j, array (i + j) = entries.getD j 0)
    (positive : 0 ∉ entries) :
    findSlot array id (entries.length + 1) i =
      some (i + (entries.takeWhile fun entry => entry ≤ id).length) := by
  induction entries generalizing i with
  | nil =>
      have free : array i = 0 := at_ 0
      simp [findSlot, free]
  | cons entry rest inductionHypothesis =>
      rw [List.mem_cons, not_or] at positive
      have here : array i = entry := at_ 0
      rw [List.length_cons, findSlot, here]
      by_cases larger : entry > id
      · rw [if_pos (.inl larger), List.takeWhile_cons_of_neg (by simpa)]
        rfl
      · have notHere : ¬ (entry > id ∨ entry = 0) := by
          rintro (isLarger | free)
          · exact larger isLarger
          · exact positive.1 free.symm
        have next : ∀ j, array (i + 1 + j) = rest.getD j 0 := by
          intro j
          rw [Nat.add_assoc, Nat.add_comm 1 j]
          exact at_ (j + 1)
        rw [if_neg notHere, inductionHypothesis next positive.2,
          List.takeWhile_cons_of_pos (by simpa using larger),
          List.length_cons, Nat.add_assoc, Nat.add_comm 1]

/-- Moving down puts a value in front of the entries. -/
theorem moveDown_eq
    {entries : List Nat}
    {j : Nat}
    (at_ : ∀ t, array (j + t) = entries.getD t 0)
    (positive : 0 ∉ entries)
    (oldVal : Nat) :
    moveDown array oldVal (entries.length + 1) j =
      fun t =>
        if t < j then array t else (oldVal :: entries).getD (t - j) 0 := by
  induction entries generalizing array j oldVal with
  | nil =>
      have free : array j = 0 := at_ 0
      rw [List.length_nil, moveDown, if_pos free]
      funext t
      rcases Nat.lt_trichotomy t j with before | same | behind
      · rw [Function.update_of_ne (Nat.ne_of_lt before), if_pos before]
      · simp [same]
      · obtain ⟨more, isMore⟩ := Nat.exists_eq_add_of_lt behind
        have notBefore : ¬ t < j := Nat.not_lt_of_gt behind
        have value : array t = 0 := by
          rw [isMore, Nat.add_assoc]
          exact at_ (more + 1)
        rw [Function.update_of_ne (Nat.ne_of_gt behind), if_neg notBefore,
          value, isMore, Nat.add_assoc, Nat.add_sub_cancel_left]
        rfl
  | cons entry rest inductionHypothesis =>
      rw [List.mem_cons, not_or] at positive
      have here : array j = entry := at_ 0
      have next :
          ∀ t,
            Function.update array j oldVal (j + 1 + t) = rest.getD t 0 := by
        intro t
        rw [Function.update_of_ne (by omega), Nat.add_assoc, Nat.add_comm 1 t]
        exact at_ (t + 1)
      rw [List.length_cons, moveDown, here, if_neg (Ne.symm positive.1),
        inductionHypothesis next positive.2]
      funext t
      rcases Nat.lt_trichotomy t j with before | same | behind
      · rw [if_pos (Nat.lt_succ_of_lt before), if_pos before,
          Function.update_of_ne (Nat.ne_of_lt before)]
      · simp [same]
      · obtain ⟨more, isMore⟩ := Nat.exists_eq_add_of_lt behind
        have notBefore : ¬ t < j := Nat.not_lt_of_gt behind
        have notHere : ¬ t < j + 1 := by omega
        have offset : t - j = more + 1 ∧ t - (j + 1) = more := by omega
        rw [if_neg notHere, if_neg notBefore, offset.1, offset.2]
        rfl

/-- An id in front of the first larger entry. -/
def placed
    (id : Nat)
    (entries : List Nat) : List Nat :=
  (entries.takeWhile fun entry => entry ≤ id) ++
    id :: entries.dropWhile fun entry => entry ≤ id

/-- A new id is placed as an ordered insertion places it. -/
theorem placed_eq_orderedInsert
    {entries : List Nat}
    (fresh : id ∉ entries) :
    placed id entries = entries.orderedInsert (· ≤ ·) id := by
  induction entries with
  | nil => rfl
  | cons entry rest inductionHypothesis =>
      rw [List.mem_cons, not_or] at fresh
      by_cases behind : id ≤ entry
      · have larger : ¬ entry ≤ id :=
          Nat.not_le_of_gt (Nat.lt_of_le_of_ne behind fresh.1)
        simp [placed, larger, behind]
      · have before : entry ≤ id := Nat.le_of_not_le behind
        rw [List.orderedInsert_cons, if_neg behind,
          ← inductionHypothesis fresh.2]
        simp [placed, before]

/-- Placing an id adds it to the entries. -/
theorem perm_placed (entries : List Nat) :
    (placed id entries).Perm (id :: entries) := by
  refine List.perm_middle.trans (List.Perm.cons id ?_)
  rw [List.takeWhile_append_dropWhile]

/-- Insertion places the id among the entries. -/
theorem Glob.holds_insertSorted
    {glob : Glob}
    {entries : List Nat}
    (holds : Holds glob.nodesList entries)
    (count : glob.numTotalNodes = entries.length)
    (positive : 0 ∉ entries) :
    Holds (glob.insertSorted id) (placed id entries) := by
  have start : ∀ j, glob.nodesList (0 + j) = entries.getD j 0 := by
    intro j
    rw [Nat.zero_add]
    exact holds j
  have slot := findSlot_eq id start positive
  rw [Nat.zero_add, ← count] at slot
  unfold placed
  have whole :
      (entries.takeWhile fun entry => decide (entry ≤ id)) ++
          (entries.dropWhile fun entry => decide (entry ≤ id)) =
        entries :=
    List.takeWhile_append_dropWhile
  generalize entries.takeWhile (fun entry => decide (entry ≤ id)) = before
    at slot whole ⊢
  generalize entries.dropWhile (fun entry => decide (entry ≤ id)) = behind
    at whole ⊢
  subst whole
  rw [List.length_append] at count
  have moved :
      moveDown glob.nodesList (glob.nodesList before.length)
          (glob.numTotalNodes - before.length) (before.length + 1) =
        fun t =>
          if t < before.length + 1 then
            glob.nodesList t
          else
            behind.getD (t - (before.length + 1)) 0 := by
    cases behind with
    | nil =>
        have none : glob.numTotalNodes - before.length = 0 := by
          rw [count, List.length_nil]
          omega
        rw [none]
        funext t
        by_cases early : t < before.length + 1
        · rw [if_pos early]
          rfl
        · have beyond : before.length ≤ t := by omega
          rw [if_neg early]
          show glob.nodesList t = 0
          rw [holds t, List.append_nil, List.getD_eq_default _ _ beyond]
    | cons oldVal rest =>
        have remaining :
            glob.numTotalNodes - before.length = rest.length + 1 := by
          rw [count, List.length_cons]
          omega
        have at_ :
            ∀ t,
              glob.nodesList (before.length + 1 + t) = rest.getD t 0 := by
          intro t
          rw [holds, List.getD_append_right _ _ _ _ (by omega)]
          have offset : before.length + 1 + t - before.length = t + 1 := by
            omega
          rw [offset]
          rfl
        have first : glob.nodesList before.length = oldVal := by
          rw [holds, List.getD_append_right _ _ _ _ (Nat.le_refl _),
            Nat.sub_self]
          rfl
        rw [remaining, first]
        refine moveDown_eq at_ ?_ oldVal
        intro zero
        exact positive (by simp [zero])
  unfold insertSorted
  rw [slot]
  dsimp only
  rw [moved]
  intro i
  rcases Nat.lt_trichotomy i before.length with inside | same | beyond
  · rw [Function.update_of_ne (Nat.ne_of_lt inside),
      if_pos (Nat.lt_succ_of_lt inside), holds,
      List.getD_append _ _ _ _ inside, List.getD_append _ _ _ _ inside]
  · rw [same, Function.update_self,
      List.getD_append_right _ _ _ _ (Nat.le_refl _), Nat.sub_self]
    rfl
  · obtain ⟨more, isMore⟩ := Nat.exists_eq_add_of_lt beyond
    have offset :
        i - before.length = more + 1 ∧ i - (before.length + 1) = more := by
      omega
    rw [Function.update_of_ne (Nat.ne_of_gt beyond), if_neg (by omega),
      List.getD_append_right _ _ _ _ (Nat.le_of_lt beyond), offset.1,
      offset.2]
    rfl

end Insertion

section Numbering

variable {nodesList index : Nat → Nat} {count : Nat}

/-- Ids that are not among the entries keep their number. -/
theorem numberEntries_other
    {id : Nat}
    (absent : ∀ i < count, nodesList i ≠ id) :
    numberEntries nodesList index count id = index id := by
  unfold numberEntries
  induction count with
  | zero => rfl
  | succ count inductionHypothesis =>
      rw [List.range_succ, List.foldl_append, List.foldl_cons, List.foldl_nil,
        Function.update_of_ne (absent count (Nat.lt_succ_self count)).symm]
      exact inductionHypothesis fun i inRange =>
        absent i (Nat.lt_succ_of_lt inRange)

/-- Distinct entries get their own position. -/
theorem numberEntries_entry
    (distinct :
      ∀ i < count, ∀ j < count, nodesList i = nodesList j → i = j)
    {i : Nat}
    (inRange : i < count) :
    numberEntries nodesList index count (nodesList i) = i := by
  unfold numberEntries
  induction count with
  | zero => cases inRange
  | succ count inductionHypothesis =>
      rw [List.range_succ, List.foldl_append, List.foldl_cons, List.foldl_nil]
      rcases Nat.lt_succ_iff_lt_or_eq.mp inRange with earlier | last
      · have different : nodesList i ≠ nodesList count := by
          intro same
          exact
            Nat.ne_of_lt earlier
              (distinct i inRange count (Nat.lt_succ_self count) same)
        rw [Function.update_of_ne different]
        exact
          inductionHypothesis
            (fun i first j second =>
              distinct i (Nat.lt_succ_of_lt first) j
                (Nat.lt_succ_of_lt second))
            earlier
      · rw [last, Function.update_self]

end Numbering

namespace Glob.Lists

variable {glob : Glob} {members : Finset Nat}

/-- The first entries are the members in ascending order. -/
theorem nodesList_eq
    (lists : glob.Lists members)
    {i : Nat}
    (inRange : i < members.card) :
    glob.nodesList i =
      (members.sort (· ≤ ·)).get
        ⟨i, by rw [Finset.length_sort]; exact inRange⟩ := by
  rw [lists.holds i]
  exact
    List.getD_eq_getElem _ _ (by rw [Finset.length_sort]; exact inRange)

/-- The ids that a hub sends to the PC are the members in ascending order. -/
theorem listed_eq (lists : glob.Lists members) :
    glob.listed = members.sort (· ≤ ·) := by
  refine List.ext_getElem ?_ fun i first second => ?_
  · rw [listed, List.length_map, List.length_range, lists.count,
      Finset.length_sort]
  · rw [Finset.length_sort] at second
    simp only [listed, List.getElem_map, List.getElem_range]
    exact lists.nodesList_eq second

/-- A node exists when it is a member. -/
theorem checkIfNodeExists_iff
    (lists : glob.Lists members)
    (destination : Nat) :
    glob.checkIfNodeExists destination = true ↔ destination ∈ members := by
  have sameList :
      glob.checkIfNodeExists destination =
        decide (destination ∈ glob.listed) := by
    simp [checkIfNodeExists, listed, List.any_eq, eq_comm]
  rw [sameList, lists.listed_eq, decide_eq_true_eq, Finset.mem_sort]

/-- Registering a new id adds it to the members. -/
theorem registerNewNode
    (lists : glob.Lists members)
    {id : Nat}
    (fresh : id ∉ members)
    (positive : 0 < id) :
    (glob.registerNewNode id).Lists (insert id members) := by
  have sorted :
      (insert id members).sort (· ≤ ·) =
        (members.sort (· ≤ ·)).orderedInsert (· ≤ ·) id := by
    have perm := List.perm_orderedInsert (· ≤ ·) id (members.sort (· ≤ ·))
    have nodup :
        ((members.sort (· ≤ ·)).orderedInsert (· ≤ ·) id).Nodup := by
      refine perm.nodup_iff.mpr (List.nodup_cons.mpr ⟨?_, ?_⟩)
      · rw [Finset.mem_sort]
        exact fresh
      · exact Finset.sort_nodup members _
    have same :
        ((members.sort (· ≤ ·)).orderedInsert (· ≤ ·) id).toFinset =
          insert id members := by
      rw [List.toFinset_eq_of_perm _ _ perm, List.toFinset_cons,
        Finset.sort_toFinset]
    have ordered :=
      (Finset.pairwise_sort members (· ≤ ·)).orderedInsert id
    rw [← same]
    exact (List.toFinset_sort _ nodup).mpr ordered
  have holds :
      Holds (glob.registerNewNode id).nodesList
        ((insert id members).sort (· ≤ ·)) := by
    have freshEntry : id ∉ members.sort (· ≤ ·) := by
      rw [Finset.mem_sort]
      exact fresh
    rw [sorted, ← placed_eq_orderedInsert freshEntry]
    refine holds_insertSorted lists.holds ?_ ?_
    · rw [lists.count, Finset.length_sort]
    · rw [Finset.mem_sort]
      exact lists.positive
  have size : (insert id members).card = members.card + 1 :=
    Finset.card_insert_of_notMem fresh
  have entry :
      ∀ i, i < members.card + 1 →
        (glob.registerNewNode id).nodesList i ∈ insert id members := by
    intro i inRange
    rw [holds i, List.getD_eq_getElem _ _ (by
      rw [Finset.length_sort, size]
      exact inRange), ← Finset.mem_sort (· ≤ ·)]
    exact List.getElem_mem _
  have distinct :
      ∀ i < members.card + 1, ∀ j < members.card + 1,
        (glob.registerNewNode id).nodesList i =
            (glob.registerNewNode id).nodesList j →
          i = j := by
    intro i first j second same
    rw [← size, ← Finset.length_sort (· ≤ ·)] at first second
    rw [holds i, holds j, List.getD_eq_getElem _ _ first,
      List.getD_eq_getElem _ _ second] at same
    exact
      (Finset.sort_nodup (insert id members) (· ≤ ·)).getElem_inj_iff.mp same
  refine
    { count := by rw [size, ← lists.count]; rfl
      holds := holds
      index := ?_
      unlisted := ?_
      positive := ?_ }
  · intro i inRange
    rw [size] at inRange
    show
      numberEntries (glob.registerNewNode id).nodesList
          glob.nodeIndexOnGainMatrix (glob.numTotalNodes + 1) _ =
        i
    rw [lists.count]
    exact numberEntries_entry distinct inRange
  · intro other absent
    show
      numberEntries (glob.registerNewNode id).nodesList
          glob.nodeIndexOnGainMatrix (glob.numTotalNodes + 1) other =
        0
    have notEntry :
        ∀ i < members.card + 1,
          (glob.registerNewNode id).nodesList i ≠ other := by
      intro i inRange same
      rw [← same] at absent
      exact absent (entry i inRange)
    rw [lists.count, numberEntries_other notEntry]
    exact
      lists.unlisted other fun present =>
        absent (Finset.mem_insert_of_mem present)
  · rw [Finset.mem_insert, not_or]
    exact ⟨Nat.ne_of_lt positive, lists.positive⟩

end Glob.Lists

namespace Glob

/-- Before `setup()` nothing is registered. -/
theorem lists_zeroed (nodeId hubNode : Nat) :
    (zeroed nodeId hubNode).Lists ∅ where
  count := rfl
  holds := by
    intro i
    rw [Finset.sort_empty]
    rfl
  index := by
    intro i inRange
    cases inRange
  unlisted := fun _ _ => rfl
  positive := Finset.notMem_empty 0

/-- After `setup()` a node knows itself. -/
theorem lists_boot
    {nodeId : Nat}
    (positive : 0 < nodeId)
    (hubNode : Nat) :
    (boot nodeId hubNode).Lists {nodeId} :=
  (lists_zeroed nodeId hubNode).registerNewNode
    (Finset.notMem_empty nodeId) positive

/-- What the loop of `resetGlob` has cleared, after some of the entries. -/
theorem clearEntries_eq
    (glob : Glob)
    (count : Nat) :
    (∀ i,
        (glob.clearEntries count).1 i =
          if i < count then 0 else glob.nodesList i) ∧
      ∀ id,
        (glob.clearEntries count).2 id =
          if ∃ i < count, glob.nodesList i = id then
            0
          else
            glob.nodeIndexOnGainMatrix id := by
  induction count with
  | zero => exact ⟨fun i => rfl, fun id => by simp [clearEntries]⟩
  | succ count inductionHypothesis =>
      obtain ⟨list, index⟩ := inductionHypothesis
      have here : (glob.clearEntries count).1 count = glob.nodesList count := by
        rw [list, if_neg (Nat.lt_irrefl count)]
      constructor
      · intro i
        rw [clearEntries]
        dsimp only
        rcases Nat.lt_trichotomy i count with before | same | behind
        · rw [Function.update_of_ne (Nat.ne_of_lt before), list,
            if_pos before, if_pos (Nat.lt_succ_of_lt before)]
        · rw [same, Function.update_self, if_pos (Nat.lt_succ_self count)]
        · rw [Function.update_of_ne (Nat.ne_of_gt behind), list,
            if_neg (Nat.not_lt_of_gt behind), if_neg (by omega)]
      · intro id
        rw [clearEntries]
        dsimp only
        rw [here]
        by_cases same : id = glob.nodesList count
        · rw [same, Function.update_self,
            if_pos ⟨count, Nat.lt_succ_self count, rfl⟩]
        · rw [Function.update_of_ne same, index]
          refine if_congr ?_ rfl rfl
          constructor
          · rintro ⟨i, inRange, isId⟩
            exact ⟨i, Nat.lt_succ_of_lt inRange, isId⟩
          · rintro ⟨i, inRange, isId⟩
            rcases Nat.lt_succ_iff_lt_or_eq.mp inRange with before | last
            · exact ⟨i, before, isId⟩
            · exact absurd (last ▸ isId.symm) same

/-- Registering any id keeps the registry tidy, also one that is listed already. -/
theorem Tidy.registerNewNode
    {glob : Glob}
    {entries : List Nat}
    (tidy : glob.Tidy entries)
    {id : Nat}
    (positive : 0 < id) :
    (glob.registerNewNode id).Tidy (placed id entries) := by
  have perm : (placed id entries).Perm (id :: entries) := perm_placed entries
  have holds : Holds (glob.insertSorted id) (placed id entries) :=
    holds_insertSorted tidy.holds tidy.count tidy.positive
  have count : (placed id entries).length = glob.numTotalNodes + 1 := by
    rw [perm.length_eq, List.length_cons, tidy.count]
  refine
    { count := count.symm
      holds := holds
      unlisted := ?_
      positive := ?_ }
  · intro other absent
    have notEntry :
        ∀ i < glob.numTotalNodes + 1, glob.insertSorted id i ≠ other := by
      intro i inRange same
      rw [← count] at inRange
      rw [holds i, List.getD_eq_getElem _ _ inRange] at same
      exact absent (same ▸ List.getElem_mem inRange)
    show numberEntries _ glob.nodeIndexOnGainMatrix _ other = 0
    rw [numberEntries_other notEntry]
    apply tidy.unlisted
    intro present
    exact absent (perm.mem_iff.mpr (List.mem_cons_of_mem id present))
  · rw [perm.mem_iff, List.mem_cons, not_or]
    exact ⟨Nat.ne_of_lt positive, tidy.positive⟩

/-- A well-formed registry is tidy. -/
theorem Lists.tidy
    {glob : Glob}
    {members : Finset Nat}
    (lists : glob.Lists members) :
    glob.Tidy (members.sort (· ≤ ·)) where
  count := by rw [lists.count, Finset.length_sort]
  holds := lists.holds
  unlisted := fun id absent =>
    lists.unlisted id fun present => absent ((Finset.mem_sort _).mpr present)
  positive := fun present => lists.positive ((Finset.mem_sort _).mp present)

/-- The loop of `resetGlob` clears a tidy registry. -/
theorem Tidy.clearEntries_eq
    {glob : Glob}
    {entries : List Nat}
    (tidy : glob.Tidy entries) :
    (glob.clearEntries glob.numTotalNodes).1 = (fun _ => 0) ∧
      (glob.clearEntries glob.numTotalNodes).2 = fun _ => 0 := by
  obtain ⟨list, index⟩ := glob.clearEntries_eq glob.numTotalNodes
  constructor
  · funext i
    rw [list]
    split
    · rfl
    · rename_i beyond
      rw [tidy.holds i]
      exact
        List.getD_eq_default _ _ (tidy.count ▸ Nat.not_lt.mp beyond)
  · funext id
    rw [index]
    split
    · rfl
    · rename_i absent
      apply tidy.unlisted
      intro present
      obtain ⟨i, inRange, isId⟩ := List.mem_iff_getElem.mp present
      refine absent ⟨i, tidy.count ▸ inRange, ?_⟩
      rw [tidy.holds i, List.getD_eq_getElem _ _ inRange, isId]

/-- A reset of a tidy registry is the registry after `setup()`. -/
theorem Tidy.resetGlob_eq_boot
    {glob : Glob}
    {entries : List Nat}
    (tidy : glob.Tidy entries) :
    glob.resetGlob = boot glob.nodeId glob.hubNode := by
  obtain ⟨noEntry, noIndex⟩ := tidy.clearEntries_eq
  unfold resetGlob boot zeroed
  dsimp only
  rw [noEntry, noIndex]

/-- After a reset a node knows itself only. -/
theorem Lists.resetGlob
    {glob : Glob}
    {members : Finset Nat}
    (lists : glob.Lists members)
    (positive : 0 < glob.nodeId) :
    glob.resetGlob.Lists {glob.nodeId} := by
  rw [lists.tidy.resetGlob_eq_boot]
  exact lists_boot positive glob.hubNode

end Glob

end DistributedLighting
