import DistributedLighting.DutyCycleFrames
import DistributedLighting.OrderedMap

namespace DistributedLighting

/-!
# The last-minute buffer of the PC

Samples are kept by node and by the second in which they arrived.  Old seconds
are erased when a sample arrives in a second other than the one before it, and
never when the buffer is printed.
-/

/-- `FrequentDataValues` -/
structure FrequentDataValues (K : Type) where
  pwm : Byte
  iluminance : K
  deriving DecidableEq

/-- The samples of one node by their second. -/
abbrev NodeBuffer (K : Type) := OrderedMap Int (List (FrequentDataValues K))

/-- The members of `LastMinuteBuffer`. -/
structure LastMinuteBuffer (K : Type) where
  lastTimeAddedEntry : Int
  lastMinuteBuffer : Byte → Option (NodeBuffer K)

/-- What `printLastMinuteBuffer` writes for a sample, before the comma. -/
inductive PrintedSample (K : Type) where
  | percent (value : Nat)
  | iluminance (value : K)
  deriving DecidableEq

/-- A call of `addToLastMinuteBuffer` while `time(0)` is `time`. -/
structure Arrival (K : Type) where
  nodeId : Byte
  time : Int
  values : FrequentDataValues K

namespace LastMinuteBuffer

variable {K : Type}

/-- The buffer as constructed: `lastTimeAddedEntry` is not initialised. -/
def constructed (lastTimeAddedEntry : Int) : LastMinuteBuffer K where
  lastTimeAddedEntry := lastTimeAddedEntry
  lastMinuteBuffer _ := none

/-- `LastMinuteBuffer::removeOldLastMinuteBufferEntries` -/
def removeOldLastMinuteBufferEntries
    (buffer : LastMinuteBuffer K)
    (timeNow : Int) : LastMinuteBuffer K :=
  let timeThreshold := timeNow - 60
  { buffer with
    lastMinuteBuffer := fun nodeId =>
      (buffer.lastMinuteBuffer nodeId).map fun nodeBuffer =>
        nodeBuffer.eraseBelow timeThreshold }

/-- `lastMinuteBuffer[nodeId]`, which inserts an empty map for a new node. -/
def nodeBuffer
    (buffer : LastMinuteBuffer K)
    (nodeId : Byte) : NodeBuffer K :=
  (buffer.lastMinuteBuffer nodeId).getD .empty

/-- `lastMinuteBuffer[nodeId][timeNow].push_back(frequentDataValues)` -/
def pushBack
    (buffer : LastMinuteBuffer K)
    (timeNow : Int)
    (nodeId : Byte)
    (frequentDataValues : FrequentDataValues K) : LastMinuteBuffer K :=
  { buffer with
    lastMinuteBuffer := fun other =>
      if other = nodeId then
        some ((buffer.nodeBuffer nodeId).pushBack timeNow frequentDataValues)
      else
        buffer.lastMinuteBuffer other }

/-- The purge at the first arrival of a second, and `lastTimeAddedEntry = timeNow`. -/
def enterSecond
    (buffer : LastMinuteBuffer K)
    (timeNow : Int) : LastMinuteBuffer K :=
  let purged :=
    if timeNow ≠ buffer.lastTimeAddedEntry then
      buffer.removeOldLastMinuteBufferEntries timeNow
    else
      buffer
  { purged with lastTimeAddedEntry := timeNow }

/-- `LastMinuteBuffer::addToLastMinuteBuffer` -/
def addToLastMinuteBuffer
    (buffer : LastMinuteBuffer K)
    (timeNow : Int)
    (nodeId : Byte)
    (frequentDataValues : FrequentDataValues K) : LastMinuteBuffer K :=
  (buffer.enterSecond timeNow).pushBack timeNow nodeId frequentDataValues

/-- What one sample is printed as. -/
def printSample
    (pwm : Bool)
    (entry : FrequentDataValues K) : PrintedSample K :=
  if pwm then
    .percent (entry.pwm.toNat * 100 / 255)
  else
    .iluminance entry.iluminance

/-- The loops of `printLastMinuteBuffer`, with the second of each sample. -/
def printedSamples
    (buffer : LastMinuteBuffer K)
    (nodeId : Byte)
    (pwm : Bool) : List (Int × PrintedSample K) :=
  match buffer.lastMinuteBuffer nodeId with
  | none => []
  | some nodeBuffer =>
      nodeBuffer.toList.flatMap fun bufForATime =>
        bufForATime.2.map fun entry => (bufForATime.1, printSample pwm entry)

/-- `LastMinuteBuffer::printLastMinuteBuffer` -/
def printLastMinuteBuffer
    (buffer : LastMinuteBuffer K)
    (nodeId : Byte)
    (pwm : Bool) : List (PrintedSample K) :=
  (buffer.printedSamples nodeId pwm).map Prod.snd

/-- A sequence of calls of `addToLastMinuteBuffer`. -/
def addAll
    (arrivals : List (Arrival K))
    (buffer : LastMinuteBuffer K) : LastMinuteBuffer K :=
  arrivals.foldl
    (fun reached arrival =>
      reached.addToLastMinuteBuffer arrival.time arrival.nodeId arrival.values)
    buffer

end LastMinuteBuffer

/-- What a node has sent and is not older than a minute at `now`, in the order of arrival. -/
def lastMinute
    {K : Type}
    (arrivals : List (Arrival K))
    (now : Int)
    (nodeId : Byte) : List (Arrival K) :=
  arrivals.filter fun arrival =>
    arrival.nodeId = nodeId ∧ now - 60 ≤ arrival.time

/-- An arrival as the buffer holds it. -/
def Arrival.entry
    {K : Type}
    (arrival : Arrival K) : Int × FrequentDataValues K :=
  (arrival.time, arrival.values)

/-- The time of the last arrival, or the initial value of `lastTimeAddedEntry`. -/
def lastTime
    {K : Type}
    (uninitialised : Int)
    (arrivals : List (Arrival K)) : Int :=
  (arrivals.getLast?.map Arrival.time).getD uninitialised

/-- The clock does not go back. -/
def Nondecreasing
    {K : Type}
    (arrivals : List (Arrival K)) : Prop :=
  arrivals.Pairwise fun earlier later => earlier.time ≤ later.time

instance {K : Type} (arrivals : List (Arrival K)) :
    Decidable (Nondecreasing arrivals) :=
  inferInstanceAs (Decidable (arrivals.Pairwise _))

section Contents

variable {K : Type}

/-- After these arrivals, the buffer holds the last minute before `now` for every node. -/
structure HoldsMinute
    (arrivals : List (Arrival K))
    (now : Int)
    (buffer : LastMinuteBuffer K) : Prop where
  last : buffer.lastTimeAddedEntry = now
  inhabited : ∀ nodeId, (buffer.nodeBuffer nodeId).Inhabited
  entries :
    ∀ nodeId,
      (buffer.nodeBuffer nodeId).entries =
        (lastMinute arrivals now nodeId).map Arrival.entry

namespace LastMinuteBuffer

@[simp] theorem nodeBuffer_removeOldLastMinuteBufferEntries
    (buffer : LastMinuteBuffer K)
    (timeNow : Int)
    (nodeId : Byte) :
    (buffer.removeOldLastMinuteBufferEntries timeNow).nodeBuffer nodeId =
      (buffer.nodeBuffer nodeId).eraseBelow (timeNow - 60) := by
  simp only [nodeBuffer, removeOldLastMinuteBufferEntries]
  cases buffer.lastMinuteBuffer nodeId with
  | none => rfl
  | some nodeBuffer => rfl

@[simp] theorem nodeBuffer_pushBack
    (buffer : LastMinuteBuffer K)
    (timeNow : Int)
    (nodeId other : Byte)
    (frequentDataValues : FrequentDataValues K) :
    (buffer.pushBack timeNow nodeId frequentDataValues).nodeBuffer other =
      if other = nodeId then
        (buffer.nodeBuffer nodeId).pushBack timeNow frequentDataValues
      else
        buffer.nodeBuffer other := by
  by_cases same : other = nodeId
  · simp [pushBack, nodeBuffer, same]
  · simp [pushBack, nodeBuffer, same]

end LastMinuteBuffer

/-- An arrival counts for its own node, at its own time. -/
theorem lastMinute_append_self
    (arrivals : List (Arrival K))
    (arrival : Arrival K)
    (nodeId : Byte) :
    lastMinute (arrivals ++ [arrival]) arrival.time nodeId =
      lastMinute arrivals arrival.time nodeId ++
        if nodeId = arrival.nodeId then [arrival] else [] := by
  have recent : arrival.time - 60 ≤ arrival.time := by omega
  rw [lastMinute, List.filter_append, ← lastMinute, List.filter_singleton]
  by_cases same : nodeId = arrival.nodeId
  · simp [same, recent]
  · simp [same, Ne.symm same]

/-- A later minute is the later part of an earlier one. -/
theorem filter_lastMinute
    (arrivals : List (Arrival K))
    {before now : Int}
    (later : arrivals = [] ∨ before ≤ now)
    (nodeId : Byte) :
    ((lastMinute arrivals before nodeId).map Arrival.entry).filter
        (fun entry => now - 60 ≤ entry.1) =
      (lastMinute arrivals now nodeId).map Arrival.entry := by
  rcases later with none | later
  · rw [none]
    rfl
  · rw [List.filter_map, lastMinute, List.filter_filter]
    congr 1
    apply List.filter_congr
    intro arrival _
    have weaker : now - 60 ≤ arrival.time → before - 60 ≤ arrival.time := by
      omega
    simp only [Function.comp_apply, Arrival.entry]
    by_cases recent : now - 60 ≤ arrival.time
    · simp [recent, weaker recent]
    · simp [recent]

namespace HoldsMinute

variable {arrivals : List (Arrival K)} {now : Int} {buffer : LastMinuteBuffer K}

/-- After the purge, if any, the buffer holds the minute before the new second. -/
theorem enterSecond
    (holds : HoldsMinute arrivals now buffer)
    {timeNow : Int}
    (later : arrivals = [] ∨ now ≤ timeNow) :
    HoldsMinute arrivals timeNow (buffer.enterSecond timeNow) := by
  by_cases entered : timeNow = buffer.lastTimeAddedEntry
  · have same : timeNow = now := entered.trans holds.last
    have unchanged : buffer.enterSecond timeNow = buffer := by
      rw [LastMinuteBuffer.enterSecond, if_neg (not_not.mpr entered), entered]
    rwa [unchanged, same]
  · have erased :
        ∀ nodeId,
          (buffer.enterSecond timeNow).nodeBuffer nodeId =
            (buffer.nodeBuffer nodeId).eraseBelow (timeNow - 60) := by
      intro nodeId
      rw [LastMinuteBuffer.enterSecond, if_pos entered,
        ← LastMinuteBuffer.nodeBuffer_removeOldLastMinuteBufferEntries]
      rfl
    constructor
    · rfl
    · intro nodeId
      rw [erased]
      exact (holds.inhabited nodeId).eraseBelow (timeNow - 60)
    · intro nodeId
      rw [erased, OrderedMap.entries_eraseBelow, holds.entries nodeId,
        filter_lastMinute arrivals later nodeId]

/-- One arrival extends what the buffer holds. -/
theorem addToLastMinuteBuffer
    (holds : HoldsMinute arrivals now buffer)
    {arrival : Arrival K}
    (later : arrivals = [] ∨ now ≤ arrival.time)
    (earlier : ∀ before ∈ arrivals, before.time ≤ arrival.time) :
    HoldsMinute (arrivals ++ [arrival]) arrival.time
      (buffer.addToLastMinuteBuffer arrival.time arrival.nodeId
        arrival.values) := by
  have purged := holds.enterSecond later
  constructor
  · rfl
  · intro nodeId
    rw [LastMinuteBuffer.addToLastMinuteBuffer,
      LastMinuteBuffer.nodeBuffer_pushBack]
    split
    · exact (purged.inhabited _).pushBack _ _
    · exact purged.inhabited nodeId
  · intro nodeId
    rw [LastMinuteBuffer.addToLastMinuteBuffer,
      LastMinuteBuffer.nodeBuffer_pushBack, lastMinute_append_self,
      List.map_append]
    split
    · next same =>
        have latest :
            ∀ binding ∈
                ((buffer.enterSecond arrival.time).nodeBuffer
                  arrival.nodeId).toList,
              binding.1 ≤ arrival.time := by
          intro binding bound
          obtain ⟨sample, held⟩ :=
            (purged.inhabited arrival.nodeId).exists_entry bound
          rw [purged.entries] at held
          obtain ⟨before, kept, isEntry⟩ := List.mem_map.mp held
          have isTime : before.time = binding.1 := congrArg Prod.fst isEntry
          exact isTime ▸ earlier before (List.mem_of_mem_filter kept)
        rw [OrderedMap.entries_pushBack latest, purged.entries, same]
        rfl
    · rw [purged.entries nodeId, List.map_nil, List.append_nil]

end HoldsMinute

@[simp] theorem lastTime_append_self
    (uninitialised : Int)
    (arrivals : List (Arrival K))
    (last : Arrival K) :
    lastTime uninitialised (arrivals ++ [last]) = last.time := by
  simp [lastTime]

/-- What the buffer holds after any number of arrivals. -/
theorem holdsMinute_addAll
    (arrivals : List (Arrival K))
    (nondecreasing : Nondecreasing arrivals)
    (uninitialised : Int) :
    HoldsMinute arrivals (lastTime uninitialised arrivals)
      ((LastMinuteBuffer.constructed uninitialised).addAll arrivals) := by
  induction arrivals using List.reverseRecOn with
  | nil =>
      exact
        { last := rfl
          inhabited := fun _ _ bound => absurd bound List.not_mem_nil
          entries := fun _ => rfl }
  | append_singleton earlier last inductionHypothesis =>
      obtain ⟨sorted, -, before⟩ := List.pairwise_append.mp nondecreasing
      have notLater :
          ∀ arrival ∈ earlier, arrival.time ≤ last.time :=
        fun arrival listed =>
          before arrival listed last (List.mem_singleton_self last)
      have later :
          earlier = [] ∨ lastTime uninitialised earlier ≤ last.time := by
        rcases List.eq_nil_or_concat' earlier with none | ⟨rest, latest, isLast⟩
        · exact .inl none
        · subst isLast
          rw [lastTime_append_self]
          exact .inr (notLater latest (by simp))
      have added :=
        (inductionHypothesis sorted).addToLastMinuteBuffer later notLater
      simpa [LastMinuteBuffer.addAll] using added

/--
The buffer of a node: seconds ascend, each has samples, and these are the last
minute of the node in the order of arrival.
-/
structure KeepsLastMinute
    (arrivals : List (Arrival K))
    (now : Int)
    (nodeId : Byte)
    (nodeBuffer : NodeBuffer K) : Prop where
  ascending :
    nodeBuffer.toList.Pairwise fun first second => first.1 < second.1
  entries :
    nodeBuffer.entries = (lastMinute arrivals now nodeId).map Arrival.entry
  bySecond :
    ∀ binding ∈ nodeBuffer.toList,
      binding.2 ≠ [] ∧
        binding.2 =
          ((lastMinute arrivals now nodeId).filter
            fun arrival => arrival.time = binding.1).map Arrival.values

/-- What holds of the buffer as a whole, second by second. -/
theorem HoldsMinute.keepsLastMinute
    {arrivals : List (Arrival K)}
    {now : Int}
    {buffer : LastMinuteBuffer K}
    (holds : HoldsMinute arrivals now buffer)
    (nodeId : Byte) :
    KeepsLastMinute arrivals now nodeId (buffer.nodeBuffer nodeId) where
  ascending := (buffer.nodeBuffer nodeId).ascending
  entries := holds.entries nodeId
  bySecond binding bound := by
    refine ⟨holds.inhabited nodeId binding bound, ?_⟩
    have bySecond := OrderedMap.filter_entries bound
    rw [holds.entries nodeId, List.filter_map, List.map_map] at bySecond
    exact bySecond.symm

/--
After each arrival, for every node, the buffer holds exactly the samples of the
last minute.
-/
theorem addToLastMinuteBuffer_keepsLastMinute
    (arrivals : List (Arrival K))
    (last : Arrival K)
    (nondecreasing : Nondecreasing (arrivals ++ [last]))
    (uninitialised : Int)
    (nodeId : Byte) :
    KeepsLastMinute (arrivals ++ [last]) last.time nodeId
      (((LastMinuteBuffer.constructed uninitialised).addAll
        (arrivals ++ [last])).nodeBuffer nodeId) := by
  have holds := holdsMinute_addAll (arrivals ++ [last]) nondecreasing uninitialised
  rw [lastTime_append_self] at holds
  exact holds.keepsLastMinute nodeId

end Contents

/-- An arrival of a node. -/
def sampleAt
    (nodeId : Byte)
    (time : Int) : Arrival Int where
  nodeId := nodeId
  time := time
  values := { pwm := 128, iluminance := time }

/-- One arrival of another node erases a whole burst that has become too old. -/
theorem addToLastMinuteBuffer_keepsLastMinute_burst :
    let arrivals := [sampleAt 1 0, sampleAt 1 0, sampleAt 1 40]
    Nondecreasing (arrivals ++ [sampleAt 2 61]) ∧
      (((LastMinuteBuffer.constructed 0).addAll
        (arrivals ++ [sampleAt 2 61])).nodeBuffer 1).entries =
        [(40, { pwm := 128, iluminance := 40 })] := by
  intro arrivals
  have nondecreasing : Nondecreasing (arrivals ++ [sampleAt 2 61]) := by
    decide
  have kept :=
    addToLastMinuteBuffer_keepsLastMinute arrivals (sampleAt 2 61)
      nondecreasing 0 1
  exact ⟨nondecreasing, kept.entries.trans (by decide +kernel)⟩

section Queries

variable {K : Type}

/-- A query at `now` prints nothing that is older than a minute. -/
def PrintsFresh
    (buffer : LastMinuteBuffer K)
    (now : Int)
    (nodeId : Byte)
    (pwm : Bool) : Prop :=
  ∀ printed ∈ buffer.printedSamples nodeId pwm, now - 60 ≤ printed.1

/--
What was within a minute of the last arrival of any node is still within a minute
of the query.
-/
def StillFresh
    (arrivals : List (Arrival K))
    (now : Int)
    (nodeId : Byte) : Prop :=
  ∀ last ∈ arrivals.getLast?,
    ∀ arrival ∈ arrivals,
      arrival.nodeId = nodeId →
      last.time - 60 ≤ arrival.time →
      now - 60 ≤ arrival.time

/-- Printing goes through the samples of the node, oldest second first. -/
theorem printedSamples_eq
    (buffer : LastMinuteBuffer K)
    (nodeId : Byte)
    (pwm : Bool) :
    buffer.printedSamples nodeId pwm =
      (buffer.nodeBuffer nodeId).entries.map
        fun entry => (entry.1, LastMinuteBuffer.printSample pwm entry.2) := by
  unfold LastMinuteBuffer.printedSamples LastMinuteBuffer.nodeBuffer
  cases buffer.lastMinuteBuffer nodeId with
  | none =>
      rfl
  | some nodeBuffer =>
      simp [OrderedMap.entries, OrderedMap.entriesOf, List.map_flatMap,
        Function.comp_def]

/-- The seconds that are printed are those of the last minute before the last arrival. -/
theorem forall_printedSamples_iff
    {arrivals : List (Arrival K)}
    (nondecreasing : Nondecreasing arrivals)
    (uninitialised : Int)
    (nodeId : Byte)
    (pwm : Bool)
    (holds : Int → Prop) :
    (∀ printed ∈
        ((LastMinuteBuffer.constructed uninitialised).addAll
          arrivals).printedSamples nodeId pwm,
        holds printed.1) ↔
      ∀ arrival ∈ lastMinute arrivals (lastTime uninitialised arrivals) nodeId,
        holds arrival.time := by
  have kept :=
    (holdsMinute_addAll arrivals nondecreasing uninitialised).entries nodeId
  rw [printedSamples_eq, kept]
  simp [Arrival.entry]

/-- A query is fresh exactly if the arrivals before it have left nothing stale. -/
theorem printsFresh_iff_stillFresh
    (arrivals : List (Arrival K))
    (nondecreasing : Nondecreasing arrivals)
    (uninitialised now : Int)
    (nodeId : Byte)
    (pwm : Bool) :
    PrintsFresh ((LastMinuteBuffer.constructed uninitialised).addAll arrivals)
        now nodeId pwm ↔
      StillFresh arrivals now nodeId := by
  rw [PrintsFresh,
    forall_printedSamples_iff nondecreasing uninitialised nodeId pwm
      (fun time => now - 60 ≤ time)]
  rcases List.eq_nil_or_concat' arrivals with none | ⟨earlier, last, isLast⟩
  · subst none
    simp [StillFresh, lastMinute]
  · subst isLast
    simp only [StillFresh, lastMinute, lastTime_append_self, List.mem_filter,
      decide_eq_true_eq, List.getLast?_concat, Option.mem_some_iff, and_imp,
      forall_eq']

end Queries

/-- One sample, and a query 61 seconds later. -/
theorem not_printsFresh_silence :
    ¬ ∀ (arrivals : List (Arrival Int)) (uninitialised now : Int)
        (nodeId : Byte) (pwm : Bool),
        Nondecreasing arrivals →
        (∀ arrival ∈ arrivals, arrival.time ≤ now) →
        PrintsFresh
          ((LastMinuteBuffer.constructed uninitialised).addAll arrivals)
          now nodeId pwm := by
  intro fresh
  have printed :
      (0, PrintedSample.percent 50) ∈
        ((LastMinuteBuffer.constructed 0).addAll
          [sampleAt 1 0]).printedSamples 1 true := by
    decide +kernel
  have stale :=
    fresh [sampleAt 1 0] 0 61 1 true (by decide) (by decide) _ printed
  exact absurd stale (by decide)

/-- Two nodes that go on sending. -/
theorem printsFresh_iff_stillFresh_sending :
    PrintsFresh
      ((LastMinuteBuffer.constructed 0).addAll
        [sampleAt 1 0, sampleAt 2 30, sampleAt 1 70])
      75 1 false := by
  have nondecreasing :
      Nondecreasing [sampleAt 1 0, sampleAt 2 30, sampleAt 1 70] := by
    decide
  have stillFresh :
      StillFresh [sampleAt 1 0, sampleAt 2 30, sampleAt 1 70] 75 1 := by
    simp [StillFresh, sampleAt]
  exact
    (printsFresh_iff_stillFresh _ nondecreasing 0 75 1 false).mpr stillFresh

end DistributedLighting
