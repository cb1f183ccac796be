import DistributedLighting.NodeMain

namespace DistributedLighting

/-!
# What a calibration has stored

A gain row that has been measured and one that is still zero look the same to the
consensus.  A record next to the node tells them apart: it has the gains stored
since the last reset, and whether a node has been registered since the calibration
has ended.  No transition of the node reads it.
-/

/-- A gain, and where `setGain` puts it. -/
structure GainEntry (K : Type) where
  row : Nat
  column : Nat
  gain : K

/-- The record of a node. -/
structure GainRecord (K : Type) where
  stored : Nat → Nat → Option K
  joined : Bool

/-- The calibration has stored a gain of the node's own row. -/
def CalibrationFSM.HasMeasured {K : Type} (fsm : CalibrationFSM K) : Prop :=
  fsm.state ≠ .calibInit ∧ (0 < fsm.nodeLedOn ∨ fsm.luxReadNum = 2)

instance {K : Type} (fsm : CalibrationFSM K) : Decidable fsm.HasMeasured :=
  inferInstanceAs (Decidable (_ ∧ _))

namespace MainNode

variable {K : Type}

/-- The node's own row in the gain matrix. -/
def ownRow (node : MainNode K) : Nat :=
  node.glob.indexOf node.glob.nodeId

/-- Registering a node moves the node's own row, of which a part has been measured. -/
def MovesRow (node : MainNode K) (sender : Nat) : Prop :=
  node.mainFSM.state = .calibrate ∧
    node.calibrationFSM.HasMeasured ∧
    (node.glob.registerNewNode sender).indexOf node.glob.nodeId ≠ node.ownRow

instance (node : MainNode K) (sender : Nat) : Decidable (node.MovesRow sender) :=
  inferInstanceAs (Decidable (_ ∧ _))

end MainNode

namespace GainEntry

variable {K : Type}

/-- The gain that `received` stores. -/
def ofMessage
    [Field K] [LinearOrder K]
    (fsm : CalibrationFSM K)
    (sender : Nat) : CalibMessage K → Option (GainEntry K)
  | .calibReady gainValue =>
      if gainValue ≥ 0 ∧ fsm.nodeLedOn ≠ -1 then
        some ⟨sender, toUint8 fsm.nodeLedOn, gainValue⟩
      else
        none
  | .calibLedOn => none

/-- The gain matrix after a gain has been stored, if one has. -/
def storeIn
    (matrix : Nat → Nat → K) : Option (GainEntry K) → Nat → Nat → K
  | none => matrix
  | some entry =>
      Function.update matrix entry.row
        (Function.update (matrix entry.row) entry.column entry.gain)

variable [Field K]

/-- The gain that `CalibrationFSM::loop` stores, at the second reading of an LED. -/
def ofLoop
    (voltageToLux : K → K)
    (glob : Glob)
    (input : LoopInput K)
    (fsm : CalibrationFSM K) : Option (GainEntry K) :=
  if fsm.state = .waitTransient ∧ fsm.Elapsed input.calibNow ∧
      fsm.luxReadNum + 1 = 2 then
    let lux := voltageToLux input.voltage
    some
      ⟨glob.indexOf glob.nodeId, toUint8 fsm.nodeLedOn,
        (fsm.measure (lux - fsm.residualOfId glob.nodeId input.stray)).computedGain⟩
  else
    none

end GainEntry

namespace GainRecord

variable {K : Type}

/-- The record after boot and after a reset. -/
def empty (K : Type) : GainRecord K where
  stored := fun _ _ => none
  joined := false

/-- The record after a gain has been stored, if one has. -/
def store
    (record : GainRecord K) : Option (GainEntry K) → GainRecord K
  | none => record
  | some entry =>
      { record with
        stored :=
          Function.update record.stored entry.row
            (Function.update (record.stored entry.row) entry.column
              (some entry.gain)) }

/-- The record after a frame that carries no command. -/
def afterFrame
    [Field K] [LinearOrder K]
    (record : GainRecord K)
    (node : MainNode K)
    (sender : Nat) : NodeFrame K → GainRecord K
  | .calib message =>
      record.store
        (GainEntry.ofMessage node.calibrationFSM (node.glob.indexOf sender) message)
  | .can .wakeupBroadcast => { record with joined := true }
  | .can _ => record

/-- The record after `mainFSM.loop()`. -/
def afterLoop
    [Field K]
    (voltageToLux : K → K)
    (input : LoopInput K)
    (record : GainRecord K)
    (node : MainNode K) : GainRecord K :=
  if node.mainFSM.state = .calibrate then
    { record.store
        (GainEntry.ofLoop voltageToLux node.glob input node.calibrationFSM) with
      joined :=
        if (node.mainLoop voltageToLux input).1.mainFSM.state = .run then
          false
        else
          record.joined }
  else
    record

/-- Every gain in the node's own row has been stored since the last reset. -/
def Completes
    (record : GainRecord K)
    (node : MainNode K) : Prop :=
  ∀ column < node.glob.numTotalNodes,
    record.stored node.ownRow column =
      some (node.calibrationFSM.gainMatrix node.ownRow column)

/-- What is recorded as stored is in the matrix. -/
def Mirrors
    (record : GainRecord K)
    (matrix : Nat → Nat → K) : Prop :=
  ∀ row column gain, record.stored row column = some gain → matrix row column = gain

/-- The node has lit and measured these LEDs, and is at the next one. -/
structure FilledTo
    (record : GainRecord K)
    (row numTotalNodes : Nat)
    (fsm : CalibrationFSM K) : Prop where
  begun : fsm.state ≠ .calibInit
  started : -1 ≤ fsm.nodeLedOn
  readings : fsm.luxReadNum ≤ 2
  lit :
    fsm.state ≠ .waitReady →
      0 ≤ fsm.nodeLedOn ∧ fsm.nodeLedOn < numTotalNodes ∧ fsm.luxReadNum < 2
  filled :
    ∀ column : Nat,
      column < fsm.nodeLedOn ∨ (column = fsm.nodeLedOn ∧ fsm.luxReadNum = 2) →
      record.stored row column ≠ none

/-- The calibration has not begun. -/
structure Unstarted (fsm : CalibrationFSM K) : Prop where
  state : fsm.state = .calibInit
  noReading : fsm.luxReadNum = 0

/-- The record goes with the node. -/
structure Follows
    (record : GainRecord K)
    (node : MainNode K) : Prop where
  mirrors : record.Mirrors node.calibrationFSM.gainMatrix
  registered : node.glob.numTotalNodes ≤ maxNumNodes
  waiting :
    node.mainFSM.state = .init ∨ node.mainFSM.state = .wakeupWait →
      Unstarted node.calibrationFSM
  calibrating :
    node.mainFSM.state = .calibrate →
      Unstarted node.calibrationFSM ∨
        record.FilledTo node.ownRow node.glob.numTotalNodes node.calibrationFSM
  running :
    node.mainFSM.state = .run →
    record.joined = false →
    ∀ column < node.glob.numTotalNodes, record.stored node.ownRow column ≠ none

end GainRecord

namespace GainEntry

variable {K : Type} [Field K]

/-- A frame stores the gain of the record, and no other. -/
theorem gainMatrix_received
    [LinearOrder K]
    (fsm : CalibrationFSM K)
    (sender : Nat)
    (message : CalibMessage K) :
    (fsm.received sender message).gainMatrix =
      storeIn fsm.gainMatrix (ofMessage fsm sender message) := by
  cases message with
  | calibLedOn => rfl
  | calibReady gainValue =>
      simp only [CalibrationFSM.received, ofMessage]
      by_cases measured : gainValue ≥ 0
      · by_cases residual : fsm.nodeLedOn = -1
        · simp [measured, residual, CalibrationFSM.receivedGainOrResidual,
            CalibrationFSM.incrementNodesReady, CalibrationFSM.setResidual, storeIn]
        · simp [measured, residual, CalibrationFSM.receivedGainOrResidual,
            CalibrationFSM.incrementNodesReady, CalibrationFSM.setGain, storeIn]
      · simp [measured, CalibrationFSM.incrementNodesReady, storeIn]

/-- So does a run of the calibration machine. -/
theorem gainMatrix_calibrationLoop
    (voltageToLux : K → K)
    (glob : Glob)
    (input : LoopInput K)
    (fsm : CalibrationFSM K) :
    (glob.calibrationLoop voltageToLux input fsm).1.gainMatrix =
      storeIn fsm.gainMatrix (ofLoop voltageToLux glob input fsm) := by
  unfold Glob.calibrationLoop ofLoop
  cases fsm.state with
  | calibInit => simp [storeIn, CalibrationFSM.runStateInit, CalibrationFSM.setState,
      CalibrationFSM.incrementNodesReady, CalibrationFSM.setResidual]
  | waitReady =>
      simp only [Glob.runStateWaitReady, CalibrationFSM.advance, CalibrationFSM.setState]
      split_ifs <;> simp_all [storeIn]
  | waitLedOn =>
      simp only [CalibrationFSM.runStateWaitLedOn, CalibrationFSM.setState]
      split_ifs <;> simp_all [storeIn]
  | waitTransient =>
      simp only [CalibrationFSM.runStateWaitTrasient, CalibrationFSM.measure,
        CalibrationFSM.setState, CalibrationFSM.incrementNodesReady, CalibrationFSM.setGain]
      split_ifs <;> simp_all [storeIn]

end GainEntry

namespace GainRecord

variable {K : Type} {record : GainRecord K} {matrix : Nat → Nat → K}

/-- Storing a gain in both keeps the record what the matrix is. -/
theorem Mirrors.store
    (mirrors : record.Mirrors matrix)
    (entry : Option (GainEntry K)) :
    (record.store entry).Mirrors (GainEntry.storeIn matrix entry) := by
  cases entry with
  | none => exact mirrors
  | some entry =>
      intro row column gain stored
      simp only [GainRecord.store, GainEntry.storeIn] at stored ⊢
      rcases eq_or_ne row entry.row with rfl | otherRow
      · rw [Function.update_self] at stored ⊢
        rcases eq_or_ne column entry.column with rfl | otherColumn
        · rw [Function.update_self] at stored ⊢
          exact Option.some.inj stored
        · rw [Function.update_of_ne otherColumn] at stored ⊢
          exact mirrors _ _ _ stored
      · rw [Function.update_of_ne otherRow] at stored ⊢
        exact mirrors _ _ _ stored

/-- What is stored stays stored. -/
theorem stored_store_ne_none
    {row column : Nat}
    (stored : record.stored row column ≠ none)
    (entry : Option (GainEntry K)) :
    (record.store entry).stored row column ≠ none := by
  cases entry with
  | none => exact stored
  | some entry =>
      simp only [GainRecord.store]
      rcases eq_or_ne row entry.row with rfl | otherRow
      · rw [Function.update_self]
        rcases eq_or_ne column entry.column with rfl | otherColumn
        · rw [Function.update_self]
          exact Option.some_ne_none _
        · rwa [Function.update_of_ne otherColumn]
      · rwa [Function.update_of_ne otherRow]

theorem joined_store (entry : Option (GainEntry K)) :
    (record.store entry).joined = record.joined := by
  cases entry <;> rfl

theorem mirrors_empty : (empty K).Mirrors matrix :=
  fun _ _ _ stored => by cases stored

variable {node : MainNode K}

/-- A row without gaps is complete. -/
theorem Mirrors.completes
    (mirrors : record.Mirrors node.calibrationFSM.gainMatrix)
    (filled :
      ∀ column < node.glob.numTotalNodes, record.stored node.ownRow column ≠ none) :
    record.Completes node := by
  intro column inRange
  obtain ⟨gain, stored⟩ := Option.ne_none_iff_exists'.mp (filled column inRange)
  rw [stored, mirrors _ _ _ stored]

section Frames

variable [Field K] [LinearOrder K]

/-- A frame of the calibration leaves the node at its LED. -/
theorem FilledTo.received
    {row numTotalNodes : Nat}
    {fsm : CalibrationFSM K}
    (filledTo : record.FilledTo row numTotalNodes fsm)
    (sender : Nat)
    (message : CalibMessage K) :
    (record.store (GainEntry.ofMessage fsm sender message)).FilledTo row numTotalNodes
      (fsm.received sender message) := by
  have filled :
      ∀ column : Nat,
        column < fsm.nodeLedOn ∨ (column = fsm.nodeLedOn ∧ fsm.luxReadNum = 2) →
        (record.store (GainEntry.ofMessage fsm sender message)).stored row column ≠ none :=
    fun column passed => stored_store_ne_none (filledTo.filled column passed) _
  cases message with
  | calibLedOn =>
      exact
        ⟨filledTo.begun, filledTo.started, filledTo.readings, filledTo.lit, filled⟩
  | calibReady gainValue =>
      obtain ⟨gains, residuals, counted⟩ := fsm.received_calibReady sender gainValue
      rw [counted]
      exact
        ⟨filledTo.begun, filledTo.started, filledTo.readings, filledTo.lit, filled⟩

theorem Unstarted.received
    {fsm : CalibrationFSM K}
    (unstarted : Unstarted fsm)
    (sender : Nat)
    (message : CalibMessage K) :
    Unstarted (fsm.received sender message) := by
  cases message with
  | calibLedOn => exact ⟨unstarted.state, unstarted.noReading⟩
  | calibReady gainValue =>
      obtain ⟨gains, residuals, counted⟩ := fsm.received_calibReady sender gainValue
      rw [counted]
      exact ⟨unstarted.state, unstarted.noReading⟩

end Frames

section Loop

variable
  [Field K] {voltageToLux : K → K} {glob : Glob} {input : LoopInput K}
  {fsm : CalibrationFSM K}

/-- The first state reads the residual, with no LED on. -/
theorem Unstarted.calibrationLoop
    {row : Nat}
    (unstarted : Unstarted fsm) :
    (record.store (GainEntry.ofLoop voltageToLux glob input fsm)).FilledTo row
        glob.numTotalNodes (glob.calibrationLoop voltageToLux input fsm).1 ∧
      (glob.calibrationLoop voltageToLux input fsm).1.done = fsm.done := by
  have noGain : GainEntry.ofLoop voltageToLux glob input fsm = none :=
    if_neg fun both => by cases unstarted.state.symm.trans both.1
  have ran :
      glob.calibrationLoop voltageToLux input fsm =
        fsm.runStateInit (glob.indexOf glob.nodeId) input.calibNow
          (voltageToLux input.voltage) := by
    unfold Glob.calibrationLoop
    rw [unstarted.state]
  rw [noGain, ran]
  refine
    ⟨⟨CalibrationState.noConfusion, le_rfl, ?_, fun other => absurd rfl other, ?_⟩,
      rfl⟩
  · exact unstarted.noReading.trans_le (by decide)
  · rintro column (below | ⟨here, -⟩)
    · exact absurd below (not_lt.mpr ((by decide : (-1 : Int) ≤ 0).trans (Int.natCast_nonneg _)))
    · exact absurd here (by
        show ¬ (column : Int) = -1
        omega)

/-- Only the state of the transient stores gains. -/
theorem ofLoop_eq_none (other : fsm.state ≠ .waitTransient) :
    GainEntry.ofLoop voltageToLux glob input fsm = none :=
  if_neg fun both => other both.1

omit [Field K] in
/-- The next LED is one whose predecessors have been measured. -/
theorem FilledTo.advance
    {row numTotalNodes : Nat}
    (filledTo : record.FilledTo row numTotalNodes fsm) :
    0 ≤ fsm.advance.nodeLedOn ∧
      fsm.advance.luxReadNum < 2 ∧
      ∀ column : Nat,
        column < fsm.advance.nodeLedOn → record.stored row column ≠ none := by
  have started := filledTo.started
  have readings := filledTo.readings
  unfold CalibrationFSM.advance
  split
  · rename_i next
    dsimp only
    refine ⟨by omega, by decide, fun column below => filledTo.filled column ?_⟩
    omega
  · rename_i again
    rw [not_or] at again
    dsimp only
    exact ⟨by omega, by omega, fun column below => filledTo.filled column (.inl below)⟩

omit [Field K] in
/-- Once every node is ready the next LED is lit, or the row is complete. -/
theorem FilledTo.waitReady
    (filledTo :
      record.FilledTo (glob.indexOf glob.nodeId) glob.numTotalNodes fsm)
    (now : BitVec 32)
    (atReady : fsm.state = .waitReady) :
    record.FilledTo (glob.indexOf glob.nodeId) glob.numTotalNodes
        (glob.runStateWaitReady now fsm).1 ∧
      ((glob.runStateWaitReady now fsm).1.done = fsm.done ∨
        ∀ column < glob.numTotalNodes,
          record.stored (glob.indexOf glob.nodeId) column ≠ none) := by
  obtain ⟨nonneg, reading, filled⟩ := filledTo.advance
  have done : fsm.advance.done = fsm.done := by
    unfold CalibrationFSM.advance
    split <;> rfl
  have state : fsm.advance.state = .waitReady := by
    unfold CalibrationFSM.advance
    split <;> exact atReady
  have below :
      ∀ column : Nat,
        column < fsm.advance.nodeLedOn ∨
            (column = fsm.advance.nodeLedOn ∧ fsm.advance.luxReadNum = 2) →
          record.stored (glob.indexOf glob.nodeId) column ≠ none :=
    fun column passed =>
      filled column (passed.resolve_right fun both => by omega)
  unfold Glob.runStateWaitReady
  split
  · dsimp only
    split
    · rename_i all
      refine
        ⟨⟨state.trans_ne CalibrationState.noConfusion,
            by show -1 ≤ fsm.advance.nodeLedOn; omega, reading.le,
            fun other => absurd state other, below⟩, .inr fun column inRange => ?_⟩
      exact filled column (by omega)
    · rename_i notAll
      split <;>
        exact
          ⟨⟨CalibrationState.noConfusion,
            by show -1 ≤ fsm.advance.nodeLedOn; omega, reading.le,
            fun _ => ⟨nonneg, not_le.mp notAll, reading⟩, below⟩, .inl done⟩
  · exact ⟨filledTo, .inl rfl⟩

/-- The second reading of an LED fills its column. -/
theorem FilledTo.waitTransient
    (within : glob.numTotalNodes ≤ maxNumNodes)
    (filledTo :
      record.FilledTo (glob.indexOf glob.nodeId) glob.numTotalNodes fsm)
    (atTransient : fsm.state = .waitTransient) :
    (record.store (GainEntry.ofLoop voltageToLux glob input fsm)).FilledTo
        (glob.indexOf glob.nodeId) glob.numTotalNodes
        (fsm.runStateWaitTrasient (glob.indexOf glob.nodeId) glob.nodeId
          input.calibNow (voltageToLux input.voltage) input.stray).1 ∧
      (fsm.runStateWaitTrasient (glob.indexOf glob.nodeId) glob.nodeId
          input.calibNow (voltageToLux input.voltage) input.stray).1.done =
        fsm.done := by
  obtain ⟨nonneg, lit, reading⟩ := filledTo.lit (by rw [atTransient]; decide)
  unfold CalibrationFSM.runStateWaitTrasient
  by_cases elapsed : fsm.Elapsed input.calibNow
  · rw [if_pos elapsed]
    dsimp only
    by_cases second : fsm.luxReadNum + 1 = 2
    · have gain :
          GainEntry.ofLoop voltageToLux glob input fsm =
            some
              ⟨glob.indexOf glob.nodeId, toUint8 fsm.nodeLedOn,
                (fsm.measure
                  (voltageToLux input.voltage -
                    fsm.residualOfId glob.nodeId input.stray)).computedGain⟩ :=
        if_pos ⟨atTransient, elapsed, second⟩
      have last :
          (fsm.measure
            (voltageToLux input.voltage -
              fsm.residualOfId glob.nodeId input.stray)).luxReadNum = 2 := second
      rw [if_pos last]
      refine
        ⟨⟨CalibrationState.noConfusion, filledTo.started, second.le,
          fun other => absurd rfl other, ?_⟩, rfl⟩
      rintro column (below | ⟨here, -⟩)
      · exact stored_store_ne_none (filledTo.filled column (.inl below)) _
      · have ledOn : (column : Int) = fsm.nodeLedOn := here
        have narrow : fsm.nodeLedOn < 7 :=
          lit.trans_le (mod_cast within)
        have cut : toUint8 fsm.nodeLedOn = column := by
          unfold toUint8
          omega
        rw [gain, cut]
        simp [GainRecord.store]
    · have first :
          ¬ (fsm.measure
            (voltageToLux input.voltage -
              fsm.residualOfId glob.nodeId input.stray)).luxReadNum = 2 := second
      rw [if_neg first, GainEntry.ofLoop, if_neg fun all => second all.2.2]
      refine
        ⟨⟨CalibrationState.noConfusion, filledTo.started, reading,
          fun other => absurd rfl other, ?_⟩, rfl⟩
      rintro column (below | ⟨-, both⟩)
      · exact filledTo.filled column (.inl below)
      · exact absurd both second
  · rw [if_neg elapsed, GainEntry.ofLoop, if_neg fun all => elapsed all.2.1]
    exact ⟨filledTo, rfl⟩

/-- A run of the calibration machine fills the row, and ends when it has. -/
theorem FilledTo.calibrationLoop
    (filledTo :
      record.FilledTo (glob.indexOf glob.nodeId) glob.numTotalNodes fsm)
    (voltageToLux : K → K)
    (input : LoopInput K)
    (within : glob.numTotalNodes ≤ maxNumNodes) :
    (record.store (GainEntry.ofLoop voltageToLux glob input fsm)).FilledTo
        (glob.indexOf glob.nodeId) glob.numTotalNodes
        (glob.calibrationLoop voltageToLux input fsm).1 ∧
      ((glob.calibrationLoop voltageToLux input fsm).1.done = fsm.done ∨
        ∀ column < glob.numTotalNodes,
          (record.store (GainEntry.ofLoop voltageToLux glob input fsm)).stored
              (glob.indexOf glob.nodeId) column ≠
            none) := by
  unfold Glob.calibrationLoop
  split
  · rename_i atInit
    exact absurd atInit filledTo.begun
  · rename_i atReady
    rw [ofLoop_eq_none (by rw [atReady]; decide)]
    exact filledTo.waitReady _ atReady
  · rename_i atLedOn
    rw [ofLoop_eq_none (by rw [atLedOn]; decide)]
    have lit := filledTo.lit (by rw [atLedOn]; decide)
    unfold CalibrationFSM.runStateWaitLedOn
    split
    · exact
        ⟨⟨CalibrationState.noConfusion, filledTo.started, filledTo.readings,
          fun _ => lit, filledTo.filled⟩, .inl rfl⟩
    · exact ⟨filledTo, .inl rfl⟩
  · rename_i atTransient
    obtain ⟨filled, done⟩ := filledTo.waitTransient within atTransient
    exact ⟨filled, .inl done⟩

end Loop

section Nodes

/-- Another hub does not concern the calibration. -/
theorem Follows.setHub
    (follows : record.Follows node)
    (hub : Nat) :
    record.Follows (node.setHub hub) :=
  ⟨follows.mirrors, follows.registered, follows.waiting, follows.calibrating,
    follows.running⟩

/-- The discovery timer changes at most the hub. -/
theorem Follows.sendPCDiscovery
    (follows : record.Follows node)
    (hadResponse : Bool) :
    record.Follows (node.sendPCDiscovery hadResponse) := by
  unfold MainNode.sendPCDiscovery
  split
  · exact follows.setHub 0
  · exact follows

variable [Field K]

/-- After boot and after a reset nothing is stored. -/
theorem follows_boot (nodeId hubNode : Nat) :
    (empty K).Follows (.boot K nodeId hubNode) where
  mirrors := mirrors_empty
  registered := by
    show 0 + 1 ≤ 7
    decide
  waiting _ := ⟨rfl, rfl⟩
  calibrating atCalibrate := by cases atCalibrate
  running atRun := by cases atRun

theorem follows_reset (node : MainNode K) :
    (empty K).Follows node.reset where
  mirrors := mirrors_empty
  registered := by
    show 0 + 1 ≤ 7
    decide
  waiting _ := ⟨rfl, rfl⟩
  calibrating atCalibrate := by cases atCalibrate
  running atRun := by cases atRun

/-- A command that the node does not execute changes at most the hub. -/
theorem Follows.readCommand
    {command : Command}
    (follows : record.Follows node)
    (passedOn :
      ¬ (command.cmd ≠ byteOf 'D' ∧
        (command.destination = 0 ∨
          command.destination.toNat = node.glob.nodeId))) :
    record.Follows (node.readCommand command) := by
  obtain same | claims := node.readCommand_passedOn passedOn
  · rw [same]
    exact follows
  · rw [claims]
    exact follows.setHub _

omit [Field K] in
/-- A registration that leaves in its place what has been measured. -/
theorem Follows.registerNewNode
    (follows : record.Follows node)
    {sender : Nat}
    (spare : node.glob.numTotalNodes < maxNumNodes)
    (keepsRow :
      node.mainFSM.state = .calibrate →
        node.calibrationFSM.HasMeasured →
        (node.glob.registerNewNode sender).indexOf node.glob.nodeId = node.ownRow) :
    ({ record with joined := true } : GainRecord K).Follows
      { node with glob := node.glob.registerNewNode sender } where
  mirrors := follows.mirrors
  registered := spare
  waiting := follows.waiting
  calibrating atCalibrate := by
    refine (follows.calibrating atCalibrate).imp_right fun filledTo => ?_
    refine
      ⟨filledTo.begun, filledTo.started, filledTo.readings, fun other => ?_,
        fun column passed => ?_⟩
    · obtain ⟨nonneg, lit, reading⟩ := filledTo.lit other
      exact ⟨nonneg, lit.trans (mod_cast Nat.lt_succ_self _), reading⟩
    · have measured : node.calibrationFSM.HasMeasured :=
        ⟨filledTo.begun,
          passed.imp (fun below => (Int.natCast_nonneg column).trans_lt below) And.right⟩
      have row :
          ({ node with glob := node.glob.registerNewNode sender } : MainNode K).ownRow =
            node.ownRow :=
        keepsRow atCalibrate measured
      rw [row]
      exact filledTo.filled column passed
  running _ alone := by cases alone

variable [LinearOrder K]

/-- A frame of the calibration stores at most one gain. -/
theorem Follows.receivedCalib
    (follows : record.Follows node)
    (sender : Nat)
    (message : CalibMessage K) :
    (record.store
          (GainEntry.ofMessage node.calibrationFSM sender message)).Follows
      { node with calibrationFSM := node.calibrationFSM.received sender message } where
  mirrors := by
    rw [GainEntry.gainMatrix_received]
    exact follows.mirrors.store _
  registered := follows.registered
  waiting early := (follows.waiting early).received sender message
  calibrating atCalibrate :=
    (follows.calibrating atCalibrate).imp
      (fun unstarted => unstarted.received sender message)
      fun filledTo => filledTo.received sender message
  running atRun alone column inRange := by
    rw [joined_store] at alone
    exact stored_store_ne_none (follows.running atRun alone column inRange) _

/-- A frame keeps the record with the node, unless it moves the row. -/
theorem Follows.received
    {after : MainNode K}
    {sender : Nat}
    {frame : NodeFrame K}
    (follows : record.Follows node)
    (noCommand : ∀ command, frame ≠ .can (.commandsRequest command))
    (keepsRow : frame = .can .wakeupBroadcast → ¬ node.MovesRow sender)
    (taken : node.received sender frame = some after) :
    (record.afterFrame node sender frame).Follows after := by
  cases frame with
  | calib message =>
      obtain ⟨⟩ := taken
      exact follows.receivedCalib _ message
  | can message =>
      cases message with
      | wakeupBroadcast =>
          unfold MainNode.received at taken
          dsimp only at taken
          split at taken
          · cases taken
          · rename_i spare
            obtain ⟨⟩ := taken
            refine
              follows.registerNewNode (not_le.mp spare) fun atCalibrate measured => ?_
            by_contra moved
            exact keepsRow rfl ⟨atCalibrate, measured, moved⟩
      | isHubNode =>
          obtain ⟨⟩ := taken
          exact follows.setHub sender
      | noLongerIsHubNode =>
          obtain ⟨⟩ := taken
          split
          · exact follows.setHub 0
          · exact follows
      | frequentData _ _ _ _ =>
          obtain ⟨⟩ := taken
          exact follows
      | commandsRequest command => exact absurd rfl (noCommand command)
      | commandsResponse _ =>
          obtain ⟨⟩ := taken
          exact follows
      | other =>
          obtain ⟨⟩ := taken
          exact follows

omit [LinearOrder K] in
/-- While the main machine calibrates, every run of the machine below it fills the row. -/
theorem Follows.calibrationLoop
    (follows : record.Follows node)
    (calibrating : node.mainFSM.state = .calibrate)
    (voltageToLux : K → K)
    (input : LoopInput K) :
    let fsm := node.calibrationFSM
    let after := (node.glob.calibrationLoop voltageToLux input fsm).1
    let stored := record.store (GainEntry.ofLoop voltageToLux node.glob input fsm)
    stored.FilledTo node.ownRow node.glob.numTotalNodes after ∧
      (after.done = fsm.done ∨
        ∀ column < node.glob.numTotalNodes,
          stored.stored node.ownRow column ≠ none) := by
  rcases follows.calibrating calibrating with unstarted | filledTo
  · exact And.imp_right .inl unstarted.calibrationLoop
  · exact filledTo.calibrationLoop voltageToLux input follows.registered

omit [LinearOrder K] in
/-- The main machine gets to `Run` with a complete row. -/
theorem Follows.mainLoop
    (follows : record.Follows node)
    (notDone :
      node.mainFSM.state = .calibrate → node.calibrationFSM.done ≠ true)
    (voltageToLux : K → K)
    (input : LoopInput K) :
    (record.afterLoop voltageToLux input node).Follows
      (node.mainLoop voltageToLux input).1 := by
  have case := node.mainLoop_case voltageToLux input
  unfold afterLoop
  generalize node.mainLoop voltageToLux input = ran at case ⊢
  cases case with
  | wakes starting elapsed =>
      rw [if_neg (by rw [starting]; decide)]
      exact
        ⟨follows.mirrors, follows.registered, fun _ => follows.waiting (.inl starting),
          fun atCalibrate => (by cases atCalibrate), fun atRun => (by cases atRun)⟩
  | starts waiting elapsed =>
      rw [if_neg (by rw [waiting]; decide)]
      exact
        ⟨follows.mirrors, follows.registered,
          fun early => (by rcases early with early | early <;> cases early),
          fun _ => .inl (follows.waiting (.inr waiting)), fun atRun => (by cases atRun)⟩
  | waits notCalibrating =>
      rw [if_neg notCalibrating]
      exact follows
  | calibrates fsm sent calibrating ran =>
      rw [if_pos calibrating]
      have mirrors := GainEntry.gainMatrix_calibrationLoop voltageToLux node.glob input
        node.calibrationFSM
      have filling := follows.calibrationLoop calibrating voltageToLux input
      simp only [ran] at mirrors filling
      refine
        ⟨mirrors ▸ follows.mirrors.store _, follows.registered, fun early => ?_,
          fun _ =>
            .inr
              ⟨filling.1.begun, filling.1.started, filling.1.readings, filling.1.lit,
                filling.1.filled⟩,
          fun atRun _ => ?_⟩
      · dsimp only at early
        split at early
        · rcases early with early | early <;> cases early
        · rw [calibrating] at early
          rcases early with early | early <;> cases early
      · dsimp only at atRun
        split at atRun
        · rename_i ended
          exact
            filling.2.resolve_left fun same =>
              notDone calibrating (same.symm.trans ended)
        · rw [calibrating] at atRun
          cases atRun

end Nodes

end GainRecord

end DistributedLighting
