import DistributedLighting.CalibrationSafety

namespace DistributedLighting

/-!
# The residuals and gains that the nodes exchange

An even step ends with a `CAN_CALIB_READY` that carries a residual or a gain.
Its receivers store it by their own `nodeLedOn`.  The value of one such step is
followed through a run: from the node that measures it, over the bus, to the
place where every other node keeps it.
-/

/-- The value of `nodeLedOn` with which a machine stores the value of an even step. -/
def columnOf (step : Nat) : Int :=
  if step = 0 then -1 else designated step

namespace CalibrationFSM

variable {K : Type}

/-- Where a machine keeps what a node sends at the end of an even step. -/
def kept
    (fsm : CalibrationFSM K)
    (sender step : Nat) : K :=
  if step = 0 then
    fsm.residualArray sender
  else
    fsm.gainMatrix sender (designated step)

theorem kept_congr
    {fsm after : CalibrationFSM K}
    (gainMatrix : after.gainMatrix = fsm.gainMatrix)
    (residualArray : after.residualArray = fsm.residualArray) :
    after.kept = fsm.kept := by
  unfold kept
  rw [gainMatrix, residualArray]

/-- The conversion to `uint8_t` changes nothing for the indices of a registry. -/
theorem toUint8_natCast
    {index : Nat}
    (small : index < 256) :
    toUint8 index = index := by
  unfold toUint8
  omega

/-- `residualArray` after a store. -/
theorem kept_setResidual
    (fsm : CalibrationFSM K)
    (index : Nat)
    (value : K)
    (sender step : Nat) :
    (fsm.setResidual index value).kept sender step =
      if step = 0 ∧ sender = index then value else fsm.kept sender step := by
  unfold kept setResidual
  by_cases zero : step = 0
  · simp [zero, Function.update_apply]
  · simp [zero]

/-- `gainMatrix` after a store. -/
theorem kept_setGain
    (fsm : CalibrationFSM K)
    (i j : Nat)
    (gain : K)
    (sender step : Nat) :
    (fsm.setGain i j gain).kept sender step =
      if step ≠ 0 ∧ sender = i ∧ designated step = j then
        gain
      else
        fsm.kept sender step := by
  unfold kept setGain
  by_cases zero : step = 0
  · simp [zero]
  · by_cases same : sender = i
    · subst same
      simp [zero, Function.update_apply]
    · simp [zero, same]

section Received

variable [Field K] [LinearOrder K] {fsm : CalibrationFSM K}

/-- A frame only changes what is kept of its sender. -/
theorem kept_received_other
    (message : CalibMessage K)
    {sender other : Nat}
    (different : other ≠ sender)
    (step : Nat) :
    (fsm.received sender message).kept other step =
      fsm.kept other step := by
  cases message with
  | calibLedOn => rfl
  | calibReady value =>
      simp only [received]
      split
      · show (fsm.receivedGainOrResidual sender value).kept other step = _
        unfold receivedGainOrResidual
        split
        · rw [kept_setResidual, if_neg]
          exact fun stored => different stored.2
        · rw [kept_setGain, if_neg]
          exact fun stored => different stored.2.1
      · rfl

/-- A negative value is not stored. -/
theorem kept_received_of_neg
    {value : K}
    (negative : ¬ value ≥ 0)
    (sender : Nat) :
    (fsm.received sender (.calibReady value)).kept = fsm.kept := by
  simp only [received, if_neg negative]
  rfl

/-- A value that arrives with the `nodeLedOn` of its step is stored there. -/
theorem kept_received
    {value : K}
    (stored : value ≥ 0)
    (sender : Nat)
    {label step : Nat}
    (small : step ≠ 0 → designated label < 256)
    (labelEven : label % 2 = 0)
    (stepEven : step % 2 = 0)
    (column : fsm.nodeLedOn = columnOf label) :
    (fsm.received sender (.calibReady value)).kept sender step =
      if step = label then value else fsm.kept sender step := by
  simp only [received, if_pos stored]
  show (fsm.receivedGainOrResidual sender value).kept sender step = _
  unfold receivedGainOrResidual
  unfold columnOf at column
  by_cases residual : label = 0
  · subst residual
    rw [if_pos rfl] at column
    rw [if_pos column, kept_setResidual]
    simp
  · rw [if_neg residual] at column
    have notResidual : ¬ fsm.nodeLedOn = -1 := by omega
    rw [if_neg notResidual, kept_setGain]
    refine if_congr ?_ rfl rfl
    constructor
    · rintro ⟨notZero, _, same⟩
      rw [column, toUint8_natCast (small notZero)] at same
      unfold designated at same
      omega
    · intro same
      subst same
      rw [column, toUint8_natCast (small residual)]
      exact ⟨residual, rfl, rfl⟩

end Received

end CalibrationFSM

namespace CalibNode

variable {K : Type} {N : Nat}

/-- What the node itself has measured in an even step. -/
def measured
    (node : CalibNode K N)
    (step : Nat) : K :=
  if step = 0 then node.residual else node.gain (designated step)

end CalibNode

namespace CalibNet

variable {K : Type} {N : Nat}

/--
The value of one even step: everybody who has received it keeps it, and so does
its sender, for whom it is the value measured.
-/
structure Carried
    [Field K]
    [LinearOrder K]
    (step : Nat)
    (net : CalibNet K N) : Prop where
  calib : CalibInvariant net
  /-- The frame after a first reading carries no value. -/
  firstReading :
    ∀ entry ∈ net.bus.log,
      ∀ value label,
        entry.frame = ⟨.calibReady value, label⟩ →
        label % 2 = 1 →
        value = -1
  sent :
    ∀ entry ∈ net.bus.log,
      ∀ value,
        entry.frame = ⟨.calibReady value, step⟩ →
        (1 < N → value ≥ 0) ∧
          (net.node entry.sender).measured step = value ∧
          (net.node entry.sender).fsm.kept entry.sender step = value
  received :
    ∀ n,
      ∀ entry ∈ net.bus.received n,
        ∀ value,
          entry.frame = ⟨.calibReady value, step⟩ →
          (net.node n).fsm.kept entry.sender step = value

section Labels

variable {net : CalibNet K N} {n : Fin N}

/-- A node that is about to send its `CAN_CALIB_READY` has not sent one of its step. -/
theorem CalibInvariant.label_ne_passed
    (invariant : CalibInvariant net)
    {entry : Entry (Fin N) (CalibFrame K)}
    (member : entry ∈ net.bus.log)
    (unsent : (net.node entry.sender).readySent = 0) :
    entry.frame.readyStep? ≠ some (net.node entry.sender).passed := by
  intro labelled
  have none :
      CountingBarrier.tokensSent CalibFrame.readyStep? net.bus.log
        entry.sender (net.node entry.sender).passed = 0 := by
    have tokens :=
      invariant.barrier.tokens entry.sender
        (net.node entry.sender).passed
    have round :
        net.toBarrier.round entry.sender =
          (net.node entry.sender).passed :=
      rfl
    rw [round, if_neg (Nat.lt_irrefl _), if_pos rfl] at tokens
    exact tokens.trans unsent
  have found :=
    List.countP_eq_zero.mp none entry member
  simp [labelled] at found

/-- The `CAN_CALIB_READY` frames that can reach a node. -/
theorem CalibInvariant.label_bounds
    (invariant : CalibInvariant net)
    {entry : Entry (Fin N) (CalibFrame K)}
    {label : Nat}
    (queued : entry ∈ net.bus.fifo n)
    (labelled : entry.frame.readyStep? = some label) :
    (net.node n).passed ≤ label ∧ label ≤ (net.node n).passed + 1 := by
  have lower : (net.node n).passed ≤ label :=
    invariant.barrier.round_le_label queued labelled
  have upper : label ≤ (net.node entry.sender).passed :=
    invariant.barrier.label_le_round
      (Bus.mem_log_of_mem_fifo queued).1 labelled
  have near :
      (net.node entry.sender).passed ≤ (net.node n).passed + 1 :=
    invariant.barrier.lockstep entry.sender n
  exact ⟨lower, by omega⟩

/-- The `nodeLedOn` of a node is the one of every gain that reaches it. -/
theorem CalibInvariant.nodeLedOn_of_queued
    (invariant : CalibInvariant net)
    {entry : Entry (Fin N) (CalibFrame K)}
    {label : Nat}
    (queued : entry ∈ net.bus.fifo n)
    (labelled : entry.frame.readyStep? = some label)
    (even : label % 2 = 0)
    (notResidual : label ≠ 0) :
    (net.node n).fsm.nodeLedOn = columnOf label := by
  obtain ⟨lower, upper⟩ := invariant.label_bounds queued labelled
  rw [(invariant.nodes n).phase.nodeLedOn_eq (by omega), columnOf,
    if_neg notResidual, Int.natCast_inj]
  unfold designated
  omega

end Labels

section Steps

variable [Field K] [LinearOrder K] {step : Nat}
    {net : CalibNet K N} {n : Fin N} {node : CalibNode K N}
    {bus : Bus (Fin N) (CalibFrame K)}
    {progress : Fin N → Fin N → Progress}

/-- A step that neither measures nor transfers a value. -/
theorem Carried.frame
    (carried : Carried step net)
    (calib : CalibInvariant (net.replace n node bus progress))
    (gainMatrix : node.fsm.gainMatrix = (net.node n).fsm.gainMatrix)
    (residualArray :
      node.fsm.residualArray = (net.node n).fsm.residualArray)
    (residual : node.residual = (net.node n).residual)
    (gain : node.gain = (net.node n).gain)
    (log :
      ∀ entry ∈ bus.log,
        entry.frame.readyStep? ≠ none → entry ∈ net.bus.log)
    (received :
      ∀ m,
        ∀ entry ∈ bus.received m,
          entry.frame.readyStep? ≠ none → entry ∈ net.bus.received m) :
    Carried step (net.replace n node bus progress) := by
  have kept :
      ∀ m,
        ((net.replace n node bus progress).node m).fsm.kept =
          (net.node m).fsm.kept := by
    intro m
    by_cases same : m = n
    · subst m
      simp only [replace, Function.update_self]
      exact CalibrationFSM.kept_congr gainMatrix residualArray
    · simp only [replace, Function.update_of_ne same]
  have measured :
      ∀ m,
        ((net.replace n node bus progress).node m).measured step =
          (net.node m).measured step := by
    intro m
    by_cases same : m = n
    · subst m
      simp only [replace, Function.update_self, CalibNode.measured,
        residual, gain]
    · simp only [replace, Function.update_of_ne same]
  refine
    { calib := calib
      firstReading := ?_
      sent := ?_
      received := ?_ }
  · intro entry member value label shape
    have token : entry.frame.readyStep? ≠ none := by
      rw [shape]
      exact Option.some_ne_none label
    exact
      carried.firstReading entry (log entry member token) value label shape
  · intro entry member value shape
    have token : entry.frame.readyStep? ≠ none := by
      rw [shape]
      exact Option.some_ne_none step
    rw [kept, measured]
    exact carried.sent entry (log entry member token) value shape
  · intro m entry member value shape
    have token : entry.frame.readyStep? ≠ none := by
      rw [shape]
      exact Option.some_ne_none step
    rw [kept]
    exact
      carried.received m entry (received m entry member token) value shape

/-- Sending a `CAN_CALIB_READY` after a measurement. -/
theorem Carried.send
    (carried : Carried step net)
    {value : K}
    (calib :
      CalibInvariant
        (net.replace n node
          (net.bus.broadcast n
            ⟨.calibReady value, (net.node n).passed⟩)
          progress))
    (unsent : (net.node n).readySent = 0)
    (others :
      ∀ sender, sender ≠ n.val →
        node.fsm.kept sender step = (net.node n).fsm.kept sender step)
    (odd : (net.node n).passed % 2 = 1 → value = -1)
    (elsewhere :
      (net.node n).passed ≠ step →
      node.measured step = (net.node n).measured step ∧
        node.fsm.kept n step = (net.node n).fsm.kept n step)
    (here :
      (net.node n).passed = step →
      (1 < N → value ≥ 0) ∧
        node.measured step = value ∧
        node.fsm.kept n step = value) :
    Carried step
      (net.replace n node
        (net.bus.broadcast n
          ⟨.calibReady value, (net.node n).passed⟩)
        progress) := by
  refine
    { calib := calib
      firstReading := ?_
      sent := ?_
      received := ?_ }
  · intro entry member sentValue label shape isOdd
    have member :
        entry ∈ net.bus.log ++
          [⟨n, ⟨.calibReady value, (net.node n).passed⟩⟩] :=
      member
    rw [List.mem_append, List.mem_singleton] at member
    rcases member with old | new
    · exact carried.firstReading entry old sentValue label shape isOdd
    · subst entry
      cases shape
      exact odd isOdd
  · intro entry member sentValue shape
    have member :
        entry ∈ net.bus.log ++
          [⟨n, ⟨.calibReady value, (net.node n).passed⟩⟩] :=
      member
    rw [List.mem_append, List.mem_singleton] at member
    rcases member with old | new
    · obtain ⟨positive, measured, kept⟩ :=
        carried.sent entry old sentValue shape
      refine ⟨positive, ?_⟩
      by_cases same : entry.sender = n
      · have notNow : (net.node n).passed ≠ step := by
          intro now
          subst n
          refine carried.calib.label_ne_passed old unsent ?_
          rw [shape, now]
          rfl
        obtain ⟨sameMeasured, sameKept⟩ := elsewhere notNow
        rw [same] at measured kept ⊢
        simp only [replace, Function.update_self]
        exact ⟨sameMeasured.trans measured, sameKept.trans kept⟩
      · simp only [replace, Function.update_of_ne same]
        exact ⟨measured, kept⟩
    · subst entry
      injection shape with sameValue now
      injection sameValue with sameValue
      subst sentValue
      simp only [replace, Function.update_self]
      exact here now
  · intro m entry member sentValue shape
    have taken : entry ∈ net.bus.received m := member
    have kept := carried.received m entry taken sentValue shape
    by_cases same : m = n
    · subst m
      have foreign : entry.sender.val ≠ n.val := by
        rw [Ne, Fin.val_inj]
        exact (Bus.mem_log_of_mem_received taken).2
      simp only [replace, Function.update_self]
      exact (others entry.sender foreign).trans kept
    · simp only [replace, Function.update_of_ne same]
      exact kept

end Steps

section Take

variable [Field K] [LinearOrder K] [IsStrictOrderedRing K]
    {step : Nat} {net : CalibNet K N} {n : Fin N}
    {entry : Entry (Fin N) (CalibFrame K)}
    {rest : List (Entry (Fin N) (CalibFrame K))}

/-- A node stores each value under its step. -/
theorem Carried.kept_of_queued
    (carried : Carried step net)
    (stepEven : step % 2 = 0)
    (fits : step ≠ 0 → N < 256)
    (placed :
      step = 0 →
      entry.frame.readyStep? = some 0 →
      (net.node n).fsm.nodeLedOn = -1)
    (queued : entry ∈ net.bus.fifo n)
    {value : K}
    {label : Nat}
    (shape : entry.frame = ⟨.calibReady value, label⟩)
    (stored : value ≥ 0)
    (past : step ≤ (net.node entry.sender).passed) :
    ((net.node n).fsm.received entry.sender
        entry.frame.message).kept entry.sender step =
      if step = label then
        value
      else
        (net.node n).fsm.kept entry.sender step := by
  have labelled : entry.frame.readyStep? = some label := by
    rw [shape]
    rfl
  have onBus := (Bus.mem_log_of_mem_fifo queued).1
  obtain ⟨lower, upper⟩ := carried.calib.label_bounds queued labelled
  have even : label % 2 = 0 := by
    by_contra odd
    have sentinel :=
      carried.firstReading entry onBus value label shape (by omega)
    rw [sentinel] at stored
    exact absurd stored (not_le.mpr neg_one_lt_zero)
  have near :
      (net.node entry.sender).passed ≤ (net.node n).passed + 1 :=
    carried.calib.barrier.lockstep entry.sender n
  have column : (net.node n).fsm.nodeLedOn = columnOf label := by
    by_cases residual : label = 0
    · subst residual
      have early : step = 0 := by omega
      rw [columnOf, if_pos rfl]
      exact placed early labelled
    · exact
        carried.calib.nodeLedOn_of_queued queued labelled even residual
  have within := (carried.calib.nodes n).phase.passed_le
  rw [shape]
  refine
    CalibrationFSM.kept_received stored entry.sender ?_ even stepEven column
  intro notResidual
  have small := fits notResidual
  unfold designated
  omega

/-- Taking a frame of the same sender keeps or stores what the sender has measured. -/
theorem Carried.kept_receive_of_sender
    (carried : Carried step net)
    (stepEven : step % 2 = 0)
    (fits : step ≠ 0 → N < 256)
    (placed :
      step = 0 →
      entry.frame.readyStep? = some 0 →
      (net.node n).fsm.nodeLedOn = -1)
    (head : entry ∈ net.bus.fifo n)
    {other : Entry (Fin N) (CalibFrame K)}
    (taken : other ∈ net.bus.received n ∨ other = entry)
    (sameSender : other.sender = entry.sender)
    {value : K}
    (shape : other.frame = ⟨.calibReady value, step⟩) :
    ((net.node n).receive entry).fsm.kept entry.sender step = value := by
  obtain ⟨onBus, foreign⟩ := Bus.mem_log_of_mem_fifo head
  have several : 1 < N := by
    have first := entry.sender.isLt
    have second := n.isLt
    rw [Ne, ← Fin.val_inj] at foreign
    omega
  have otherOnBus : other ∈ net.bus.log := by
    rcases taken with old | new
    · exact (Bus.mem_log_of_mem_received old).1
    · subst other
      exact onBus
  obtain ⟨positive, measured, _⟩ :=
    carried.sent other otherOnBus value shape
  have past : step ≤ (net.node other.sender).passed :=
    carried.calib.barrier.label_le_round otherOnBus
      (by rw [shape]; rfl)
  rw [sameSender] at measured past
  cases message : entry.frame.message with
  | calibLedOn =>
      rcases taken with old | new
      · have kept := carried.received n other old value shape
        rw [sameSender] at kept
        rw [← kept]
        show ((net.node n).fsm.received _ _).kept _ _ = _
        rw [message]
        rfl
      · subst other
        rw [shape] at message
        cases message
  | calibReady sent =>
      have frame :
          entry.frame = ⟨.calibReady sent, entry.frame.step⟩ := by
        rw [← message]
      have ifStored : sent ≥ 0 → _ :=
        fun stored =>
          carried.kept_of_queued stepEven fits placed head frame stored past
      rcases taken with old | new
      · have kept := carried.received n other old value shape
        rw [sameSender] at kept
        by_cases stored : sent ≥ 0
        · refine (ifStored stored).trans ?_
          split
          · rename_i again
            rw [← again] at frame
            have sameValue := (carried.sent entry onBus sent frame).2.1
            exact sameValue.symm.trans measured
          · exact kept
        · rw [← kept]
          show ((net.node n).fsm.received _ _).kept _ _ = _
          rw [message, CalibrationFSM.kept_received_of_neg stored]
      · subst other
        rw [shape] at message
        injection message with sameValue
        subst sent
        refine (ifStored (positive several)).trans ?_
        rw [if_pos (by rw [shape])]

/-- Taking a frame keeps every value where it is or puts it there. -/
theorem Carried.take
    (carried : Carried step net)
    (stepEven : step % 2 = 0)
    (fits : step ≠ 0 → N < 256)
    (placed :
      step = 0 →
      entry.frame.readyStep? = some 0 →
      (net.node n).fsm.nodeLedOn = -1)
    (queued : net.bus.fifo n = entry :: rest) :
    Carried step
      (net.replace n ((net.node n).receive entry) (net.bus.take n)
        net.progress) := by
  have head : entry ∈ net.bus.fifo n := by
    rw [queued]
    exact List.mem_cons_self
  have foreign := (Bus.mem_log_of_mem_fifo head).2
  have unchanged :
      ∀ other, other ≠ entry.sender.val →
        ((net.node n).receive entry).fsm.kept other step =
          (net.node n).fsm.kept other step := by
    intro other different
    exact CalibrationFSM.kept_received_other _ different step
  refine
    { calib := carried.calib.take queued
      firstReading := carried.firstReading
      sent := ?_
      received := ?_ }
  · intro other member value shape
    obtain ⟨positive, measured, kept⟩ :=
      carried.sent other member value shape
    refine ⟨positive, ?_⟩
    by_cases same : other.sender = n
    · have notSender : n.val ≠ entry.sender.val := by
        rw [Ne, Fin.val_inj]
        exact fun equal => foreign equal.symm
      rw [same] at measured kept ⊢
      simp only [replace, Function.update_self]
      exact ⟨measured, (unchanged n notSender).trans kept⟩
    · simp only [replace, Function.update_of_ne same]
      exact ⟨measured, kept⟩
  · intro m other member value shape
    by_cases same : m = n
    · subst m
      simp only [replace, Function.update_self]
      have member : other ∈ (net.bus.take n).received n := member
      rw [Bus.take_received_self queued, List.mem_append,
        List.mem_singleton] at member
      by_cases sameSender : other.sender = entry.sender
      · rw [sameSender]
        exact
          carried.kept_receive_of_sender stepEven fits placed head member
            sameSender shape
      · have different : other.sender.val ≠ entry.sender.val := by
          rw [Ne, Fin.val_inj]
          exact sameSender
        rw [unchanged _ different]
        rcases member with old | new
        · exact carried.received n other old value shape
        · exact absurd (congrArg Entry.sender new) sameSender
    · simp only [replace, Function.update_of_ne same]
      have member : other ∈ (net.bus.take n).received m := member
      rw [Bus.take_received_other _ same] at member
      exact carried.received m other member value shape

end Take

section MainLoop

variable [Field K] [LinearOrder K]
    {registry : Registry N} {voltageToLux : K → K}
    {step : Nat} {net : CalibNet K N} {n : Fin N}
    {input : MainInput K} {ran : Ran K N}

/-- `CalibInit` sets out the residual. -/
theorem Carried.init
    (carried : Carried step net)
    (calib : CalibInvariant (net.endLoop n ran))
    (now : BitVec 32)
    (reading : K)
    (atInit : (net.node n).fsm.state = .calibInit)
    (nonneg : step = 0 → reading ≥ 0)
    (shape :
      ran =
        ⟨{ net.node n with
            fsm := ((net.node n).fsm.runStateInit n now reading).1
            residual := reading
            polled := false },
          [.calibReady reading], false⟩) :
    Carried step (net.endLoop n ran) := by
  subst shape
  obtain ⟨none, _⟩ := (carried.calib.nodes n).phase.of_calibInit atInit
  have unsent : (net.node n).readySent = 0 := by
    simp [CalibNode.readySent, atInit]
  have kept :
      ∀ sender,
        ((net.node n).fsm.runStateInit n now reading).1.kept sender step =
          if step = 0 ∧ sender = n then
            reading
          else
            (net.node n).fsm.kept sender step := by
    intro sender
    rw [← CalibrationFSM.kept_setResidual]
    rfl
  refine carried.send calib unsent ?_ ?_ ?_ ?_
  · intro sender different
    exact (kept sender).trans (if_neg fun own => different own.2)
  · intro isOdd
    omega
  · intro later
    have notZero : step ≠ 0 := by omega
    refine ⟨?_, (kept n).trans (if_neg fun own => notZero own.1)⟩
    simp only [CalibNode.measured, if_neg notZero]
  · intro now
    have zero : step = 0 := by omega
    refine ⟨fun _ => nonneg zero, ?_, (kept n).trans (if_pos ⟨zero, rfl⟩)⟩
    simp only [CalibNode.measured, if_pos zero]

/-- A second reading sets out the gain. -/
theorem Carried.second
    (carried : Carried step net)
    (calib : CalibInvariant (net.endLoop n ran))
    (stepEven : step % 2 = 0)
    (fits : step ≠ 0 → N < 256)
    (now : BitVec 32)
    (reading : K)
    (transient : (net.node n).fsm.state = .waitTransient)
    (pair : (net.node n).fsm.luxReadNum + 1 = 2)
    (nonneg :
      step ≠ 0 →
      1 < N →
      ((net.node n).fsm.measure reading).computedGain ≥ 0)
    (shape :
      ran =
        ⟨{ net.node n with
            fsm := (net.node n).afterSecond n now reading
            gain :=
              Function.update (net.node n).gain
                (toUint8 (net.node n).fsm.nodeLedOn)
                ((net.node n).fsm.measure reading).computedGain
            polled := false },
          [.calibReady ((net.node n).fsm.measure reading).computedGain],
          false⟩) :
    Carried step (net.endLoop n ran) := by
  subst shape
  obtain ⟨some, within, nodeLedOn, luxReadNum⟩ :=
    (carried.calib.nodes n).phase.of_waitTransient transient
  have unsent : (net.node n).readySent = 0 := by
    simp [CalibNode.readySent, transient]
  have even : (net.node n).passed % 2 = 0 := by
    rw [luxReadNum] at pair
    unfold readingOf at pair
    omega
  have column :
      step ≠ 0 →
      toUint8 (net.node n).fsm.nodeLedOn =
        designated (net.node n).passed := by
    intro notZero
    have small := fits notZero
    rw [nodeLedOn]
    refine CalibrationFSM.toUint8_natCast ?_
    unfold designated
    omega
  have kept :
      ∀ sender,
        ((net.node n).afterSecond n now reading).kept sender step =
          if step ≠ 0 ∧ sender = n ∧
              designated step = toUint8 (net.node n).fsm.nodeLedOn then
            ((net.node n).fsm.measure reading).computedGain
          else
            (net.node n).fsm.kept sender step := by
    intro sender
    have before :
        (net.node n).fsm.kept =
          ((net.node n).fsm.measure reading).kept :=
      rfl
    rw [before, ← CalibrationFSM.kept_setGain]
    rfl
  refine carried.send calib unsent ?_ ?_ ?_ ?_
  · intro sender different
    exact (kept sender).trans (if_neg fun own => different own.2.1)
  · intro isOdd
    omega
  · intro other
    by_cases zero : step = 0
    · refine ⟨?_, (kept n).trans (if_neg fun own => own.1 zero)⟩
      simp only [CalibNode.measured, if_pos zero]
    · have elsewhere :
          designated step ≠ toUint8 (net.node n).fsm.nodeLedOn := by
        rw [column zero]
        unfold designated
        omega
      refine
        ⟨?_, (kept n).trans (if_neg fun own => elsewhere own.2.2)⟩
      simp only [CalibNode.measured, if_neg zero,
        Function.update_of_ne elsewhere]
  · intro here
    have notZero : step ≠ 0 := by omega
    have same :
        designated step = toUint8 (net.node n).fsm.nodeLedOn := by
      rw [column notZero, here]
    refine
      ⟨nonneg notZero, ?_,
        (kept n).trans (if_pos ⟨notZero, rfl, same⟩)⟩
    simp only [CalibNode.measured, if_neg notZero, same,
      Function.update_self]

variable [IsStrictOrderedRing K]

/-- A pair of readings that does not fall gives a gain that is not negative. -/
theorem computedGain_nonneg
    {fsm : CalibrationFSM K}
    {reading : K}
    (pair : fsm.luxReadNum = 1)
    (rising : fsm.luxReads 0 ≤ reading) :
    (fsm.measure reading).computedGain ≥ 0 := by
  have span : (0 : K) ≤ (pwm 1 : K) - (pwm 0 : K) := by
    have values : ((pwm 1 : K) - (pwm 0 : K)) = 220 := by
      norm_num [pwm]
    rw [values]
    norm_num
  refine div_nonneg ?_ span
  simp only [CalibrationFSM.measure, pair]
  rw [Function.update_self, Function.update_of_ne (by decide)]
  exact sub_nonneg.mpr rising

/-- A run of `mainFSM.loop()` keeps every value and may set out a new one. -/
theorem Carried.endLoop
    (carried : Carried step net)
    (stepEven : step % 2 = 0)
    (fits : step ≠ 0 → N < 256)
    (residuals : step = 0 → ∀ voltage, voltageToLux voltage ≥ 0)
    (rising :
      step ≠ 0 →
      1 < N →
      (net.node n).fsm.state = .waitTransient →
      (net.node n).fsm.luxReadNum = 1 →
      (net.node n).fsm.Elapsed input.now →
      (net.node n).fsm.luxReads 0 ≤
        voltageToLux input.voltage -
          (net.node n).fsm.residualOfId (registry.nodesList n)
            input.stray)
    (case : (net.node n).MainCase registry voltageToLux n input ran) :
    Carried step (net.endLoop n ran) := by
  have calib := carried.calib.endLoop case
  have kept := (net.node n).fsm.advance_frame
  cases case with
  | waking state time waiting notRun =>
      exact
        carried.frame calib rfl rfl rfl rfl (fun _ member _ => member)
          (fun _ _ member _ => member)
  | controlled running =>
      exact
        carried.frame calib rfl rfl rfl rfl (fun _ member _ => member)
          (fun _ _ member _ => member)
  | init calibrating atInit =>
      exact
        carried.init calib input.now (voltageToLux input.voltage) atInit
          (fun zero => residuals zero input.voltage) rfl
  | poll calibrating ready missing =>
      exact
        carried.frame calib rfl rfl rfl rfl (fun _ member _ => member)
          (fun _ _ member _ => member)
  | finish calibrating ready all last =>
      exact
        carried.frame calib kept.2.2.2.2.1 kept.2.2.2.2.2 rfl rfl
          (fun _ member _ => member) (fun _ _ member _ => member)
  | light calibrating ready all more own =>
      refine
        carried.frame calib kept.2.2.2.2.1 kept.2.2.2.2.2 rfl rfl ?_
          (fun _ _ member _ => member)
      intro entry member token
      rcases List.mem_append.mp member with old | new
      · exact old
      · rw [List.mem_singleton] at new
        subst entry
        exact absurd rfl token
  | dark calibrating ready all more other =>
      exact
        carried.frame calib kept.2.2.2.2.1 kept.2.2.2.2.2 rfl rfl
          (fun _ member _ => member) (fun _ _ member _ => member)
  | ignore calibrating awaiting noEvent =>
      exact
        carried.frame calib rfl rfl rfl rfl (fun _ member _ => member)
          (fun _ _ member _ => member)
  | consume calibrating awaiting event =>
      exact
        carried.frame calib rfl rfl rfl rfl (fun _ member _ => member)
          (fun _ _ member _ => member)
  | settling calibrating transient early =>
      exact
        carried.frame calib rfl rfl rfl rfl (fun _ member _ => member)
          (fun _ _ member _ => member)
  | first reading measured calibrating transient elapsed single =>
      obtain ⟨some, _, _, luxReadNum⟩ :=
        (carried.calib.nodes n).phase.of_waitTransient transient
      refine
        carried.send calib (by simp [CalibNode.readySent, transient])
          (fun _ _ => rfl) (fun _ => rfl) (fun _ => ⟨rfl, rfl⟩) ?_
      intro now
      rw [luxReadNum] at single
      unfold readingOf at single
      omega
  | second reading measured calibrating transient elapsed pair =>
      refine
        carried.second calib stepEven fits input.now reading transient pair
          ?_ rfl
      intro notZero several
      have one : (net.node n).fsm.luxReadNum = 1 := by omega
      refine computedGain_nonneg one ?_
      rw [← measured]
      exact rising notZero several transient one elapsed

end MainLoop

section Agreement

variable [Field K] [LinearOrder K]
    {registry : Registry N} {voltageToLux : K → K}
    {step : Nat} {start net after : CalibNet K N}

/-- Before the calibration nothing has been sent. -/
theorem Carried.initial (fresh : Fresh net) : Carried step net where
  calib := .initial fresh
  firstReading := by
    rw [fresh.log]
    intro entry member
    cases member
  sent := by
    rw [fresh.log]
    intro entry member
    cases member
  received := by
    intro n entry member
    have onBus := (Bus.mem_log_of_mem_received member).1
    rw [fresh.log] at onBus
    cases onBus

/-- A node that is done keeps the value of every even step of every node. -/
theorem Carried.kept_of_done
    (carried : Carried step net)
    {n : Fin N}
    (done : (net.node n).fsm.done = true)
    (within : step ≤ 2 * N)
    (sender : Fin N) :
    (net.node n).fsm.kept sender step =
      (net.node sender).measured step := by
  have calib := carried.calib
  have past : step < (net.node n).passed := by
    rw [(calib.nodes n).phase.done_iff.mp done]
    omega
  have once :
      CountingBarrier.tokensSent CalibFrame.readyStep? net.bus.log sender
        step = 1 :=
    calib.barrier.tokens_of_lt past sender
  have some :
      0 < CountingBarrier.tokensSent CalibFrame.readyStep? net.bus.log
        sender step := by
    omega
  obtain ⟨entry, member, isToken⟩ := List.countP_pos_iff.mp some
  rw [decide_eq_true_eq] at isToken
  obtain ⟨isSender, labelled⟩ := isToken
  subst sender
  obtain ⟨value, shape⟩ :
      ∃ value, entry.frame = ⟨.calibReady value, step⟩ := by
    obtain ⟨sender, message, label⟩ := entry
    cases message with
    | calibReady value =>
        cases labelled
        exact ⟨value, rfl⟩
    | calibLedOn => cases labelled
  obtain ⟨_, measured, kept⟩ := carried.sent entry member value shape
  by_cases own : entry.sender = n
  · subst n
    exact kept.trans measured.symm
  · have received : entry ∈ net.bus.received n :=
      calib.barrier.mem_received_of_lt member own labelled past
    exact (carried.received n entry received value shape).trans measured.symm

/-- When all are done, everybody has the residual that each node has read. -/
def ResidualsAgree
    (registry : Registry N)
    (net : CalibNet K N) : Prop :=
  (∀ n, (net.node n).fsm.done = true) →
    ∀ n s : Fin N,
      (net.node n).fsm.residualArray
          (registry.nodeIndexOnGainMatrix (registry.nodesList s)) =
        (net.node s).residual

/-- A `CAN_CALIB_READY` taken before `CalibInit` finds `nodeLedOn` at -1. -/
def PlacesResidual
    (net : CalibNet K N)
    (action : CalibAction K N) : Prop :=
  match action.does with
  | .take =>
      ∀ entry ∈ (net.bus.fifo action.node).head?,
        entry.frame.readyStep?.isSome →
        (net.node action.node).fsm.state = .calibInit →
        (net.node action.node).fsm.nodeLedOn = -1
  | _ => True

instance
    (net : CalibNet K N)
    (action : CalibAction K N) :
    Decidable (PlacesResidual net action) :=
  match action with
  | ⟨_, .take⟩ => inferInstanceAs (Decidable (∀ _ ∈ _, _ → _ → _))
  | ⟨_, .beginDrain⟩ | ⟨_, .endDrain⟩ | ⟨_, .mainLoop _⟩ =>
      inferInstanceAs (Decidable True)

/-- When all are done, everybody has the gain of each node for each LED. -/
def GainsAgree (net : CalibNet K N) : Prop :=
  (∀ n, (net.node n).fsm.done = true) →
    (∀ n m i j,
      i < N →
      j < N →
      (net.node n).fsm.gainMatrix i j =
        (net.node m).fsm.gainMatrix i j) ∧
      ∀ n i j : Fin N,
        (net.node n).fsm.gainMatrix i j = (net.node i).gain j

/-- A second reading, if there are other nodes, is not below the first one. -/
def RisingPairs
    (registry : Registry N)
    (voltageToLux : K → K)
    (net : CalibNet K N)
    (action : CalibAction K N) : Prop :=
  match action.does with
  | .mainLoop input =>
      1 < N →
      (net.node action.node).fsm.state = .waitTransient →
      (net.node action.node).fsm.luxReadNum = 1 →
      (net.node action.node).fsm.Elapsed input.now →
      (net.node action.node).fsm.luxReads 0 ≤
        voltageToLux input.voltage -
          (net.node action.node).fsm.residualOfId
            (registry.nodesList action.node) input.stray
  | _ => True

instance
    (registry : Registry N)
    (voltageToLux : K → K)
    (net : CalibNet K N)
    (action : CalibAction K N) :
    Decidable (RisingPairs registry voltageToLux net action) :=
  match action with
  | ⟨_, .mainLoop _⟩ => inferInstanceAs (Decidable (_ → _ → _ → _ → _ ≤ _))
  | ⟨_, .beginDrain⟩ | ⟨_, .take⟩ | ⟨_, .endDrain⟩ =>
      inferInstanceAs (Decidable True)

/-- Carried residuals agree once everybody is done. -/
theorem Carried.residualsAgree (carried : Carried 0 net) :
    ResidualsAgree registry net := by
  intro done n s
  rw [registry.indexed s s.isLt]
  exact carried.kept_of_done (done n) (Nat.zero_le _) s

variable [IsStrictOrderedRing K]

/-- A step keeps the residuals if no residual is taken before `CalibInit`. -/
theorem Carried.step_residual
    (nonneg : ∀ voltage, voltageToLux voltage ≥ 0)
    (carried : Carried 0 net)
    {action : CalibAction K N}
    (places : PlacesResidual net action)
    (taken : next registry voltageToLux net action = some after) :
    Carried 0 after := by
  obtain ⟨n, does⟩ := action
  have calib := carried.calib.step taken
  have effect := effect_of_next taken
  cases effect with
  | beginDrain atStart =>
      exact
        carried.frame calib rfl rfl rfl rfl (fun _ member _ => member)
          (fun _ _ member _ => member)
  | @take entry rest draining queued =>
      refine carried.take rfl (fun different => absurd rfl different) ?_ queued
      intro _ labelled
      have head : entry ∈ (net.bus.fifo n).head? := by
        rw [queued]
        rfl
      have ready : entry.frame.readyStep?.isSome := by
        rw [labelled]
        rfl
      have pending : entry ∈ net.bus.fifo n := List.mem_of_mem_head? head
      obtain ⟨lower, _⟩ := carried.calib.label_bounds pending labelled
      cases (carried.calib.nodes n).phase with
      | calibInit state => exact places entry head ready state
      | residual _ _ nodeLedOn => exact nodeLedOn
      | awaiting _ some => omega
      | transient _ some => omega
      | measured _ some => omega
      | finished _ all => omega
  | endDrain draining drained =>
      exact
        carried.frame calib rfl rfl rfl rfl (fun _ member _ => member)
          (fun _ _ member _ => member)
  | mainLoop input atMain =>
      exact
        carried.endLoop rfl (fun different => absurd rfl different)
          (fun _ => nonneg) (fun different => absurd rfl different)
          (CalibNode.mainCase registry voltageToLux n input (net.node n))

/-- A step keeps the gains if no gain is negative. -/
theorem Carried.step_gain
    (fits : N ≤ maxNumNodes)
    (stepEven : step % 2 = 0)
    (notResidual : step ≠ 0)
    (carried : Carried step net)
    {action : CalibAction K N}
    (rising : RisingPairs registry voltageToLux net action)
    (taken : next registry voltageToLux net action = some after) :
    Carried step after := by
  obtain ⟨n, does⟩ := action
  have calib := carried.calib.step taken
  have small : N < 256 := by
    unfold maxNumNodes at fits
    omega
  have effect := effect_of_next taken
  cases effect with
  | beginDrain atStart =>
      exact
        carried.frame calib rfl rfl rfl rfl (fun _ member _ => member)
          (fun _ _ member _ => member)
  | take draining queued =>
      exact
        carried.take stepEven (fun _ => small)
          (fun residual => absurd residual notResidual) queued
  | endDrain draining drained =>
      exact
        carried.frame calib rfl rfl rfl rfl (fun _ member _ => member)
          (fun _ _ member _ => member)
  | mainLoop input atMain =>
      exact
        carried.endLoop stepEven (fun _ => small)
          (fun residual => absurd residual notResidual)
          (fun _ => rising)
          (CalibNode.mainCase registry voltageToLux n input (net.node n))

/-- The residuals of a run in which no node takes one before `CalibInit`. -/
theorem carried_residual_of_run
    (nonneg : ∀ voltage, voltageToLux voltage ≥ 0)
    (fresh : Fresh start)
    (run : Run (next registry voltageToLux) PlacesResidual start net) :
    Carried 0 net :=
  run.invariant (Carried 0) (.initial fresh)
    fun carried places taken =>
      carried.step_residual nonneg places taken

/--
If no node takes a residual before it has set `nodeLedOn` to -1, the residuals
agree at the end of every run.
-/
theorem residualsAgree_of_run
    (nonneg : ∀ voltage, voltageToLux voltage ≥ 0)
    (fresh : Fresh start)
    (run : Run (next registry voltageToLux) PlacesResidual start net) :
    ResidualsAgree registry net :=
  (carried_residual_of_run nonneg fresh run).residualsAgree

/-- The luminaire reads powers of ten, which are never negative. -/
theorem residualsAgree_luminaire
    {pow10 log10 : K → K}
    (powers : ∀ exponent, pow10 exponent ≥ 0)
    {ldrSlopeM ldrSlopeB : K}
    (fresh : Fresh start)
    (run :
      Run
        (next registry
          (Luminaire.voltageToLux pow10 log10 ldrSlopeM ldrSlopeB))
        PlacesResidual start net) :
    ResidualsAgree registry net :=
  (carried_residual_of_run (fun _ => powers _) fresh run).residualsAgree

/-- If the second readings do not fall, the gains agree at the end of every run. -/
theorem gainsAgree_of_run
    (fits : N ≤ maxNumNodes)
    (fresh : Fresh start)
    (run :
      Run (next registry voltageToLux)
        (RisingPairs registry voltageToLux) start net) :
    GainsAgree net := by
  have same :
      (∀ n, (net.node n).fsm.done = true) →
        ∀ n i j : Fin N,
          (net.node n).fsm.gainMatrix i j = (net.node i).gain j := by
    intro done n i j
    have carried : Carried (2 * j.val + 2) net :=
      run.invariant (Carried (2 * j.val + 2)) (.initial fresh)
        fun carried rising taken =>
          carried.step_gain fits (by omega) (by omega) rising taken
    have inRange := j.isLt
    have kept := carried.kept_of_done (done n) (by omega) i
    have notResidual : 2 * j.val + 2 ≠ 0 := by omega
    have column : designated (2 * j.val + 2) = j := by
      unfold designated
      omega
    simpa only [CalibrationFSM.kept, CalibNode.measured,
      if_neg notResidual, column] using kept
  intro done
  refine ⟨?_, same done⟩
  intro n m i j iIn jIn
  exact
    (same done n ⟨i, iIn⟩ ⟨j, jIn⟩).trans
      (same done m ⟨i, iIn⟩ ⟨j, jIn⟩).symm

end Agreement

section Schedules

/-- The two nodes of a small network. -/
def node0 : Fin 2 := 0

@[inherit_doc node0]
def node1 : Fin 2 := 1

/-- Node `lit` lights its LED and measures, and `other` follows. -/
def stepOfTwo
    (lit other : Fin 2)
    (litFrames otherFrames seconds : Nat)
    (litVoltage otherVoltage : ℚ) : List (CalibAction ℚ 2) :=
  loopAfter lit litFrames seconds 0 ++
    loopAfter other otherFrames seconds 0 ++
    loopAfter other 0 seconds 0 ++
    loopAfter lit 0 (seconds + 2) litVoltage ++
    loopAfter other 1 (seconds + 2) otherVoltage

/-- Both nodes run `CalibInit` with an empty queue, with readings 4 and 5. -/
def initTogether : List (CalibAction ℚ 2) :=
  loopAfter 0 0 3 0 ++ loopAfter 1 0 3 0 ++
    [⟨0, .beginDrain⟩, ⟨0, .endDrain⟩, ⟨1, .beginDrain⟩, ⟨1, .endDrain⟩,
      ⟨0, .mainLoop ⟨4000000, 4, 0, 0⟩⟩,
      ⟨1, .mainLoop ⟨4000000, 5, 0, 0⟩⟩]

/-- Node 1 takes the residual of node 0 before its own `CalibInit`. -/
def initLate : List (CalibAction ℚ 2) :=
  loopAfter 0 0 3 0 ++ loopAfter 1 0 3 0 ++ loopAfter 0 0 4 4 ++
    loopAfter 1 1 4 5

/-- The four steps after `CalibInit`; the last reading is up to the caller. -/
def stepsOfTwo
    (otherFrames : Nat)
    (lastVoltage : ℚ) : List (CalibAction ℚ 2) :=
  stepOfTwo 0 1 1 otherFrames 10 20 10 ++
    stepOfTwo 0 1 1 1 20 240 120 ++
    stepOfTwo 1 0 0 2 30 20 10 ++
    stepOfTwo 1 0 1 1 40 240 lastVoltage ++
    loopAfter 1 1 50 0 ++ loopAfter 0 0 50 0

/-- A whole calibration of two nodes that read their residuals together. -/
theorem residualsAgree_two_nodes :
    ∃ net,
      Run (next (consecutive 2) abs) PlacesResidual (booted 2) net ∧
        (∀ n, (net.node n).fsm.done = true) ∧
        ResidualsAgree (consecutive 2) net := by
  obtain ⟨net, run, observed⟩ :=
    exists_run_of_observed
      (next (consecutive 2) abs)
      PlacesResidual
      (booted 2)
      (initTogether ++ stepsOfTwo 2 100)
      (fun net => decide (∀ n, (net.node n).fsm.done = true))
      (by decide +kernel)
  rw [decide_eq_true_eq] at observed
  exact
    ⟨net, run, observed,
      residualsAgree_of_run abs_nonneg (fresh_booted 2) run⟩

/-- The residual that node 1 takes first ends up in its gain matrix. -/
theorem not_residualsAgree_two_nodes :
    ¬ ∀ (voltageToLux : ℚ → ℚ) (start net : CalibNet ℚ 2),
        (∀ voltage, voltageToLux voltage ≥ 0) →
        Fresh start →
        Run (next (consecutive 2) voltageToLux) (fun _ _ => True) start
          net →
        ResidualsAgree (consecutive 2) net := by
  intro claim
  obtain ⟨net, run, observed⟩ :=
    exists_run_of_observed
      (next (consecutive 2) abs)
      (fun _ _ => True)
      (booted 2)
      (initLate ++ stepsOfTwo 1 100)
      (fun net =>
        decide
          ((∀ n, (net.node n).fsm.done = true) ∧
            (net.node 1).fsm.residualArray 0 ≠
              (net.node 0).residual))
      (by decide +kernel)
  rw [decide_eq_true_eq] at observed
  exact
    observed.2
      (claim abs _ net abs_nonneg (fresh_booted 2) run observed.1 1 0)

/-- A whole calibration of two nodes whose second readings are the higher ones. -/
theorem gainsAgree_two_nodes :
    ∃ net,
      Run (next (consecutive 2) id) (RisingPairs (consecutive 2) id)
          (booted 2) net ∧
        (∀ n, (net.node n).fsm.done = true) ∧
        GainsAgree net := by
  obtain ⟨net, run, observed⟩ :=
    exists_run_of_observed
      (next (consecutive 2) id)
      (RisingPairs (consecutive 2) id)
      (booted 2)
      (initTogether ++ stepsOfTwo 2 100)
      (fun net => decide (∀ n, (net.node n).fsm.done = true))
      (by decide +kernel)
  rw [decide_eq_true_eq] at observed
  exact
    ⟨net, run, observed,
      gainsAgree_of_run (by decide) (fresh_booted 2) run⟩

/-- The other node never hears of a gain that is negative. -/
theorem not_gainsAgree_two_nodes :
    ¬ ∀ (voltageToLux : ℚ → ℚ) (start net : CalibNet ℚ 2),
        Fresh start →
        Run (next (consecutive 2) voltageToLux) (fun _ _ => True) start
          net →
        GainsAgree net := by
  intro claim
  obtain ⟨net, run, observed⟩ :=
    exists_run_of_observed
      (next (consecutive 2) id)
      (fun _ _ => True)
      (booted 2)
      (initTogether ++ stepsOfTwo 2 9)
      (fun net =>
        decide
          ((∀ n, (net.node n).fsm.done = true) ∧
            (net.node 1).fsm.gainMatrix 0 1 ≠
              (net.node 0).fsm.gainMatrix 0 1))
      (by decide +kernel)
  rw [decide_eq_true_eq] at observed
  exact
    observed.2
      ((claim id _ net (fresh_booted 2) run observed.1).1 1 0 0 1
        (by decide) (by decide))

end Schedules

end CalibNet

end DistributedLighting
