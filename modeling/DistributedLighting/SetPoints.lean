import DistributedLighting.ConsensusTriggers
import DistributedLighting.Runs

namespace DistributedLighting

/-!
# The reference of a node

`luxRef` repeats one of `luxOccupied` and `luxNonOccupied`, and `LiRef` repeats
`luxRef`.  Commands, a reset and `CAN_DO_CONSENSUS` write them in different places,
each of which decides on its own whether the consensus is started again.
-/

section Reference

variable {K : Type}

/-- `luxRef` is the reference of the occupancy. -/
def Luminaire.Consistent (luminaire : Luminaire K) : Prop :=
  luminaire.luxRef =
    if luminaire.occupied then
      luminaire.luxOccupied
    else
      luminaire.luxNonOccupied

/-- `setOccupied` makes a luminaire consistent. -/
theorem Luminaire.consistent_setOccupied
    [LinearOrder K]
    (luminaire : Luminaire K)
    (occupied : Bool) :
    (luminaire.setOccupied occupied).Consistent :=
  rfl

/--
What a command that sets something does to a luminaire, and whether it restarts the
consensus.
-/
structure Applied
    (luminaire after : Luminaire K)
    (restarts : Bool) : Prop where
  consistent : after.Consistent
  changed :
    after.luxRef ≠ luminaire.luxRef ∨ after.cost ≠ luminaire.cost →
    restarts = true
  unchanged :
    after.luxRef = luminaire.luxRef →
    after.cost = luminaire.cost →
    after.occupied = luminaire.occupied →
    restarts = false

/-- Without a change there is nothing to restart. -/
theorem Applied.refl
    {luminaire : Luminaire K}
    (consistent : luminaire.Consistent) :
    Applied luminaire luminaire false where
  consistent := consistent
  changed differs := by simp at differs
  unchanged _ _ _ := rfl

variable [Field K] [LinearOrder K]

/-- The node after a command that sets something: its luminaire, and the consensus. -/
def withLuminaire
    (node : Firmware K)
    (luminaire : Luminaire K)
    (restarts : Bool) : Firmware K :=
  if restarts then
    consensusInit { node with luminaire := luminaire }
  else
    { node with luminaire := luminaire }

/-- One case for each of the commands. -/
theorem executeCommand_applied
    {node : Firmware K}
    (consistent : node.luminaire.Consistent)
    (command : SetCommand K) :
    ∃ luminaire restarts,
      executeCommand node command =
          (withLuminaire node luminaire restarts, restarts) ∧
        Applied node.luminaire luminaire restarts := by
  have idle :
      executeCommand node command = (node, false) →
      ∃ luminaire restarts,
        executeCommand node command =
            (withLuminaire node luminaire restarts, restarts) ∧
          Applied node.luminaire luminaire restarts :=
    fun nothing => ⟨node.luminaire, false, nothing, .refl consistent⟩
  unfold Luminaire.Consistent at consistent
  cases command with
  | O value =>
      by_cases differs : node.luminaire.luxOccupied ≠ value
      · by_cases occupied : node.luminaire.occupied = true
        · rw [if_pos occupied] at consistent
          refine ⟨_, true,
            by simp only [executeCommand, if_pos differs, if_pos occupied]; rfl,
            ?_⟩
          exact
            { consistent := (if_pos occupied).symm
              changed := fun _ => rfl
              unchanged := fun same _ _ =>
                absurd (consistent.symm.trans same.symm) differs }
        · rw [if_neg occupied] at consistent
          refine ⟨_, false,
            by simp only [executeCommand, if_pos differs, if_neg occupied]; rfl,
            ?_⟩
          exact
            { consistent := consistent.trans (if_neg occupied).symm
              changed := fun changed => by simp at changed
              unchanged := fun _ _ _ => rfl }
      · exact idle (by simp only [executeCommand, if_neg differs])
  | U value =>
      by_cases differs : node.luminaire.luxNonOccupied ≠ value
      · by_cases occupied : node.luminaire.occupied = false
        · rw [if_neg (Bool.eq_false_iff.mp occupied)] at consistent
          refine ⟨_, true,
            by simp only [executeCommand, if_pos differs, if_pos occupied]; rfl,
            ?_⟩
          exact
            { consistent := (if_neg (Bool.eq_false_iff.mp occupied)).symm
              changed := fun _ => rfl
              unchanged := fun same _ _ =>
                absurd (consistent.symm.trans same.symm) differs }
        · have isOccupied : node.luminaire.occupied = true :=
            Bool.of_not_eq_false occupied
          rw [if_pos isOccupied] at consistent
          refine ⟨_, false,
            by simp only [executeCommand, if_pos differs, if_neg occupied]; rfl,
            ?_⟩
          exact
            { consistent := consistent.trans (if_pos isOccupied).symm
              changed := fun changed => by simp at changed
              unchanged := fun _ _ _ => rfl }
      · exact idle (by simp only [executeCommand, if_neg differs])
  | c value =>
      by_cases differs : node.luminaire.cost ≠ value
      · refine ⟨_, true,
          by simp only [executeCommand, if_pos differs]; rfl, ?_⟩
        exact
          { consistent := consistent
            changed := fun _ => rfl
            unchanged := fun _ same _ => absurd same.symm differs }
      · exact idle (by simp only [executeCommand, if_neg differs])
  | o value =>
      by_cases differs : decide (value = 1) ≠ node.luminaire.occupied
      · refine ⟨_, true,
          by simp only [executeCommand, if_pos differs]; rfl, ?_⟩
        exact
          { consistent := Luminaire.consistent_setOccupied _ _
            changed := fun _ => rfl
            unchanged := fun _ _ same => absurd same differs }
      · exact idle (by simp only [executeCommand, if_neg differs])

/-- Neither half of `consensus_main` changes a reference or switches the consensus on. -/
structure SameReference (node after : Firmware K) : Prop where
  occupied : after.luminaire.occupied = node.luminaire.occupied
  luxRef : after.luminaire.luxRef = node.luminaire.luxRef
  luxOccupied : after.luminaire.luxOccupied = node.luminaire.luxOccupied
  luxNonOccupied :
    after.luminaire.luxNonOccupied = node.luminaire.luxNonOccupied
  liRef : after.consensus.liRef = node.consensus.liRef

omit [Field K] [LinearOrder K] in
theorem SameReference.refl (node : Firmware K) : SameReference node node :=
  ⟨rfl, rfl, rfl, rfl, rfl⟩

omit [LinearOrder K] in
theorem sameReference_consensusUpdate (node : Firmware K) :
    SameReference node (consensusUpdate node) := by
  by_cases last : node.consensus.numIter + 1 = maxIter <;>
    constructor <;> simp [consensusUpdate, last]

omit [LinearOrder K] in
theorem sameReference_consensusMainWait (node : Firmware K) :
    SameReference node (consensusMainWait node) := by
  unfold consensusMainWait
  dsimp only
  split
  · rw [if_pos rfl]
    obtain ⟨occupied, luxRef, luxOccupied, luxNonOccupied, liRef⟩ :=
      sameReference_consensusUpdate
        { node with
          consensus := { node.consensus with consensusState := .update } }
    exact ⟨occupied, luxRef, luxOccupied, luxNonOccupied, liRef⟩
  · split
    · exact sameReference_consensusUpdate node
    · exact .refl node

theorem sameReference_consensusMain
    [FloorRing K]
    (node : Firmware K) :
    SameReference node (consensusMain node).1 := by
  have waits := sameReference_consensusMainWait (consensusMainSend node).1
  by_cases proposing :
      node.consensus.consensusState = .iterate ∨
        node.consensus.consensusState = .sendingDutyCycle
  · obtain ⟨proposal, buffer, sent⟩ := consensusMainSend_of_proposing proposing
    rw [sent] at waits
    unfold consensusMain
    rw [sent]
    obtain ⟨occupied, luxRef, luxOccupied, luxNonOccupied, liRef⟩ := waits
    exact ⟨occupied, luxRef, luxOccupied, luxNonOccupied, liRef⟩
  · rw [not_or] at proposing
    have nothing : consensusMainSend node = (node, []) := by
      unfold consensusMainSend
      rw [if_neg proposing.1, if_neg proposing.2]
    rw [nothing] at waits
    unfold consensusMain
    rw [nothing]
    exact waits

end Reference

/-- What happens to the references of a node: its own operations, and any other event. -/
inductive SetPointEvent (K : Type) where
  | executeCommand (command : Command)
  | consensusMain
  | other (event : LightingEvent K)

namespace LightingNode

variable {K : Type} [Field K] {node : LightingNode K}

/-- `luxRef` follows the occupancy, and `LiRef` follows `luxRef`. -/
structure SetPoint (node : LightingNode K) : Prop where
  luxRef : node.luminaire.Consistent
  liRef :
    node.consensus.consensusState ≠ .off →
    node.consensus.liRef = node.luminaire.luxRef

omit [Field K] in
/-- What keeps the references and switches nothing on keeps the set point. -/
theorem SetPoint.congr
    {after : LightingNode K}
    (setPoint : node.SetPoint)
    (same : SameReference node.firmware after.firmware)
    (started :
      after.consensus.consensusState ≠ .off →
        node.consensus.consensusState ≠ .off) :
    after.SetPoint where
  luxRef := by
    have occupied : after.luminaire.occupied = node.luminaire.occupied :=
      same.occupied
    have luxOccupied :
        after.luminaire.luxOccupied = node.luminaire.luxOccupied :=
      same.luxOccupied
    have luxNonOccupied :
        after.luminaire.luxNonOccupied = node.luminaire.luxNonOccupied :=
      same.luxNonOccupied
    rw [Luminaire.Consistent, occupied, luxOccupied, luxNonOccupied]
    exact same.luxRef.trans setPoint.luxRef
  liRef running :=
    calc
      after.consensus.liRef = node.consensus.liRef := same.liRef
      _ = node.luminaire.luxRef := setPoint.liRef (started running)
      _ = after.luminaire.luxRef := same.luxRef.symm

/-- `consensus.init()` takes the reference over. -/
theorem setPoint_initConsensus (consistent : node.luminaire.Consistent) :
    node.initConsensus.SetPoint where
  luxRef := consistent
  liRef _ := rfl

theorem setPoint_boot
    (nodeId : Nat)
    (cost : K) :
    (boot nodeId cost).SetPoint where
  luxRef := rfl
  liRef running := absurd rfl running

theorem setPoint_reset (node : LightingNode K) : node.reset.SetPoint where
  luxRef := rfl
  liRef running := absurd rfl running

section Executing

variable [LinearOrder K] (union : FloatTo4Bytes K)

/-- The consensus of a node was started on what its luminaire is now. -/
def Restarted (before after : LightingNode K) : Prop :=
  after.consensus =
    (consensusInit
      { before.firmware with luminaire := after.luminaire }).consensus

/--
A command that sets something broadcasts one `CAN_DO_CONSENSUS` and restarts the
consensus where it changes the reference or the cost, and broadcasts nothing where it
changes neither these nor the occupancy.
-/
structure RestartsOnChange
    (node : LightingNode K)
    (command : Command) : Prop where
  changed :
    let ran := node.executeCommand union command
    ran.1.luminaire.luxRef ≠ node.luminaire.luxRef ∨
        ran.1.luminaire.cost ≠ node.luminaire.cost →
      ran.2 = [.doConsensus] ∧ Restarted node ran.1
  unchanged :
    let ran := node.executeCommand union command
    ran.1.luminaire.luxRef = node.luminaire.luxRef →
      ran.1.luminaire.cost = node.luminaire.cost →
      ran.1.luminaire.occupied = node.luminaire.occupied →
      ran.2 = []

/-- The node and the broadcast after a command that sets something. -/
theorem executeCommand_of_set
    {command : Command}
    {set : SetCommand K}
    {luminaire : Luminaire K}
    {restarts : Bool}
    (isSet : command.setCommand union = some set)
    (ran :
      DistributedLighting.executeCommand node.firmware set =
        (withLuminaire node.firmware luminaire restarts, restarts)) :
    node.executeCommand union command =
      ({ node.withFirmware (withLuminaire node.firmware luminaire restarts) with
          initialised := if restarts then node.main else node.initialised
          initialRecord := if restarts then node.record else node.initialRecord },
        if restarts then [.doConsensus] else []) := by
  unfold LightingNode.executeCommand executeSet
  rw [isSet]
  dsimp only
  rw [ran]

/-- A command keeps the set point. -/
theorem SetPoint.executeCommand
    (setPoint : node.SetPoint)
    (command : Command) :
    (node.executeCommand union command).1.SetPoint := by
  have consistent : node.firmware.luminaire.Consistent := setPoint.luxRef
  cases isSet : command.setCommand union with
  | none =>
      unfold LightingNode.executeCommand
      rw [isSet]
      dsimp only
      split
      · exact setPoint_reset node
      · exact setPoint
  | some set =>
      obtain ⟨luminaire, restarts, ran, applied⟩ :=
        executeCommand_applied consistent set
      rw [executeCommand_of_set union isSet ran]
      cases restarts with
      | true =>
          exact ⟨applied.consistent, fun _ => rfl⟩
      | false =>
          refine ⟨applied.consistent, fun running => ?_⟩
          have same : luminaire.luxRef = node.luminaire.luxRef := by
            by_contra differs
            exact Bool.false_ne_true (applied.changed (.inl differs))
          exact (setPoint.liRef running).trans same.symm

/-- A command that sets something restarts the consensus on a change. -/
theorem SetPoint.restartsOnChange
    (setPoint : node.SetPoint)
    {command : Command}
    (sets : (command.setCommand union).isSome = true) :
    RestartsOnChange union node command := by
  have consistent : node.firmware.luminaire.Consistent := setPoint.luxRef
  obtain ⟨set, isSet⟩ := Option.isSome_iff_exists.mp sets
  obtain ⟨luminaire, restarts, ran, applied⟩ :=
    executeCommand_applied consistent set
  have executed := executeCommand_of_set union isSet ran
  have isLuminaire :
      (node.executeCommand union command).1.luminaire = luminaire := by
    rw [executed]
    cases restarts with
    | true => rfl
    | false => rfl
  constructor
  · dsimp only
    intro changed
    rw [isLuminaire] at changed
    have restarted := applied.changed changed
    subst restarted
    rw [executed]
    exact ⟨rfl, rfl⟩
  · dsimp only
    intro sameReference sameCost sameOccupied
    rw [isLuminaire] at sameReference sameCost sameOccupied
    have kept := applied.unchanged sameReference sameCost sameOccupied
    subst kept
    rw [executed]
    rfl

end Executing

section Running

variable
  [LinearOrder K] [FloorRing K] {union : FloatTo4Bytes K}
  {overrun : Nat → K → Nat} {voltageToLux : K → K}

/-- React to an event that concerns the references. -/
def setPointNext
    (union : FloatTo4Bytes K)
    (overrun : Nat → K → Nat)
    (voltageToLux : K → K)
    (node : LightingNode K) : SetPointEvent K → Option (LightingNode K)
  | .executeCommand command => some (node.executeCommand union command).1
  | .consensusMain => some node.runConsensus.1
  | .other event => node.step union overrun voltageToLux event

/-- `consensus_main()` keeps the set point. -/
theorem SetPoint.runConsensus (setPoint : node.SetPoint) :
    node.runConsensus.1.SetPoint := by
  unfold LightingNode.runConsensus
  split
  · exact setPoint
  · next running =>
      obtain ⟨occupied, luxRef, luxOccupied, luxNonOccupied, liRef⟩ :=
        sameReference_consensusMain node.firmware
      exact
        setPoint.congr ⟨occupied, luxRef, luxOccupied, luxNonOccupied, liRef⟩
          fun _ => running

omit [LinearOrder K] [FloorRing K] in
/-- The main machine starts the consensus at the end of the calibration, or leaves it. -/
theorem SetPoint.runMainFSM
    (setPoint : node.SetPoint)
    (input : LoopInput K) :
    (node.runMainFSM voltageToLux input).1.SetPoint := by
  unfold LightingNode.runMainFSM
  dsimp only
  split
  · exact setPoint_initConsensus setPoint.luxRef
  · exact setPoint.congr ⟨rfl, rfl, rfl, rfl, rfl⟩ id

omit [FloorRing K] in
theorem SetPoint.received
    [FloorRing K]
    {sender : Nat}
    {frame : LightingFrame K}
    {ran : LightingNode K × List (LightingFrame K)}
    (setPoint : node.SetPoint)
    (taken : node.received union overrun sender frame = some ran) :
    ran.1.SetPoint := by
  unfold LightingNode.received at taken
  split at taken
  · obtain ⟨⟩ := taken
    exact setPoint.executeCommand union _
  · obtain ⟨main, -, isRan⟩ := Option.map_eq_some_iff.mp taken
    subst isRan
    exact setPoint.congr ⟨rfl, rfl, rfl, rfl, rfl⟩ id
  · next data =>
      obtain ⟨⟩ := taken
      obtain ⟨entries, count, received⟩ :=
        receivedConsensus_eq overrun data node.firmware
      rw [received]
      exact setPoint.congr ⟨rfl, rfl, rfl, rfl, rfl⟩ id
  · obtain ⟨⟩ := taken
    exact setPoint_initConsensus setPoint.luxRef

/-- Every event keeps the set point. -/
theorem SetPoint.next
    {event : SetPointEvent K}
    {after : LightingNode K}
    (setPoint : node.SetPoint)
    (taken :
      node.setPointNext union overrun voltageToLux event = some after) :
    after.SetPoint := by
  cases event with
  | executeCommand command =>
      obtain ⟨⟩ := taken
      exact setPoint.executeCommand union command
  | consensusMain =>
      obtain ⟨⟩ := taken
      exact setPoint.runConsensus
  | other event =>
      obtain ⟨ran, isRan, isAfter⟩ := Option.map_eq_some_iff.mp taken
      subst isAfter
      cases event with
      | frame sender frame => exact setPoint.received isRan
      | command command =>
          obtain ⟨⟩ := isRan
          unfold readCommand
          split
          · exact setPoint.executeCommand union command
          · exact setPoint.congr ⟨rfl, rfl, rfl, rfl, rfl⟩ id
      | discovery hadResponse =>
          obtain ⟨⟩ := isRan
          exact setPoint.congr ⟨rfl, rfl, rfl, rfl, rfl⟩ id
      | loop input =>
          obtain ⟨⟩ := isRan
          exact (setPoint.runMainFSM input).runConsensus

/--
In every run from `setup()`, `luxRef` is the reference of the occupancy, `LiRef` is
`luxRef` while the consensus runs, and a command that sets something restarts the
consensus exactly once where it changes the reference or the cost.
-/
theorem setPoint_of_run
    {nodeId : Nat}
    {cost : K}
    (run :
      Run (setPointNext union overrun voltageToLux) (fun _ _ => True)
        (boot nodeId cost) node) :
    node.SetPoint ∧
      ∀ command : Command,
        command.cmd ∈ ['O', 'U', 'o', 'c'].map byteOf →
        RestartsOnChange union node command := by
  have setPoint : node.SetPoint :=
    run.invariant SetPoint (setPoint_boot nodeId cost)
      fun before _ taken => before.next taken
  refine ⟨setPoint, fun command isSet => ?_⟩
  apply setPoint.restartsOnChange
  rw [Command.setCommand]
  simp only [List.map_cons, List.map_nil, List.mem_cons, List.not_mem_nil,
    or_false] at isSet
  rcases isSet with isSet | isSet | isSet | isSet <;> rw [isSet] <;> rfl

end Running

/-- The occupancy is switched on, the reference for it changes, and the consensus runs. -/
theorem setPoint_of_run_occupied :
    ∃ node : LightingNode ℚ,
      Run (setPointNext rationalSingle (fun count _ => count) id)
          (fun _ _ => True) (boot 1 0) node ∧
        node.consensus.consensusState ≠ .off ∧
        node.luminaire.luxRef = 50 ∧
        node.SetPoint := by
  obtain ⟨node, run, observed⟩ :=
    exists_run_of_observed
      (setPointNext rationalSingle (fun count _ => count) id)
      (fun _ _ => True)
      (boot 1 0)
      [.executeCommand ⟨byteOf 'o', 1, 1⟩,
        .executeCommand ⟨byteOf 'O', 1, 0x42480000⟩, .consensusMain,
        .other (.frame 2 .doConsensus)]
      (fun node =>
        node.consensus.consensusState ≠ .off ∧ node.luminaire.luxRef = 50)
      (by decide +kernel)
  have seen := of_decide_eq_true observed
  exact ⟨node, run, seen.1, seen.2, (setPoint_of_run run).1⟩

end LightingNode

end DistributedLighting
