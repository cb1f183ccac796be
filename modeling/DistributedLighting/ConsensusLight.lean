import DistributedLighting.ConsensusDuality
import DistributedLighting.LightField

namespace DistributedLighting

/-!
# The light that the consensus agrees on

The calibration and the consensus put together.  Nodes that hold what a calibration
has learned, and that then run the consensus to its end, each take as their new
reference the light that their desk really has under the duty cycles of their last
proposal.  A proposal that passes `check_feasibility` gives the desk the light that
was asked for.
-/

section LastRound

variable {K : Type} [Field K]

/-- The last `UPDATE_STATE` of a run sets the new reference. -/
theorem consensusUpdate_luxRefAfterConsensus
    {node : Firmware K}
    (last : node.consensus.numIter + 1 = maxIter) :
    (consensusUpdate node).luminaire.luxRefAfterConsensus =
      multiplyTwoArrays node.numTotalNodes node.consensus.dutyCycleBest
          node.consensus.ki +
        node.residualArray node.consensus.nodeIdx := by
  simp [consensusUpdate, last]

/-- Every other one counts. -/
theorem consensusUpdate_numIter
    {node : Firmware K}
    (before : node.consensus.numIter + 1 ≠ maxIter) :
    (consensusUpdate node).consensus.numIter =
      node.consensus.numIter + 1 := by
  simp [consensusUpdate, before]

variable [LinearOrder K] [FloorRing K] {N : Nat}

/-- A node counts the rounds of the lockstep until the last one. -/
theorem lockstep_numIter
    (nodes : Fin N → Firmware K)
    {rounds : Nat}
    (before : rounds < maxIter)
    (n : Fin N) :
    (lockstep nodes rounds n).consensus.numIter = rounds := by
  induction rounds with
  | zero =>
      rfl
  | succ rounds inductionHypothesis =>
      have counted := inductionHypothesis (Nat.lt_of_succ_lt before)
      have notLast :
          (lockstep nodes rounds n).consensus.numIter + 1 ≠ maxIter := by
        rw [counted]
        exact Nat.ne_of_lt before
      refine (consensusUpdate_numIter ?_).trans ?_
      · exact notLast
      · exact congrArg (· + 1) counted

/-- After the last round the reference is what the last proposal gives. -/
theorem lockstepRound_luxRefAfterConsensus
    {nodes : Fin N → Firmware K}
    {n : Fin N}
    (last : (nodes n).consensus.numIter + 1 = maxIter) :
    (lockstepRound nodes n).luminaire.luxRefAfterConsensus =
      multiplyTwoArrays (lockstepRound nodes n).numTotalNodes
          (lockstepRound nodes n).consensus.dutyCycleBest
          (lockstepRound nodes n).consensus.ki +
        (lockstepRound nodes n).residualArray
          (lockstepRound nodes n).consensus.nodeIdx := by
  have task := sameTask_lockstepRound nodes n
  rw [lockstepRound_dutyCycleBest, task.gains.numTotalNodes, task.gains.ki,
    task.gains.nodeIdx, task.residualArray]
  exact consensusUpdate_luxRefAfterConsensus last

/-- The consensus works for the reference in force. -/
theorem lockstep_liRef
    (nodes : Fin N → Firmware K)
    (rounds : Nat)
    (n : Fin N) :
    (lockstep nodes rounds n).consensus.liRef =
      (lockstep nodes rounds n).luminaire.luxRef := by
  induction rounds with
  | zero =>
      rfl
  | succ rounds inductionHypothesis =>
      have same :=
        sameReference_consensusUpdate
          ((consensusIterate (lockstep nodes rounds n)).setReceived
            (heard (lockstep nodes rounds) n) (numMessages N * (N - 1)))
      refine same.liRef.trans ?_
      refine Eq.trans ?_ same.luxRef.symm
      exact inductionHypothesis

end LastRound

namespace Net

section Calibrated

variable {K : Type} {N : Nat}

/-- The nodes hold what a calibration has left in `calibrationFSM`. -/
structure HoldsCalibration
    (learned : CalibNet K N)
    (start : Net K N) : Prop where
  index : ∀ n, (start.node n).nodeIndex = n
  gainMatrix :
    ∀ n desk index : Fin N,
      (start.node n).gainMatrix desk index =
        (learned.node n).fsm.gainMatrix desk index
  residualArray :
    ∀ n desk : Fin N,
      (start.node n).residualArray desk =
        (learned.node n).fsm.residualArray desk

variable [Field K] [LinearOrder K] [FloorRing K]
    {field : LightField K}
    {learned : CalibNet K N}
    {overrun : Nat → K → Nat}
    {starter : Fin N}
    {start net : Net K N}

/-- What a proposal gives a node that knows the light is the light at its desk. -/
theorem lux_of_lockstep
    (launched : Launched overrun starter start)
    (holds : HoldsCalibration learned start)
    (gains :
      ∀ n desk index : Fin N,
        (learned.node n).fsm.gainMatrix desk index = field.share desk index)
    (residuals :
      ∀ n desk : Fin N,
        (learned.node n).fsm.residualArray desk = field.daylight desk)
    (rounds : Nat)
    (n : Fin N)
    (vector : Nat → K) :
    multiplyTwoArrays (lockstep start.node rounds n).numTotalNodes vector
          (lockstep start.node rounds n).consensus.ki +
        (lockstep start.node rounds n).residualArray
          (lockstep start.node rounds n).consensus.nodeIdx =
      field.lux n fun k : Fin N => vector k * 255 / 100 := by
  have task := sameTask_lockstep start.node rounds n
  have size : (start.node n).numTotalNodes = N := size_of_launched launched n
  have residual :
      (lockstep start.node rounds n).residualArray
          (lockstep start.node rounds n).consensus.nodeIdx =
        field.daylight n := by
    rw [task.residualArray, task.gains.nodeIdx]
    show (start.node n).residualArray (start.node n).nodeIndex = _
    rw [holds.index, holds.residualArray, residuals]
  have ki :
      ∀ slot : Fin N,
        (lockstep start.node rounds n).consensus.ki slot =
          percentGain (field.share n slot) := by
    intro slot
    have inVector : slot.val < (start.node n).numTotalNodes := by
      rw [size]
      exact slot.isLt
    rw [task.gains.ki]
    show
      (if slot.val < (start.node n).numTotalNodes then
        percentGain ((start.node n).gainMatrix (start.node n).nodeIndex slot)
      else
        (start.node n).consensus.ki slot) = _
    rw [if_pos inVector, holds.index, holds.gainMatrix, gains]
  have registry : (lockstep start.node rounds n).numTotalNodes = N :=
    task.gains.numTotalNodes.trans size
  rw [residual, registry, add_comm]
  unfold multiplyTwoArrays LightField.lux
  rw [Finset.sum_range]
  refine congrArg (field.daylight n + ·) ?_
  refine Finset.sum_congr rfl fun slot _ => ?_
  rw [ki slot, percentGain]
  ring

end Calibrated

section EndToEnd

variable {K : Type} [Field K] [LinearOrder K] [IsStrictOrderedRing K]
    [FloorRing K] {N : Nat}
    {field : LightField K} {registry : Registry N}
    {stray : Fin N → K} {voltageToLux : K → K}
    {fresh learned : CalibNet K N}
    {overrun : Nat → K → Nat}
    {starter : Fin N}
    {start net : Net K N}

/--
After a calibration with honest and shielded sensors and a whole consensus, in
whatever schedules, a node's new reference is the light that its desk has when every
LED shines as the node last proposed, and it is at most the tolerance of
`check_feasibility` below what was asked for, if the proposal passes that check.
-/
theorem luxRefAfterConsensus_of_run
    (spare : N < maxNumNodes)
    (nonneg : ∀ desk < N, ∀ index < N, 0 ≤ field.share desk index)
    (positive : ∀ voltage, voltageToLux voltage ≥ 0)
    (reset : CalibNet.Fresh fresh)
    (calibration :
      Run (CalibNet.next registry voltageToLux)
        (fun net action =>
          CalibNet.Learning field registry stray voltageToLux net action ∧
            CalibNet.PlacesResidual net action)
        fresh learned)
    (done : ∀ n, (learned.node n).fsm.done = true)
    (holds : HoldsCalibration learned start)
    (launched : Launched overrun starter start)
    (consensus : Run (next overrun) Undisturbed start net)
    {n : Fin N}
    (completed : net.completed n = maxIter) :
    (net.node n).luminaire.luxRefAfterConsensus =
        (field.lux n fun k : Fin N =>
          (net.node n).consensus.dutyCycleBest k * 255 / 100) ∧
      (checkFeasibility (net.node n)
            (net.node n).consensus.dutyCycleBest = true →
        (net.node n).luminaire.luxRef - 1 / 100 ≤
          (net.node n).luminaire.luxRefAfterConsensus) := by
  have follows := nodeFollows_of_run spare launched consensus n
  have invariant := runInvariant_of_run spare launched consensus
  -- A node that has completed all rounds is awake and off.
  have awake : net.restarts n ≠ [] := by
    intro asleep
    have none := ((invariant.nodes n).asleep asleep).2.1
    rw [completed] at none
    cases none
  have isOff : (net.node n).consensus.consensusState = .off := by
    rcases ((invariant.nodes n).joined awake).2.phase with
      ⟨_, _, before⟩ | ⟨off, _⟩
    · omega
    · exact off
  have estimate :
      (net.node n).estimate =
        (lockstep start.node (net.completed n) n).estimate := by
    refine follows.between awake ?_
    rw [isOff]
    simp
  obtain ⟨rounds, all⟩ : ∃ rounds, rounds + 1 = maxIter := ⟨49, rfl⟩
  rw [completed, ← all] at estimate
  have last :
      (lockstep start.node rounds n).consensus.numIter + 1 = maxIter := by
    rw [lockstep_numIter start.node (by omega), all]
  have reference :
      (net.node n).luminaire.luxRefAfterConsensus =
        (lockstep start.node (rounds + 1) n).luminaire.luxRefAfterConsensus :=
    congrArg (fun node => node.luminaire.luxRefAfterConsensus) estimate
  have proposed :
      (net.node n).consensus.dutyCycleBest =
        (lockstep start.node (rounds + 1) n).consensus.dutyCycleBest :=
    congrArg (fun node => node.consensus.dutyCycleBest) estimate
  have luxRef :
      (net.node n).luminaire.luxRef =
        (lockstep start.node (rounds + 1) n).luminaire.luxRef :=
    congrArg (fun node => node.luminaire.luxRef) estimate
  have gains :
      ∀ m desk index : Fin N,
        (learned.node m).fsm.gainMatrix desk index =
          field.share desk index := by
    intro m desk index
    obtain ⟨known, carried⟩ :=
      CalibNet.learned_gain_of_run spare.le nonneg
        (fun permitted => permitted.1) reset calibration index
    exact known.gainMatrix_of_done done m desk index carried
  have residuals :
      ∀ m desk : Fin N,
        (learned.node m).fsm.residualArray desk = field.daylight desk := by
    intro m desk
    obtain ⟨known, carried⟩ :=
      CalibNet.learned_residual_of_run spare.le positive reset calibration
    exact known.residualArray_of_done done m desk carried
  have light :
      (net.node n).luminaire.luxRefAfterConsensus =
        field.lux n fun k : Fin N =>
          (net.node n).consensus.dutyCycleBest k * 255 / 100 := by
    rw [reference, proposed]
    exact
      (lockstepRound_luxRefAfterConsensus last).trans
        (lux_of_lockstep launched holds gains residuals (rounds + 1) n _)
  refine ⟨light, fun passes => ?_⟩
  -- The check of the node itself reads the task of the lockstep.
  have task := sameTask_of_estimate estimate
  have liRef :
      (net.node n).consensus.liRef = (net.node n).luminaire.luxRef := by
    rw [task.liRef, luxRef]
    exact lockstep_liRef start.node (rounds + 1) n
  have lit :
      multiplyTwoArrays (net.node n).numTotalNodes
            (net.node n).consensus.dutyCycleBest
            (net.node n).consensus.ki +
          (net.node n).residualArray (net.node n).consensus.nodeIdx =
        (net.node n).luminaire.luxRefAfterConsensus := by
    rw [light, task.gains.numTotalNodes, task.gains.ki,
      task.gains.nodeIdx, task.residualArray]
    exact lux_of_lockstep launched holds gains residuals (rounds + 1) n _
  have met := ((checkFeasibility_iff _).mp passes).2.2
  rw [liRef] at met
  linarith

end EndToEnd

section Schedules

open CalibNet in
/-- The calibrated nodes of two desks, before their first consensus. -/
def afterCalibration : Net ℚ 2 :=
  { idle 2 with
    node := fun n =>
      .calibrated 2 n twoDesks.share twoDesks.daylight 1 }

/-- One of the desks is occupied. -/
def deskOccupied (desk : Fin 2) : Net ℚ 2 :=
  afterCalibration.execute desk (.o 1)

theorem launched_deskOccupied (overrun : Nat → ℚ → Nat) :
    Launched overrun 0 (deskOccupied 0) := by
  refine ⟨afterCalibration, .o 1, ?_, by decide +kernel, rfl⟩
  exact
    { registry := fun _ => rfl
      off := fun _ => rfl
      quiet := rfl
      notSending := fun _ _ sending => by cases sending
      noneCompleted := fun _ => rfl
      noneCounted := fun _ => rfl
      noRestart := fun _ => rfl }

/-- A further round of two nodes that are level. -/
def furtherRound (first second : Fin 2) : List (Action ℚ 2) :=
  drainAndStart first 0 ++ transmitFrames first 1 ++ [⟨first, .endMain⟩] ++
    drainAndStart second 1 ++ transmitFrames second 1 ++
    [⟨second, .endMain⟩] ++
    drainAndStart first 1 ++ [⟨first, .endMain⟩]

/-- Two nodes calibrate, desk 0 is occupied, and the consensus runs to its end. -/
theorem luxRefAfterConsensus_of_run_two_desks :
    ∃ learned net,
      Run (CalibNet.next (CalibNet.consecutive 2) abs)
          (fun net action =>
            CalibNet.Learning CalibNet.twoDesks (CalibNet.consecutive 2)
                (fun _ => 0) abs net action ∧
              CalibNet.PlacesResidual net action)
          (CalibNet.booted 2) learned ∧
        HoldsCalibration learned (deskOccupied 0) ∧
        Run (next fun count _ => count) Undisturbed (deskOccupied 0) net ∧
        net.completed 0 = maxIter ∧
        (net.node 0).luminaire.luxRefAfterConsensus =
          CalibNet.twoDesks.lux 0 fun k : Fin 2 =>
            (net.node 0).consensus.dutyCycleBest k * 255 / 100 := by
  obtain ⟨learned, calibration, observed⟩ :=
    exists_run_of_observed
      (CalibNet.next (CalibNet.consecutive 2) abs)
      (fun net action =>
        CalibNet.Learning CalibNet.twoDesks (CalibNet.consecutive 2)
            (fun _ => 0) abs net action ∧
          CalibNet.PlacesResidual net action)
      (CalibNet.booted 2)
      (CalibNet.learnTwoDesks 0 1)
      (fun learned =>
        decide
          ((∀ n, (learned.node n).fsm.done = true) ∧
            (∀ n desk index : Fin 2,
              ((deskOccupied 0).node n).gainMatrix desk index =
                (learned.node n).fsm.gainMatrix desk index) ∧
            ∀ n desk : Fin 2,
              ((deskOccupied 0).node n).residualArray desk =
                (learned.node n).fsm.residualArray desk))
      (by decide +kernel)
  obtain ⟨net, consensus, completed⟩ :=
    exists_run_of_observed
      (next fun count _ => count)
      Undisturbed
      (deskOccupied 0)
      (oneRound 1 0 ++ (List.replicate 49 (furtherRound 0 1)).flatten)
      (fun net => decide (net.completed 0 = maxIter))
      (by decide +kernel)
  rw [decide_eq_true_eq] at observed completed
  obtain ⟨done, gainMatrix, residualArray⟩ := observed
  have holds : HoldsCalibration learned (deskOccupied 0) :=
    ⟨by decide +kernel, gainMatrix, residualArray⟩
  have light :=
    luxRefAfterConsensus_of_run (by decide)
      (fun desk _ index _ => CalibNet.twoDesks_share_nonneg desk index)
      abs_nonneg (CalibNet.fresh_booted 2) calibration done holds
      (launched_deskOccupied _) consensus completed
  exact
    ⟨learned, net, calibration, holds, consensus, completed, light.1⟩

end Schedules

end Net

end DistributedLighting
