import DistributedLighting.CalibrationMatrices

namespace DistributedLighting

/-!
# The indices that a calibration uses

`residualArray` and `gainMatrix` are indexed by the place of a node in
`nodesList`, except in `runStateWaitTrasient`, which indexes `residualArray` with
the id itself.  A run is observed together with the accesses that it makes.
-/

/-- One access to the arrays of the calibration. -/
inductive CalibAccess (K : Type) where
  /-- A store in `residualArray`. -/
  | residual (index : Nat)
  /-- A store in `gainMatrix`. -/
  | gain (row column : Nat)
  /-- A residual is subtracted from a reading of a node that has measured `own` itself. -/
  | subtract (index : Nat) (value own : K)

namespace CalibAccess

variable {K : Type}

/-- The indices are those of registered nodes. -/
def InRange (N : Nat) : CalibAccess K → Prop
  | .residual index => index < N
  | .gain row column => row < N ∧ column < N
  | .subtract index _ _ => index < N

/-- What is subtracted is what the node has measured in its own `CalibInit`. -/
def SubtractsOwn : CalibAccess K → Prop
  | .subtract _ value own => value = own
  | _ => True

/-- The access is a store. -/
def IsStore : CalibAccess K → Prop
  | .subtract _ _ _ => False
  | _ => True

end CalibAccess

namespace CalibNode

variable {K : Type} {N : Nat}

/-- The accesses of `Communication::received`. -/
def receiveAccesses
    [Field K] [LinearOrder K]
    (node : CalibNode K N)
    (entry : Entry (Fin N) (CalibFrame K)) : List (CalibAccess K) :=
  match entry.frame.message with
  | .calibLedOn => []
  | .calibReady gainValue =>
      if gainValue ≥ 0 then
        if node.fsm.nodeLedOn = -1 then
          [.residual entry.sender]
        else
          [.gain entry.sender (toUint8 node.fsm.nodeLedOn)]
      else
        []

/-- The accesses of `mainFSM.loop()`. -/
def mainAccesses
    (registry : Registry N)
    (n : Fin N)
    (input : MainInput K)
    (node : CalibNode K N) : List (CalibAccess K) :=
  if node.mainState = .calibrate then
    match node.fsm.state with
    | .calibInit => [.residual n]
    | .waitReady => []
    | .waitLedOn => []
    | .waitTransient =>
        if node.fsm.Elapsed input.now then
          .subtract (registry.nodesList n)
              (node.fsm.residualOfId (registry.nodesList n) input.stray)
              node.residual ::
            if node.fsm.luxReadNum + 1 = 2 then
              [.gain n (toUint8 node.fsm.nodeLedOn)]
            else
              []
        else
          []
  else
    []

end CalibNode

namespace CalibNet

variable {K : Type} {N : Nat} [Field K] [LinearOrder K]

/-- The accesses of a step. -/
def accesses
    (registry : Registry N)
    (net : CalibNet K N)
    (action : CalibAction K N) : List (CalibAccess K) :=
  match action.does with
  | .take =>
      (net.bus.fifo action.node).head?.elim []
        (net.node action.node).receiveAccesses
  | .mainLoop input =>
      (net.node action.node).mainAccesses registry action.node input
  | .beginDrain => []
  | .endDrain => []

/-- A step, with the accesses of the run so far. -/
def observe
    (registry : Registry N)
    (voltageToLux : K → K)
    (seen : CalibNet K N × List (CalibAccess K))
    (action : CalibAction K N) :
    Option (CalibNet K N × List (CalibAccess K)) :=
  (next registry voltageToLux seen.1 action).map fun after =>
    (after, seen.2 ++ seen.1.accesses registry action)

/-- Every index is that of a registered node, and every node subtracts its own residual. -/
structure WellIndexed
    (N : Nat)
    (accesses : List (CalibAccess K)) : Prop where
  inRange : ∀ access ∈ accesses, access.InRange N
  own : ∀ access ∈ accesses, access.SubtractsOwn

end CalibNet

namespace Registry

variable {N : Nat}

/-- Ids start at one, so the largest id is no index. -/
theorem exists_id_ge
    (registry : Registry N)
    (positive : ∀ index < N, 0 < registry.nodesList index)
    (someNode : 0 < N) :
    ∃ n : Fin N, N ≤ registry.nodesList n := by
  by_contra none
  push Not at none
  have into :
      ∀ n ∈ (Finset.univ : Finset (Fin N)),
        registry.nodesList n ∈ Finset.Ico 1 N := by
    intro n _
    exact Finset.mem_Ico.mpr ⟨positive n n.isLt, none n⟩
  have fewer : (Finset.Ico 1 N).card < (Finset.univ : Finset (Fin N)).card := by
    rw [Nat.card_Ico, Finset.card_univ, Fintype.card_fin]
    exact Nat.sub_lt someNode Nat.one_pos
  obtain ⟨first, _, second, _, different, same⟩ :=
    Finset.exists_ne_map_eq_of_card_lt_of_maps_to fewer into
  apply different
  exact Fin.ext ((registry.nodesList_inj first.isLt second.isLt).mp same)

end Registry

namespace CalibrationFSM

variable {K : Type} {fsm : CalibrationFSM K}

/-- The machine has taken no reading yet since its `CalibInit`. -/
structure Unmeasured (fsm : CalibrationFSM K) : Prop where
  notDone : fsm.done = false
  noReading : fsm.luxReadNum = 0
  first :
    fsm.state = .calibInit ∨ fsm.nodeLedOn = -1 ∨ fsm.nodeLedOn = 0

/-- Only the progress of the machine matters. -/
theorem Unmeasured.congr
    {after : CalibrationFSM K}
    (unmeasured : fsm.Unmeasured)
    (state : after.state = fsm.state)
    (nodeLedOn : after.nodeLedOn = fsm.nodeLedOn)
    (luxReadNum : after.luxReadNum = fsm.luxReadNum)
    (done : after.done = fsm.done) :
    after.Unmeasured where
  notDone := done.trans unmeasured.notDone
  noReading := luxReadNum.trans unmeasured.noReading
  first := by
    rw [state, nodeLedOn]
    exact unmeasured.first

/-- A frame is no reading. -/
theorem Unmeasured.received
    [Field K] [LinearOrder K]
    (unmeasured : fsm.Unmeasured)
    (sender : Nat)
    (message : CalibMessage K) :
    (fsm.received sender message).Unmeasured := by
  cases message with
  | calibReady value =>
      obtain ⟨gains, residuals, stored⟩ := fsm.received_calibReady sender value
      rw [stored]
      exact unmeasured.congr rfl rfl rfl rfl
  | calibLedOn => exact unmeasured.congr rfl rfl rfl rfl

/-- Without a reading the first LED is the next one. -/
theorem Unmeasured.advance
    (unmeasured : fsm.Unmeasured)
    (ready : fsm.state = .waitReady) :
    fsm.advance.Unmeasured ∧ fsm.advance.nodeLedOn = 0 := by
  have notInit : fsm.state ≠ .calibInit := by
    rw [ready]
    decide
  have next : fsm.advance.nodeLedOn = 0 ∧ fsm.advance.luxReadNum = 0 := by
    unfold CalibrationFSM.advance
    rcases unmeasured.first.resolve_left notInit with before | first
    · rw [if_pos (.inl before), before]
      exact ⟨rfl, rfl⟩
    · have notYet : ¬ (fsm.nodeLedOn = -1 ∨ fsm.luxReadNum = 2) := by
        rw [first, unmeasured.noReading]
        decide
      rw [if_neg notYet]
      exact ⟨first, unmeasured.noReading⟩
  refine ⟨⟨?_, next.2, .inr (.inr next.1)⟩, next.1⟩
  rw [fsm.advance_frame.2.2.2.1]
  exact unmeasured.notDone

end CalibrationFSM

/-- Before the first barrier no LED has been chosen. -/
theorem Phase.first_of_none
    {K : Type}
    {N : Nat}
    {n : Fin N}
    {fsm : CalibrationFSM K}
    {passed : Nat}
    (phase : Phase N n fsm passed)
    (none : passed = 0) :
    fsm.state = .calibInit ∨ fsm.nodeLedOn = -1 := by
  cases phase with
  | calibInit state _ _ _ => exact .inl state
  | residual _ _ led _ _ => exact .inr led
  | awaiting _ some _ _ _ _ _ => omega
  | transient _ some _ _ _ _ => omega
  | measured _ some _ _ _ _ => omega
  | finished _ all _ _ => omega

namespace CalibNet

variable {K : Type} {N : Nat}
    {registry : Registry N} {voltageToLux : K → K}

/-- Each measurement subtracts what is stored under the id. -/
theorem subtract_mem_mainAccesses
    {n : Fin N}
    {input : MainInput K}
    {node : CalibNode K N}
    (calibrating : node.mainState = .calibrate)
    (transient : node.fsm.state = .waitTransient)
    (elapsed : node.fsm.Elapsed input.now) :
    .subtract (registry.nodesList n)
        (node.fsm.residualOfId (registry.nodesList n) input.stray)
        node.residual ∈
      node.mainAccesses registry n input := by
  unfold CalibNode.mainAccesses
  rw [if_pos calibrating, transient]
  dsimp only
  rw [if_pos elapsed]
  exact List.mem_cons_self

section Labels

variable {net : CalibNet K N} {n : Fin N}

/-- The LED of an unfinished step belongs to a registered node. -/
theorem CalibInvariant.designated_lt
    (invariant : CalibInvariant net)
    (some : 1 ≤ (net.node n).passed)
    (within : (net.node n).passed ≤ 2 * N)
    (fits : N ≤ maxNumNodes) :
    toUint8 (net.node n).fsm.nodeLedOn < N := by
  have inside : designated (net.node n).passed < N := by
    unfold designated
    omega
  have small : designated (net.node n).passed < 256 := by
    unfold maxNumNodes at fits
    omega
  rw [(invariant.nodes n).phase.nodeLedOn_eq some,
    CalibrationFSM.toUint8_natCast small]
  exact inside

/-- A node that is done receives no `CAN_CALIB_READY` any more. -/
theorem CalibInvariant.passed_le_of_queued
    (invariant : CalibInvariant net)
    {entry : Entry (Fin N) (CalibFrame K)}
    {label : Nat}
    (queued : entry ∈ net.bus.fifo n)
    (labelled : entry.frame.readyStep? = some label) :
    (net.node n).passed ≤ 2 * N := by
  by_contra finished
  have onBus := (Bus.mem_log_of_mem_fifo queued).1
  have lower := (invariant.label_bounds queued labelled).1
  have upper : label ≤ (net.node entry.sender).passed :=
    invariant.barrier.label_le_round onBus labelled
  have phase := (invariant.nodes entry.sender).phase
  have limit := phase.passed_le
  have done : (net.node entry.sender).fsm.done = true :=
    phase.done_iff.mpr (by omega)
  have unsent : (net.node entry.sender).readySent = 0 := by
    unfold CalibNode.readySent
    rw [done]
    exact if_neg fun both => Bool.noConfusion both.2
  have isPassed : label = (net.node entry.sender).passed := by omega
  apply invariant.label_ne_passed onBus unsent
  rw [labelled, isPassed]

/-- Storing what a node has read itself uses the index of a registered node. -/
theorem CalibInvariant.inRange_mainAccesses
    (invariant : CalibInvariant net)
    (fits : N ≤ maxNumNodes)
    (n : Fin N)
    (input : MainInput K) :
    ∀ access ∈ (net.node n).mainAccesses registry n input,
      access.IsStore → access.InRange N := by
  intro access member isStore
  unfold CalibNode.mainAccesses at member
  split at member
  · split at member
    · rw [List.mem_singleton.mp member]
      exact n.isLt
    · cases member
    · cases member
    · rename_i transient
      obtain ⟨some, within, _⟩ :=
        (invariant.nodes n).phase.of_waitTransient transient
      split at member
      · rcases List.mem_cons.mp member with subtracts | stores
        · rw [subtracts] at isStore
          exact isStore.elim
        · split at stores
          · rw [List.mem_singleton.mp stores]
            exact ⟨n.isLt, invariant.designated_lt some within fits⟩
          · cases stores
      · cases member
  · cases member

end Labels

variable [Field K]

/-- A run of `mainFSM.loop()` either measures or leaves the node without a reading. -/
theorem measures_or_unmeasured
    {n : Fin N}
    {input : MainInput K}
    {node : CalibNode K N}
    {ran : Ran K N}
    (case : CalibNode.MainCase registry voltageToLux n input node ran)
    (unmeasured : node.fsm.Unmeasured) :
    (∃ value own,
        .subtract (registry.nodesList n) value own ∈
          node.mainAccesses registry n input) ∨
      ran.node.fsm.Unmeasured := by
  cases case with
  | waking state time waiting notRun => exact .inr unmeasured
  | controlled running => exact .inr unmeasured
  | init calibrating atInit =>
      exact .inr ⟨unmeasured.notDone, unmeasured.noReading, .inr (.inl rfl)⟩
  | poll calibrating ready missing => exact .inr unmeasured
  | finish calibrating ready all last =>
      have someNode : 0 < N := n.pos
      rw [(unmeasured.advance ready).2] at last
      omega
  | light calibrating ready all more own =>
      have advanced := unmeasured.advance ready
      exact
        .inr
          ⟨advanced.1.notDone, advanced.1.noReading, .inr (.inr advanced.2)⟩
  | dark calibrating ready all more other =>
      have advanced := unmeasured.advance ready
      exact
        .inr
          ⟨advanced.1.notDone, advanced.1.noReading, .inr (.inr advanced.2)⟩
  | ignore calibrating awaiting noEvent => exact .inr unmeasured
  | consume calibrating awaiting event =>
      have started :
          node.fsm.nodeLedOn = -1 ∨ node.fsm.nodeLedOn = 0 := by
        refine unmeasured.first.resolve_left ?_
        rw [awaiting]
        decide
      exact .inr ⟨unmeasured.notDone, unmeasured.noReading, .inr started⟩
  | settling calibrating transient early => exact .inr unmeasured
  | first reading measured calibrating transient elapsed single =>
      exact
        .inl ⟨_, _, subtract_mem_mainAccesses calibrating transient elapsed⟩
  | second reading measured calibrating transient elapsed pair =>
      exact
        .inl ⟨_, _, subtract_mem_mainAccesses calibrating transient elapsed⟩

variable [LinearOrder K] {start net after : CalibNet K N}

/-- A step either makes a node measure or leaves it without a reading. -/
theorem measures_or_unmeasured_of_next
    {action : CalibAction K N}
    {n : Fin N}
    (unmeasured : (net.node n).fsm.Unmeasured)
    (taken : next registry voltageToLux net action = some after) :
    (∃ value own,
        .subtract (registry.nodesList n) value own ∈
          net.accesses registry action) ∨
      (after.node n).fsm.Unmeasured := by
  have effect := effect_of_next taken
  obtain ⟨acting, does⟩ := action
  by_cases acts : n = acting
  · subst acts
    cases effect with
    | beginDrain atStart =>
        exact .inr (by simpa [startLoop] using unmeasured)
    | @take entry rest draining queued =>
        have still := unmeasured.received entry.sender entry.frame.message
        exact .inr (by simpa [CalibNode.receive] using still)
    | endDrain draining drained =>
        exact .inr (by simpa using unmeasured)
    | mainLoop input atMain =>
        have case :=
          CalibNode.mainCase registry voltageToLux n input (net.node n)
        refine (measures_or_unmeasured case unmeasured).imp id fun still => ?_
        simpa [endLoop] using still
  · refine .inr ?_
    have same : (after.node n).fsm = (net.node n).fsm := by
      cases effect <;> simp [startLoop, endLoop, acts]
    rw [same]
    exact unmeasured

/-- Before it is done, every node subtracts what is stored under its id. -/
theorem subtracts_of_done
    {allowed : CalibNet K N × List (CalibAccess K) → CalibAction K N → Prop}
    {trace : List (CalibAccess K)}
    (fresh : Fresh start)
    (run : Run (observe registry voltageToLux) allowed (start, []) (net, trace))
    {n : Fin N}
    (done : (net.node n).fsm.done = true) :
    ∃ value own,
      .subtract (registry.nodesList n) value own ∈ trace := by
  have either :=
    run.invariant
      (fun seen =>
        (∃ value own,
            .subtract (registry.nodesList n) value own ∈ seen.2) ∨
          (seen.1.node n).fsm.Unmeasured)
      ?_ ?_
  · refine either.resolve_right fun unmeasured => ?_
    have notDone := unmeasured.notDone
    rw [done] at notDone
    cases notDone
  · obtain ⟨before, reset⟩ := fresh.fsm n
    refine .inr ?_
    rw [reset]
    exact ⟨rfl, rfl, .inl rfl⟩
  · intro seen after action holds _ taken
    obtain ⟨net, isNet, isAfter⟩ := Option.map_eq_some_iff.mp taken
    subst isAfter
    rcases holds with ⟨value, own, member⟩ | unmeasured
    · exact .inl ⟨value, own, List.mem_append_left _ member⟩
    · rcases measures_or_unmeasured_of_next unmeasured isNet with
        ⟨value, own, member⟩ | still
      · exact .inl ⟨value, own, List.mem_append_right _ member⟩
      · exact .inr still

/--
No calibration that comes to its end uses the right indices: the node with the
largest id reads `residualArray` behind the entries of the registered nodes.
-/
theorem not_wellIndexed_of_done
    (registry : Registry N)
    (positive : ∀ index < N, 0 < registry.nodesList index)
    (someNode : 0 < N)
    {allowed : CalibNet K N × List (CalibAccess K) → CalibAction K N → Prop}
    {trace : List (CalibAccess K)}
    (fresh : Fresh start)
    (run : Run (observe registry voltageToLux) allowed (start, []) (net, trace))
    (done : ∀ n, (net.node n).fsm.done = true) :
    ¬ WellIndexed N trace := by
  intro wellIndexed
  obtain ⟨n, large⟩ := registry.exists_id_ge positive someNode
  obtain ⟨value, own, member⟩ := subtracts_of_done fresh run (done n)
  have inRange : registry.nodesList n < N :=
    wellIndexed.inRange _ member
  exact Nat.not_lt_of_le large inRange

section Stores

/-- So does storing what a frame carries. -/
theorem CalibInvariant.inRange_receiveAccesses
    (invariant : CalibInvariant net)
    (fits : N ≤ maxNumNodes)
    {n : Fin N}
    (places : PlacesResidual net ⟨n, .take⟩)
    {entry : Entry (Fin N) (CalibFrame K)}
    {rest : List (Entry (Fin N) (CalibFrame K))}
    (queued : net.bus.fifo n = entry :: rest) :
    ∀ access ∈ (net.node n).receiveAccesses entry, access.InRange N := by
  intro access member
  unfold CalibNode.receiveAccesses at member
  split at member
  · cases member
  · rename_i value isReady
    split at member
    · split at member
      · rw [List.mem_singleton.mp member]
        exact entry.sender.isLt
      · rename_i placed
        have labelled : entry.frame.readyStep? = some entry.frame.step := by
          unfold CalibFrame.readyStep?
          rw [isReady]
        have waits : entry ∈ net.bus.fifo n := by
          rw [queued]
          exact List.mem_cons_self
        have within := invariant.passed_le_of_queued waits labelled
        have started : 1 ≤ (net.node n).passed := by
          by_contra none
          apply placed
          rcases (invariant.nodes n).phase.first_of_none (by omega) with
            state | before
          · refine places entry ?_ ?_ state
            · rw [queued]
              rfl
            · rw [labelled]
              rfl
          · exact before
        rw [List.mem_singleton.mp member]
        exact
          ⟨entry.sender.isLt, invariant.designated_lt started within fits⟩
    · cases member

/--
All stores use the index of a registered node, in every run in which early
residuals are placed: it is only the subtraction that takes the id for an index.
-/
theorem inRange_stores_of_run
    (fits : N ≤ maxNumNodes)
    {trace : List (CalibAccess K)}
    (fresh : Fresh start)
    (run :
      Run (observe registry voltageToLux)
        (fun seen action => PlacesResidual seen.1 action) (start, [])
        (net, trace)) :
    ∀ access ∈ trace, access.IsStore → access.InRange N := by
  have both :=
    run.invariant
      (fun seen =>
        CalibInvariant seen.1 ∧
          ∀ access ∈ seen.2, access.IsStore → access.InRange N)
      ⟨.initial fresh, fun access member => nomatch member⟩ ?_
  · exact both.2
  · intro seen after action holds places taken
    obtain ⟨net, isNet, isAfter⟩ := Option.map_eq_some_iff.mp taken
    subst isAfter
    refine ⟨holds.1.step isNet, ?_⟩
    intro access member isStore
    rcases List.mem_append.mp member with earlier | now
    · exact holds.2 access earlier isStore
    · obtain ⟨n, does⟩ := action
      cases does with
      | beginDrain => cases now
      | endDrain => cases now
      | mainLoop input =>
          exact holds.1.inRange_mainAccesses fits n input access now isStore
      | take =>
          unfold accesses at now
          cases queued : seen.1.bus.fifo n with
          | nil =>
              rw [queued] at now
              cases now
          | cons entry rest =>
              rw [queued] at now
              exact
                holds.1.inRange_receiveAccesses fits places queued access now

end Stores

section TwoNodes

/-- Both nodes calibrate to the end. -/
theorem exists_calibrated_two_nodes :
    ∃ net trace,
      Run (observe (consecutive 2) abs) (fun _ _ => True)
          (booted 2, []) (net, trace) ∧
        ∀ n, (net.node n).fsm.done = true := by
  obtain ⟨⟨net, trace⟩, run, observed⟩ :=
    exists_run_of_observed
      (observe (consecutive 2) abs)
      (fun _ _ => True)
      (booted 2, [])
      (initTogether ++ stepsOfTwo 2 100)
      (fun seen => decide (∀ n, (seen.1.node n).fsm.done = true))
      (by decide +kernel)
  exact ⟨net, trace, run, of_decide_eq_true observed⟩

theorem not_wellIndexed_two_nodes :
    ∃ net trace,
      Run (observe (consecutive 2) abs) (fun _ _ => True)
          (booted 2, []) (net, trace) ∧
        (∀ n, (net.node n).fsm.done = true) ∧
        ¬ WellIndexed 2 trace := by
  obtain ⟨net, trace, run, done⟩ := exists_calibrated_two_nodes
  exact
    ⟨net, trace, run, done,
      not_wellIndexed_of_done (consecutive 2) (fun _ _ => Nat.succ_pos _)
        Nat.two_pos (fresh_booted 2) run done⟩

/-- The node with id 2 reads `residualArray[2]` in a network of two nodes. -/
theorem not_wellIndexed_second_node :
    ¬ ∀ (net : CalibNet ℚ 2) (trace : List (CalibAccess ℚ)),
        Run (observe (consecutive 2) abs) (fun _ _ => True)
            (booted 2, []) (net, trace) →
          (∀ n, (net.node n).fsm.done = true) →
          WellIndexed 2 trace := by
  intro claim
  obtain ⟨net, trace, run, done⟩ := exists_calibrated_two_nodes
  obtain ⟨value, own, member⟩ :=
    subtracts_of_done (fresh_booted 2) run (done 1)
  have inRange : 2 < 2 := (claim net trace run done).inRange _ member
  exact Nat.lt_irrefl 2 inRange

end TwoNodes

end CalibNet

end DistributedLighting
