import DistributedLighting.RingWindow
import DistributedLighting.RunningMean
import DistributedLighting.SamplingClock

namespace DistributedLighting

/-!
# The low-pass filter

`LPF` averages the voltages of the last `LPF_TOTAL_SAMPLES` calls of `sample`.  It
writes them round and round into an array and counts how many of its elements are
in use.  `resetLPF` starts again, and means to clear the array: it writes to the
element behind the last one.
-/

/-- `LPF_TOTAL_SAMPLES`: the number of samples that the moving average stores. -/
def lpfTotalSamples : Nat := 20

/-- The memory from `lpfSamples` on, and the indices written to, oldest first. -/
structure SampleMemory (K : Type) where
  element : Int → K
  written : List Int

/-- `lpfSamples[index] = value`, whether `index` is in the array or not. -/
def SampleMemory.write
    {K : Type}
    (memory : SampleMemory K)
    (index : Int)
    (value : K) : SampleMemory K where
  element := Function.update memory.element index value
  written := memory.written ++ [index]

/-- The members of `LPF`. -/
structure LPF (K : Type) where
  lpfNumSamples : Int
  lpfIdx : Int
  lpfSamples : SampleMemory K

/-- A call that changes the filter. -/
inductive LPFCall (K : Type) where
  /-- `sample()`, where `luminaire.getVoltage()` returns `measuredVoltage` -/
  | sample (measuredVoltage : K)
  | resetLPF
  deriving DecidableEq

namespace LPF

variable {K : Type} [Field K]

/-- The filter after boot. -/
def boot (K : Type) [Field K] : LPF K where
  lpfNumSamples := 0
  lpfIdx := 0
  lpfSamples :=
    { element := fun _ => 0
      written := [] }

/-- `LPF::sample` -/
def sample
    (lpf : LPF K)
    (measuredVoltage : K) : LPF K :=
  let lpfSamples := lpf.lpfSamples.write lpf.lpfIdx measuredVoltage
  let lpfIdx := lpf.lpfIdx + 1
  { lpfNumSamples := max lpfIdx lpf.lpfNumSamples
    lpfIdx := if lpfIdx ≥ lpfTotalSamples then 0 else lpfIdx
    lpfSamples := lpfSamples }

/-- `LPF::value`; where there are no samples the code divides zero by zero. -/
def value (lpf : LPF K) : K :=
  (List.range lpf.lpfNumSamples.toNat).foldl
      (fun lpfAvgVal (i : Nat) => lpfAvgVal + lpf.lpfSamples.element i) 0 /
    (lpf.lpfNumSamples : K)

/-- `LPF::resetLPF` -/
def resetLPF (lpf : LPF K) : LPF K where
  lpfNumSamples := 0
  lpfIdx := 0
  lpfSamples := lpf.lpfSamples.write lpfTotalSamples 0

/-- One call. -/
def perform (lpf : LPF K) : LPFCall K → LPF K
  | .sample measuredVoltage => lpf.sample measuredVoltage
  | .resetLPF => lpf.resetLPF

/-- The filter after some calls since boot. -/
def afterCalls (calls : List (LPFCall K)) : LPF K :=
  calls.foldl perform (boot K)

/-- An index in the array. -/
def InArray (index : Int) : Prop :=
  0 ≤ index ∧ index < lpfTotalSamples

end LPF

namespace LPFCall

variable {K : Type} [Field K]

/-- The voltages that were sampled since boot or the last reset. -/
def samples (calls : List (LPFCall K)) : List K :=
  calls.foldl
    (fun
      | _, .resetLPF => []
      | earlier, .sample measuredVoltage => earlier ++ [measuredVoltage])
    []

/-- The mean of the last `LPF_TOTAL_SAMPLES` samples, or of all if there are fewer. -/
def movingAverage (samples : List K) : K :=
  mean (fun t => samples.getD t 0) (samples.length - lpfTotalSamples)
    (min samples.length lpfTotalSamples)

/-- After the calls the filter has stayed in its array and averages the last samples. -/
structure Filters (calls : List (LPFCall K)) : Prop where
  writes : ∀ index ∈ (LPF.afterCalls calls).lpfSamples.written, LPF.InArray index
  index : LPF.InArray (LPF.afterCalls calls).lpfIdx
  value :
    samples calls ≠ [] →
      (LPF.afterCalls calls).value = movingAverage (samples calls)

end LPFCall

namespace LPF

variable {K : Type} [Field K] {lpf : LPF K} {samples : List K}

/-- What the filter keeps of the samples since boot or the last reset. -/
structure Tracks (samples : List K) (lpf : LPF K) : Prop where
  lpfIdx : lpf.lpfIdx = (samples.length % lpfTotalSamples : Nat)
  lpfNumSamples : lpf.lpfNumSamples = (min samples.length lpfTotalSamples : Nat)
  elements :
    RingWindow.Holds lpfTotalSamples (fun t => samples.getD t 0) samples.length
      fun i => lpf.lpfSamples.element i

namespace Tracks

theorem boot : Tracks [] (boot K) where
  lpfIdx := rfl
  lpfNumSamples := rfl
  elements := .empty

/-- A reset forgets the samples, although it leaves them in the array. -/
theorem resetLPF (lpf : LPF K) : Tracks [] lpf.resetLPF where
  lpfIdx := rfl
  lpfNumSamples := rfl
  elements := .empty

/-- A sample is written over the oldest one, once the array is full. -/
theorem sample
    (tracks : Tracks samples lpf)
    (measuredVoltage : K) :
    Tracks (samples ++ [measuredVoltage]) (lpf.sample measuredVoltage) := by
  have positive : 0 < lpfTotalSamples := by decide
  refine { lpfIdx := ?_, lpfNumSamples := ?_, elements := ?_ }
  · rw [List.length_append, List.length_singleton,
      RingWindow.succ_mod_eq positive]
    simp only [LPF.sample, tracks.lpfIdx]
    split <;> split <;> omega
  · rw [List.length_append, List.length_singleton,
      RingWindow.min_succ_eq positive]
    simp only [LPF.sample, tracks.lpfIdx, tracks.lpfNumSamples]
    omega
  · have agree :
        ∀ t < samples.length,
          (samples ++ [measuredVoltage]).getD t 0 = samples.getD t 0 :=
      fun t before => List.getD_append _ _ _ _ before
    have newest :
        (samples ++ [measuredVoltage]).getD samples.length 0 = measuredVoltage := by
      simp
    have written := (tracks.elements.congr agree).write
    rw [newest] at written
    rw [List.length_append, List.length_singleton]
    convert written using 1
    funext i
    simp only [LPF.sample, SampleMemory.write, tracks.lpfIdx,
      Function.update_apply, Nat.cast_inj]

theorem inArray_lpfIdx (tracks : Tracks samples lpf) : InArray lpf.lpfIdx := by
  have below := Nat.mod_lt samples.length (show 0 < lpfTotalSamples by decide)
  rw [tracks.lpfIdx]
  constructor <;> omega

/-- The loop of `value` adds up the elements in use. -/
theorem value_eq (tracks : Tracks samples lpf) :
    lpf.value = LPFCall.movingAverage samples := by
  have loop :
      ∀ count,
        (List.range count).foldl
            (fun lpfAvgVal (i : Nat) => lpfAvgVal + lpf.lpfSamples.element i) 0 =
          ∑ i ∈ Finset.range count, lpf.lpfSamples.element i := by
    intro count
    induction count with
    | zero =>
        rfl
    | succ count inductionHypothesis =>
        rw [List.range_succ, List.foldl_append, List.foldl_cons, List.foldl_nil,
          inductionHypothesis, Finset.sum_range_succ]
  unfold value LPFCall.movingAverage mean
  rw [tracks.lpfNumSamples, Int.toNat_natCast, Int.cast_natCast, loop,
    tracks.elements.sum_eq]

end Tracks

/-- One call more. -/
theorem afterCalls_append
    (calls : List (LPFCall K))
    (call : LPFCall K) :
    afterCalls (calls ++ [call]) = (afterCalls calls).perform call :=
  List.foldl_append

/-- Whatever the calls were, the filter tracks the samples since the last reset. -/
theorem tracks_afterCalls (calls : List (LPFCall K)) :
    Tracks (LPFCall.samples calls) (afterCalls calls) := by
  induction calls using List.reverseRecOn with
  | nil =>
      exact .boot
  | append_singleton earlier call inductionHypothesis =>
      rw [afterCalls_append, LPFCall.samples, List.foldl_append]
      cases call with
      | sample measuredVoltage =>
          exact inductionHypothesis.sample measuredVoltage
      | resetLPF =>
          exact .resetLPF _

/-- A call writes once: a sample to `lpfIdx`, a reset behind the array. -/
theorem written_perform
    (lpf : LPF K)
    (call : LPFCall K) :
    (lpf.perform call).lpfSamples.written =
      lpf.lpfSamples.written ++
        [match call with
          | .sample _ => lpf.lpfIdx
          | .resetLPF => lpfTotalSamples] := by
  cases call <;> rfl

/-- The filter writes in its array as long as it is not reset. -/
theorem writes_inArray_iff (calls : List (LPFCall K)) :
    (∀ index ∈ (afterCalls calls).lpfSamples.written, InArray index) ↔
      .resetLPF ∉ calls := by
  induction calls using List.reverseRecOn with
  | nil =>
      exact iff_of_true nofun List.not_mem_nil
  | append_singleton earlier call inductionHypothesis =>
      rw [afterCalls_append, written_perform, List.forall_mem_append,
        List.forall_mem_singleton, inductionHypothesis, List.mem_append, not_or]
      refine and_congr_right fun _ => ?_
      cases call with
      | sample measuredVoltage =>
          exact
            iff_of_true (tracks_afterCalls earlier).inArray_lpfIdx
              (List.mem_singleton.not.mpr nofun)
      | resetLPF =>
          exact
            iff_of_false (fun inside => inside.2.false)
              (fun different => different List.mem_cons_self)

end LPF

namespace LPFCall

/--
The filter stays in its array exactly as long as it is not reset; its index does in
any case, and the value is always the mean of the last samples since the last reset.
-/
theorem filters_iff_not_reset
    {K : Type}
    [Field K]
    (calls : List (LPFCall K)) :
    (Filters calls ↔ .resetLPF ∉ calls) ∧
      LPF.InArray (LPF.afterCalls calls).lpfIdx ∧
      (samples calls ≠ [] →
        (LPF.afterCalls calls).value = movingAverage (samples calls)) := by
  have tracks := LPF.tracks_afterCalls calls
  refine
    ⟨⟨fun filters => ?_, fun never => ?_⟩, tracks.inArray_lpfIdx,
      fun _ => tracks.value_eq⟩
  · exact (LPF.writes_inArray_iff calls).mp filters.writes
  · exact
      { writes := (LPF.writes_inArray_iff calls).mpr never
        index := tracks.inArray_lpfIdx
        value := fun _ => tracks.value_eq }

/-- The very first reset writes behind the array. -/
theorem not_filters_reset :
    ¬ Filters ([.resetLPF] : List (LPFCall ℚ)) := by
  intro filters
  exact (filters.writes lpfTotalSamples List.mem_cons_self).2.false

end LPFCall

/-- A node with its low-pass filter, and the calls of the filter so far. -/
structure FilteredNode (K : Type) where
  sampling : SamplingNode K
  lpf : LPF K
  calls : List (LPFCall K)

/-- What a node reacts to, and the voltage that the filter would sample. -/
structure FilteredEvent (K : Type) where
  event : SamplingEvent K
  voltage : K

/-- The calls of the filter that an event makes. -/
def SamplingNode.lpfCalls
    {K : Type}
    (node : SamplingNode K)
    (voltage : K) : SamplingEvent K → List (LPFCall K)
  | .receive event =>
      if node.lighting.Resets event then
        [.resetLPF]
      else
        []
  | .loop _ reading =>
      if node.lighting.main.mainFSM.state = .run ∧
          (reading.timeNow - node.light.lpfSampleTime).toNat > lpfSamplingDelay then
        [.sample voltage]
      else
        []

namespace FilteredNode

variable {K : Type} [Field K]

/-- The node after `setup()`. -/
def boot
    (nodeId : Nat)
    (cost : K) : FilteredNode K where
  sampling := .boot nodeId cost
  lpf := .boot K
  calls := []

variable [LinearOrder K] [FloorRing K]
  (union : FloatTo4Bytes K) (overrun : Nat → K → Nat) (voltageToLux : K → K)
  (outOfRange : K → Int)

/-- React to an event. -/
def next
    (node : FilteredNode K)
    (input : FilteredEvent K) : Option (FilteredNode K) :=
  (node.sampling.next union overrun voltageToLux outOfRange input.event).map
    fun after =>
      let calls := node.sampling.lpfCalls input.voltage input.event
      { sampling := after
        lpf := calls.foldl LPF.perform node.lpf
        calls := node.calls ++ calls }

variable {union overrun voltageToLux outOfRange} {node : FilteredNode K}

/-- In every run the filter is what its calls have made of it. -/
theorem lpf_of_run
    {nodeId : Nat}
    {cost : K}
    (run :
      Run (next union overrun voltageToLux outOfRange) (fun _ _ => True)
        (boot nodeId cost) node) :
    node.lpf = LPF.afterCalls node.calls := by
  refine run.invariant (fun node => node.lpf = LPF.afterCalls node.calls) rfl ?_
  intro before after input kept _ taken
  obtain ⟨sampling, -, rfl⟩ := Option.map_eq_some_iff.mp taken
  show List.foldl LPF.perform before.lpf _ = _
  rw [kept, LPF.afterCalls, LPF.afterCalls, List.foldl_append]

/-- The filter of a node averages, and leaves its array exactly with the first `r`. -/
theorem filters_of_run
    {nodeId : Nat}
    {cost : K}
    (run :
      Run (next union overrun voltageToLux outOfRange) (fun _ _ => True)
        (boot nodeId cost) node) :
    (LPFCall.samples node.calls ≠ [] →
        node.lpf.value = LPFCall.movingAverage (LPFCall.samples node.calls)) ∧
      ((∀ index ∈ node.lpf.lpfSamples.written, LPF.InArray index) ↔
        .resetLPF ∉ node.calls) := by
  rw [lpf_of_run run]
  exact
    ⟨fun _ => (LPF.tracks_afterCalls node.calls).value_eq,
      LPF.writes_inArray_iff node.calls⟩

end FilteredNode

end DistributedLighting
