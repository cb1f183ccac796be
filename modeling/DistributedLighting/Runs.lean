import Mathlib

namespace DistributedLighting

/-!
# Finite runs of a deterministic transition function

A system is a partial function from a state and an action to the next state.
A run is any finite sequence of enabled actions; `allowed` restricts the
actions that a schedule may choose in a given state.  Every safety theorem of
this development is an instance of `Run.invariant`.
-/

/-- The states reached from `start` by enabled actions that `allowed` admits. -/
inductive Run
    {State Action : Type}
    (next : State → Action → Option State)
    (allowed : State → Action → Prop)
    (start : State) : State → Prop where
  | refl : Run next allowed start start
  | step
      {before after : State}
      (action : Action)
      (earlier : Run next allowed start before)
      (permitted : allowed before action)
      (taken : next before action = some after) :
      Run next allowed start after

namespace Run

variable {State Action : Type}
    {next : State → Action → Option State}
    {allowed : State → Action → Prop}
    {start final : State}

/-- What holds at the start and survives every permitted step holds throughout. -/
theorem invariant
    (run : Run next allowed start final)
    (holds : State → Prop)
    (base : holds start)
    (preserved :
      ∀ {before after : State} {action : Action},
        holds before →
        allowed before action →
        next before action = some after →
        holds after) :
    holds final := by
  induction run with
  | refl =>
      exact base
  | step action _ permitted taken inductionHypothesis =>
      exact preserved inductionHypothesis permitted taken

/-- Two runs compose when the second starts where the first ends. -/
theorem append
    {middle : State}
    (first : Run next allowed start middle)
    (second : Run next allowed middle final) :
    Run next allowed start final := by
  induction second with
  | refl =>
      exact first
  | step action _ permitted taken inductionHypothesis =>
      exact .step action inductionHypothesis permitted taken

/-- A run is followed by one of another system when each of its steps is. -/
theorem simulated
    {OtherState OtherAction : Type}
    {otherNext : OtherState → OtherAction → Option OtherState}
    {otherAllowed : OtherState → OtherAction → Prop}
    {otherStart : OtherState}
    (run : Run next allowed start final)
    (relates : State → OtherState → Prop)
    (base : relates start otherStart)
    (step :
      ∀ {before after : State} {action : Action} {other : OtherState},
        relates before other →
        allowed before action →
        next before action = some after →
        ∃ otherAfter,
          Run otherNext otherAllowed other otherAfter ∧
            relates after otherAfter) :
    ∃ otherFinal,
      Run otherNext otherAllowed otherStart otherFinal ∧
        relates final otherFinal := by
  induction run with
  | refl =>
      exact ⟨otherStart, .refl, base⟩
  | step action _ permitted taken inductionHypothesis =>
      obtain ⟨other, otherRun, related⟩ := inductionHypothesis
      obtain ⟨otherAfter, otherStep, relatedAfter⟩ :=
        step related permitted taken
      exact ⟨otherAfter, otherRun.append otherStep, relatedAfter⟩

end Run

/-- Run a finite schedule, failing at the first action that is not enabled
or not permitted. -/
def runSchedule
    {State Action : Type}
    (next : State → Action → Option State)
    (allowed : State → Action → Prop)
    [∀ state action, Decidable (allowed state action)] :
    State → List Action → Option State
  | state, [] => some state
  | state, action :: rest =>
      if allowed state action then
        match next state action with
        | none => none
        | some after => runSchedule next allowed after rest
      else
        none

section Schedules

variable {State Action : Type}
    {next : State → Action → Option State}
    {allowed : State → Action → Prop}
    [∀ state action, Decidable (allowed state action)]
    {start final : State}
    {schedule : List Action}

/-- A schedule that runs to the end is a run. -/
theorem run_of_runSchedule
    (scheduled : runSchedule next allowed start schedule = some final) :
    Run next allowed start final := by
  induction schedule generalizing start with
  | nil =>
      simp only [runSchedule, Option.some.injEq] at scheduled
      subst final
      exact .refl
  | cons action rest inductionHypothesis =>
      unfold runSchedule at scheduled
      split at scheduled
      · rename_i permitted
        cases taken : next start action with
        | none =>
            simp [taken] at scheduled
        | some after =>
            simp only [taken] at scheduled
            exact
              (Run.step action .refl permitted taken).append
                (inductionHypothesis scheduled)
      · simp at scheduled

/-- A schedule is no longer than a measure that every step of it decreases. -/
theorem length_le_of_runSchedule
    (holds : State → Prop)
    (measure : State → Nat)
    (decreases :
      ∀ {before after : State} {action : Action},
        holds before →
        allowed before action →
        next before action = some after →
        holds after ∧ measure after < measure before)
    (base : holds start)
    (scheduled : runSchedule next allowed start schedule = some final) :
    holds final ∧ schedule.length + measure final ≤ measure start := by
  induction schedule generalizing start with
  | nil =>
      simp only [runSchedule, Option.some.injEq] at scheduled
      subst final
      exact ⟨base, Nat.le_of_eq (Nat.zero_add _)⟩
  | cons action rest inductionHypothesis =>
      unfold runSchedule at scheduled
      split at scheduled
      · rename_i permitted
        cases taken : next start action with
        | none =>
            simp [taken] at scheduled
        | some after =>
            simp only [taken] at scheduled
            obtain ⟨holdsAfter, less⟩ := decreases base permitted taken
            obtain ⟨holdsFinal, within⟩ :=
              inductionHypothesis holdsAfter scheduled
            refine ⟨holdsFinal, ?_⟩
            rw [List.length_cons]
            omega
      · simp at scheduled

/-- What is observed at the end of a schedule is observed at the end of a run. -/
theorem exists_run_of_observed
    (next : State → Action → Option State)
    (allowed : State → Action → Prop)
    [∀ state action, Decidable (allowed state action)]
    (start : State)
    (schedule : List Action)
    (observation : State → Bool)
    (observed :
      (runSchedule next allowed start schedule).any observation = true) :
    ∃ final,
      Run next allowed start final ∧ observation final = true := by
  obtain ⟨final, scheduled, holds⟩ :=
    (Option.any_eq_true observation _).mp observed
  exact ⟨final, run_of_runSchedule scheduled, holds⟩

end Schedules

section Reactions

variable {State Event Output : Type}

/-- React to events one after another and collect what is put out. -/
def react
    (step : State → Event → Option (State × List Output)) :
    State → List Event → Option (State × List Output)
  | state, [] => some (state, [])
  | state, event :: rest =>
      match step state event with
      | none => none
      | some first =>
          (react step first.1 rest).map fun later =>
            (later.1, first.2 ++ later.2)

/-- The reaction to a single event is the step. -/
theorem react_singleton
    (step : State → Event → Option (State × List Output))
    (state : State)
    (event : Event) :
    react step state [event] = step state event := by
  unfold react
  cases step state event with
  | none => rfl
  | some first =>
      exact
        congrArg (fun output => some (first.1, output))
          (List.append_nil first.2)

/-- A relation that every step keeps, with equal outputs, is kept by all events. -/
theorem react_related
    {step : State → Event → Option (State × List Output)}
    (related : State → State → Prop)
    (translate : Event → Event)
    (kept :
      ∀ {left right : State},
        related left right →
        ∀ event,
          Option.Rel
            (fun first second =>
              related first.1 second.1 ∧ first.2 = second.2)
            (step left (translate event))
            (step right event))
    {left right : State}
    (start : related left right)
    (events : List Event) :
    Option.Rel
      (fun first second =>
        related first.1 second.1 ∧ first.2 = second.2)
      (react step left (events.map translate))
      (react step right events) := by
  induction events generalizing left right with
  | nil => exact .some ⟨start, rfl⟩
  | cons event rest inductionHypothesis =>
      have first := kept start event
      rw [List.map_cons, react, react]
      revert first
      generalize step left (translate event) = ran
      generalize step right event = expected
      intro first
      cases first with
      | none => exact .none
      | @some ranFirst expectedFirst both =>
          have later := inductionHypothesis both.1
          dsimp only
          revert later
          generalize react step ranFirst.1 (rest.map translate) = ranLater
          generalize react step expectedFirst.1 rest = expectedLater
          intro later
          cases later with
          | none => exact .none
          | some same => exact .some ⟨same.1, congrArg₂ (· ++ ·) both.2 same.2⟩

end Reactions

end DistributedLighting
