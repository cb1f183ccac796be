import DistributedLighting.CommandServer

namespace DistributedLighting

/-!
# The discipline of the command queue

Any number of handlers run on four threads, and their critical sections interleave.
A handler that has pushed the only command, or has removed one, still has to run
`executeNextInCommandQueue`; until then others may look at the same queue.
-/

/-- One critical section, or a change of what the handlers read. -/
inductive QueueSection (Client : Type) where
  | push (command : Command) (client : Option Client)
  | response (value : BitVec 32)
  | timeout
  | executeNext
  | sessions (clients : List Client)
  | nodes (ids : List Nat)

/-- The server with its running handlers. -/
structure QueueHandlers (Client : Type) where
  server : CommandServer Client
  /-- The handlers that still have to run `executeNextInCommandQueue`. -/
  owed : Nat
  /-- The numbers of the commands that were written, newest first. -/
  written : List Nat

namespace QueueHandlers

variable {Client : Type} [DecidableEq Client]

/-- No handler is running, and no command has been pushed. -/
def start : QueueHandlers Client where
  server := .started
  owed := 0
  written := []

/-- Run one critical section of `executeNextInCommandQueue`. -/
def executeNext (handlers : QueueHandlers Client) : QueueHandlers Client :=
  match handlers.server.executeNextSection with
  | (after, .nothing) =>
      { handlers with server := after, owed := handlers.owed - 1 }
  | (after, .skipped) => { handlers with server := after }
  | (after, .written element) =>
      { server := after
        owed := handlers.owed - 1
        written := element.number :: handlers.written }

/-- Run one critical section. -/
def next
    (handlers : QueueHandlers Client) :
    QueueSection Client → Option (QueueHandlers Client)
  | .push command client =>
      let pushed := handlers.server.push command client
      some
        { handlers with
          server := pushed
          owed :=
            if pushed.commandsQueue.length = 1 then
              handlers.owed + 1
            else
              handlers.owed }
  | .response value =>
      let answered := handlers.server.receivedCommandResponse value
      some
        { handlers with
          server := answered.1
          owed :=
            if answered.2.isSome then handlers.owed + 1 else handlers.owed }
  | .timeout =>
      handlers.server.commandTimedOut.map fun timedOut =>
        { handlers with server := timedOut.1, owed := handlers.owed + 1 }
  | .executeNext =>
      if handlers.owed = 0 then none else some handlers.executeNext
  | .sessions clients =>
      some
        { handlers with
          server := { handlers.server with clientSessions := clients } }
  | .nodes ids =>
      some
        { handlers with server := { handlers.server with nodeIds := ids } }

/--
Every command is written at most once, in the order of the pushes, and none while
the front of the queue has been written already.
-/
structure Disciplined (handlers : QueueHandlers Client) : Prop where
  once : handlers.written.Nodup
  inOrder : handlers.written.Pairwise (· ≥ ·)
  alone :
    ∀ element,
      0 < handlers.owed →
      handlers.server.executeNextSection.2 = .written element →
      ∀ front ∈ handlers.server.commandsQueue.head?,
        front.number ∉ handlers.written

/--
Nobody still has to execute the front: a command is pushed onto the empty queue,
or removed from before another one, only while no handler owes its
`executeNextInCommandQueue`.
-/
def Unhurried (handlers : QueueHandlers Client) : QueueSection Client → Prop
  | .push _ _ => handlers.server.commandsQueue = [] → handlers.owed = 0
  | .response value =>
      handlers.server.Removes value →
      handlers.server.commandsQueue.length ≤ 1 ∨ handlers.owed = 0
  | .timeout =>
      handlers.server.commandsQueue.length ≤ 1 ∨ handlers.owed = 0
  | _ => True

/-- What holds in between the critical sections of unhurried handlers. -/
structure Settled (handlers : QueueHandlers Client) : Prop where
  numbered : handlers.server.Numbered
  known : ∀ number ∈ handlers.written, number < handlers.server.pushes
  descending : handlers.written.Pairwise (· > ·)
  notBehind :
    ∀ number ∈ handlers.written,
      ∀ element ∈ handlers.server.commandsQueue, number ≤ element.number
  front :
    handlers.server.commandsQueue ≠ [] →
    handlers.owed = 0 ∨
      handlers.owed = 1 ∧
        ∀ number ∈ handlers.written,
          ∀ element ∈ handlers.server.commandsQueue,
            number < element.number

end QueueHandlers

namespace QueueHandlers.Settled

variable {Client : Type} {handlers after : QueueHandlers Client}

/-- The discipline in one state. -/
theorem disciplined
    [DecidableEq Client]
    (settled : handlers.Settled) :
    handlers.Disciplined where
  once := settled.descending.imp fun greater => Nat.ne_of_gt greater
  inOrder := settled.descending.imp Nat.le_of_lt
  alone := by
    intro element owes writes front isFront known
    have member := List.mem_of_mem_head? isFront
    rcases settled.front (List.ne_nil_of_mem member) with none | one
    · rw [none] at owes
      cases owes
    · exact Nat.lt_irrefl _ (one.2 _ known front member)

/-- Before anything is pushed, nothing is written. -/
theorem start : (QueueHandlers.start : QueueHandlers Client).Settled where
  numbered := CommandServer.numbered_started
  known := nofun
  descending := .nil
  notBehind := nofun
  front := fun some => absurd rfl some

/-- Commands that are removed when nobody owes an execution leave an unwritten front. -/
theorem removed
    (settled : handlers.Settled)
    {front : CommandQueueElement Client}
    {rest : List (CommandQueueElement Client)}
    (isQueue : handlers.server.commandsQueue = front :: rest)
    (unhurried :
      handlers.server.commandsQueue.length ≤ 1 ∨ handlers.owed = 0)
    {server : CommandServer Client}
    (isRest : server.commandsQueue = rest)
    (pushes : server.pushes = handlers.server.pushes) :
    Settled
      { handlers with server := server, owed := handlers.owed + 1 } := by
  have suffix : server.commandsQueue <:+ handlers.server.commandsQueue := by
    rw [isRest, isQueue]
    exact List.suffix_cons _ _
  have behind :
      ∀ number ∈ handlers.written,
        ∀ element ∈ server.commandsQueue, number < element.number := by
    intro number known element member
    rw [isRest] at member
    have notBehind :=
      settled.notBehind number known front (by rw [isQueue]; simp)
    exact
      Nat.lt_of_le_of_lt notBehind
        (settled.numbered.front_lt isQueue element member)
  refine
    { numbered := settled.numbered.of_suffix suffix pushes
      known := fun number known => pushes ▸ settled.known number known
      descending := settled.descending
      notBehind := fun number known element member =>
        Nat.le_of_lt (behind number known element member)
      front := fun some => ?_ }
  rcases unhurried with single | none
  · rw [isQueue, List.length_cons] at single
    have isEmpty : rest = [] :=
      List.eq_nil_of_length_eq_zero (Nat.le_zero.mp (Nat.le_of_succ_le_succ single))
    exact absurd (isRest.trans isEmpty) some
  · exact .inr ⟨by rw [none], behind⟩

/-- A push keeps the invariant. -/
theorem push
    (settled : handlers.Settled)
    {command : Command}
    {client : Option Client}
    (unhurried :
      handlers.server.commandsQueue = [] → handlers.owed = 0) :
    Settled
      { handlers with
        server := handlers.server.push command client
        owed :=
          if (handlers.server.push command client).commandsQueue.length =
              1 then
            handlers.owed + 1
          else
            handlers.owed } := by
  have isNew :
      ∀ number ∈ handlers.written,
        ∀ element ∈ (handlers.server.push command client).commandsQueue,
          element ∈ handlers.server.commandsQueue ∨
            number < element.number := by
    intro number known element member
    rcases List.mem_append.mp member with earlier | isNew
    · exact .inl earlier
    · rw [List.mem_singleton.mp isNew]
      exact .inr (settled.known number known)
  refine
    { numbered := settled.numbered.push command client
      known := fun number known =>
        Nat.lt_succ_of_lt (settled.known number known)
      descending := settled.descending
      notBehind := ?_
      front := fun _ => ?_ }
  · intro number known element member
    rcases isNew number known element member with earlier | behind
    · exact settled.notBehind number known element earlier
    · exact Nat.le_of_lt behind
  · by_cases isEmpty : handlers.server.commandsQueue = []
    · have only :
          (handlers.server.push command client).commandsQueue.length = 1 := by
        simp [CommandServer.push, isEmpty]
      dsimp only
      rw [if_pos only, unhurried isEmpty]
      refine .inr ⟨rfl, ?_⟩
      intro number known element member
      rcases isNew number known element member with earlier | behind
      · rw [isEmpty] at earlier
        cases earlier
      · exact behind
    · have more :
          (handlers.server.push command client).commandsQueue.length ≠ 1 := by
        simpa [CommandServer.push] using isEmpty
      dsimp only
      rw [if_neg more]
      rcases settled.front isEmpty with none | one
      · exact .inl none
      · refine .inr ⟨one.1, ?_⟩
        intro number known element member
        rcases isNew number known element member with earlier | behind
        · exact one.2 number known element earlier
        · exact behind

/-- A change of the sessions or of the node list keeps the invariant. -/
theorem congr
    (settled : handlers.Settled)
    {server : CommandServer Client}
    (queue : server.commandsQueue = handlers.server.commandsQueue)
    (pushes : server.pushes = handlers.server.pushes) :
    Settled { handlers with server := server } where
  numbered :=
    settled.numbered.of_suffix (queue ▸ List.suffix_refl _) pushes
  known := fun number known => pushes ▸ settled.known number known
  descending := settled.descending
  notBehind := by
    dsimp only
    rw [queue]
    exact settled.notBehind
  front := by
    dsimp only
    rw [queue]
    exact settled.front

/-- The execution that a handler owes keeps the invariant. -/
theorem executeNext
    [DecidableEq Client]
    (settled : handlers.Settled)
    (owes : handlers.owed ≠ 0) :
    handlers.executeNext.Settled := by
  unfold QueueHandlers.executeNext CommandServer.executeNextSection
  cases isQueue : handlers.server.commandsQueue with
  | nil =>
      exact
        { settled with
          front := fun some => absurd isQueue some }
  | cons front rest =>
      have one := settled.front (by rw [isQueue]; exact List.cons_ne_nil _ _)
      replace one := one.resolve_left owes
      have member : front ∈ handlers.server.commandsQueue := by
        rw [isQueue]
        exact List.mem_cons_self
      by_cases gone : handlers.server.clientGone front = true
      · simp only [if_pos gone]
        have suffix :
            (handlers.server.withQueue rest).commandsQueue <:+
              handlers.server.commandsQueue := by
          rw [isQueue]
          exact List.suffix_cons _ _
        exact
          { numbered := settled.numbered.of_suffix suffix rfl
            known := settled.known
            descending := settled.descending
            notBehind := fun number known element inRest =>
              settled.notBehind number known element (suffix.subset inRest)
            front := fun _ =>
              .inr
                ⟨one.1, fun number known element inRest =>
                  one.2 number known element (suffix.subset inRest)⟩ }
      · simp only [if_neg gone]
        have numbered := settled.numbered
        have queue :=
          handlers.server.expectACKs_commandsQueue front
        have pushes := handlers.server.expectACKs_pushes front
        refine
          { numbered :=
              numbered.of_suffix (queue ▸ List.suffix_refl _) pushes
            known := ?_
            descending := ?_
            notBehind := ?_
            front := fun _ => .inl (by rw [one.1]) }
        · dsimp only
          rw [pushes]
          intro number known
          rcases List.mem_cons.mp known with isFront | earlier
          · rw [isFront]
            exact numbered.pushed front member
          · exact settled.known number earlier
        · exact
            List.pairwise_cons.mpr
              ⟨fun number known => one.2 number known front member,
                settled.descending⟩
        · dsimp only
          rw [queue]
          intro number known element inQueue
          rcases List.mem_cons.mp known with isFront | earlier
          · rw [isFront]
            rw [isQueue] at inQueue
            rcases List.mem_cons.mp inQueue with same | behind
            · rw [same]
            · exact
                Nat.le_of_lt (numbered.front_lt isQueue element behind)
          · exact settled.notBehind number earlier element inQueue

end QueueHandlers.Settled

namespace QueueHandlers

variable {Client : Type} [DecidableEq Client]
    {handlers after : QueueHandlers Client}

/-- Every unhurried section keeps the invariant. -/
theorem Settled.step
    (settled : handlers.Settled)
    {step : QueueSection Client}
    (unhurried : Unhurried handlers step)
    (taken : handlers.next step = some after) :
    after.Settled := by
  cases step with
  | push command client =>
      cases taken
      exact settled.push unhurried
  | response value =>
      cases taken
      obtain ⟨pushes, kept | ⟨front, rest, isQueue, removed, isRest⟩⟩ :=
        handlers.server.receivedCommandResponse_cases value
      · rw [kept.1]
        exact settled.congr kept.2 pushes
      · have removes : handlers.server.Removes value := by
          rw [← CommandServer.isSome_receivedCommandResponse_iff, removed]
          rfl
        have room := unhurried removes
        rw [removed]
        exact settled.removed isQueue room isRest pushes
  | timeout =>
      cases isQueue : handlers.server.commandsQueue with
      | nil =>
          simp [next, CommandServer.commandTimedOut, isQueue] at taken
      | cons front rest =>
          simp only [next, CommandServer.commandTimedOut, isQueue,
            Option.map_some, Option.some.injEq] at taken
          subst taken
          exact settled.removed isQueue unhurried rfl rfl
  | executeNext =>
      simp only [next] at taken
      split at taken
      · cases taken
      · rename_i owes
        cases taken
        exact settled.executeNext owes
  | sessions clients =>
      cases taken
      exact settled.congr rfl rfl
  | nodes ids =>
      cases taken
      exact settled.congr rfl rfl

/--
In every run of unhurried handlers, commands are written at most once, in the
order of the pushes, and one at a time.
-/
theorem disciplined_of_run
    (run : Run next Unhurried start handlers) :
    handlers.Disciplined := by
  have settled : handlers.Settled :=
    run.invariant Settled .start fun settled unhurried taken =>
      settled.step unhurried taken
  exact settled.disciplined

/-- A section that is not unhurried leaves two handlers that owe an execution. -/
theorem two_owed_of_hurried
    {step : QueueSection Client}
    (hurried : ¬ Unhurried handlers step)
    (taken : handlers.next step = some after) :
    2 ≤ after.owed ∧ after.server.commandsQueue ≠ [] := by
  cases step with
  | push command client =>
      cases taken
      obtain ⟨isEmpty, owes⟩ := Classical.not_imp.mp hurried
      have only :
          (handlers.server.push command client).commandsQueue.length = 1 := by
        simp [CommandServer.push, isEmpty]
      have positive := Nat.pos_of_ne_zero owes
      dsimp only
      rw [if_pos only]
      exact ⟨Nat.succ_le_succ positive, by simp [CommandServer.push]⟩
  | response value =>
      cases taken
      obtain ⟨removes, crowded⟩ := Classical.not_imp.mp hurried
      obtain ⟨many, owes⟩ := not_or.mp crowded
      obtain ⟨-, kept | ⟨front, rest, isQueue, removed, isRest⟩⟩ :=
        handlers.server.receivedCommandResponse_cases value
      · rw [← CommandServer.isSome_receivedCommandResponse_iff, kept.1]
          at removes
        cases removes
      · have positive := Nat.pos_of_ne_zero owes
        rw [isQueue, List.length_cons] at many
        dsimp only
        rw [removed, isRest]
        refine ⟨Nat.succ_le_succ positive, ?_⟩
        rintro rfl
        exact many (Nat.le_refl 1)
  | timeout =>
      obtain ⟨many, owes⟩ := not_or.mp hurried
      have positive := Nat.pos_of_ne_zero owes
      cases isQueue : handlers.server.commandsQueue with
      | nil =>
          rw [isQueue] at many
          exact absurd (Nat.zero_le 1) many
      | cons front rest =>
          simp only [next, CommandServer.commandTimedOut, isQueue,
            Option.map_some, Option.some.injEq] at taken
          subst taken
          rw [isQueue, List.length_cons] at many
          refine ⟨Nat.succ_le_succ positive, ?_⟩
          rintro rfl
          exact many (Nat.le_refl 1)
  | executeNext => exact absurd trivial hurried
  | sessions clients => exact absurd trivial hurried
  | nodes ids => exact absurd trivial hurried

/-- Two handlers that both owe an execution write the same command twice. -/
theorem not_once_of_two_owed
    {front : CommandQueueElement Client}
    {rest : List (CommandQueueElement Client)}
    (two : 2 ≤ handlers.owed)
    (isQueue : handlers.server.commandsQueue = front :: rest)
    (connected : handlers.server.clientGone front = false) :
    ∃ after,
      Run next (fun _ _ => True) handlers after ∧ ¬ after.Disciplined := by
  have writes :
      ∀ earlier : QueueHandlers Client,
        earlier.server.commandsQueue = front :: rest →
        earlier.server.clientGone front = false →
        earlier.executeNext =
          { server := earlier.server.expectACKs front
            owed := earlier.owed - 1
            written := front.number :: earlier.written } := by
    intro earlier isQueue connected
    unfold executeNext
    rw [CommandServer.executeNextSection_of_connected isQueue connected]
  have first := writes handlers isQueue connected
  have second :=
    writes handlers.executeNext
      (by rw [first, ← isQueue]; exact CommandServer.expectACKs_commandsQueue _ _)
      (by rw [first, ← connected]; exact CommandServer.expectACKs_clientGone _ _ _)
  have stillOwed : handlers.executeNext.owed ≠ 0 := by
    rw [first]
    exact Nat.sub_ne_zero_of_lt two
  have owed : handlers.owed ≠ 0 := Nat.ne_of_gt (Nat.lt_of_lt_of_le Nat.two_pos two)
  have taken : handlers.next .executeNext = some handlers.executeNext :=
    if_neg owed
  have takenAgain :
      handlers.executeNext.next .executeNext =
        some handlers.executeNext.executeNext :=
    if_neg stillOwed
  refine ⟨handlers.executeNext.executeNext, ?_, ?_⟩
  · exact
      .step .executeNext (.step .executeNext .refl trivial taken) trivial
        takenAgain
  · intro disciplined
    have once := disciplined.once
    rw [second, first] at once
    exact (List.nodup_cons.mp once).1 List.mem_cons_self

section Examples

instance (handlers : QueueHandlers Client) :
    (step : QueueSection Client) → Decidable (Unhurried handlers step)
  | .push _ _ =>
      inferInstanceAs
        (Decidable
          (handlers.server.commandsQueue = [] → handlers.owed = 0))
  | .response value =>
      inferInstanceAs
        (Decidable
          (handlers.server.Removes value →
            handlers.server.commandsQueue.length ≤ 1 ∨ handlers.owed = 0))
  | .timeout =>
      inferInstanceAs
        (Decidable
          (handlers.server.commandsQueue.length ≤ 1 ∨ handlers.owed = 0))
  | .executeNext => inferInstanceAs (Decidable True)
  | .sessions _ => inferInstanceAs (Decidable True)
  | .nodes _ => inferInstanceAs (Decidable True)

/-- A command from the console, one from client 7, a response and a timeout. -/
theorem disciplined_two_commands :
    ∃ handlers : QueueHandlers Nat,
      Run next Unhurried start handlers ∧
        handlers.written = [1, 0] ∧
        handlers.Disciplined := by
  obtain ⟨handlers, run, observed⟩ :=
    exists_run_of_observed
      next
      Unhurried
      (start : QueueHandlers Nat)
      [.sessions [7], .push (getFrom 2) none, .push (getFrom 0) (some 7),
        .executeNext, .response 5, .executeNext, .timeout, .executeNext]
      (fun handlers => decide (handlers.written = [1, 0]))
      (by decide +kernel)
  rw [decide_eq_true_eq] at observed
  exact ⟨handlers, run, observed, disciplined_of_run run⟩

/--
A response removes the only command.  Before its handler executes the next one, a
push finds its command alone in the queue, and both handlers execute it.
-/
theorem not_disciplined_push_after_pop :
    ∃ handlers : QueueHandlers Nat,
      Run next (fun _ _ => True) start handlers ∧ ¬ handlers.Disciplined := by
  obtain ⟨handlers, run, observed⟩ :=
    exists_run_of_observed
      next
      (fun _ _ => True)
      (start : QueueHandlers Nat)
      [.push (getFrom 2) none, .executeNext, .response 5,
        .push (getFrom 3) none, .executeNext, .executeNext]
      (fun handlers => decide (handlers.written = [1, 1, 0]))
      (by decide +kernel)
  rw [decide_eq_true_eq] at observed
  refine ⟨handlers, run, fun disciplined => ?_⟩
  have once := disciplined.once
  rw [observed] at once
  exact absurd once (by decide)

end Examples

end QueueHandlers

end DistributedLighting
