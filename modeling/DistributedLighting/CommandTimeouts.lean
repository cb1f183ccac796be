import DistributedLighting.CommandServer

namespace DistributedLighting

/-!
# Timeouts and late answers

Handlers run one after another.  A wait of `timerCommandTimeout` that has expired
has its handler queued with a success code, which `cancel()` and `expires_after()`
do not take back; and a response carries no mark of the command that it answers.
-/

/-- What makes the server run a handler, or changes what its handlers read. -/
inductive ServerEvent (Client : Type) where
  | push (command : Command) (client : Option Client)
  | response (value : BitVec 32)
  /-- Three seconds have passed since the last command was written. -/
  | expire
  /-- One of the queued handlers of expired waits runs. -/
  | timeout (position : Nat)
  | sessions (clients : List Client)
  | nodes (ids : List Nat)

/-- The server and its timer. -/
structure TimedServer (Client : Type) where
  server : CommandServer Client
  /-- The command for which the timer is waiting. -/
  armed : Option Nat
  /-- The commands whose wait has expired and whose handler has not run yet. -/
  expired : List Nat

namespace TimedServer

variable {Client : Type}

/-- The server before the first command. -/
def start : TimedServer Client where
  server := .started
  armed := none
  expired := []

/-- The timer waits for a command that has been written. -/
def arm
    (timed : TimedServer Client)
    (executed :
      CommandServer Client × Option (CommandQueueElement Client)) :
    TimedServer Client × Option (CommandQueueElement Client) :=
  match executed.2 with
  | none => ({ timed with server := executed.1 }, none)
  | some element =>
      ({ timed with server := executed.1, armed := some element.number },
        some element)

section Arm

variable
  (timed : TimedServer Client)
  (executed : CommandServer Client × Option (CommandQueueElement Client))

@[simp]
theorem arm_expired : (timed.arm executed).1.expired = timed.expired := by
  unfold arm
  split <;> rfl

@[simp]
theorem arm_server : (timed.arm executed).1.server = executed.1 := by
  unfold arm
  split <;> rfl

@[simp]
theorem arm_written : (timed.arm executed).2 = executed.2 := by
  unfold arm
  split <;> simp_all

end Arm

variable [DecidableEq Client]

/-- The handler of an event, with the command that it writes. -/
def next
    (timed : TimedServer Client) :
    ServerEvent Client →
      Option (TimedServer Client × Option (CommandQueueElement Client))
  | .push command client =>
      some (timed.arm (timed.server.addCommandToQueue command client))
  | .response value =>
      let answered := timed.server.receivedCommandResponse value
      if answered.2.isSome then
        some
          ({ timed with armed := none }.arm
            answered.1.executeNextInCommandQueue)
      else
        some ({ timed with server := answered.1 }, none)
  | .expire =>
      timed.armed.map fun number =>
        ({ timed with armed := none, expired := timed.expired ++ [number] },
          none)
  | .timeout position =>
      if position < timed.expired.length then
        timed.server.commandTimedOut.map fun timedOut =>
          { timed with expired := timed.expired.eraseIdx position }.arm
            timedOut.1.executeNextInCommandQueue
      else
        none
  | .sessions clients =>
      some
        ({ timed with
            server := { timed.server with clientSessions := clients } },
          none)
  | .nodes ids =>
      some
        ({ timed with server := { timed.server with nodeIds := ids } }, none)

/-- The state after an event. -/
def after
    (timed : TimedServer Client)
    (event : ServerEvent Client) : Option (TimedServer Client) :=
  (timed.next event).map Prod.fst

/--
Whichever handler of an expired wait runs next, the queue is not empty and the
command that it removes is the one whose wait has expired.
-/
def TimesOutOwn (timed : TimedServer Client) : Prop :=
  ∀ number ∈ timed.expired,
    ∃ front ∈ timed.server.commandsQueue.head?, front.number = number

/-- A response removes a command only while no handler of an expired wait is queued. -/
def Prompt (timed : TimedServer Client) : ServerEvent Client → Prop
  | .response value =>
      timed.server.Removes value → timed.expired = []
  | _ => True

/-- The timer is about the front of the queue, and at most one wait of it has expired. -/
structure InTime (timed : TimedServer Client) : Prop where
  numbered : timed.server.Numbered
  armed :
    ∀ number, timed.armed = some number →
      ∃ front ∈ timed.server.commandsQueue.head?, front.number = number
  expired :
    timed.expired = [] ∨
      timed.armed = none ∧
        ∃ front ∈ timed.server.commandsQueue.head?,
          timed.expired = [front.number]

end TimedServer

namespace TimedServer.InTime

variable {Client : Type} {timed next : TimedServer Client}

/-- The handlers of expired waits remove what they should. -/
theorem timesOutOwn (inTime : timed.InTime) : timed.TimesOutOwn := by
  intro number isExpired
  rcases inTime.expired with none | ⟨-, front, isFront, one⟩
  · rw [none] at isExpired
    cases isExpired
  · rw [one] at isExpired
    exact ⟨front, isFront, (List.mem_singleton.mp isExpired).symm⟩

/-- Before the first command no wait is pending. -/
theorem start : (start : TimedServer Client).InTime where
  numbered := CommandServer.numbered_started
  armed := nofun
  expired := .inl rfl

/-- A timer that waits for nothing is armed for the front that has just been written. -/
theorem of_executed
    {server : CommandServer Client}
    {written : Option (CommandQueueElement Client)}
    (numbered : server.Numbered)
    (isFront : server.commandsQueue.head? = written)
    (idle : timed.armed = none)
    (noneExpired : timed.expired = []) :
    (timed.arm (server, written)).1.InTime := by
  unfold arm
  cases written with
  | none =>
      exact
        { numbered := numbered
          armed := by rw [idle]; nofun
          expired := .inl noneExpired }
  | some element =>
      exact
        { numbered := numbered
          armed := by
            rintro number ⟨⟩
            exact ⟨element, isFront, rfl⟩
          expired := .inl noneExpired }

/-- What keeps the front keeps the invariant. -/
theorem congr
    (inTime : timed.InTime)
    {server : CommandServer Client}
    (numbered : server.Numbered)
    (head :
      server.commandsQueue.head? = timed.server.commandsQueue.head?) :
    InTime { timed with server := server } where
  numbered := numbered
  armed := by
    dsimp only
    rw [head]
    exact inTime.armed
  expired := by
    dsimp only
    rw [head]
    exact inTime.expired

/-- What keeps the queue keeps the invariant. -/
theorem of_same_queue
    (inTime : timed.InTime)
    {server : CommandServer Client}
    (queue : server.commandsQueue = timed.server.commandsQueue)
    (pushes : server.pushes = timed.server.pushes) :
    InTime { timed with server := server } :=
  inTime.congr
    (inTime.numbered.of_suffix (queue ▸ List.suffix_refl _) pushes)
    (congrArg List.head? queue)

/-- Without a front no wait is pending or has expired. -/
theorem of_empty
    (inTime : timed.InTime)
    (isEmpty : timed.server.commandsQueue = []) :
    timed.armed = none ∧ timed.expired = [] := by
  have noFront : timed.server.commandsQueue.head? = none := by
    rw [isEmpty]
    rfl
  constructor
  · cases isArmed : timed.armed with
    | none => rfl
    | some number =>
        obtain ⟨front, isFront, -⟩ := inTime.armed number isArmed
        rw [noFront] at isFront
        cases isFront
  · rcases inTime.expired with none | ⟨-, front, isFront, -⟩
    · exact none
    · rw [noFront] at isFront
      cases isFront

variable [DecidableEq Client]

/-- Removing the front and executing the next command keeps the invariant. -/
theorem executed
    (inTime : timed.InTime)
    {front : CommandQueueElement Client}
    {server : CommandServer Client}
    (isQueue :
      timed.server.commandsQueue = front :: server.commandsQueue)
    (pushes : server.pushes = timed.server.pushes)
    (idle : next.armed = none)
    (noneExpired : next.expired = []) :
    (next.arm server.executeNextInCommandQueue).1.InTime := by
  obtain ⟨suffix, isFront, samePushes⟩ :=
    server.executeNextInCommandQueue_spec
  refine of_executed ?_ isFront idle noneExpired
  refine inTime.numbered.of_suffix ?_ (samePushes.trans pushes)
  rw [isQueue]
  exact suffix.trans (List.suffix_cons _ _)

/-- Every prompt event keeps the invariant. -/
theorem step
    (inTime : timed.InTime)
    {event : ServerEvent Client}
    (prompt : Prompt timed event)
    (taken : timed.after event = some next) :
    next.InTime := by
  obtain ⟨result, handled, isNext⟩ := Option.map_eq_some_iff.mp taken
  subst isNext
  cases event with
  | push command client =>
      obtain ⟨⟩ := handled
      have numbered := inTime.numbered.push command client
      by_cases isEmpty : timed.server.commandsQueue = []
      · obtain ⟨idle, noneExpired⟩ := inTime.of_empty isEmpty
        rw [CommandServer.addCommandToQueue_of_empty isEmpty]
        obtain ⟨suffix, isFront, pushes⟩ :=
          (timed.server.push command client).executeNextInCommandQueue_spec
        exact
          of_executed (numbered.of_suffix suffix pushes) isFront idle
            noneExpired
      · rw [CommandServer.addCommandToQueue_of_nonempty isEmpty]
        exact
          inTime.congr numbered
            (CommandServer.push_head isEmpty command client)
  | response value =>
      simp only [TimedServer.next] at handled
      obtain ⟨pushes, kept | ⟨front, rest, isQueue, removed, isRest⟩⟩ :=
        timed.server.receivedCommandResponse_cases value
      · rw [kept.1] at handled
        obtain ⟨⟩ := handled
        exact inTime.of_same_queue kept.2 pushes
      · have removes : timed.server.Removes value := by
          rw [← CommandServer.isSome_receivedCommandResponse_iff, removed]
          rfl
        rw [removed] at handled
        obtain ⟨⟩ := handled
        rw [← isRest] at isQueue
        exact inTime.executed isQueue pushes rfl (prompt removes)
  | expire =>
      obtain ⟨number, isArmed, isResult⟩ := Option.map_eq_some_iff.mp handled
      subst isResult
      obtain ⟨front, isFront, isNumber⟩ := inTime.armed number isArmed
      have noneExpired : timed.expired = [] := by
        rcases inTime.expired with none | ⟨idle, -⟩
        · exact none
        · rw [idle] at isArmed
          cases isArmed
      exact
        { numbered := inTime.numbered
          armed := nofun
          expired :=
            .inr ⟨rfl, front, isFront, by rw [noneExpired, isNumber]; rfl⟩ }
  | timeout position =>
      simp only [TimedServer.next] at handled
      split at handled
      · rename_i inRange
        obtain ⟨removed, timedOut, isResult⟩ :=
          Option.map_eq_some_iff.mp handled
        subst isResult
        rcases inTime.expired with none | ⟨idle, front, isFront, one⟩
        · rw [none] at inRange
          cases inRange
        · have erased : timed.expired.eraseIdx position = [] := by
            rw [one, List.length_singleton, Nat.lt_one_iff] at inRange
            rw [one, inRange]
            rfl
          cases isQueue : timed.server.commandsQueue with
          | nil =>
              rw [isQueue] at isFront
              cases isFront
          | cons first rest =>
              rw [CommandServer.commandTimedOut, isQueue] at timedOut
              obtain ⟨⟩ := timedOut
              exact inTime.executed isQueue rfl idle erased
      · cases handled
  | sessions clients =>
      obtain ⟨⟩ := handled
      exact inTime.of_same_queue rfl rfl
  | nodes ids =>
      obtain ⟨⟩ := handled
      exact inTime.of_same_queue rfl rfl

end TimedServer.InTime

namespace TimedServer

variable {Client : Type} [DecidableEq Client]

/-- What a handler does to the queue, and which command it may have written. -/
theorem next_spec
    {timed : TimedServer Client}
    {event : ServerEvent Client}
    {result : TimedServer Client × Option (CommandQueueElement Client)}
    (numbered : timed.server.Numbered)
    (handled : timed.next event = some result) :
    result.1.server.Follows timed.server ∧
      ∀ element ∈ result.2,
        element ∈ result.1.server.commandsQueue.head? := by
  have armed :
      ∀ (before : TimedServer Client) (server : CommandServer Client),
        server.Follows timed.server →
        (before.arm server.executeNextInCommandQueue).1.server.Follows
            timed.server ∧
          ∀ element ∈ (before.arm server.executeNextInCommandQueue).2,
            element ∈
              (before.arm
                server.executeNextInCommandQueue).1.server.commandsQueue.head? := by
    intro before server follows
    rw [arm_server, arm_written, server.executeNextInCommandQueue_spec.2.1]
    exact ⟨follows.executed, fun element isWritten => isWritten⟩
  have kept :
      ∀ server : CommandServer Client,
        server.commandsQueue = timed.server.commandsQueue →
        server.pushes = timed.server.pushes →
        server.Follows timed.server :=
    fun server queue pushes =>
      .of_suffix numbered (queue ▸ List.suffix_refl _) pushes
  cases event with
  | push command client =>
      obtain ⟨⟩ := handled
      have pushed := CommandServer.Follows.push numbered command client
      by_cases isEmpty : timed.server.commandsQueue = []
      · rw [CommandServer.addCommandToQueue_of_empty isEmpty]
        exact armed timed _ pushed
      · rw [CommandServer.addCommandToQueue_of_nonempty isEmpty]
        exact ⟨pushed, nofun⟩
  | response value =>
      simp only [next] at handled
      obtain ⟨pushes, same | ⟨front, rest, isQueue, removed, isRest⟩⟩ :=
        timed.server.receivedCommandResponse_cases value
      · rw [same.1] at handled
        obtain ⟨⟩ := handled
        exact ⟨kept _ same.2 pushes, nofun⟩
      · rw [removed] at handled
        obtain ⟨⟩ := handled
        have suffix :
            (timed.server.receivedCommandResponse value).1.commandsQueue <:+
              timed.server.commandsQueue := by
          rw [isRest, isQueue]
          exact List.suffix_cons _ _
        exact armed _ _ (.of_suffix numbered suffix pushes)
  | expire =>
      obtain ⟨number, -, isResult⟩ := Option.map_eq_some_iff.mp handled
      subst isResult
      exact ⟨kept _ rfl rfl, nofun⟩
  | timeout position =>
      simp only [next] at handled
      split at handled
      · obtain ⟨removed, timedOut, isResult⟩ :=
          Option.map_eq_some_iff.mp handled
        subst isResult
        cases isQueue : timed.server.commandsQueue with
        | nil =>
            rw [CommandServer.commandTimedOut, isQueue] at timedOut
            cases timedOut
        | cons front rest =>
            rw [CommandServer.commandTimedOut, isQueue] at timedOut
            obtain ⟨⟩ := timedOut
            refine armed _ _ (.of_suffix numbered ?_ rfl)
            rw [isQueue]
            exact List.suffix_cons _ _
      · cases handled
  | sessions clients =>
      obtain ⟨⟩ := handled
      exact ⟨kept _ rfl rfl, nofun⟩
  | nodes ids =>
      obtain ⟨⟩ := handled
      exact ⟨kept _ rfl rfl, nofun⟩

/--
In every run in which no response overtakes a queued timeout handler, every timeout
handler removes the command whose own wait has expired.
-/
theorem timesOutOwn_of_run
    {timed : TimedServer Client}
    (run : Run after Prompt start timed) :
    timed.TimesOutOwn := by
  have inTime : timed.InTime :=
    run.invariant InTime .start fun inTime prompt taken =>
      inTime.step prompt taken
  exact inTime.timesOutOwn

/--
A response that overtakes a queued timeout handler leaves that handler with another
command, or with an empty queue.
-/
theorem not_timesOutOwn_of_overtaken
    {timed next : TimedServer Client}
    {event : ServerEvent Client}
    (inTime : timed.InTime)
    (overtaken : ¬ Prompt timed event)
    (taken : timed.after event = some next) :
    ¬ next.TimesOutOwn := by
  cases event with
  | response value =>
      obtain ⟨removes, someExpired⟩ := Classical.not_imp.mp overtaken
      obtain ⟨-, front, isFront, one⟩ :=
        inTime.expired.resolve_left someExpired
      obtain ⟨pushes, kept | ⟨first, rest, isQueue, removed, isRest⟩⟩ :=
        timed.server.receivedCommandResponse_cases value
      · rw [← CommandServer.isSome_receivedCommandResponse_iff, kept.1]
          at removes
        cases removes
      · rw [isQueue] at isFront
        obtain ⟨⟩ := isFront
        simp only [after, TimedServer.next, removed, Option.isSome_some,
          if_true, Option.map_some, Option.some.injEq] at taken
        subst taken
        intro timesOutOwn
        have stillExpired :
            front.number ∈
              (({ timed with armed := none } : TimedServer Client).arm
                (timed.server.receivedCommandResponse
                  value).1.executeNextInCommandQueue).1.expired := by
          rw [arm_expired, one]
          exact List.mem_singleton_self _
        obtain ⟨second, isSecond, same⟩ := timesOutOwn _ stillExpired
        rw [arm_server] at isSecond
        have suffix :=
          (timed.server.receivedCommandResponse
            value).1.executeNextInCommandQueue_spec.1
        rw [isRest] at suffix
        have behind :=
          inTime.numbered.front_lt isQueue second
            (suffix.subset (List.mem_of_mem_head? isSecond))
        exact Nat.ne_of_gt behind same
  | push command client => exact absurd trivial overtaken
  | expire => exact absurd trivial overtaken
  | timeout position => exact absurd trivial overtaken
  | sessions clients => exact absurd trivial overtaken
  | nodes ids => exact absurd trivial overtaken

section Examples

instance (timed : TimedServer Client) :
    (event : ServerEvent Client) → Decidable (Prompt timed event)
  | .response value =>
      inferInstanceAs
        (Decidable (timed.server.Removes value → timed.expired = []))
  | .push _ _ => inferInstanceAs (Decidable True)
  | .expire => inferInstanceAs (Decidable True)
  | .timeout _ => inferInstanceAs (Decidable True)
  | .sessions _ => inferInstanceAs (Decidable True)
  | .nodes _ => inferInstanceAs (Decidable True)

/-- A command that is answered in time, and a second one whose wait has expired. -/
theorem timesOutOwn_second_command :
    ∃ timed : TimedServer Nat,
      Run after Prompt start timed ∧
        timed.expired = [1] ∧
        timed.TimesOutOwn := by
  obtain ⟨timed, run, observed⟩ :=
    exists_run_of_observed
      after
      Prompt
      (start : TimedServer Nat)
      [.push (getFrom 2) none, .push (getFrom 3) none, .response 5, .expire]
      (fun timed => decide (timed.expired = [1]))
      (by decide +kernel)
  rw [decide_eq_true_eq] at observed
  exact ⟨timed, run, observed, timesOutOwn_of_run run⟩

/--
The wait of the only command has expired when its response arrives.  The response
removes it, and the queued handler finds an empty queue.
-/
theorem not_timesOutOwn_late_response :
    ∃ timed : TimedServer Nat,
      Run after (fun _ _ => True) start timed ∧
        timed.expired ≠ [] ∧
        timed.server.commandsQueue = [] ∧
        ¬ timed.TimesOutOwn := by
  obtain ⟨timed, run, observed⟩ :=
    exists_run_of_observed
      after
      (fun _ _ => True)
      (start : TimedServer Nat)
      [.push (getFrom 2) none, .expire, .response 5]
      (fun timed =>
        decide (timed.expired = [0]) &&
          decide (timed.server.commandsQueue = []))
      (by decide +kernel)
  rw [Bool.and_eq_true, decide_eq_true_eq, decide_eq_true_eq] at observed
  obtain ⟨isExpired, isEmpty⟩ := observed
  refine ⟨timed, run, by rw [isExpired]; decide, isEmpty, ?_⟩
  intro timesOutOwn
  obtain ⟨front, isFront, -⟩ := timesOutOwn 0 (by rw [isExpired]; decide)
  rw [isEmpty] at isFront
  cases isFront

end Examples

end TimedServer

end DistributedLighting
