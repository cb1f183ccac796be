import DistributedLighting.CommandTimeouts

namespace DistributedLighting

/-!
# Late answers

The hub answers the commands that were written in their order, each that is not a
reset at most once, sooner or later or never.  The server takes an answer for the
answer of the command that is at the front of its queue by then.
-/

/-- An event of the server, or the answer of the hub to a given command. -/
inductive AnsweredEvent (Client : Type) where
  | server (event : ServerEvent Client)
  | answer (number : Nat) (value : BitVec 32)

/-- The server and the commands that the hub may still answer. -/
structure AnsweredServer (Client : Type) where
  timed : TimedServer Client
  /-- In the order in which they were written. -/
  unanswered : List (CommandQueueElement Client)

namespace AnsweredServer

variable {Client : Type}

/-- Nothing has been written. -/
def start : AnsweredServer Client where
  timed := .start
  unanswered := []

/--
What the hub may answer after an answer to a given command: only later commands,
and a reset again.
-/
def afterAnswer
    (number : Nat)
    (unanswered : List (CommandQueueElement Client)) :
    Option (List (CommandQueueElement Client)) :=
  match unanswered.dropWhile fun element => element.number ≠ number with
  | [] => none
  | element :: later =>
      some
        (if element.command.cmd = byteOf 'r' then element :: later else later)

variable [DecidableEq Client]

/-- The state after an event; responses come from the hub only. -/
def next
    (answered : AnsweredServer Client) :
    AnsweredEvent Client → Option (AnsweredServer Client)
  | .server (.response _) => none
  | .server event =>
      (answered.timed.next event).map fun result =>
        { timed := result.1
          unanswered := answered.unanswered ++ result.2.toList }
  | .answer number value =>
      (afterAnswer number answered.unanswered).bind fun left =>
        (answered.timed.next (.response value)).map fun result =>
          { timed := result.1
            unanswered := left ++ result.2.toList }

/-- The command that an answer is printed for is the one that it answers. -/
def RendersOwn
    (answered : AnsweredServer Client)
    (number : Nat)
    (value : BitVec 32) : Prop :=
  ∀ front,
    (answered.timed.server.receivedCommandResponse value).2 = some front →
    front.number = number

/--
When an answer completes the front of the queue, the command that it answers is
still queued.
-/
def StillQueued
    (answered : AnsweredServer Client)
    (number : Nat)
    (value : BitVec 32) : Prop :=
  answered.timed.server.Removes value →
  ∃ element ∈ answered.timed.server.commandsQueue, element.number = number

/-- No queued command is older than one that has been written. -/
structure Attributed (answered : AnsweredServer Client) : Prop where
  numbered : answered.timed.server.Numbered
  known :
    ∀ element ∈ answered.unanswered,
      element.number < answered.timed.server.pushes
  notBehind :
    ∀ element ∈ answered.unanswered,
      ∀ queued ∈ answered.timed.server.commandsQueue,
        element.number ≤ queued.number

end AnsweredServer

namespace AnsweredServer

variable {Client : Type}

/-- After an answer only commands are left that were left before. -/
theorem subset_of_afterAnswer
    {number : Nat}
    {unanswered left : List (CommandQueueElement Client)}
    (isLeft : afterAnswer number unanswered = some left) :
    left ⊆ unanswered := by
  unfold afterAnswer at isLeft
  split at isLeft
  · cases isLeft
  · rename_i element later isRest
    have suffix : element :: later <:+ unanswered := by
      rw [← isRest]
      exact List.dropWhile_suffix _
    obtain ⟨⟩ := isLeft
    split
    · exact suffix.subset
    · exact fun _ member => suffix.subset (List.mem_cons_of_mem _ member)

/-- The hub answers a command that it has not answered yet. -/
theorem mem_of_afterAnswer
    {number : Nat}
    {unanswered left : List (CommandQueueElement Client)}
    (isLeft : afterAnswer number unanswered = some left) :
    ∃ element ∈ unanswered, element.number = number := by
  unfold afterAnswer at isLeft
  split at isLeft
  · cases isLeft
  · rename_i element later isRest
    have isNumber :=
      List.head?_dropWhile_not
        (fun element => decide (element.number ≠ number)) unanswered
    rw [isRest] at isNumber
    refine ⟨element, ?_, by simpa using isNumber⟩
    apply (List.dropWhile_suffix _).subset
    rw [isRest]
    exact List.mem_cons_self

/-- Nothing has been written at the start. -/
theorem Attributed.start : (start : AnsweredServer Client).Attributed where
  numbered := CommandServer.numbered_started
  known := nofun
  notBehind := nofun

variable [DecidableEq Client] {answered after : AnsweredServer Client}

namespace Attributed

/-- A handler keeps the order of the written and the queued commands. -/
theorem handled
    (attributed : answered.Attributed)
    {event : ServerEvent Client}
    {result : TimedServer Client × Option (CommandQueueElement Client)}
    (handled : answered.timed.next event = some result)
    {left : List (CommandQueueElement Client)}
    (subset : left ⊆ answered.unanswered) :
    Attributed
      { timed := result.1
        unanswered := left ++ result.2.toList } := by
  obtain ⟨follows, written⟩ :=
    TimedServer.next_spec attributed.numbered handled
  refine
    { numbered := follows.numbered
      known := ?_
      notBehind := ?_ }
  · intro element member
    rcases List.mem_append.mp member with earlier | isNew
    · exact
        Nat.lt_of_lt_of_le
          (attributed.known element (subset earlier)) follows.pushes
    · have isFront := written element (Option.mem_toList.mp isNew)
      exact
        follows.numbered.pushed element (List.mem_of_mem_head? isFront)
  · intro element member queued inQueue
    rcases List.mem_append.mp member with earlier | isNew
    · rcases follows.queue queued inQueue with stillQueued | pushed
      · exact
          attributed.notBehind element (subset earlier) queued stillQueued
      · exact
          Nat.le_of_lt
            (Nat.lt_of_lt_of_le
              (attributed.known element (subset earlier)) pushed)
    · exact
        follows.numbered.head_le
          (written element (Option.mem_toList.mp isNew)) queued inQueue

/-- Every event keeps the order of the written and the queued commands. -/
theorem step
    (attributed : answered.Attributed)
    {event : AnsweredEvent Client}
    (taken : answered.next event = some after) :
    after.Attributed := by
  unfold next at taken
  split at taken
  · cases taken
  · obtain ⟨result, handled, isAfter⟩ := Option.map_eq_some_iff.mp taken
    subst isAfter
    exact attributed.handled handled (List.Subset.refl _)
  · obtain ⟨left, isLeft, taken⟩ := Option.bind_eq_some_iff.mp taken
    obtain ⟨result, handled, isAfter⟩ := Option.map_eq_some_iff.mp taken
    subst isAfter
    exact attributed.handled handled (subset_of_afterAnswer isLeft)

end Attributed

/--
In every run an answer is printed for the command that it answers, if and only if
that command is still queued whenever the answer completes the front of the queue.
-/
theorem rendersOwn_iff_stillQueued
    {number : Nat}
    {value : BitVec 32}
    (run : Run next (fun _ _ => True) start answered)
    (answers : answered.next (.answer number value) = some after) :
    answered.RendersOwn number value ↔ answered.StillQueued number value := by
  have attributed : answered.Attributed :=
    run.invariant Attributed .start fun attributed _ taken =>
      attributed.step taken
  obtain ⟨left, isLeft, -⟩ := Option.bind_eq_some_iff.mp answers
  obtain ⟨element, isWritten, isNumber⟩ := mem_of_afterAnswer isLeft
  obtain ⟨-, kept | ⟨front, rest, isQueue, removed, -⟩⟩ :=
    answered.timed.server.receivedCommandResponse_cases value
  · refine iff_of_true ?_ ?_
    · intro front isFront
      rw [kept.1] at isFront
      cases isFront
    · intro removes
      rw [← CommandServer.isSome_receivedCommandResponse_iff, kept.1]
        at removes
      cases removes
  · have member : front ∈ answered.timed.server.commandsQueue := by
      rw [isQueue]
      exact List.mem_cons_self
    constructor
    · intro rendersOwn _
      exact ⟨front, member, rendersOwn front removed⟩
    · intro stillQueued printed isPrinted
      obtain ⟨⟩ := removed.symm.trans isPrinted
      have removes : answered.timed.server.Removes value := by
        rw [← CommandServer.isSome_receivedCommandResponse_iff, removed]
        rfl
      obtain ⟨queued, inQueue, same⟩ := stillQueued removes
      -- Nothing in the queue is older than the front or than what was written.
      have atLeast :=
        attributed.notBehind element isWritten front member
      have atMost :=
        attributed.numbered.head_le (by rw [isQueue]; rfl) queued inQueue
      rw [isNumber] at atLeast
      rw [same] at atMost
      exact Nat.le_antisymm atMost atLeast

section Examples

/-- Commands to all nodes and to node 3 are pushed, and the first is answered in time. -/
theorem rendersOwn_first_command :
    ∃ answered : AnsweredServer Nat,
      Run next (fun _ _ => True) start answered ∧
        answered.RendersOwn 0 5 := by
  obtain ⟨answered, run, observed⟩ :=
    exists_run_of_observed
      next
      (fun _ _ => True)
      (start : AnsweredServer Nat)
      [.server (.push (getFrom 0) none), .server (.push (getFrom 3) none)]
      (fun answered =>
        (answered.next (.answer 0 5)).isSome &&
          answered.timed.server.commandsQueue.any (·.number == 0))
      (by decide +kernel)
  rw [Bool.and_eq_true, List.any_eq_true] at observed
  obtain ⟨enabled, element, member, isFirst⟩ := observed
  obtain ⟨after, taken⟩ := Option.isSome_iff_exists.mp enabled
  refine
    ⟨answered, run, (rendersOwn_iff_stillQueued run taken).mpr fun _ => ?_⟩
  exact ⟨element, member, beq_iff_eq.mp isFirst⟩

/--
The first command times out, the second one is written, and then the answer to the
first one arrives: it is printed for the second one.
-/
theorem not_rendersOwn_after_timeout :
    ∃ answered : AnsweredServer Nat,
      Run next (fun _ _ => True) start answered ∧
        (answered.next (.answer 0 5)).isSome = true ∧
        ¬ answered.RendersOwn 0 5 := by
  obtain ⟨answered, run, observed⟩ :=
    exists_run_of_observed
      next
      (fun _ _ => True)
      (start : AnsweredServer Nat)
      [.server (.push (getFrom 2) none), .server (.push (getFrom 3) none),
        .server .expire, .server (.timeout 0)]
      (fun answered =>
        (answered.next (.answer 0 5)).isSome &&
          decide
            ((answered.timed.server.receivedCommandResponse 5).2 =
              some { number := 1, command := getFrom 3, client := none }))
      (by decide +kernel)
  rw [Bool.and_eq_true, decide_eq_true_eq] at observed
  refine ⟨answered, run, observed.1, fun rendersOwn => ?_⟩
  exact absurd (rendersOwn _ observed.2) (by decide)

end Examples

end AnsweredServer

end DistributedLighting
