import DistributedLighting.CanFrameStream
import DistributedLighting.Runs

namespace DistributedLighting

open BoundedQueue

/-!
# The interrupt handler and the main loop

The MCP2515 interrupts the main loop at any point.  `irqHandler` puts what it reads
into `cf_stream` and sets `interrupt`; `loop` clears `interrupt`, reports overflows and
gets frames until none is left.  Only the calls of `get` stand between `cli` and
`sei`.  In every interleaving the frames are received once and in order, none waits
for a wake-up that is lost, and every frame that is dropped is reported, but for a
gap of one statement.
-/

/-- What an interrupt finds in the MCP2515. -/
structure McpState (CanFrame : Type) where
  /-- The frame of buffer 0, if `CANINTF_RX0IF` is set. -/
  rxb0 : Option CanFrame
  /-- The frame of buffer 1, if `CANINTF_RX1IF` is set. -/
  rxb1 : Option CanFrame
  /-- `EFLG_RX0OVR` or `EFLG_RX1OVR` is set. -/
  rxOvr : Bool

/-- Where in `loop` the program is. -/
inductive LoopPlace where
  /-- Anywhere up to the test of `interrupt`. -/
  | elsewhere
  /-- The test has succeeded. -/
  | woken
  | testMcp2515
  | printedMcp2515
  | testArduino
  | printedArduino
  | getting
  /-- A frame is in the local variable, and goes to `communication.received`. -/
  | receiving
  deriving Repr, DecidableEq

/-- The statements of a pass that are left, but for the frames that wait. -/
def LoopPlace.left : LoopPlace → Nat
  | .elsewhere => 0
  | .woken => 6
  | .testMcp2515 => 5
  | .printedMcp2515 => 4
  | .testArduino => 3
  | .printedArduino => 2
  | .getting => 1
  | .receiving => 2

/-- The globals that the handler shares with `loop`, and the local frame of `loop`. -/
structure Receiver (CanFrame : Type) where
  cfStream : CanFrameStream CanFrame
  interrupt : Bool
  mcp2515Overflow : Bool
  arduinoOverflow : Bool
  frame : CanFrame
  place : LoopPlace
  /-- The calls of `put` and `get` so far. -/
  calls : List (Call CanFrame)
  /-- The frames passed to `communication.received` so far. -/
  received : List CanFrame
  /-- The frames dropped since an overflow was last printed. -/
  unreported : Nat

/-- The program steps, or is interrupted. -/
inductive ReceiverEvent (CanFrame : Type) where
  | irq (mcp : McpState CanFrame)
  | loop

namespace Receiver

variable {CanFrame : Type}

/-- The globals at the start; nobody has initialised the frames. -/
def new
    (cfBuffer : Nat → CanFrame)
    (frame : CanFrame) : Receiver CanFrame where
  cfStream := .new cfBuffer
  interrupt := false
  mcp2515Overflow := false
  arduinoOverflow := false
  frame := frame
  place := .elsewhere
  calls := []
  received := []
  unreported := 0

/-- Put a frame that was read into the stream, or note the overflow. -/
def putFrame
    (receiver : Receiver CanFrame)
    (frame : CanFrame) : Receiver CanFrame :=
  let after := receiver.cfStream.put frame
  { receiver with
    cfStream := after.2
    calls := receiver.calls ++ [.put frame]
    arduinoOverflow :=
      if after.1 = 0 then true else receiver.arduinoOverflow
    unreported :=
      if after.1 = 0 then receiver.unreported + 1
      else receiver.unreported }

/-- Put the frame of a buffer, if it has one. -/
def putBuffer
    (receiver : Receiver CanFrame) : Option CanFrame → Receiver CanFrame
  | some frame => receiver.putFrame frame
  | none => receiver

/-- `irqHandler` -/
def irqHandler
    (receiver : Receiver CanFrame)
    (mcp : McpState CanFrame) : Receiver CanFrame :=
  let read := (receiver.putBuffer mcp.rxb0).putBuffer mcp.rxb1
  { read with
    mcp2515Overflow := if mcp.rxOvr then true else read.mcp2515Overflow
    interrupt := true }

/-- `has_data = cf_stream.get(frame)` between `cli` and `sei`. -/
def getFrame (receiver : Receiver CanFrame) : Receiver CanFrame :=
  let after := receiver.cfStream.get receiver.frame
  { receiver with
    cfStream := after.2.2
    frame := after.2.1
    calls := receiver.calls ++ [.get receiver.frame]
    place := if after.1 ≠ 0 then .receiving else .elsewhere }

/-- The next statement of `loop`, as far as it reads or writes what the handler does. -/
def loop (receiver : Receiver CanFrame) : Receiver CanFrame :=
  match receiver.place with
  | .elsewhere =>
      if receiver.interrupt then
        { receiver with place := .woken }
      else
        receiver
  | .woken =>
      { receiver with interrupt := false, place := .testMcp2515 }
  | .testMcp2515 =>
      if receiver.mcp2515Overflow then
        { receiver with place := .printedMcp2515 }
      else
        { receiver with place := .testArduino }
  | .printedMcp2515 =>
      { receiver with mcp2515Overflow := false, place := .testArduino }
  | .testArduino =>
      if receiver.arduinoOverflow then
        { receiver with unreported := 0, place := .printedArduino }
      else
        { receiver with place := .getting }
  | .printedArduino =>
      { receiver with arduinoOverflow := false, place := .getting }
  | .getting => receiver.getFrame
  | .receiving =>
      { receiver with
        received := receiver.received ++ [receiver.frame]
        place := .getting }

/-- The program and its interrupts. -/
def next
    (receiver : Receiver CanFrame) :
    ReceiverEvent CanFrame → Option (Receiver CanFrame)
  | .irq mcp => some (receiver.irqHandler mcp)
  | .loop => some receiver.loop

/-- The frame that has left the stream and is not yet received. -/
def held (receiver : Receiver CanFrame) : List CanFrame :=
  if receiver.place = .receiving then [receiver.frame] else []

/-- The frames that wait in a queue on which the same calls were made. -/
def waiting (receiver : Receiver CanFrame) : List CanFrame :=
  (queue CanFrame buffsize).after [] receiver.calls

/-- The answers of that queue. -/
def history
    (receiver : Receiver CanFrame) : List (Call CanFrame × Answer CanFrame) :=
  (queue CanFrame buffsize).history [] receiver.calls

/-- Nothing is left to do. -/
structure Quiet (receiver : Receiver CanFrame) : Prop where
  place : receiver.place = .elsewhere
  interrupt : receiver.interrupt = false

/-- What every interleaving keeps. -/
structure Invariant (receiver : Receiver CanFrame) : Prop where
  represents : receiver.cfStream.Represents receiver.waiting
  inOrder : returned receiver.history = receiver.received ++ receiver.held
  /-- Outside its own pass the program has been notified of every frame. -/
  notified :
    receiver.place = .elsewhere →
    receiver.waiting ≠ [] →
    receiver.interrupt = true
  /-- Behind the test an overflow notifies again. -/
  flagged :
    receiver.place = .elsewhere ∨
        receiver.place = .getting ∨
        receiver.place = .receiving →
      receiver.arduinoOverflow = true →
      receiver.interrupt = true

variable {receiver after : Receiver CanFrame}

theorem invariant_new (cfBuffer : Nat → CanFrame) (frame : CanFrame) :
    (new cfBuffer frame).Invariant where
  represents := CanFrameStream.represents_new cfBuffer
  inOrder := rfl
  notified := fun _ some => absurd rfl some
  flagged := fun _ overflow => by cases overflow

/-- A frame that is put waits behind the others, or there is no room. -/
theorem putFrame_waiting (receiver : Receiver CanFrame) (frame : CanFrame) :
    (receiver.putFrame frame).waiting =
      if receiver.waiting.length < buffsize then
        receiver.waiting ++ [frame]
      else
        receiver.waiting := by
  show (queue CanFrame buffsize).after [] (receiver.calls ++ [_]) = _
  rw [Implementation.after_append_singleton]
  change ((queue CanFrame buffsize).step receiver.waiting _).2 = _
  simp only [Implementation.step, queue]
  split <;> rfl

/-- The stream says whether there was room. -/
theorem putFrame_result
    (represents : receiver.cfStream.Represents receiver.waiting)
    (frame : CanFrame) :
    (receiver.cfStream.put frame).1 = 0 ↔
      receiver.waiting.length = buffsize := by
  by_cases room : receiver.waiting.length < buffsize
  · rw [(represents.put room frame).1]
    omega
  · have full : receiver.waiting.length = buffsize :=
      Nat.le_antisymm represents.length (Nat.not_lt.mp room)
    simp [represents.put_full full frame, full]

/-- Putting a frame keeps the queue and returns nothing. -/
theorem putFrame_kept
    (represents : receiver.cfStream.Represents receiver.waiting)
    (frame : CanFrame) :
    (receiver.putFrame frame).cfStream.Represents
        (receiver.putFrame frame).waiting ∧
      returned (receiver.putFrame frame).history =
        returned receiver.history := by
  constructor
  · show (receiver.cfStream.put frame).2.Represents
      ((queue CanFrame buffsize).after [] (receiver.calls ++ [_]))
    rw [Implementation.after_append_singleton]
    exact
      (CanFrameStream.simulates_queue.step represents (.put frame)).2
  · show returned ((queue CanFrame buffsize).history [] (receiver.calls ++ [_])) = _
    rw [Implementation.history_append_singleton, returned_append]
    exact List.append_nil _

/-- What the handler does to the stream, it does by putting frames. -/
theorem irqHandler_cases
    (holds : Receiver CanFrame → Prop)
    (put :
      ∀ {receiver : Receiver CanFrame} (frame : CanFrame),
        holds receiver → holds (receiver.putFrame frame))
    (start : holds receiver)
    (mcp : McpState CanFrame) :
    holds ((receiver.putBuffer mcp.rxb0).putBuffer mcp.rxb1) := by
  have buffer :
      ∀ {receiver : Receiver CanFrame} (rxb : Option CanFrame),
        holds receiver → holds (receiver.putBuffer rxb) := by
    intro receiver rxb held
    cases rxb with
    | none => exact held
    | some frame => exact put frame held
  exact buffer mcp.rxb1 (buffer mcp.rxb0 start)

/-- The handler keeps the queue and the pass of the program, and notifies. -/
theorem Invariant.irqHandler
    (invariant : receiver.Invariant)
    (mcp : McpState CanFrame) :
    (receiver.irqHandler mcp).Invariant := by
  have kept :=
    irqHandler_cases
      (fun handled =>
        handled.cfStream.Represents handled.waiting ∧
          returned handled.history = returned receiver.history ∧
          handled.place = receiver.place ∧
          handled.frame = receiver.frame ∧
          handled.received = receiver.received)
      (fun frame kept => by
        obtain ⟨represents, same, unchanged⟩ := kept
        obtain ⟨still, none⟩ := putFrame_kept represents frame
        exact ⟨still, none.trans same, unchanged⟩)
      ⟨invariant.represents, rfl, rfl, rfl, rfl⟩ mcp
  obtain ⟨represents, same, place, frame, received⟩ := kept
  refine ⟨represents, ?_, fun _ _ => rfl, fun _ _ => rfl⟩
  have held : (receiver.irqHandler mcp).held = receiver.held := by
    unfold Receiver.held Receiver.irqHandler
    dsimp only
    rw [place, frame]
  rw [held]
  show returned ((receiver.putBuffer mcp.rxb0).putBuffer mcp.rxb1).history =
    ((receiver.putBuffer mcp.rxb0).putBuffer mcp.rxb1).received ++ _
  rw [same, received]
  exact invariant.inOrder

/-- Getting takes the oldest frame out of the queue, if there is one. -/
theorem getFrame_cases (represents : receiver.cfStream.Represents receiver.waiting) :
    (receiver.waiting = [] ∧
        receiver.getFrame.cfStream.Represents [] ∧
        receiver.getFrame.waiting = [] ∧
        receiver.getFrame.place = .elsewhere ∧
        returned receiver.getFrame.history = returned receiver.history) ∨
      ∃ oldest rest,
        receiver.waiting = oldest :: rest ∧
          receiver.getFrame.cfStream.Represents rest ∧
          receiver.getFrame.waiting = rest ∧
          receiver.getFrame.place = .receiving ∧
          receiver.getFrame.frame = oldest ∧
          returned receiver.getFrame.history =
            returned receiver.history ++ [oldest] := by
  have waits :
      receiver.getFrame.waiting =
        ((queue CanFrame buffsize).step receiver.waiting
          (.get receiver.frame)).2 :=
    Implementation.after_append_singleton _ _ _ _
  have answers :
      receiver.getFrame.history =
        receiver.history ++
          [(.get receiver.frame,
            ((queue CanFrame buffsize).step receiver.waiting
              (.get receiver.frame)).1)] :=
    Implementation.history_append_singleton _ _ _ _
  rw [answers, waits, returned_append]
  cases queued : receiver.waiting with
  | nil =>
      rw [queued] at represents
      have got := represents.get_empty receiver.frame
      refine .inl ⟨rfl, ?_, rfl, ?_, ?_⟩
      · simp only [getFrame, got]
        exact represents
      · simp [getFrame, got]
      · exact List.append_nil _
  | cons oldest rest =>
      rw [queued] at represents
      obtain ⟨result, returns, remains⟩ := represents.get receiver.frame
      exact
        .inr
          ⟨oldest, rest, rfl, remains, rfl, by simp [getFrame, result],
            returns, rfl⟩

/-- Statements that neither get nor receive a frame. -/
theorem inOrder_of_moved
    (inOrder : returned receiver.history = receiver.received ++ receiver.held)
    (calls : after.calls = receiver.calls)
    (received : after.received = receiver.received)
    (noFrame : receiver.place ≠ .receiving)
    (stillNone : after.place ≠ .receiving) :
    returned after.history = after.received ++ after.held := by
  unfold Receiver.history Receiver.held at inOrder ⊢
  rw [if_neg noFrame] at inOrder
  rw [if_neg stillNone, calls, received]
  exact inOrder

/-- A statement of the program keeps the queue, and it leaves a pass when nothing waits. -/
theorem Invariant.loop (invariant : receiver.Invariant) :
    receiver.loop.Invariant := by
  obtain ⟨represents, inOrder, notified, flagged⟩ := invariant
  cases place : receiver.place with
  | elsewhere =>
      cases interrupted : receiver.interrupt with
      | false =>
          have stays : receiver.loop = receiver := by
            simp [Receiver.loop, place, interrupted]
          rw [stays]
          exact ⟨represents, inOrder, notified, flagged⟩
      | true =>
          simp only [Receiver.loop, place, interrupted, ↓reduceIte]
          refine ⟨represents, ?_, ?_, ?_⟩
          · exact inOrder_of_moved inOrder rfl rfl (by simp [place]) (by simp)
          all_goals simp
  | woken =>
      simp only [Receiver.loop, place]
      refine ⟨represents, ?_, ?_, ?_⟩
      · exact inOrder_of_moved inOrder rfl rfl (by simp [place]) (by simp)
      all_goals simp
  | testMcp2515 =>
      simp only [Receiver.loop, place]
      split
      all_goals
        refine ⟨represents, ?_, ?_, ?_⟩
        · exact inOrder_of_moved inOrder rfl rfl (by simp [place]) (by simp)
        all_goals simp
  | printedMcp2515 =>
      simp only [Receiver.loop, place]
      refine ⟨represents, ?_, ?_, ?_⟩
      · exact inOrder_of_moved inOrder rfl rfl (by simp [place]) (by simp)
      all_goals simp
  | testArduino =>
      simp only [Receiver.loop, place]
      split
      · refine ⟨represents, ?_, ?_, ?_⟩
        · exact inOrder_of_moved inOrder rfl rfl (by simp [place]) (by simp)
        all_goals simp
      · rename_i clear
        refine ⟨represents, ?_, ?_, fun _ overflow => absurd overflow clear⟩
        · exact inOrder_of_moved inOrder rfl rfl (by simp [place]) (by simp)
        · simp
  | printedArduino =>
      simp only [Receiver.loop, place]
      refine ⟨represents, ?_, ?_, ?_⟩
      · exact inOrder_of_moved inOrder rfl rfl (by simp [place]) (by simp)
      all_goals simp
  | getting =>
      have still : receiver.arduinoOverflow = true → receiver.interrupt = true :=
        flagged (.inr (.inl place))
      have gets : receiver.loop = receiver.getFrame := by
        simp [Receiver.loop, place]
      have noneHeld : receiver.held = [] := by
        simp [Receiver.held, place]
      rw [noneHeld, List.append_nil] at inOrder
      rw [gets]
      rcases getFrame_cases represents with
        ⟨_, remains, waits, leaves, returns⟩ |
          ⟨oldest, rest, _, remains, waits, holds, frame, returns⟩
      · refine ⟨by rw [waits]; exact remains, ?_, ?_, fun _ => still⟩
        · have noneLeft : receiver.getFrame.held = [] := by
            simp [Receiver.held, leaves]
          rw [returns, noneLeft, List.append_nil]
          exact inOrder
        · intro _ some
          exact absurd waits some
      · refine ⟨by rw [waits]; exact remains, ?_, ?_, fun _ => still⟩
        · have left : receiver.getFrame.held = [oldest] := by
            simp [Receiver.held, holds, frame]
          rw [returns, left, inOrder]
          rfl
        · intro outside
          rw [holds] at outside
          cases outside
  | receiving =>
      have holds : receiver.held = [receiver.frame] := by
        simp [Receiver.held, place]
      rw [holds] at inOrder
      have still : receiver.arduinoOverflow = true → receiver.interrupt = true :=
        flagged (.inr (.inr place))
      simp only [Receiver.loop, place]
      refine ⟨represents, ?_, ?_, fun _ => still⟩
      · exact inOrder.trans (List.append_nil _).symm
      · simp

/-- Every event keeps the invariant. -/
theorem Invariant.step
    (invariant : receiver.Invariant)
    {event : ReceiverEvent CanFrame}
    (taken : next receiver event = some after) :
    after.Invariant := by
  cases event with
  | irq mcp =>
      cases taken
      exact invariant.irqHandler mcp
  | loop =>
      cases taken
      exact invariant.loop

section Runs

variable {cfBuffer : Nat → CanFrame} {frame : CanFrame}
    {allowed : Receiver CanFrame → ReceiverEvent CanFrame → Prop}

/-- The invariant holds in every run. -/
theorem invariant_of_run
    (run : Run next allowed (new cfBuffer frame) receiver) :
    receiver.Invariant :=
  run.invariant Invariant (invariant_new cfBuffer frame)
    fun invariant _ taken => invariant.step taken

/--
In every interleaving of the program with its interrupts the frames that the handler
has put are the ones received, in order, the one in hand and at most `buffsize` that
wait; a frame is dropped only where as many wait, and where any waits the program is
in its pass or will be woken.
-/
theorem received_of_run
    (run : Run next (fun _ _ => True) (new cfBuffer frame) receiver) :
    accepted receiver.history =
        receiver.received ++ receiver.held ++ receiver.waiting ∧
      receiver.waiting.length ≤ buffsize ∧
      (∀ dropped,
        (receiver.cfStream.put dropped).1 = 0 ↔
          receiver.waiting.length = buffsize) ∧
      (receiver.waiting ≠ [] →
        receiver.place = .elsewhere →
        receiver.interrupt = true) := by
  have invariant := invariant_of_run run
  refine ⟨?_, invariant.represents.length, ?_, ?_⟩
  · have conserved :=
      append_accepted_queue buffsize ([] : List CanFrame) receiver.calls
    rw [← invariant.inOrder]
    exact conserved
  · exact putFrame_result invariant.represents
  · intro some outside
    exact invariant.notified outside some

end Runs

section Progress

/-- At most as many statements are left until the program is quiet. -/
def statementsLeft (receiver : Receiver CanFrame) : Nat :=
  receiver.place.left + 2 * receiver.waiting.length +
    if receiver.interrupt = true ∧ receiver.place ≠ .woken then 8 else 0

/-- Without statements left the program is quiet and everything is received. -/
theorem quiet_of_statementsLeft
    (none : receiver.statementsLeft = 0) :
    receiver.Quiet ∧ receiver.waiting = [] ∧ receiver.held = [] := by
  unfold statementsLeft at none
  have place : receiver.place = .elsewhere := by
    cases place : receiver.place with
    | elsewhere => rfl
    | woken | testMcp2515 | printedMcp2515 | testArduino | printedArduino
    | getting | receiving =>
        rw [place] at none
        simp only [LoopPlace.left] at none
        omega
  have interrupt : receiver.interrupt = false := by
    by_contra interrupted
    rw [Bool.not_eq_false] at interrupted
    rw [if_pos ⟨interrupted, by simp [place]⟩] at none
    omega
  refine ⟨⟨place, interrupt⟩, ?_, by simp [held, place]⟩
  rw [← List.length_eq_zero_iff]
  omega

/-- Every statement leaves fewer. -/
theorem statementsLeft_loop
    (invariant : receiver.Invariant)
    (some : receiver.statementsLeft ≠ 0) :
    receiver.loop.statementsLeft < receiver.statementsLeft := by
  have waits :
      ∀ {after : Receiver CanFrame},
        after.calls = receiver.calls → after.waiting = receiver.waiting := by
    intro after same
    unfold waiting
    rw [same]
  cases place : receiver.place with
  | elsewhere =>
      cases interrupted : receiver.interrupt with
      | false =>
          -- Outside a pass nothing waits unless the program is notified.
          have none : receiver.waiting = [] := by
            by_contra left
            have notified := invariant.notified place left
            rw [interrupted] at notified
            cases notified
          refine absurd ?_ some
          simp [statementsLeft, place, interrupted, none, LoopPlace.left]
      | true =>
          have same : receiver.loop.waiting = receiver.waiting :=
            waits (by simp [loop, place, interrupted])
          unfold statementsLeft
          rw [same]
          simp only [loop, place, interrupted, LoopPlace.left, ↓reduceIte,
            true_and, ne_eq, reduceCtorEq, not_false_eq_true,
            not_true_eq_false, and_false]
          omega
  | woken =>
      have same : receiver.loop.waiting = receiver.waiting :=
        waits (by simp [loop, place])
      unfold statementsLeft
      rw [same]
      simp [loop, place, LoopPlace.left]
  | testMcp2515 =>
      have same : receiver.loop.waiting = receiver.waiting :=
        waits (by unfold loop; rw [place]; dsimp only; split <;> rfl)
      unfold statementsLeft
      rw [same]
      by_cases overflow : receiver.mcp2515Overflow = true
      all_goals simp [loop, place, overflow, LoopPlace.left]
  | printedMcp2515 =>
      have same : receiver.loop.waiting = receiver.waiting :=
        waits (by simp [loop, place])
      unfold statementsLeft
      rw [same]
      simp [loop, place, LoopPlace.left]
  | testArduino =>
      have same : receiver.loop.waiting = receiver.waiting :=
        waits (by unfold loop; rw [place]; dsimp only; split <;> rfl)
      unfold statementsLeft
      rw [same]
      by_cases overflow : receiver.arduinoOverflow = true
      all_goals simp [loop, place, overflow, LoopPlace.left]
  | printedArduino =>
      have same : receiver.loop.waiting = receiver.waiting :=
        waits (by simp [loop, place])
      unfold statementsLeft
      rw [same]
      simp [loop, place, LoopPlace.left]
  | getting =>
      have gets : receiver.loop = receiver.getFrame := by
        simp [loop, place]
      have interrupt : receiver.getFrame.interrupt = receiver.interrupt := rfl
      rw [gets]
      unfold statementsLeft
      rw [interrupt, place]
      rcases getFrame_cases invariant.represents with
        ⟨none, _, waits, leaves, _⟩ |
          ⟨oldest, rest, queued, _, waits, holds, _, _⟩
      · rw [none, waits, leaves]
        simp [LoopPlace.left]
      · rw [queued, waits, holds, List.length_cons]
        simp only [LoopPlace.left, ne_eq, reduceCtorEq, not_false_eq_true,
          and_true]
        omega
  | receiving =>
      have same : receiver.loop.waiting = receiver.waiting :=
        waits (by simp [loop, place])
      unfold statementsLeft
      rw [same]
      simp [loop, place, LoopPlace.left]

/-- The program accepts nothing by itself. -/
theorem accepted_loop (receiver : Receiver CanFrame) :
    accepted receiver.loop.history = accepted receiver.history := by
  have same :
      ∀ {after : Receiver CanFrame},
        after.calls = receiver.calls →
        accepted after.history = accepted receiver.history := by
    intro after calls
    unfold history
    rw [calls]
  cases place : receiver.place with
  | elsewhere =>
      exact same (by unfold loop; rw [place]; dsimp only; split <;> rfl)
  | testMcp2515 =>
      exact same (by unfold loop; rw [place]; dsimp only; split <;> rfl)
  | testArduino =>
      exact same (by unfold loop; rw [place]; dsimp only; split <;> rfl)
  | woken | printedMcp2515 | printedArduino | receiving =>
      exact same (by simp [loop, place])
  | getting =>
      have gets : receiver.loop = receiver.getFrame := by
        simp [loop, place]
      rw [gets]
      show accepted ((queue CanFrame buffsize).history [] (receiver.calls ++ [_])) = _
      rw [Implementation.history_append_singleton, accepted_append]
      exact List.append_nil _

/-- Left alone the program receives everything and is quiet. -/
theorem exists_quiet (invariant : receiver.Invariant) :
    ∃ steps ≤ receiver.statementsLeft,
      (loop^[steps] receiver).Quiet ∧
        (loop^[steps] receiver).received = accepted receiver.history := by
  generalize left : receiver.statementsLeft = statements
  induction statements using Nat.strong_induction_on generalizing receiver with
  | h statements inductionHypothesis =>
      by_cases none : receiver.statementsLeft = 0
      · obtain ⟨quiet, noneWait, noneHeld⟩ := quiet_of_statementsLeft none
        refine ⟨0, Nat.zero_le _, quiet, ?_⟩
        have conserved :=
          append_accepted_queue buffsize ([] : List CanFrame) receiver.calls
        have inOrder := invariant.inOrder
        rw [noneHeld, List.append_nil] at inOrder
        have answered :
            accepted receiver.history =
              returned receiver.history ++ receiver.waiting :=
          conserved
        rw [answered, noneWait, List.append_nil, inOrder]
        rfl
      · have fewer := statementsLeft_loop invariant none
        rw [left] at fewer
        obtain ⟨steps, within, quiet, received⟩ :=
          inductionHypothesis _ fewer invariant.loop rfl
        refine ⟨steps + 1, by omega, quiet, ?_⟩
        rw [← accepted_loop receiver]
        exact received

/--
No wake-up is lost: from every state of every interleaving the program, left alone,
receives all frames that the handler has put, within a bounded number of statements.
-/
theorem drained_of_run
    {cfBuffer : Nat → CanFrame}
    {frame : CanFrame}
    (run : Run next (fun _ _ => True) (new cfBuffer frame) receiver) :
    ∃ steps ≤ 34,
      (loop^[steps] receiver).Quiet ∧
        (loop^[steps] receiver).received = accepted receiver.history := by
  have invariant := invariant_of_run run
  obtain ⟨steps, within, quiet, received⟩ := exists_quiet invariant
  refine ⟨steps, within.trans ?_, quiet, received⟩
  have waits : receiver.waiting.length ≤ 10 := invariant.represents.length
  have place : receiver.place.left ≤ 6 := by
    cases receiver.place <;> decide
  unfold statementsLeft
  split <;> omega

end Progress

section Reports

/-- No frame is dropped between the print of an overflow and the statement behind it. -/
def KeepsReport
    (receiver : Receiver CanFrame)
    (event : ReceiverEvent CanFrame) : Prop :=
  match event with
  | .irq mcp =>
      receiver.place = .printedArduino →
      receiver.waiting.length +
          (mcp.rxb0.toList.length + mcp.rxb1.toList.length) ≤ buffsize
  | .loop => True

instance
    (receiver : Receiver CanFrame)
    (event : ReceiverEvent CanFrame) :
    Decidable (KeepsReport receiver event) :=
  match event with
  | .irq _ => inferInstanceAs (Decidable (_ → _ ≤ _))
  | .loop => inferInstanceAs (Decidable True)

/-- Drops that are not reported have left their flag. -/
structure Flagged (receiver : Receiver CanFrame) : Prop where
  flagged : receiver.unreported ≠ 0 → receiver.arduinoOverflow = true
  printed : receiver.place = .printedArduino → receiver.unreported = 0

/-- With room for the frames of a buffer nothing is dropped. -/
theorem putBuffer_room
    (represents : receiver.cfStream.Represents receiver.waiting)
    (rxb : Option CanFrame)
    (further : Nat)
    (room :
      receiver.waiting.length + (rxb.toList.length + further) ≤ buffsize) :
    (receiver.putBuffer rxb).cfStream.Represents
        (receiver.putBuffer rxb).waiting ∧
      (receiver.putBuffer rxb).waiting.length + further ≤ buffsize ∧
      (receiver.putBuffer rxb).unreported = receiver.unreported := by
  cases rxb with
  | none =>
      refine ⟨represents, ?_, rfl⟩
      have none : (Option.none : Option CanFrame).toList.length = 0 := rfl
      rw [none] at room
      show receiver.waiting.length + further ≤ buffsize
      omega
  | some frame =>
      have one : (Option.some frame).toList.length = 1 := rfl
      rw [one] at room
      have below : receiver.waiting.length < buffsize := by omega
      have notFull : (receiver.cfStream.put frame).1 ≠ 0 := by
        rw [Ne, putFrame_result represents]
        omega
      refine ⟨(putFrame_kept represents frame).1, ?_, if_neg notFull⟩
      show (receiver.putFrame frame).waiting.length + further ≤ buffsize
      rw [putFrame_waiting, if_pos below, List.length_append,
        List.length_singleton]
      omega

/-- Putting a frame flags what it drops. -/
theorem flagged_putFrame
    (flagged : receiver.unreported ≠ 0 → receiver.arduinoOverflow = true)
    (frame : CanFrame) :
    (receiver.putFrame frame).unreported ≠ 0 →
      (receiver.putFrame frame).arduinoOverflow = true := by
  unfold putFrame
  dsimp only
  split
  · exact fun _ => rfl
  · exact flagged

/-- An interrupt flags what it drops, and drops nothing at the gap. -/
theorem Flagged.irqHandler
    (invariant : receiver.Invariant)
    (flags : receiver.Flagged)
    {mcp : McpState CanFrame}
    (keeps : KeepsReport receiver (.irq mcp)) :
    (receiver.irqHandler mcp).Flagged where
  flagged :=
    irqHandler_cases
      (fun handled =>
        handled.unreported ≠ 0 → handled.arduinoOverflow = true)
      (fun frame flagged => flagged_putFrame flagged frame)
      flags.flagged mcp
  printed := by
    intro place
    have same :
        ((receiver.putBuffer mcp.rxb0).putBuffer mcp.rxb1).place =
          receiver.place :=
      irqHandler_cases (fun handled => handled.place = receiver.place)
        (fun _ same => same) rfl mcp
    have atGap : receiver.place = .printedArduino := same.symm.trans place
    obtain ⟨represents, room, first⟩ :=
      putBuffer_room invariant.represents mcp.rxb0 _ (keeps atGap)
    obtain ⟨_, _, second⟩ :=
      putBuffer_room represents mcp.rxb1 0 room
    exact second.trans (first.trans (flags.printed atGap))

/-- The program clears the flag only behind a print. -/
theorem Flagged.loop (flags : receiver.Flagged) : receiver.loop.Flagged := by
  obtain ⟨flagged, printed⟩ := flags
  unfold Receiver.loop
  split
  · split
    · exact ⟨flagged, fun other => by cases other⟩
    · rename_i place _
      exact ⟨flagged, printed⟩
  · exact ⟨flagged, fun other => by cases other⟩
  · split
    · exact ⟨flagged, fun other => by cases other⟩
    · exact ⟨flagged, fun other => by cases other⟩
  · exact ⟨flagged, fun other => by cases other⟩
  · split
    · exact ⟨fun some => absurd rfl some, fun _ => rfl⟩
    · exact ⟨flagged, fun other => by cases other⟩
  · rename_i place
    exact
      ⟨fun some => absurd (printed place) some, fun other => by cases other⟩
  · refine ⟨flagged, fun other => ?_⟩
    unfold getFrame at other
    dsimp only at other
    split at other
    · cases other
    · cases other
  · exact ⟨flagged, fun other => by cases other⟩

/--
Where no frame is dropped in the gap between the print and the clearing of its flag,
the program is not quiet before every drop has been followed by a print.
-/
theorem reported_of_run
    {cfBuffer : Nat → CanFrame}
    {frame : CanFrame}
    (run : Run next KeepsReport (new cfBuffer frame) receiver)
    (quiet : receiver.Quiet) :
    receiver.unreported = 0 := by
  have both : receiver.Invariant ∧ receiver.Flagged := by
    refine
      run.invariant
        (fun receiver => receiver.Invariant ∧ receiver.Flagged)
        ⟨invariant_new cfBuffer frame,
          ⟨fun some => absurd rfl some, fun other => by cases other⟩⟩ ?_
    intro before after event held keeps taken
    obtain ⟨invariant, flags⟩ := held
    refine ⟨invariant.step taken, ?_⟩
    cases event with
    | irq mcp =>
        cases taken
        exact Flagged.irqHandler invariant flags keeps
    | loop =>
        cases taken
        exact flags.loop
  obtain ⟨invariant, flags⟩ := both
  by_contra some
  have notified :=
    invariant.flagged (.inl quiet.place) (flags.flagged some)
  rw [quiet.interrupt] at notified
  cases notified

end Reports

section Schedules

/-- An interrupt with a frame in each buffer. -/
def bothBuffers (first second : Nat) : ReceiverEvent Nat :=
  .irq { rxb0 := some first, rxb1 := some second, rxOvr := false }

/-- Six interrupts before the program looks: two of the twelve frames find no room. -/
def burst : List (ReceiverEvent Nat) :=
  (List.range 6).map fun turn => bothBuffers (2 * turn) (2 * turn + 1)

/-- The program receives a frame and is interrupted again. -/
def wokenAgain : List (ReceiverEvent Nat) :=
  burst ++ [.loop, .loop, .loop, .loop, .loop, .loop, .loop,
    bothBuffers 20 21, .loop]

/-- Of fourteen frames eleven are accepted, and two are received so far. -/
theorem received_of_run_burst :
    ∃ receiver,
      Run next (fun _ _ => True) (new (fun _ => 0) 0) receiver ∧
        receiver.received = [0] ∧
        receiver.held = [1] ∧
        receiver.waiting = [2, 3, 4, 5, 6, 7, 8, 9, 20] ∧
        accepted receiver.history =
          receiver.received ++ receiver.held ++ receiver.waiting := by
  obtain ⟨receiver, run, observed⟩ :=
    exists_run_of_observed
      next
      (fun _ _ => True)
      (new (fun _ => 0) 0)
      wokenAgain
      (fun receiver =>
        decide
          (receiver.received = [0] ∧ receiver.held = [1] ∧
            receiver.waiting = [2, 3, 4, 5, 6, 7, 8, 9, 20]))
      (by decide +kernel)
  rw [decide_eq_true_eq] at observed
  obtain ⟨received, held, waiting⟩ := observed
  exact
    ⟨receiver, run, received, held, waiting, (received_of_run run).1⟩

/-- The rest is received when the program is left alone. -/
theorem drained_of_run_burst :
    ∃ receiver,
      Run next (fun _ _ => True) (new (fun _ => 0) 0) receiver ∧
        receiver.received = [0] ∧
        ∃ steps ≤ 34,
          (loop^[steps] receiver).Quiet ∧
            (loop^[steps] receiver).received = accepted receiver.history := by
  obtain ⟨receiver, run, observed⟩ :=
    exists_run_of_observed
      next
      (fun _ _ => True)
      (new (fun _ => 0) 0)
      wokenAgain
      (fun receiver => decide (receiver.received = [0]))
      (by decide +kernel)
  exact
    ⟨receiver, run, of_decide_eq_true observed, drained_of_run run⟩

/-- Both drops of the burst are reported when the program is quiet again. -/
theorem reported_of_run_burst :
    ∃ receiver,
      Run next KeepsReport (new (fun _ => 0) 0) receiver ∧
        receiver.received = List.range 10 ∧
        receiver.unreported = 0 := by
  obtain ⟨receiver, run, observed⟩ :=
    exists_run_of_observed
      next
      KeepsReport
      (new (fun _ => 0) 0)
      (burst ++ List.replicate 26 .loop)
      (fun receiver =>
        decide
          (receiver.received = List.range 10 ∧
            receiver.place = .elsewhere ∧ receiver.interrupt = false))
      (by decide +kernel)
  rw [decide_eq_true_eq] at observed
  obtain ⟨received, place, interrupt⟩ := observed
  exact ⟨receiver, run, received, reported_of_run run ⟨place, interrupt⟩⟩

/-- A drop in the gap is never reported. -/
example :
    (runSchedule next (fun _ _ => True) (new (fun _ => 0) 0)
        (burst ++ List.replicate 4 .loop ++ [bothBuffers 20 21] ++
          List.replicate 27 .loop)).any
      (fun receiver =>
        decide
          (receiver.place = .elsewhere ∧ receiver.interrupt = false ∧
            receiver.unreported = 2)) = true := by
  decide +kernel

end Schedules

end Receiver

end DistributedLighting
