import Mathlib

namespace DistributedLighting

/-!
# Loss-free total-order broadcast

Every broadcast frame enters the queue of every node other than its sender, in
one order common to all nodes, and is never lost.  The bus remembers that order
in `log`; a node's `received` frames and its `fifo` together are exactly the
frames of the others, which the structure carries as a field.
-/

/-- One broadcast: the sending node and the frame it put on the bus. -/
structure Entry (Node Frame : Type) where
  sender : Node
  frame : Frame
  deriving Repr, DecidableEq

/-- The bus order, what each node has taken so far, and what still waits for it. -/
structure Bus (Node Frame : Type) [DecidableEq Node] where
  log : List (Entry Node Frame)
  received : Node → List (Entry Node Frame)
  fifo : Node → List (Entry Node Frame)
  ordered :
    ∀ node,
      received node ++ fifo node =
        log.filter (fun entry => entry.sender ≠ node)

namespace Bus

variable {Node Frame : Type} [DecidableEq Node]

/-- Nothing has been broadcast yet. -/
def empty : Bus Node Frame where
  log := []
  received := fun _ => []
  fifo := fun _ => []
  ordered := by simp

/-- Append a frame to the bus order and to the queue of every other node. -/
def broadcast
    (bus : Bus Node Frame)
    (sender : Node)
    (frame : Frame) :
    Bus Node Frame where
  log := bus.log ++ [⟨sender, frame⟩]
  received := bus.received
  fifo := fun node =>
    if sender = node then
      bus.fifo node
    else
      bus.fifo node ++ [⟨sender, frame⟩]
  ordered := by
    intro node
    by_cases own : sender = node
    · simp [own, bus.ordered]
    · simp [own, ← List.append_assoc, bus.ordered]

/-- Broadcast several frames of one node. -/
def broadcastAll
    (bus : Bus Node Frame)
    (sender : Node)
    (frames : List Frame) : Bus Node Frame :=
  frames.foldl (fun bus frame => bus.broadcast sender frame) bus

/-- Take the oldest queued frame, if there is one. -/
def take
    (bus : Bus Node Frame)
    (node : Node) :
    Bus Node Frame where
  log := bus.log
  received :=
    Function.update bus.received node
      (bus.received node ++ (bus.fifo node).take 1)
  fifo :=
    Function.update bus.fifo node ((bus.fifo node).drop 1)
  ordered := by
    intro other
    by_cases same : other = node
    · subst other
      rw [Function.update_self, Function.update_self, List.append_assoc,
        List.take_append_drop, bus.ordered]
    · simp [same, bus.ordered]

@[simp] theorem empty_log : (empty : Bus Node Frame).log = [] := rfl

@[simp] theorem empty_fifo (node : Node) :
    (empty : Bus Node Frame).fifo node = [] := rfl

@[simp] theorem empty_received (node : Node) :
    (empty : Bus Node Frame).received node = [] := rfl

@[simp] theorem broadcast_log
    (bus : Bus Node Frame)
    (sender : Node)
    (frame : Frame) :
    (bus.broadcast sender frame).log = bus.log ++ [⟨sender, frame⟩] := rfl

@[simp] theorem broadcast_received
    (bus : Bus Node Frame)
    (sender : Node)
    (frame : Frame) :
    (bus.broadcast sender frame).received = bus.received := rfl

@[simp] theorem broadcast_fifo_self
    (bus : Bus Node Frame)
    (sender : Node)
    (frame : Frame) :
    (bus.broadcast sender frame).fifo sender = bus.fifo sender := by
  simp [broadcast]

theorem broadcast_fifo_other
    (bus : Bus Node Frame)
    {sender node : Node}
    (different : sender ≠ node)
    (frame : Frame) :
    (bus.broadcast sender frame).fifo node =
      bus.fifo node ++ [⟨sender, frame⟩] := by
  simp [broadcast, different]

@[simp] theorem broadcastAll_log
    (bus : Bus Node Frame)
    (sender : Node)
    (frames : List Frame) :
    (bus.broadcastAll sender frames).log =
      bus.log ++ frames.map fun frame => ⟨sender, frame⟩ := by
  induction frames generalizing bus with
  | nil => exact (List.append_nil bus.log).symm
  | cons frame rest inductionHypothesis =>
      refine (inductionHypothesis (bus.broadcast sender frame)).trans ?_
      rw [broadcast_log, List.append_assoc]
      rfl

@[simp] theorem broadcastAll_received
    (bus : Bus Node Frame)
    (sender : Node)
    (frames : List Frame) :
    (bus.broadcastAll sender frames).received = bus.received := by
  induction frames generalizing bus with
  | nil => rfl
  | cons frame rest inductionHypothesis =>
      exact inductionHypothesis (bus.broadcast sender frame)

@[simp] theorem take_log
    (bus : Bus Node Frame)
    (node : Node) :
    (bus.take node).log = bus.log := rfl

theorem take_received_other
    (bus : Bus Node Frame)
    {node other : Node}
    (different : other ≠ node) :
    (bus.take node).received other = bus.received other := by
  simp [take, different]

theorem take_fifo_other
    (bus : Bus Node Frame)
    {node other : Node}
    (different : other ≠ node) :
    (bus.take node).fifo other = bus.fifo other := by
  simp [take, different]

theorem take_received_self
    {bus : Bus Node Frame}
    {node : Node}
    {entry : Entry Node Frame}
    {rest : List (Entry Node Frame)}
    (queued : bus.fifo node = entry :: rest) :
    (bus.take node).received node = bus.received node ++ [entry] := by
  simp [take, queued]

theorem take_fifo_self
    {bus : Bus Node Frame}
    {node : Node}
    {entry : Entry Node Frame}
    {rest : List (Entry Node Frame)}
    (queued : bus.fifo node = entry :: rest) :
    (bus.take node).fifo node = rest := by
  simp [take, queued]

/-- A node holds, received or queued, exactly the frames the others broadcast. -/
theorem mem_received_or_fifo
    (bus : Bus Node Frame)
    {node : Node}
    {entry : Entry Node Frame} :
    (entry ∈ bus.received node ∨ entry ∈ bus.fifo node) ↔
      entry ∈ bus.log ∧ entry.sender ≠ node := by
  rw [← List.mem_append, bus.ordered]
  simp

/-- A queued frame is on the bus and was sent by another node. -/
theorem mem_log_of_mem_fifo
    {bus : Bus Node Frame}
    {node : Node}
    {entry : Entry Node Frame}
    (queued : entry ∈ bus.fifo node) :
    entry ∈ bus.log ∧ entry.sender ≠ node :=
  bus.mem_received_or_fifo.mp (.inr queued)

/-- A received frame is on the bus and was sent by another node. -/
theorem mem_log_of_mem_received
    {bus : Bus Node Frame}
    {node : Node}
    {entry : Entry Node Frame}
    (taken : entry ∈ bus.received node) :
    entry ∈ bus.log ∧ entry.sender ≠ node :=
  bus.mem_received_or_fifo.mp (.inl taken)

/-- With an empty queue a node has received everything the others broadcast. -/
theorem received_of_fifo_nil
    {bus : Bus Node Frame}
    {node : Node}
    (drained : bus.fifo node = []) :
    bus.received node =
      bus.log.filter (fun entry => entry.sender ≠ node) := by
  have order := bus.ordered node
  simpa [drained] using order

end Bus

end DistributedLighting
