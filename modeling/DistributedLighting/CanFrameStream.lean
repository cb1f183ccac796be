import DistributedLighting.BoundedQueue

namespace DistributedLighting

open BoundedQueue

/-!
# The buffer of received CAN frames

`can_frame_stream` keeps received frames in a ring of `buffsize` places between the
interrupt handler, which puts them, and the main loop, which gets them.  Equal
indices mean an empty ring, or a full one while `write_lock` is set.
-/

/-- The places of the ring. -/
def buffsize : Nat := 10

/-- The members of `can_frame_stream`. -/
structure CanFrameStream (CanFrame : Type) where
  cfBuffer : Nat → CanFrame
  readIndex : Nat
  writeIndex : Nat
  writeLock : Bool

namespace CanFrameStream

variable {CanFrame : Type}

/-- The constructor; it leaves the places as they are. -/
def new (cfBuffer : Nat → CanFrame) : CanFrameStream CanFrame where
  cfBuffer := cfBuffer
  readIndex := 0
  writeIndex := 0
  writeLock := false

/-- `can_frame_stream::put` -/
def put
    (stream : CanFrameStream CanFrame)
    (frame : CanFrame) : Nat × CanFrameStream CanFrame :=
  if stream.writeLock then
    (0, stream)
  else
    let writeIndex := (stream.writeIndex + 1) % buffsize
    (1,
      { stream with
        cfBuffer :=
          Function.update stream.cfBuffer stream.writeIndex frame
        writeIndex := writeIndex
        writeLock :=
          if writeIndex = stream.readIndex then true
          else stream.writeLock })

/-- `can_frame_stream::get`: the result, the frame in the caller's variable, the ring. -/
def get
    (stream : CanFrameStream CanFrame)
    (frame : CanFrame) : Nat × CanFrame × CanFrameStream CanFrame :=
  if !stream.writeLock && stream.readIndex = stream.writeIndex then
    (0, frame, stream)
  else
    (1, stream.cfBuffer stream.readIndex,
      { stream with
        writeLock :=
          if stream.writeLock && stream.readIndex = stream.writeIndex then
            false
          else
            stream.writeLock
        readIndex := (stream.readIndex + 1) % buffsize })

/-- The two operations. -/
def implementation (CanFrame : Type) :
    Implementation (CanFrameStream CanFrame) CanFrame where
  put := put
  get := get

/-- The ring holds the contents of a queue, the oldest at the read index. -/
structure Represents
    (stream : CanFrameStream CanFrame)
    (contents : List CanFrame) : Prop where
  length : contents.length ≤ buffsize
  readIndex : stream.readIndex < buffsize
  writeIndex :
    stream.writeIndex = (stream.readIndex + contents.length) % buffsize
  writeLock : stream.writeLock = decide (contents.length = buffsize)
  frames :
    ∀ i, (inContents : i < contents.length) →
      stream.cfBuffer ((stream.readIndex + i) % buffsize) =
        contents.get ⟨i, inContents⟩

theorem represents_new (cfBuffer : Nat → CanFrame) :
    (new cfBuffer).Represents [] where
  length := Nat.zero_le _
  readIndex := Nat.zero_lt_succ _
  writeIndex := rfl
  writeLock := rfl
  frames := fun _ none => absurd none (Nat.not_lt_zero _)

/-- Different offsets below `buffsize` are different places. -/
theorem offset_eq
    {index first second : Nat}
    (firstBelow : first < buffsize)
    (secondBelow : second < buffsize)
    (same : (index + first) % buffsize = (index + second) % buffsize) :
    first = second := by
  unfold buffsize at *
  omega

variable {stream : CanFrameStream CanFrame} {contents : List CanFrame}

/-- With room, a frame is put behind the others. -/
theorem Represents.put
    (represents : stream.Represents contents)
    (room : contents.length < buffsize)
    (frame : CanFrame) :
    (stream.put frame).1 = 1 ∧
      (stream.put frame).2.Represents (contents ++ [frame]) := by
  have unlocked : stream.writeLock = false := by
    rw [represents.writeLock, decide_eq_false_iff_not]
    exact Nat.ne_of_lt room
  have next :
      (stream.writeIndex + 1) % buffsize =
        (stream.readIndex + (contents ++ [frame]).length) % buffsize := by
    rw [represents.writeIndex, List.length_append, List.length_singleton,
      Nat.mod_add_mod, Nat.add_assoc]
  have isPut :
      stream.put frame =
        (1,
          { stream with
            cfBuffer :=
              Function.update stream.cfBuffer stream.writeIndex frame
            writeIndex := (stream.writeIndex + 1) % buffsize
            writeLock :=
              decide
                ((stream.writeIndex + 1) % buffsize =
                  stream.readIndex) }) := by
    unfold CanFrameStream.put
    rw [unlocked]
    simp
  rw [isPut]
  refine ⟨rfl, ?_, represents.readIndex, next, ?_, ?_⟩
  · rw [List.length_append]
    exact room
  · rw [decide_eq_decide, next]
    have below := represents.readIndex
    rw [List.length_append, List.length_singleton]
    unfold buffsize at *
    omega
  · intro i inContents
    dsimp only
    rw [List.length_append, List.length_singleton] at inContents
    rcases Nat.lt_succ_iff_lt_or_eq.mp inContents with earlier | last
    · have elsewhere :
          (stream.readIndex + i) % buffsize ≠ stream.writeIndex := by
        rw [represents.writeIndex]
        intro same
        exact
          Nat.ne_of_lt earlier
            (offset_eq (earlier.trans room) room same)
      rw [Function.update_of_ne elsewhere, represents.frames i earlier]
      simp [earlier]
    · subst last
      rw [← represents.writeIndex, Function.update_self]
      simp

/-- Without room nothing changes. -/
theorem Represents.put_full
    (represents : stream.Represents contents)
    (full : contents.length = buffsize)
    (frame : CanFrame) :
    stream.put frame = (0, stream) := by
  have locked : stream.writeLock = true := by
    rw [represents.writeLock, decide_eq_true_eq]
    exact full
  unfold CanFrameStream.put
  rw [if_pos locked]

/-- An empty ring stays as it is, and so does the caller's variable. -/
theorem Represents.get_empty
    (represents : stream.Represents [])
    (frame : CanFrame) :
    stream.get frame = (0, frame, stream) := by
  have unlocked : stream.writeLock = false := represents.writeLock
  have same : stream.readIndex = stream.writeIndex := by
    rw [represents.writeIndex]
    exact (Nat.mod_eq_of_lt represents.readIndex).symm
  unfold CanFrameStream.get
  rw [if_pos (by simp [unlocked, same])]

/-- Otherwise the oldest frame is returned and the others stay. -/
theorem Represents.get
    {oldest : CanFrame}
    {others : List CanFrame}
    (represents : stream.Represents (oldest :: others))
    (frame : CanFrame) :
    (stream.get frame).1 = 1 ∧
      (stream.get frame).2.1 = oldest ∧
      (stream.get frame).2.2.Represents others := by
  have size := represents.length
  rw [List.length_cons] at size
  have below := represents.readIndex
  have lock := represents.writeLock
  rw [List.length_cons] at lock
  have write := represents.writeIndex
  rw [List.length_cons] at write
  -- Equal indices mean a full ring here, since there is a frame.
  have fullOf :
      stream.readIndex = stream.writeIndex → stream.writeLock = true := by
    intro same
    rw [lock, decide_eq_true_eq]
    rw [write] at same
    unfold buffsize at *
    omega
  have notEmpty :
      ¬ ((!stream.writeLock &&
        decide (stream.readIndex = stream.writeIndex)) = true) := by
    intro isEmpty
    rw [Bool.and_eq_true, Bool.not_eq_true', decide_eq_true_eq] at isEmpty
    rw [fullOf isEmpty.2] at isEmpty
    exact absurd isEmpty.1 Bool.true_eq_false_eq_False
  have unlocked :
      (if (stream.writeLock &&
          decide (stream.readIndex = stream.writeIndex)) = true then
        false
      else
        stream.writeLock) = false := by
    cases locked : stream.writeLock with
    | false => rfl
    | true =>
        rw [locked, eq_comm, decide_eq_true_eq] at lock
        have same : stream.readIndex = stream.writeIndex := by
          rw [write, lock, Nat.add_mod_right, Nat.mod_eq_of_lt below]
        rw [decide_eq_true same]
        rfl
  have isGet :
      stream.get frame =
        (1, stream.cfBuffer stream.readIndex,
          { stream with
            writeLock := false
            readIndex := (stream.readIndex + 1) % buffsize }) := by
    unfold CanFrameStream.get
    rw [if_neg notEmpty, unlocked]
  rw [isGet]
  refine ⟨rfl, ?_, ?_, ?_, ?_, ?_, ?_⟩
  · have first := represents.frames 0 (Nat.zero_lt_succ _)
    rw [Nat.add_zero, Nat.mod_eq_of_lt below] at first
    exact first
  · exact Nat.le_of_succ_le size
  · exact Nat.mod_lt _ (Nat.zero_lt_succ _)
  · show stream.writeIndex = _
    rw [write, Nat.mod_add_mod, Nat.add_assoc, Nat.add_comm 1]
  · exact (decide_eq_false (Nat.ne_of_lt size)).symm
  · intro i inOthers
    have later := represents.frames (i + 1) (Nat.succ_lt_succ inOthers)
    dsimp only
    rw [Nat.mod_add_mod, Nat.add_assoc, Nat.add_comm 1 i]
    exact later

/-- The ring does what the queue of capacity `buffsize` does. -/
theorem simulates_queue :
    Simulates (implementation CanFrame) (queue CanFrame buffsize)
      Represents where
  step := by
    intro stream contents represents call
    cases call with
    | put frame =>
        by_cases room : contents.length < buffsize
        · obtain ⟨result, after⟩ := represents.put room frame
          simp only [Implementation.step, implementation, queue, room,
            ↓reduceIte, result, true_and]
          exact after
        · have full : contents.length = buffsize :=
            Nat.le_antisymm represents.length (Nat.not_lt.mp room)
          have refused := represents.put_full full frame
          simp only [Implementation.step, implementation, queue, room,
            ↓reduceIte, refused, true_and]
          exact represents
    | get frame =>
        cases contents with
        | nil =>
            have refused := represents.get_empty frame
            simp only [Implementation.step, implementation, queue, refused,
              true_and]
            exact represents
        | cons oldest others =>
            obtain ⟨result, returns, after⟩ := represents.get frame
            simp only [Implementation.step, implementation, queue, result,
              returns, true_and]
            exact after

/--
On a new ring every sequence of calls has the results of a queue of capacity
`buffsize`: what it has accepted is what it has returned, in order, and what it still
holds; a refused call changes nothing, and the indices stay inside the buffer.
-/
theorem fifo_of_calls
    (cfBuffer : Nat → CanFrame)
    (calls : List (Call CanFrame)) :
    let ring := (implementation CanFrame).after (new cfBuffer) calls
    let contents := (queue CanFrame buffsize).after [] calls
    let history := (implementation CanFrame).history (new cfBuffer) calls
    history = (queue CanFrame buffsize).history [] calls ∧
      accepted history = returned history ++ contents ∧
      contents.length ≤ buffsize ∧
      ring.readIndex < buffsize ∧
      ring.writeIndex < buffsize ∧
      (∀ frame,
        (ring.put frame).1 = 1 ∧ contents.length < buffsize ∨
          ring.put frame = (0, ring) ∧ contents.length = buffsize) ∧
      ∀ frame,
        ring.get frame = (0, frame, ring) ∧ contents = [] ∨
          (ring.get frame).1 = 1 ∧
            contents.head? = some (ring.get frame).2.1 := by
  intro ring contents history
  obtain ⟨same, represents⟩ :=
    simulates_queue.history (represents_new cfBuffer) calls
  have represents : ring.Represents contents := represents
  refine
    ⟨same, ?_, represents.length, represents.readIndex, ?_, ?_, ?_⟩
  · have conserved := append_accepted_queue buffsize ([] : List CanFrame) calls
    rw [← same] at conserved
    exact conserved
  · rw [represents.writeIndex]
    exact Nat.mod_lt _ (Nat.zero_lt_succ _)
  · intro frame
    by_cases room : contents.length < buffsize
    · exact .inl ⟨(represents.put room frame).1, room⟩
    · have full : contents.length = buffsize :=
        Nat.le_antisymm represents.length (Nat.not_lt.mp room)
      exact .inr ⟨represents.put_full full frame, full⟩
  · intro frame
    cases isContents : contents with
    | nil =>
        rw [isContents] at represents
        exact .inl ⟨represents.get_empty frame, rfl⟩
    | cons oldest others =>
        rw [isContents] at represents
        obtain ⟨result, returns, -⟩ := represents.get frame
        exact .inr ⟨result, congrArg some returns.symm⟩

end CanFrameStream

end DistributedLighting
