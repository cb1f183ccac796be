import Mathlib

namespace DistributedLighting

/-!
# Bounded queues and their implementations

A bounded queue takes items while there is room and returns them in the order in
which it took them.  An implementation that is related to the queue step by step
answers every sequence of calls as the queue does.
-/

namespace BoundedQueue

/-- A call; `get` writes to a variable of the caller, which holds `item` before. -/
inductive Call (Item : Type) where
  | put (item : Item)
  | get (item : Item)
  deriving Repr, DecidableEq

/-- The result of a call and the caller's variable after it. -/
structure Answer (Item : Type) where
  result : Nat
  item : Item
  deriving Repr, DecidableEq

/-- The two operations on some state. -/
structure Implementation (State Item : Type) where
  put : State → Item → Nat × State
  get : State → Item → Nat × Item × State

variable {State Other Item : Type}

namespace Implementation

variable (implementation : Implementation State Item)

/-- One call. -/
def step (state : State) : Call Item → Answer Item × State
  | .put item =>
      let after := implementation.put state item
      (⟨after.1, item⟩, after.2)
  | .get item =>
      let after := implementation.get state item
      (⟨after.1, after.2.1⟩, after.2.2)

/-- The state after some calls. -/
def after (state : State) (calls : List (Call Item)) : State :=
  calls.foldl (fun state call => (implementation.step state call).2) state

/-- The calls with their answers. -/
def history : State → List (Call Item) → List (Call Item × Answer Item)
  | _, [] => []
  | state, call :: rest =>
      (call, (implementation.step state call).1) ::
        history (implementation.step state call).2 rest

/-- The state after one more call. -/
theorem after_append_singleton
    (state : State)
    (calls : List (Call Item))
    (call : Call Item) :
    implementation.after state (calls ++ [call]) =
      (implementation.step (implementation.after state calls) call).2 := by
  unfold after
  rw [List.foldl_append]
  rfl

/-- The answer of one more call comes last. -/
theorem history_append_singleton
    (state : State)
    (calls : List (Call Item))
    (call : Call Item) :
    implementation.history state (calls ++ [call]) =
      implementation.history state calls ++
        [(call, (implementation.step (implementation.after state calls) call).1)] := by
  induction calls generalizing state with
  | nil =>
      rfl
  | cons first rest inductionHypothesis =>
      exact
        congrArg ((first, (implementation.step state first).1) :: ·)
          (inductionHypothesis (implementation.step state first).2)

end Implementation

/-- The queue of the given capacity. -/
def queue (Item : Type) (capacity : Nat) : Implementation (List Item) Item where
  put contents item :=
    if contents.length < capacity then
      (1, contents ++ [item])
    else
      (0, contents)
  get contents item :=
    match contents with
    | [] => (0, item, [])
    | first :: rest => (1, first, rest)

/-- The items that were put with success, in order. -/
def accepted (history : List (Call Item × Answer Item)) : List Item :=
  history.filterMap fun
    | (.put item, ⟨1, _⟩) => some item
    | _ => none

/-- The items that were returned, in order. -/
def returned (history : List (Call Item × Answer Item)) : List Item :=
  history.filterMap fun
    | (.get _, ⟨1, item⟩) => some item
    | _ => none

@[simp] theorem accepted_append (first second : List (Call Item × Answer Item)) :
    accepted (first ++ second) = accepted first ++ accepted second :=
  List.filterMap_append

@[simp] theorem returned_append (first second : List (Call Item × Answer Item)) :
    returned (first ++ second) = returned first ++ returned second :=
  List.filterMap_append

/-- Every item that the queue has taken is returned once, in order, or still there. -/
theorem append_accepted_queue
    (capacity : Nat)
    (contents : List Item)
    (calls : List (Call Item)) :
    contents ++ accepted ((queue Item capacity).history contents calls) =
      returned ((queue Item capacity).history contents calls) ++
        (queue Item capacity).after contents calls := by
  induction calls generalizing contents with
  | nil =>
      exact List.append_nil contents
  | cons call rest inductionHypothesis =>
      have later :=
        inductionHypothesis ((queue Item capacity).step contents call).2
      cases call with
      | put item =>
          by_cases room : contents.length < capacity
          · have taken :
                (queue Item capacity).step contents (.put item) =
                  (⟨1, item⟩, contents ++ [item]) := by
              simp [queue, Implementation.step, room]
            rw [taken, List.append_assoc] at later
            rw [Implementation.history, Implementation.after,
              List.foldl_cons, taken]
            exact later
          · have refused :
                (queue Item capacity).step contents (.put item) =
                  (⟨0, item⟩, contents) := by
              simp [queue, Implementation.step, room]
            rw [refused] at later
            rw [Implementation.history, Implementation.after,
              List.foldl_cons, refused]
            exact later
      | get item =>
          cases contents with
          | nil =>
              exact later
          | cons first others =>
              exact congrArg (first :: ·) later

section Simulation

variable {implementation : Implementation State Item}
    {specification : Implementation Other Item}

/-- The operations keep a relation and answer alike. -/
structure Simulates
    (implementation : Implementation State Item)
    (specification : Implementation Other Item)
    (related : State → Other → Prop) : Prop where
  step :
    ∀ {state : State} {other : Other},
      related state other →
        ∀ call,
          (implementation.step state call).1 =
              (specification.step other call).1 ∧
            related (implementation.step state call).2
              (specification.step other call).2

/-- Then every sequence of calls has the same history and keeps the relation. -/
theorem Simulates.history
    {related : State → Other → Prop}
    (simulates : Simulates implementation specification related)
    {state : State}
    {other : Other}
    (start : related state other)
    (calls : List (Call Item)) :
    implementation.history state calls = specification.history other calls ∧
      related (implementation.after state calls)
        (specification.after other calls) := by
  induction calls generalizing state other with
  | nil =>
      exact ⟨rfl, start⟩
  | cons call rest inductionHypothesis =>
      obtain ⟨answer, next⟩ := simulates.step start call
      obtain ⟨later, final⟩ := inductionHypothesis next
      refine ⟨?_, final⟩
      unfold Implementation.history
      rw [answer, later]

end Simulation

end BoundedQueue

end DistributedLighting
