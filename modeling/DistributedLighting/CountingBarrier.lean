import DistributedLighting.TotalOrderBus

namespace DistributedLighting

/-!
# Rounds separated by counting anonymous tokens

Each node sends `quota` tokens per round and moves to the next round when it has
counted as many tokens as all other nodes send in one round.  A token does not
say which round it belongs to: a node only counts.  The bus order alone makes
the counts belong to the right round.

The machine is generic in the frame type.  `round?` is a label kept for the
proof, `none` for frames that are no tokens.
-/

/-- A list sorted by a key splits into the entries below, at and above a value. -/
theorem filter_split_by_key
    {Item : Type}
    {key : Item → Nat}
    {items : List Item}
    (sorted : items.Pairwise fun first second => key first ≤ key second)
    (value : Nat) :
    items =
      items.filter (fun item => key item < value) ++
        (items.filter (fun item => key item = value) ++
          items.filter (fun item => value < key item)) := by
  induction items with
  | nil =>
      rfl
  | cons head rest inductionHypothesis =>
      obtain ⟨headLeast, restSorted⟩ := List.pairwise_cons.mp sorted
      have restSplit := inductionHypothesis restSorted
      rcases Nat.lt_trichotomy (key head) value with below | same | above
      · have notAbove : ¬ value < key head := by omega
        have notSame : key head ≠ value := by omega
        simp only [List.filter_cons, below, notAbove, notSame, decide_true,
          decide_false, ↓reduceIte, Bool.false_eq_true, List.cons_append]
        rw [← restSplit]
      · have noneBelow : rest.filter (fun item => key item < value) = [] := by
          simp only [List.filter_eq_nil_iff, decide_eq_true_eq]
          intro item member
          have := headLeast item member
          omega
        rw [noneBelow] at restSplit
        simpa [List.filter_cons, same, noneBelow] using restSplit
      · have noneUpTo :
            ∀ item ∈ rest, value < key item := by
          intro item member
          have := headLeast item member
          omega
        have noneBelow : rest.filter (fun item => key item < value) = [] := by
          simp only [List.filter_eq_nil_iff, decide_eq_true_eq]
          intro item member
          have := noneUpTo item member
          omega
        have noneSame : rest.filter (fun item => key item = value) = [] := by
          simp only [List.filter_eq_nil_iff, decide_eq_true_eq]
          intro item member
          have := noneUpTo item member
          omega
        rw [noneBelow, noneSame] at restSplit
        have notBelow : ¬ key head < value := by omega
        have notSame : key head ≠ value := by omega
        simpa [List.filter_cons, above, notBelow, notSame, noneBelow, noneSame]
          using restSplit

/-- If every key below a bound occurs equally often, the entries below it add up. -/
theorem length_filter_key_lt
    {Item : Type}
    {key : Item → Nat}
    {items : List Item}
    {each bound : Nat}
    (uniform :
      ∀ value < bound,
        (items.filter fun item => key item = value).length = each) :
    (items.filter fun item => key item < bound).length = each * bound := by
  induction bound with
  | zero =>
      simp
  | succ bound inductionHypothesis =>
      have below :=
        inductionHypothesis fun value less => uniform value (by omega)
      have last := uniform bound (by omega)
      have split :
          (items.filter fun item => key item < bound + 1).length =
            (items.filter fun item => key item < bound).length +
              (items.filter fun item => key item = bound).length := by
        simp only [← List.countP_eq_length_filter]
        clear uniform inductionHypothesis below last
        induction items with
        | nil =>
            rfl
        | cons head rest inductionHypothesis =>
            simp only [List.countP_cons, decide_eq_true_eq,
              inductionHypothesis]
            split_ifs <;> omega
      rw [split, below, last, Nat.mul_succ]

namespace CountingBarrier

/-- Progress of every node through the rounds, over a shared bus. -/
structure State (Node Frame : Type) [DecidableEq Node] where
  bus : Bus Node Frame
  round : Node → Nat
  sent : Node → Nat
  counted : Node → List (Entry Node Frame)

variable {Node Frame : Type} [DecidableEq Node]

/-- One step of the abstract machine. -/
inductive Step
    [Fintype Node]
    (round? : Frame → Option Nat)
    (quota : Nat)
    (state : State Node Frame) :
    State Node Frame → Prop where
  | token
      (node : Node)
      (frame : Frame)
      (labelled : round? frame = some (state.round node))
      (unfinished : state.sent node < quota) :
      Step round? quota state
        { state with
          bus := state.bus.broadcast node frame
          sent := Function.update state.sent node (state.sent node + 1) }
  | other
      (node : Node)
      (frame : Frame)
      (unlabelled : round? frame = none) :
      Step round? quota state
        { state with bus := state.bus.broadcast node frame }
  | count
      (node : Node)
      (entry : Entry Node Frame)
      (rest : List (Entry Node Frame))
      (queued : state.bus.fifo node = entry :: rest)
      (labelled : (round? entry.frame).isSome) :
      Step round? quota state
        { state with
          bus := state.bus.take node
          counted :=
            Function.update state.counted node
              (state.counted node ++ [entry]) }
  | skip
      (node : Node)
      (entry : Entry Node Frame)
      (rest : List (Entry Node Frame))
      (queued : state.bus.fifo node = entry :: rest)
      (unlabelled : round? entry.frame = none) :
      Step round? quota state
        { state with bus := state.bus.take node }
  | pass
      (node : Node)
      (finished : state.sent node = quota)
      (full :
        (state.counted node).length = quota * (Fintype.card Node - 1)) :
      Step round? quota state
        { state with
          round := Function.update state.round node (state.round node + 1)
          sent := Function.update state.sent node 0
          counted := Function.update state.counted node [] }

section Tokens

variable (round? : Frame → Option Nat)

/-- The tokens a node's peers have put on the bus, in bus order. -/
def peerTokens
    (log : List (Entry Node Frame))
    (node : Node) :
    List (Entry Node Frame) :=
  log.filter fun entry =>
    entry.sender ≠ node ∧ (round? entry.frame).isSome

/-- The tokens of one round among a node's peers. -/
def roundTokens
    (log : List (Entry Node Frame))
    (node : Node)
    (round : Nat) :
    List (Entry Node Frame) :=
  log.filter fun entry =>
    entry.sender ≠ node ∧ round? entry.frame = some round

/-- How many tokens of one round a given node has put on the bus. -/
def tokensSent
    (log : List (Entry Node Frame))
    (sender : Node)
    (round : Nat) : Nat :=
  log.countP fun entry =>
    entry.sender = sender ∧ round? entry.frame = some round

/-- The label of a token; only used on entries that carry one. -/
def label (entry : Entry Node Frame) : Nat :=
  (round? entry.frame).getD 0

theorem tokensSent_append
    (log : List (Entry Node Frame))
    (sender node : Node)
    (frame : Frame)
    (round : Nat) :
    tokensSent round? (log ++ [⟨node, frame⟩]) sender round =
      tokensSent round? log sender round +
        if node = sender ∧ round? frame = some round then 1 else 0 := by
  simp [tokensSent, List.countP_append, List.countP_cons]

theorem roundTokens_eq_filter_label
    (log : List (Entry Node Frame))
    (node : Node)
    (round : Nat) :
    (peerTokens round? log node).filter
        (fun entry => label round? entry = round) =
      roundTokens round? log node round := by
  unfold peerTokens roundTokens label
  rw [List.filter_filter]
  congr 1
  funext entry
  cases round? entry.frame <;> simp [and_comm]

/-- A round's tokens from the peers add up over the peers. -/
theorem length_roundTokens
    [Fintype Node]
    (log : List (Entry Node Frame))
    (node : Node)
    (round : Nat) :
    (roundTokens round? log node round).length =
      ∑ peer ∈ Finset.univ.erase node,
        tokensSent round? log peer round := by
  simp only [roundTokens, tokensSent, ← List.countP_eq_length_filter]
  induction log with
  | nil =>
      simp
  | cons entry rest inductionHypothesis =>
      simp only [List.countP_cons, inductionHypothesis,
        Finset.sum_add_distrib, Nat.add_left_cancel_iff]
      by_cases own : entry.sender = node
      · rw [Finset.sum_eq_zero]
        · simp [own]
        · intro peer member
          have different : entry.sender ≠ peer := by
            rw [own]
            exact (Finset.ne_of_mem_erase member).symm
          simp [different]
      · rw [Finset.sum_eq_single entry.sender]
        · simp [own]
        · intro peer _ different
          simp [different.symm]
        · intro absent
          simp [own] at absent

end Tokens

/--
What every reachable state of the machine satisfies.

`lockstep` and `complete` are the barrier: nobody is two rounds ahead, and
whoever is one round behind has already sent everything the leader waited for.
`suffix` says that a node counts the tokens it received after the ones that
completed its earlier rounds.
-/
structure Invariant
    [Fintype Node]
    (round? : Frame → Option Nat)
    (quota : Nat)
    (state : State Node Frame) : Prop where
  sentWithin :
    ∀ node, state.sent node ≤ quota
  tokens :
    ∀ node round,
      tokensSent round? state.bus.log node round =
        if round < state.round node then
          quota
        else if round = state.round node then
          state.sent node
        else
          0
  lockstep :
    ∀ node peer, state.round node ≤ state.round peer + 1
  complete :
    ∀ node peer,
      state.round node = state.round peer + 1 →
      state.sent peer = quota
  sorted :
    state.bus.log.Pairwise fun first second =>
      ∀ earlier later,
        round? first.frame = some earlier →
        round? second.frame = some later →
        earlier ≤ later
  suffix :
    ∀ node,
      ∃ old,
        (state.bus.received node).filter
            (fun entry => (round? entry.frame).isSome) =
          old ++ state.counted node ∧
        old.length =
          quota * (Fintype.card Node - 1) * state.round node

namespace Invariant

variable [Fintype Node]
    {round? : Frame → Option Nat}
    {quota : Nat}
    {state : State Node Frame}

/-- Everybody has sent all tokens of a round that some node has left. -/
theorem tokens_of_lt
    (invariant : Invariant round? quota state)
    {node : Node}
    {round : Nat}
    (left : round < state.round node)
    (peer : Node) :
    tokensSent round? state.bus.log peer round = quota := by
  have near := invariant.lockstep node peer
  rw [invariant.tokens peer round]
  rcases Nat.lt_or_ge round (state.round peer) with behind | reached
  · simp [behind]
  · have same : round = state.round peer := by omega
    have ahead : state.round node = state.round peer + 1 := by omega
    simp [same, invariant.complete node peer ahead]

/-- No node sends more tokens for a round than the quota. -/
theorem tokens_le
    (invariant : Invariant round? quota state)
    (peer : Node)
    (round : Nat) :
    tokensSent round? state.bus.log peer round ≤ quota := by
  rw [invariant.tokens peer round]
  split_ifs
  · exact Nat.le_refl quota
  · exact invariant.sentWithin peer
  · exact Nat.zero_le quota

/-- A token on the bus is labelled with a round its sender has reached. -/
theorem label_le_round
    (invariant : Invariant round? quota state)
    {entry : Entry Node Frame}
    {round : Nat}
    (member : entry ∈ state.bus.log)
    (labelled : round? entry.frame = some round) :
    round ≤ state.round entry.sender := by
  by_contra future
  have none := invariant.tokens entry.sender round
  rw [if_neg (by omega), if_neg (by omega)] at none
  have some :
      0 < tokensSent round? state.bus.log entry.sender round :=
    List.countP_pos_iff.mpr ⟨entry, member, by simp [labelled]⟩
  omega

/-- A round that every peer has finished sending carries a full share of tokens. -/
theorem length_roundTokens_eq
    {node : Node}
    {round : Nat}
    (all :
      ∀ peer,
        peer ≠ node →
        tokensSent round? state.bus.log peer round = quota) :
    (roundTokens round? state.bus.log node round).length =
      quota * (Fintype.card Node - 1) := by
  rw [length_roundTokens, Finset.sum_congr rfl
    (fun peer member => all peer (Finset.ne_of_mem_erase member))]
  simp [Finset.card_erase_of_mem, Nat.mul_comm]

/-- No round carries more than a full share of tokens. -/
theorem length_roundTokens_le
    (invariant : Invariant round? quota state)
    (node : Node)
    (round : Nat) :
    (roundTokens round? state.bus.log node round).length ≤
      quota * (Fintype.card Node - 1) := by
  rw [length_roundTokens]
  calc
    ∑ peer ∈ Finset.univ.erase node,
        tokensSent round? state.bus.log peer round
      ≤ ∑ _peer ∈ Finset.univ.erase node, quota :=
        Finset.sum_le_sum fun peer _ => invariant.tokens_le peer round
    _ = quota * (Fintype.card Node - 1) := by
        simp [Finset.card_erase_of_mem, Nat.mul_comm]

/-- The peers' tokens are sorted by round. -/
theorem peerTokens_sorted
    (invariant : Invariant round? quota state)
    (node : Node) :
    (peerTokens round? state.bus.log node).Pairwise
      fun first second => label round? first ≤ label round? second := by
  have kept :
      (peerTokens round? state.bus.log node).Pairwise
        fun first second =>
          ∀ earlier later,
            round? first.frame = some earlier →
            round? second.frame = some later →
            earlier ≤ later :=
    invariant.sorted.sublist List.filter_sublist
  refine kept.imp_of_mem ?_
  intro first second firstMember secondMember ordered
  simp only [peerTokens, List.mem_filter, decide_eq_true_eq] at firstMember secondMember
  obtain ⟨earlier, firstLabel⟩ :=
    Option.isSome_iff_exists.mp firstMember.2.2
  obtain ⟨later, secondLabel⟩ :=
    Option.isSome_iff_exists.mp secondMember.2.2
  simpa [label, firstLabel, secondLabel] using
    ordered earlier later firstLabel secondLabel

/--
The tokens a node counts in its current round, followed by the ones still
queued for it, are the peers' tokens of that round followed by later ones.
-/
theorem counted_append
    (invariant : Invariant round? quota state)
    (node : Node) :
    state.counted node ++
        (state.bus.fifo node).filter
          (fun entry => (round? entry.frame).isSome) =
      roundTokens round? state.bus.log node (state.round node) ++
        (peerTokens round? state.bus.log node).filter
          (fun entry => state.round node < label round? entry) := by
  obtain ⟨old, oldReceived, oldLength⟩ := invariant.suffix node
  have delivered :
      old ++
          (state.counted node ++
            (state.bus.fifo node).filter
              (fun entry => (round? entry.frame).isSome)) =
        peerTokens round? state.bus.log node := by
    rw [← List.append_assoc, ← oldReceived, ← List.filter_append,
      state.bus.ordered, List.filter_filter]
    unfold peerTokens
    congr 1
    funext entry
    simp [Bool.and_comm]
  have split :=
    filter_split_by_key
      (invariant.peerTokens_sorted node) (state.round node)
  rw [roundTokens_eq_filter_label] at split
  have earlier :
      ((peerTokens round? state.bus.log node).filter
          fun entry => label round? entry < state.round node).length =
        quota * (Fintype.card Node - 1) * state.round node := by
    refine length_filter_key_lt ?_
    intro round left
    rw [roundTokens_eq_filter_label]
    exact length_roundTokens_eq
      fun peer _ => invariant.tokens_of_lt left peer
  exact (List.append_inj (delivered.trans split)
    (oldLength.trans earlier.symm)).2

/-- A queued token is not from a round that the node has left. -/
theorem round_le_label
    (invariant : Invariant round? quota state)
    {node : Node}
    {entry : Entry Node Frame}
    {round : Nat}
    (queued : entry ∈ state.bus.fifo node)
    (labelled : round? entry.frame = some round) :
    state.round node ≤ round := by
  have pending :
      entry ∈
        state.counted node ++
          (state.bus.fifo node).filter
            (fun entry => (round? entry.frame).isSome) := by
    refine List.mem_append_right _ (List.mem_filter.mpr ⟨queued, ?_⟩)
    simp [labelled]
  rw [invariant.counted_append, List.mem_append] at pending
  rcases pending with current | later
  · simp only [roundTokens, List.mem_filter, labelled, Option.some.injEq,
      decide_eq_true_eq] at current
    omega
  · simp only [List.mem_filter, label, labelled, Option.getD_some,
      decide_eq_true_eq] at later
    omega

/-- The tokens of the rounds that a node has left have reached it. -/
theorem mem_received_of_lt
    (invariant : Invariant round? quota state)
    {node : Node}
    {entry : Entry Node Frame}
    {round : Nat}
    (member : entry ∈ state.bus.log)
    (foreign : entry.sender ≠ node)
    (labelled : round? entry.frame = some round)
    (left : round < state.round node) :
    entry ∈ state.bus.received node := by
  rcases state.bus.mem_received_or_fifo.mpr ⟨member, foreign⟩ with
    received | queued
  · exact received
  · have reached := invariant.round_le_label queued labelled
    omega

/-- If a peer has sent a token of a later round, the current round is complete. -/
theorem roundTokens_full_of_later
    (invariant : Invariant round? quota state)
    {node : Node}
    {entry : Entry Node Frame}
    (member :
      entry ∈
        (peerTokens round? state.bus.log node).filter
          fun entry => state.round node < label round? entry) :
    (roundTokens round? state.bus.log node (state.round node)).length =
      quota * (Fintype.card Node - 1) := by
  simp only [peerTokens, List.mem_filter, decide_eq_true_eq] at member
  obtain ⟨⟨onBus, _, isToken⟩, later⟩ := member
  obtain ⟨round, labelled⟩ := Option.isSome_iff_exists.mp isToken
  have reached := invariant.label_le_round onBus labelled
  have beyond : state.round node < state.round entry.sender := by
    have labelValue : label round? entry = round := by
      simp [label, labelled]
    omega
  exact length_roundTokens_eq
    fun peer _ => invariant.tokens_of_lt beyond peer

/--
The barrier counts exactly one round: a node with a full count has counted
precisely its peers' tokens of its own round, in bus order.
-/
theorem counted_eq_roundTokens
    (invariant : Invariant round? quota state)
    {node : Node}
    (full :
      (state.counted node).length =
        quota * (Fintype.card Node - 1)) :
    state.counted node =
      roundTokens round? state.bus.log node (state.round node) := by
  have split := invariant.counted_append node
  have complete :
      (roundTokens round? state.bus.log node
          (state.round node)).length =
        quota * (Fintype.card Node - 1) := by
    cases laterTokens :
        (peerTokens round? state.bus.log node).filter
          (fun entry => state.round node < label round? entry) with
    | nil =>
        have within :=
          invariant.length_roundTokens_le node (state.round node)
        have lengths := congrArg List.length split
        simp only [laterTokens, List.append_nil, List.length_append] at lengths
        omega
    | cons entry rest =>
        have isLater :
            entry ∈ (peerTokens round? state.bus.log node).filter
              (fun entry => state.round node < label round? entry) := by
          rw [laterTokens]
          exact List.mem_cons_self
        exact invariant.roundTokens_full_of_later isLater
  exact (List.append_inj split (full.trans complete.symm)).1

/-- A node with a full count waits for nobody: all peers have sent their round. -/
theorem tokens_of_full
    (invariant : Invariant round? quota state)
    {node peer : Node}
    (full :
      (state.counted node).length =
        quota * (Fintype.card Node - 1))
    (different : peer ≠ node) :
    tokensSent round? state.bus.log peer (state.round node) = quota := by
  have lengths :=
    congrArg List.length (invariant.counted_eq_roundTokens full)
  rw [full, length_roundTokens] at lengths
  by_contra missing
  have fewer :
      ∑ other ∈ Finset.univ.erase node,
          tokensSent round? state.bus.log other (state.round node) <
        ∑ _other ∈ Finset.univ.erase node, quota := by
    refine Finset.sum_lt_sum
      (fun other _ => invariant.tokens_le other _)
      ⟨peer, Finset.mem_erase.mpr ⟨different, Finset.mem_univ peer⟩, ?_⟩
    exact lt_of_le_of_ne (invariant.tokens_le peer _) missing
  have total :
      ∑ _other ∈ Finset.univ.erase node, quota =
        quota * (Fintype.card Node - 1) := by
    simp [Finset.card_erase_of_mem, Nat.mul_comm]
  omega

/-- A bus without tokens and nodes in round zero satisfy the invariant. -/
theorem initial
    (quiet :
      ∀ entry ∈ state.bus.log, round? entry.frame = none)
    (noRound : ∀ node, state.round node = 0)
    (noneSent : ∀ node, state.sent node = 0)
    (noneCounted : ∀ node, state.counted node = []) :
    Invariant round? quota state where
  sentWithin := by
    intro node
    rw [noneSent]
    exact Nat.zero_le quota
  tokens := by
    intro node round
    have none : tokensSent round? state.bus.log node round = 0 := by
      refine List.countP_eq_zero.mpr ?_
      intro entry member
      simp [quiet entry member]
    simp [none, noRound, noneSent]
  lockstep := by
    intro node peer
    simp [noRound]
  complete := by
    intro node peer ahead
    simp [noRound] at ahead
  sorted := by
    refine List.pairwise_of_forall_mem_list ?_
    intro first firstMember second _ earlier later labelled
    simp [quiet first firstMember] at labelled
  suffix := by
    intro node
    refine ⟨[], ?_, by simp [noRound]⟩
    simp only [noneCounted, List.append_nil, List.filter_eq_nil_iff]
    intro entry member
    simp [quiet entry (Bus.mem_log_of_mem_received member).1]

/-- Sending a token of the current round keeps the invariant. -/
private theorem token
    (invariant : Invariant round? quota state)
    {node : Node}
    {frame : Frame}
    (labelled : round? frame = some (state.round node))
    (unfinished : state.sent node < quota) :
    Invariant round? quota
      { state with
        bus := state.bus.broadcast node frame
        sent :=
          Function.update state.sent node (state.sent node + 1) } where
  sentWithin := by
    intro other
    by_cases same : other = node
    · subst other
      simpa using unfinished
    · simpa [same] using invariant.sentWithin other
  tokens := by
    intro other round
    simp only [Bus.broadcast_log, tokensSent_append,
      invariant.tokens other round, labelled, Option.some.injEq]
    by_cases same : node = other
    · subst other
      by_cases current : state.round node = round
      · subst round
        simp
      · have otherRound : round ≠ state.round node := fun h => current h.symm
        simp [current, otherRound]
    · have different : other ≠ node := fun h => same h.symm
      simp [same, different]
  lockstep := invariant.lockstep
  complete := by
    intro leader follower ahead
    have finished := invariant.complete leader follower ahead
    by_cases same : follower = node
    · subst follower
      omega
    · simpa [same] using finished
  sorted := by
    refine List.pairwise_append.mpr
      ⟨invariant.sorted, List.pairwise_singleton _ _, ?_⟩
    intro first member second isNew earlier later firstLabel secondLabel
    simp only [List.mem_singleton] at isNew
    subst second
    rw [labelled, Option.some.injEq] at secondLabel
    have reached := invariant.label_le_round member firstLabel
    have near := invariant.lockstep first.sender node
    by_contra beyond
    have ahead : state.round first.sender = state.round node + 1 := by omega
    have finished := invariant.complete first.sender node ahead
    omega
  suffix := invariant.suffix

/-- Traffic that carries no token keeps the invariant. -/
private theorem other
    (invariant : Invariant round? quota state)
    {node : Node}
    {frame : Frame}
    (unlabelled : round? frame = none) :
    Invariant round? quota
      { state with bus := state.bus.broadcast node frame } where
  sentWithin := invariant.sentWithin
  tokens := by
    intro other round
    simpa [tokensSent_append, unlabelled] using
      invariant.tokens other round
  lockstep := invariant.lockstep
  complete := invariant.complete
  sorted := by
    refine List.pairwise_append.mpr
      ⟨invariant.sorted, List.pairwise_singleton _ _, ?_⟩
    intro first _ second isNew earlier later _ secondLabel
    simp only [List.mem_singleton] at isNew
    subst second
    simp [unlabelled] at secondLabel
  suffix := invariant.suffix

/-- Counting a received token keeps the invariant. -/
private theorem count
    (invariant : Invariant round? quota state)
    {node : Node}
    {entry : Entry Node Frame}
    {rest : List (Entry Node Frame)}
    (queued : state.bus.fifo node = entry :: rest)
    (labelled : (round? entry.frame).isSome) :
    Invariant round? quota
      { state with
        bus := state.bus.take node
        counted :=
          Function.update state.counted node
            (state.counted node ++ [entry]) } where
  sentWithin := invariant.sentWithin
  tokens := invariant.tokens
  lockstep := invariant.lockstep
  complete := invariant.complete
  sorted := invariant.sorted
  suffix := by
    intro other
    obtain ⟨old, received, length⟩ := invariant.suffix other
    refine ⟨old, ?_, length⟩
    by_cases same : other = node
    · subst other
      simp only [Bus.take_received_self queued, List.filter_append,
        received, Function.update_self, List.append_assoc]
      simp [labelled]
    · simpa [Bus.take_received_other _ same, same] using received

/-- Receiving other traffic keeps the invariant. -/
private theorem skip
    (invariant : Invariant round? quota state)
    {node : Node}
    {entry : Entry Node Frame}
    {rest : List (Entry Node Frame)}
    (queued : state.bus.fifo node = entry :: rest)
    (unlabelled : round? entry.frame = none) :
    Invariant round? quota
      { state with bus := state.bus.take node } where
  sentWithin := invariant.sentWithin
  tokens := invariant.tokens
  lockstep := invariant.lockstep
  complete := invariant.complete
  sorted := invariant.sorted
  suffix := by
    intro other
    obtain ⟨old, received, length⟩ := invariant.suffix other
    refine ⟨old, ?_, length⟩
    by_cases same : other = node
    · subst other
      simpa [Bus.take_received_self queued, unlabelled] using received
    · simpa [Bus.take_received_other _ same] using received

/-- Passing the barrier with a full count keeps the invariant. -/
private theorem pass
    (invariant : Invariant round? quota state)
    (positive : 0 < quota)
    {node : Node}
    (finished : state.sent node = quota)
    (full :
      (state.counted node).length =
        quota * (Fintype.card Node - 1)) :
    Invariant round? quota
      { state with
        round :=
          Function.update state.round node (state.round node + 1)
        sent := Function.update state.sent node 0
        counted := Function.update state.counted node [] } := by
  -- Everybody has finished the round that `node` leaves.
  have allFinished :
      ∀ peer,
        state.round node < state.round peer ∨
          state.round node = state.round peer ∧
            state.sent peer = quota := by
    intro peer
    by_cases same : peer = node
    · exact .inr ⟨by rw [same], by rw [same]; exact finished⟩
    · have sentAll := invariant.tokens_of_full full same
      rw [invariant.tokens peer] at sentAll
      split_ifs at sentAll with behind current
      · exact .inl behind
      · exact .inr ⟨current, sentAll⟩
      · omega
  refine
    { sentWithin := ?_
      tokens := ?_
      lockstep := ?_
      complete := ?_
      sorted := invariant.sorted
      suffix := ?_ }
  · intro other
    by_cases same : other = node
    · simp [same]
    · simpa [same] using invariant.sentWithin other
  · intro other round
    simp only [invariant.tokens other round]
    by_cases same : other = node
    · subst other
      simp only [Function.update_self, finished]
      split_ifs <;> omega
    · simp [same]
  · intro leader follower
    have near := invariant.lockstep leader follower
    by_cases isLeader : leader = node
    · subst leader
      by_cases isFollower : follower = node
      · simp [isFollower]
      · simp only [Function.update_self, Function.update_of_ne isFollower]
        rcases allFinished follower with ahead | ⟨level, _⟩ <;> omega
    · by_cases isFollower : follower = node
      · subst follower
        simp only [Function.update_self, Function.update_of_ne isLeader]
        omega
      · simpa [isLeader, isFollower] using near
  · intro leader follower ahead
    by_cases isFollower : follower = node
    · subst follower
      have near := invariant.lockstep leader node
      by_cases isLeader : leader = node
      · simp [isLeader] at ahead
      · simp only [Function.update_self,
          Function.update_of_ne isLeader] at ahead
        omega
    · simp only [Function.update_of_ne isFollower] at ahead ⊢
      by_cases isLeader : leader = node
      · subst leader
        simp only [Function.update_self] at ahead
        rcases allFinished follower with beyond | ⟨_, sentAll⟩
        · omega
        · exact sentAll
      · simp only [Function.update_of_ne isLeader] at ahead
        exact invariant.complete leader follower ahead
  · intro other
    obtain ⟨old, received, length⟩ := invariant.suffix other
    by_cases same : other = node
    · subst other
      refine ⟨old ++ state.counted node, by simpa using received, ?_⟩
      simp only [List.length_append, length, full, Function.update_self]
      ring
    · refine ⟨old, by simpa [same] using received, by simpa [same] using length⟩

/-- Every step of the machine keeps the invariant. -/
theorem step
    (invariant : Invariant round? quota state)
    (positive : 0 < quota)
    {after : State Node Frame}
    (taken : Step round? quota state after) :
    Invariant round? quota after := by
  cases taken with
  | token node frame labelled unfinished =>
      exact invariant.token labelled unfinished
  | other node frame unlabelled =>
      exact invariant.other unlabelled
  | count node entry rest queued labelled =>
      exact invariant.count queued labelled
  | skip node entry rest queued unlabelled =>
      exact invariant.skip queued unlabelled
  | pass node finished full =>
      exact invariant.pass positive finished full

/-- What a node has counted was on the bus. -/
theorem mem_log_of_mem_counted
    (invariant : Invariant round? quota state)
    {node : Node}
    {entry : Entry Node Frame}
    (member : entry ∈ state.counted node) :
    entry ∈ state.bus.log ∧ (round? entry.frame).isSome := by
  obtain ⟨old, received, _⟩ := invariant.suffix node
  have taken :
      entry ∈
        (state.bus.received node).filter
          (fun entry => (round? entry.frame).isSome) := by
    rw [received]
    exact List.mem_append_right old member
  obtain ⟨isReceived, isToken⟩ := List.mem_filter.mp taken
  exact ⟨(Bus.mem_log_of_mem_received isReceived).1, isToken⟩

/--
A node that never counts a token of a later round never counts more than a full
share.
-/
theorem length_counted_le
    (invariant : Invariant round? quota state)
    {node : Node}
    (prompt :
      ∀ entry ∈ state.counted node,
        label round? entry ≤ state.round node) :
    (state.counted node).length ≤
      quota * (Fintype.card Node - 1) := by
  have within := invariant.length_roundTokens_le node (state.round node)
  have split := invariant.counted_append node
  by_contra tooMany
  have isPrefix :
      roundTokens round? state.bus.log node (state.round node) <+:
        state.counted node := by
    refine List.prefix_of_prefix_length_le
      ⟨_, rfl⟩ ⟨_, split⟩ ?_
    omega
  obtain ⟨beyond, countedSplit⟩ := isPrefix
  rw [← countedSplit, List.append_assoc, List.append_cancel_left_eq] at split
  cases beyond with
  | nil =>
      rw [List.append_nil] at countedSplit
      rw [countedSplit] at within
      exact tooMany within
  | cons entry rest =>
      have later :
          entry ∈
            (peerTokens round? state.bus.log node).filter
              fun entry => state.round node < label round? entry := by
        rw [← split]
        simp
      have current := prompt entry (by simp [← countedSplit])
      simp only [List.mem_filter, decide_eq_true_eq] at later
      omega

/--
A node that has drained its queue holds a full count as soon as every peer has
finished the node's round.
-/
theorem length_counted_ge
    (invariant : Invariant round? quota state)
    {node : Node}
    (allFinished :
      ∀ peer,
        peer ≠ node →
        state.round node < state.round peer ∨
          state.round node = state.round peer ∧
            state.sent peer = quota)
    (drained : state.bus.fifo node = []) :
    quota * (Fintype.card Node - 1) ≤
      (state.counted node).length := by
  have complete :
      (roundTokens round? state.bus.log node
          (state.round node)).length =
        quota * (Fintype.card Node - 1) := by
    refine length_roundTokens_eq ?_
    intro peer different
    rw [invariant.tokens peer]
    rcases allFinished peer different with ahead | ⟨level, sentAll⟩
    · simp [ahead]
    · simp [level, sentAll]
  have lengths := congrArg List.length (invariant.counted_append node)
  simp only [drained, List.filter_nil, List.append_nil,
    List.length_append] at lengths
  omega

end Invariant

end CountingBarrier

end DistributedLighting
