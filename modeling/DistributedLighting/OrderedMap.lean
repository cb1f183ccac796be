import Mathlib

namespace DistributedLighting

/-!
# Maps in the order of their keys

A map is a list of bindings whose keys ascend, so that no key is bound twice.  A
map from keys to lists collects values under their keys: as long as the keys that
arrive do not descend, the values stand in the order of their arrival, and those
below a bound are found at the front.
-/

/-- Bindings in the order of their keys. -/
structure OrderedMap (Key Value : Type) [LinearOrder Key] where
  toList : List (Key × Value)
  ascending : toList.Pairwise fun first second => first.1 < second.1

namespace OrderedMap

variable {Key Value : Type} [LinearOrder Key]

/-- The map without bindings. -/
def empty : OrderedMap Key Value where
  toList := []
  ascending := .nil

/-- Change the binding of a key, or bind it at its place. -/
def modifyList
    (key : Key)
    (change : Option Value → Value) :
    List (Key × Value) → List (Key × Value)
  | [] => [(key, change none)]
  | binding :: rest =>
      if key < binding.1 then
        (key, change none) :: binding :: rest
      else if key = binding.1 then
        (key, change (some binding.2)) :: rest
      else
        binding :: modifyList key change rest

/-- A change binds no other key. -/
theorem fst_of_mem_modifyList
    {key : Key}
    {change : Option Value → Value}
    {list : List (Key × Value)}
    {binding : Key × Value}
    (bound : binding ∈ modifyList key change list) :
    binding.1 = key ∨ binding ∈ list := by
  induction list with
  | nil =>
      simp only [modifyList, List.mem_singleton] at bound
      exact .inl (congrArg Prod.fst bound)
  | cons first rest inductionHypothesis =>
      rw [modifyList] at bound
      split_ifs at bound with before same
      · rcases List.mem_cons.mp bound with new | old
        · exact .inl (congrArg Prod.fst new)
        · exact .inr old
      · rcases List.mem_cons.mp bound with new | old
        · exact .inl (congrArg Prod.fst new)
        · exact .inr (List.mem_cons_of_mem _ old)
      · rcases List.mem_cons.mp bound with head | tail
        · exact .inr (head ▸ List.mem_cons_self)
        · exact (inductionHypothesis tail).imp_right (List.mem_cons_of_mem _)

/-- A change keeps the order. -/
theorem ascending_modifyList
    (key : Key)
    (change : Option Value → Value)
    {list : List (Key × Value)}
    (ascending : list.Pairwise fun first second => first.1 < second.1) :
    (modifyList key change list).Pairwise
      fun first second => first.1 < second.1 := by
  induction list with
  | nil =>
      exact List.pairwise_singleton _ _
  | cons first rest inductionHypothesis =>
      obtain ⟨least, restAscending⟩ := List.pairwise_cons.mp ascending
      rw [modifyList]
      split_ifs with before same
      · refine List.pairwise_cons.mpr ⟨?_, ascending⟩
        intro binding listed
        rcases List.mem_cons.mp listed with head | tail
        · exact head ▸ before
        · exact before.trans (least binding tail)
      · refine List.pairwise_cons.mpr ⟨?_, restAscending⟩
        intro binding listed
        exact same ▸ least binding listed
      · refine List.pairwise_cons.mpr
          ⟨?_, inductionHypothesis restAscending⟩
        intro binding listed
        rcases fst_of_mem_modifyList listed with isKey | old
        · rw [isKey]
          exact lt_of_le_of_ne (not_lt.mp before) (Ne.symm same)
        · exact least binding old

/-- Change the binding of a key, or bind it. -/
def modify
    (map : OrderedMap Key Value)
    (key : Key)
    (change : Option Value → Value) : OrderedMap Key Value where
  toList := modifyList key change map.toList
  ascending := ascending_modifyList key change map.ascending

/-- Erase bindings from the front while their keys are below a bound. -/
def eraseBelow
    (map : OrderedMap Key Value)
    (bound : Key) : OrderedMap Key Value where
  toList := map.toList.dropWhile fun binding => binding.1 < bound
  ascending := map.ascending.sublist (List.dropWhile_sublist _)

/-- What is erased from the front is everything below the bound. -/
theorem dropWhile_below
    (bound : Key)
    {list : List (Key × Value)}
    (ascending : list.Pairwise fun first second => first.1 < second.1) :
    (list.dropWhile fun binding => binding.1 < bound) =
      list.filter fun binding => bound ≤ binding.1 := by
  induction list with
  | nil =>
      rfl
  | cons first rest inductionHypothesis =>
      obtain ⟨least, restAscending⟩ := List.pairwise_cons.mp ascending
      by_cases below : first.1 < bound
      · have notKept : ¬ bound ≤ first.1 := not_le.mpr below
        simpa [below, notKept] using inductionHypothesis restAscending
      · have kept : bound ≤ first.1 := not_lt.mp below
        have restKept :
            ∀ binding ∈ rest, decide (bound ≤ binding.1) = true := by
          intro binding listed
          exact decide_eq_true (kept.trans (least binding listed).le)
        simp [below, kept, List.filter_eq_self.mpr restKept]

section Collecting

variable {Sample : Type}

/-- Add a value behind those of its key. -/
def pushBack
    (map : OrderedMap Key (List Sample))
    (key : Key)
    (sample : Sample) : OrderedMap Key (List Sample) :=
  map.modify key fun samples => samples.getD [] ++ [sample]

/-- The values of a list of bindings, each with its key. -/
def entriesOf (list : List (Key × List Sample)) : List (Key × Sample) :=
  list.flatMap fun binding => binding.2.map fun sample => (binding.1, sample)

/-- The values of a map, each with its key. -/
def entries (map : OrderedMap Key (List Sample)) : List (Key × Sample) :=
  entriesOf map.toList

/-- Every key has a value. -/
def Inhabited (map : OrderedMap Key (List Sample)) : Prop :=
  ∀ binding ∈ map.toList, binding.2 ≠ []

omit [LinearOrder Key] in
theorem entriesOf_cons
    (binding : Key × List Sample)
    (rest : List (Key × List Sample)) :
    entriesOf (binding :: rest) =
      (binding.2.map fun sample => (binding.1, sample)) ++ entriesOf rest :=
  List.flatMap_cons

/-- At a key that none exceeds, a value comes last. -/
theorem entriesOf_modifyList
    {key : Key}
    {list : List (Key × List Sample)}
    (ascending : list.Pairwise fun first second => first.1 < second.1)
    (latest : ∀ binding ∈ list, binding.1 ≤ key)
    (sample : Sample) :
    entriesOf
        (modifyList key (fun samples => samples.getD [] ++ [sample]) list) =
      entriesOf list ++ [(key, sample)] := by
  induction list with
  | nil =>
      rfl
  | cons first rest inductionHypothesis =>
      obtain ⟨least, restAscending⟩ := List.pairwise_cons.mp ascending
      obtain ⟨firstLatest, restLatest⟩ := List.forall_mem_cons.mp latest
      rw [modifyList, if_neg (not_lt.mpr firstLatest)]
      split_ifs with same
      · have last : rest = [] := by
          apply List.eq_nil_iff_forall_not_mem.mpr
          intro binding listed
          have above := least binding listed
          exact absurd (restLatest binding listed) (not_le.mpr (same ▸ above))
        subst last same
        simp [entriesOf]
      · simp only [entriesOf_cons, inductionHypothesis restAscending restLatest,
          List.append_assoc]

theorem entries_pushBack
    {map : OrderedMap Key (List Sample)}
    {key : Key}
    (latest : ∀ binding ∈ map.toList, binding.1 ≤ key)
    (sample : Sample) :
    (map.pushBack key sample).entries = map.entries ++ [(key, sample)] :=
  entriesOf_modifyList map.ascending latest sample

/-- Erasing keeps the values whose keys reach the bound. -/
theorem entries_eraseBelow
    (map : OrderedMap Key (List Sample))
    (bound : Key) :
    (map.eraseBelow bound).entries =
      map.entries.filter fun entry => bound ≤ entry.1 := by
  simp only [entries, eraseBelow, dropWhile_below bound map.ascending]
  induction map.toList with
  | nil =>
      rfl
  | cons first rest inductionHypothesis =>
      rw [entriesOf_cons, List.filter_append, ← inductionHypothesis]
      by_cases kept : bound ≤ first.1
      · simp [kept, entriesOf_cons, List.filter_map, Function.comp_def]
      · simp [kept, List.filter_map, Function.comp_def]

theorem Inhabited.pushBack
    {map : OrderedMap Key (List Sample)}
    (inhabited : map.Inhabited)
    (key : Key)
    (sample : Sample) :
    (map.pushBack key sample).Inhabited := by
  have all :
      ∀ list : List (Key × List Sample),
        (∀ binding ∈ list, binding.2 ≠ []) →
        ∀ binding ∈
            modifyList key (fun samples => samples.getD [] ++ [sample]) list,
          binding.2 ≠ [] := by
    intro list filled
    induction list with
    | nil =>
        simp [modifyList]
    | cons first rest inductionHypothesis =>
        obtain ⟨firstFilled, restFilled⟩ := List.forall_mem_cons.mp filled
        rw [modifyList]
        split_ifs with before same
        · exact List.forall_mem_cons.mpr ⟨by simp, filled⟩
        · exact List.forall_mem_cons.mpr ⟨by simp, restFilled⟩
        · exact List.forall_mem_cons.mpr
            ⟨firstFilled, inductionHypothesis restFilled⟩
  exact all map.toList inhabited

theorem Inhabited.eraseBelow
    {map : OrderedMap Key (List Sample)}
    (inhabited : map.Inhabited)
    (bound : Key) :
    (map.eraseBelow bound).Inhabited := by
  intro binding kept
  exact inhabited binding ((List.dropWhile_sublist _).subset kept)

/-- The keys of a map whose keys are all inhabited are the keys of its values. -/
theorem Inhabited.exists_entry
    {map : OrderedMap Key (List Sample)}
    (inhabited : map.Inhabited)
    {binding : Key × List Sample}
    (bound : binding ∈ map.toList) :
    ∃ sample, (binding.1, sample) ∈ map.entries := by
  obtain ⟨sample, held⟩ := List.exists_mem_of_ne_nil _ (inhabited binding bound)
  exact ⟨sample,
    List.mem_flatMap.mpr ⟨binding, bound, List.mem_map.mpr ⟨sample, held, rfl⟩⟩⟩

/-- The values of a binding, with its key in front, are of this key alone. -/
theorem filter_map_key
    (first second : Key)
    (samples : List Sample) :
    ((samples.map fun sample => (first, sample)).filter
        fun entry => entry.1 = second) =
      if first = second then
        samples.map fun sample => (first, sample)
      else
        [] := by
  rw [List.filter_map]
  by_cases same : first = second
  · simp [same, Function.comp_def]
  · simp [same, Function.comp_def]

/-- The values of a key are those that the map has for it. -/
theorem filter_entriesOf
    {list : List (Key × List Sample)}
    (ascending : list.Pairwise fun first second => first.1 < second.1)
    {binding : Key × List Sample}
    (bound : binding ∈ list) :
    ((entriesOf list).filter fun entry => entry.1 = binding.1).map Prod.snd =
      binding.2 := by
  induction list with
  | nil =>
      exact absurd bound List.not_mem_nil
  | cons first rest inductionHypothesis =>
      obtain ⟨least, restAscending⟩ := List.pairwise_cons.mp ascending
      rw [entriesOf_cons, List.filter_append, filter_map_key, List.map_append]
      rcases List.mem_cons.mp bound with head | tail
      · have noneLater :
            ((entriesOf rest).filter fun entry => entry.1 = first.1) = [] := by
          apply List.filter_eq_nil_iff.mpr
          intro entry listed
          obtain ⟨later, inRest, ofLater⟩ := List.mem_flatMap.mp listed
          obtain ⟨sample, -, rfl⟩ := List.mem_map.mp ofLater
          simpa using (least later inRest).ne'
        subst head
        rw [if_pos rfl, noneLater]
        simp
      · rw [if_neg (least binding tail).ne, inductionHypothesis restAscending tail]
        rfl

theorem filter_entries
    {map : OrderedMap Key (List Sample)}
    {binding : Key × List Sample}
    (bound : binding ∈ map.toList) :
    (map.entries.filter fun entry => entry.1 = binding.1).map Prod.snd =
      binding.2 :=
  filter_entriesOf map.ascending bound

end Collecting

end OrderedMap

end DistributedLighting
