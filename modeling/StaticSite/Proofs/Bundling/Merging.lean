/-
Module: StaticSite.Proofs.Bundling.Merging
Purpose: Making and merging bundles one by one leaves one group of numbers for each
  usage, with a bundle that carries all scripts of the group.
Trusted boundary: none
Main exports:
  Merging, Merging.open_group, Merging.join_group, makeBundles_spec, mergeBundles_spec
-/
import StaticSite.Proofs.Bundling.Registry
import StaticSite.Proofs.Bundling.Usage

namespace StaticSite.Bundling

/-! ### Places in lists -/

theorem lookup_zipIdx {α : Type} [DecidableEq α] (values : List α) (first : Nat) (value : α) :
    (values.zipIdx first).lookup value =
      if value ∈ values then some (first + values.idxOf value) else none := by
  induction values generalizing first with
  | nil => rfl
  | cons head rest inductionHypothesis =>
      by_cases same : value = head
      · simp [List.zipIdx_cons, same]
      · rw [List.zipIdx_cons, lookup_cons_of_ne same, inductionHypothesis]
        simp only [List.mem_cons, same, false_or, List.idxOf_cons_ne rest (Ne.symm same)]
        split
        · rw [Nat.succ_eq_add_one, Nat.add_assoc, Nat.add_comm 1]
        · rfl

theorem getElem?_append_singleton {α : Type} {values : List α} {last value : α} {place : Nat}
    (stored : (values ++ [last])[place]? = some value) :
    values[place]? = some value ∨ place = values.length ∧ value = last := by
  rw [List.getElem?_append] at stored
  split at stored
  case isTrue => exact Or.inl stored
  case isFalse late =>
    obtain ⟨atStart, same⟩ := List.getElem?_eq_some_iff.mp stored
    rw [List.length_singleton, Nat.lt_one_iff] at atStart
    exact Or.inr ⟨by omega, by simpa [atStart] using same.symm⟩

theorem filter_append_singleton_of_ne {keyOf : Signature → String} {done : List Signature}
    {signature : Signature} {key : String} (apart : keyOf signature ≠ key) :
    (done ++ [signature]).filter (fun other => keyOf other == key) =
      done.filter fun other => keyOf other == key := by
  simp [List.filter_append, apart]

/-! ### The state of merging -/

/-- All scripts have bundles with numbers in order.  Those in `done` have been merged
into the first one with the same key, which carries all of them; those in `rest` are
still on their own. -/
structure Merging (keyOf : Signature → String) (bundleOf : List Signature → Bundle)
    (done rest : List Signature) (registry : Registry) : Prop where
  wellFormed : registry.WellFormed
  owners_eq : registry.owners = (done ++ rest).zipIdx
  size_eq : registry.bundles.size = (done ++ rest).length
  root_done : ∀ {id : Nat} {signature : Signature}, done[id]? = some signature →
    registry.root id = (done.map keyOf).idxOf (keyOf signature)
  root_rest : ∀ {id : Nat}, done.length ≤ id → id < registry.bundles.size → registry.root id = id
  stored_done : ∀ {id : Nat} {signature : Signature}, done[id]? = some signature →
    registry.root id = id → registry.bundles[id]? =
      some (bundleOf (done.filter fun other => keyOf other == keyOf signature))
  stored_rest : ∀ {place : Nat} {signature : Signature}, rest[place]? = some signature →
    registry.bundles[done.length + place]? = some (bundleOf [signature])

namespace Merging

variable {keyOf : Signature → String} {bundleOf : List Signature → Bundle}
  {done rest : List Signature} {signature : Signature} {registry : Registry}

theorem empty : Merging keyOf bundleOf [] [] .empty where
  wellFormed := .empty
  owners_eq := rfl
  size_eq := rfl
  root_done := by simp
  root_rest := fun _ known => absurd known (Nat.not_lt_zero _)
  stored_done := by simp
  stored_rest := by simp

theorem idOf?_eq (state : Merging keyOf bundleOf done rest registry) (signature : Signature) :
    registry.idOf? signature =
      if signature ∈ done ++ rest then some ((done ++ rest).idxOf signature) else none := by
  rw [Registry.idOf?, state.owners_eq, lookup_zipIdx]
  simp only [Nat.zero_add]

/-- The next script to be merged has the number after those that are done. -/
theorem idOf?_next (state : Merging keyOf bundleOf done (signature :: rest) registry)
    (distinct : (done ++ signature :: rest).Nodup) :
    registry.idOf? signature = some done.length := by
  have fresh : signature ∉ done := fun member =>
    (List.nodup_append.mp distinct).2.2 signature member signature (by simp) rfl
  rw [state.idOf?_eq, if_pos (by simp), List.idxOf_append_of_notMem fresh]
  simp

theorem next_lt (state : Merging keyOf bundleOf done (signature :: rest) registry) :
    done.length < registry.bundles.size := by
  rw [state.size_eq, List.length_append, List.length_cons]
  omega

/-- A script with a key of its own starts a group. -/
theorem open_group (state : Merging keyOf bundleOf done (signature :: rest) registry)
    (fresh : keyOf signature ∉ done.map keyOf) :
    Merging keyOf bundleOf (done ++ [signature]) rest registry where
  wellFormed := state.wellFormed
  owners_eq := by rw [state.owners_eq, List.append_assoc, List.singleton_append]
  size_eq := by rw [state.size_eq, List.append_assoc, List.singleton_append]
  root_done := by
    intro id other stored
    rw [List.map_append]
    rcases getElem?_append_singleton stored with old | ⟨rfl, rfl⟩
    · rw [state.root_done old, List.idxOf_append_of_mem]
      exact List.mem_map_of_mem (List.mem_of_getElem? old)
    · rw [state.root_rest (Nat.le_refl _) state.next_lt, List.idxOf_append_of_notMem fresh]
      simp
  root_rest := by
    intro id late known
    rw [List.length_append, List.length_singleton] at late
    exact state.root_rest (by omega) known
  stored_done := by
    intro id other stored isRoot
    rcases getElem?_append_singleton stored with old | ⟨rfl, rfl⟩
    · have apart : keyOf signature ≠ keyOf other := fun same =>
        fresh (same ▸ List.mem_map_of_mem (List.mem_of_getElem? old))
      rw [filter_append_singleton_of_ne apart]
      exact state.stored_done old isRoot
    · have alone : done.filter (fun earlier => keyOf earlier == keyOf other) = [] :=
        List.filter_eq_nil_iff.mpr fun earlier member same =>
          fresh (beq_iff_eq.mp same ▸ List.mem_map_of_mem member)
      simpa [List.filter_append, alone] using
        state.stored_rest (List.getElem?_cons_zero (a := other) (l := rest))
  stored_rest := by
    intro place other stored
    rw [List.length_append, List.length_singleton, Nat.add_assoc, Nat.add_comm 1]
    exact state.stored_rest (by simpa using stored)

/-- The first script with a key met before is the root of its group. -/
theorem representative (state : Merging keyOf bundleOf done rest registry) {key : String}
    (met : key ∈ done.map keyOf) :
    ∃ first, done[(done.map keyOf).idxOf key]? = some first ∧ keyOf first = key ∧
      registry.root ((done.map keyOf).idxOf key) = (done.map keyOf).idxOf key := by
  have inside : (done.map keyOf).idxOf key < done.length := by
    simpa using List.idxOf_lt_length_of_mem met
  obtain ⟨first, stored⟩ : ∃ first, done[(done.map keyOf).idxOf key]? = some first :=
    ⟨_, List.getElem?_eq_getElem inside⟩
  have found := List.getElem?_idxOf met
  rw [List.getElem?_map, stored] at found
  have sameKey : keyOf first = key := Option.some.inj found
  exact ⟨first, stored, sameKey, by rw [state.root_done stored, sameKey]⟩

/-- Sending the group of the next script elsewhere leaves those that are done where
they are. -/
theorem root_done_of_join (state : Merging keyOf bundleOf done (signature :: rest) registry)
    {after : Registry} {keep : Nat}
    (roots : ∀ {id : Nat}, id < registry.bundles.size →
      after.root id = if registry.root id = done.length then keep else registry.root id)
    {id : Nat} {other : Signature} (stored : done[id]? = some other) :
    after.root id = (done.map keyOf).idxOf (keyOf other) := by
  have inside := (List.getElem?_eq_some_iff.mp stored).1
  have below := List.idxOf_lt_length_of_mem
    (List.mem_map_of_mem (f := keyOf) (List.mem_of_getElem? stored))
  rw [List.length_map] at below
  rw [roots (Nat.lt_trans inside state.next_lt), state.root_done stored,
    if_neg (Nat.ne_of_lt below)]

/-- A script with a key met before is merged into the first bundle of that key. -/
theorem join_group (state : Merging keyOf bundleOf done (signature :: rest) registry)
    (absorbs : ∀ {group : List Signature}, group ≠ [] → ∀ signature,
      bundleOf (group ++ [signature]) = (bundleOf group).absorb (bundleOf [signature]))
    (met : keyOf signature ∈ done.map keyOf) :
    ∃ after, registry.union ((done.map keyOf).idxOf (keyOf signature)) done.length =
        .ok ((done.map keyOf).idxOf (keyOf signature), after) ∧
      Merging keyOf bundleOf (done ++ [signature]) rest after := by
  obtain ⟨first, firstStored, firstKey, keepRoot⟩ := state.representative met
  generalize keepEq : (done.map keyOf).idxOf (keyOf signature) = keep at *
  have keepLt : keep < done.length := (List.getElem?_eq_some_iff.mp firstStored).1
  have nextRoot := state.root_rest (Nat.le_refl _) state.next_lt
  have keepKnown := Nat.lt_trans keepLt state.next_lt
  have keptStored := state.stored_done firstStored keepRoot
  have nextStored := state.stored_rest (List.getElem?_cons_zero (a := signature) (l := rest))
  obtain ⟨after, joined, wellFormed, bundlesEq, ownersEq, roots⟩ :=
    Registry.union_spec state.wellFormed keepKnown state.next_lt
      (by rw [keepRoot, nextRoot]; exact Nat.ne_of_lt keepLt)
      (by rw [keepRoot]; exact keptStored) (by rw [nextRoot]; exact nextStored)
  rw [keepRoot] at joined bundlesEq
  simp only [keepRoot, nextRoot] at roots
  have sizeEq : after.bundles.size = registry.bundles.size := by rw [bundlesEq]; simp
  refine ⟨after, joined, wellFormed, ?_, ?_, ?_, ?_, ?_, ?_⟩
  case refine_1 => rw [ownersEq, state.owners_eq, List.append_assoc, List.singleton_append]
  case refine_2 => rw [sizeEq, state.size_eq, List.append_assoc, List.singleton_append]
  case refine_3 =>
    intro id other stored
    rw [List.map_append]
    rcases getElem?_append_singleton stored with old | ⟨rfl, rfl⟩
    · rw [state.root_done_of_join roots old, List.idxOf_append_of_mem]
      exact List.mem_map_of_mem (List.mem_of_getElem? old)
    · rw [roots state.next_lt, if_pos nextRoot, List.idxOf_append_of_mem met, keepEq]
  case refine_4 =>
    intro id late known
    rw [List.length_append, List.length_singleton] at late
    rw [sizeEq] at known
    rw [roots known, state.root_rest (by omega) known, if_neg (by omega)]
  case refine_5 =>
    intro id other stored isRoot
    rcases getElem?_append_singleton stored with old | ⟨rfl, rfl⟩
    · rw [state.root_done_of_join roots old] at isRoot
      by_cases here : id = keep
      · subst here
        rw [firstStored] at old
        obtain rfl := Option.some.inj old
        have members : first ∈ done.filter fun other => keyOf other == keyOf first := by
          simp [List.mem_of_getElem? firstStored]
        rw [bundlesEq, Array.getElem?_setIfInBounds_self_of_lt keepKnown,
          ← absorbs (List.ne_nil_of_mem members)]
        simp [List.filter_append, firstKey]
      · have apart : keyOf signature ≠ keyOf other := fun same =>
          here (isRoot.symm.trans (same ▸ keepEq))
        rw [bundlesEq, Array.getElem?_setIfInBounds_ne (Ne.symm here),
          filter_append_singleton_of_ne apart]
        exact state.stored_done old (by rw [state.root_done old, isRoot])
    · rw [roots state.next_lt, if_pos nextRoot] at isRoot
      omega
  case refine_6 =>
    intro place other stored
    rw [List.length_append, List.length_singleton, bundlesEq,
      Array.getElem?_setIfInBounds_ne (by omega), Nat.add_assoc, Nat.add_comm 1]
    exact state.stored_rest (by simpa using stored)

/-- A new script comes after the others, on its own. -/
theorem add (state : Merging keyOf bundleOf [] rest registry) (fresh : signature ∉ rest) :
    ∃ after, registry.add signature (bundleOf [signature]) =
        .ok (registry.bundles.size, after) ∧
      Merging keyOf bundleOf [] (rest ++ [signature]) after := by
  have unowned : registry.idOf? signature = none := by
    rw [state.idOf?_eq, if_neg (by simpa using fresh)]
  obtain ⟨after, added, wellFormed, bundlesEq, ownersEq, roots⟩ :=
    Registry.add_spec state.wellFormed unowned (bundleOf [signature])
  have sizeEq := state.size_eq
  have ownersBefore := state.owners_eq
  simp only [List.nil_append] at sizeEq ownersBefore
  refine ⟨after, added, wellFormed, ?_, ?_, by simp, ?_, by simp, ?_⟩
  case refine_1 => simp [ownersEq, ownersBefore, sizeEq, List.zipIdx_append]
  case refine_2 => simp [bundlesEq, sizeEq]
  case refine_3 =>
    intro id _ known
    rw [bundlesEq, Array.size_push] at known
    rw [roots (by omega)]
    split
    case isTrue => rfl
    case isFalse old => exact state.root_rest (Nat.zero_le _) (by omega)
  case refine_4 =>
    intro place other stored
    simp only [List.length_nil, Nat.zero_add, bundlesEq, Array.getElem?_push, sizeEq]
    rcases getElem?_append_singleton stored with old | ⟨rfl, rfl⟩
    · have inside := (List.getElem?_eq_some_iff.mp old).1
      rw [if_neg (Nat.ne_of_lt inside)]
      simpa using state.stored_rest old
    · rw [if_pos rfl]

end Merging

/-! ### Making and merging -/

/-- Every script gets a bundle of its own, named after its owner. -/
theorem makeBundles_spec {components : List Component} {keyOf : Signature → String}
    {made new : List Signature} {registry : Registry}
    (state : Merging keyOf (openBundle components) [] made registry)
    (distinct : (made ++ new).Nodup)
    (declared : ∀ signature ∈ new, components.any (declares · signature) = true) :
    ∃ after, makeBundles components registry new = .ok after ∧
      Merging keyOf (openBundle components) [] (made ++ new) after := by
  induction new generalizing made registry with
  | nil => exact ⟨registry, rfl, by simpa using state⟩
  | cons signature rest inductionHypothesis =>
      have fresh : signature ∉ made := fun member =>
        (List.nodup_append.mp distinct).2.2 signature member signature (by simp) rfl
      have owner := owner?_eq_ownerName (declared signature (by simp))
      obtain ⟨next, added, nextState⟩ := state.add fresh
      obtain ⟨after, allMade, afterState⟩ :=
        inductionHypothesis nextState (by simpa using distinct)
          fun other member => declared other (List.mem_cons_of_mem _ member)
      refine ⟨after, ?_, by simpa using afterState⟩
      rw [openBundle_singleton] at added
      simp only [makeBundles, owner, added, Except.mapError, bind, Except.bind]
      exact allMade

/-- The buckets know the first number of every key met so far. -/
def KnowsFirst (keyOf : Signature → String) (done : List Signature)
    (buckets : List (String × Nat)) : Prop :=
  ∀ key, buckets.lookup key =
    if key ∈ done.map keyOf then some ((done.map keyOf).idxOf key) else none

theorem KnowsFirst.start {keyOf : Signature → String} : KnowsFirst keyOf [] [] := by
  simp [KnowsFirst]

theorem KnowsFirst.open_group {keyOf : Signature → String} {done : List Signature}
    {buckets : List (String × Nat)} (knows : KnowsFirst keyOf done buckets)
    {signature : Signature} (fresh : keyOf signature ∉ done.map keyOf) :
    KnowsFirst keyOf (done ++ [signature]) (buckets ++ [(keyOf signature, done.length)]) := by
  intro key
  rw [List.lookup_append, knows key, List.map_append]
  by_cases old : key ∈ done.map keyOf
  · rw [if_pos old, if_pos (by simp [old]), List.idxOf_append_of_mem old]
    rfl
  · rw [if_neg old, Option.none_or]
    by_cases same : key = keyOf signature
    · subst same
      rw [List.lookup_cons_self, if_pos (by simp), List.idxOf_append_of_notMem fresh]
      simp
    · rw [lookup_cons_of_ne same, if_neg (by simp [same, List.mem_map.not.mp old])]
      rfl

theorem KnowsFirst.join_group {keyOf : Signature → String} {done : List Signature}
    {buckets : List (String × Nat)} (knows : KnowsFirst keyOf done buckets)
    {signature : Signature} (met : keyOf signature ∈ done.map keyOf) :
    KnowsFirst keyOf (done ++ [signature]) buckets := by
  intro key
  rw [knows key, List.map_append]
  by_cases old : key ∈ done.map keyOf
  · rw [if_pos old, if_pos (by simp [old]), List.idxOf_append_of_mem old]
  · have apart : key ≠ keyOf signature := fun same => old (same ▸ met)
    rw [if_neg old, if_neg (by simp [apart, List.mem_map.not.mp old])]

/-- Merging goes through scripts without an error and merges those of equal keys.  Whatever comes
`later` stays on its own. -/
theorem mergeBundles_spec {pages : List Page} {usages : Usages} {keyOf : Signature → String}
    {bundleOf : List Signature → Bundle} {done rest later : List Signature} {registry : Registry}
    {buckets : List (String × Nat)} (state : Merging keyOf bundleOf done (rest ++ later) registry)
    (knows : KnowsFirst keyOf done buckets) (distinct : (done ++ (rest ++ later)).Nodup)
    (keys : ∀ signature ∈ rest,
      usageKey pages ((usages.lookup signature).getD []) = keyOf signature)
    (absorbs : ∀ {group : List Signature}, group ≠ [] → ∀ signature,
      bundleOf (group ++ [signature]) = (bundleOf group).absorb (bundleOf [signature])) :
    ∃ after, mergeBundles pages usages buckets registry rest = .ok after ∧
      Merging keyOf bundleOf (done ++ rest) later after := by
  induction rest generalizing done registry buckets with
  | nil => exact ⟨registry, rfl, by simpa using state⟩
  | cons signature rest inductionHypothesis =>
      rw [List.cons_append] at state distinct
      have number := state.idOf?_next distinct
      have key := keys signature (by simp)
      have restKeys := fun other member => keys other (List.mem_cons_of_mem signature member)
      have bucket := knows (keyOf signature)
      by_cases met : keyOf signature ∈ done.map keyOf
      · rw [if_pos met] at bucket
        obtain ⟨next, joined, nextState⟩ := state.join_group absorbs met
        obtain ⟨after, merged, afterState⟩ := inductionHypothesis nextState
          (knows.join_group met) (by simpa using distinct) restKeys
        refine ⟨after, ?_, by simpa using afterState⟩
        simp only [mergeBundles, number, key, bucket, joined, Except.mapError, bind, Except.bind]
        exact merged
      · rw [if_neg met] at bucket
        obtain ⟨after, merged, afterState⟩ := inductionHypothesis (state.open_group met)
          (knows.open_group met) (by simpa using distinct) restKeys
        refine ⟨after, ?_, by simpa using afterState⟩
        simp only [mergeBundles, number, key, bucket]
        exact merged

end StaticSite.Bundling
