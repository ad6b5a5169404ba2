/-
Module: StaticSite.Proofs.Bundling.Registry
Purpose: What each call on a registry answers and leaves behind, told by the bundles,
  the numbers of the signatures and the root of each number.
Trusted boundary: none
Main exports:
  Registry.WellFormed, Registry.SameView, Registry.add_spec, Registry.find_spec,
  Registry.union_spec, Registry.resolve_spec, Registry.survivors_spec
-/
import StaticSite.Proofs.Bundling.Forest

namespace StaticSite.Bundling.Registry

/-- Every bundle has a pointer, the pointers form a forest, and signatures have
numbers in use. -/
structure WellFormed (registry : Registry) : Prop where
  forest : Forest registry.parents
  size_eq : registry.parents.size = registry.bundles.size
  owners_lt : ∀ entry ∈ registry.owners, entry.2 < registry.bundles.size

/-- The registries answer alike: they differ at most in how long the ways to the
roots are. -/
structure SameView (before after : Registry) : Prop where
  bundles_eq : after.bundles = before.bundles
  owners_eq : after.owners = before.owners
  roots : SameRoots before.parents after.parents

variable {registry : Registry} {id : Nat}

theorem root_eq_rootOf (registry : Registry) (id : Nat) :
    registry.root id = rootOf registry.parents id :=
  rfl

namespace SameView

variable {before after : Registry}

theorem refl (wellFormed : registry.WellFormed) : SameView registry registry :=
  ⟨rfl, rfl, .refl wellFormed.forest⟩

theorem trans {first second third : Registry} (one : SameView first second)
    (two : SameView second third) : SameView first third :=
  ⟨two.bundles_eq.trans one.bundles_eq, two.owners_eq.trans one.owners_eq,
    one.roots.trans two.roots⟩

theorem wellFormed (view : SameView before after) (wellFormed : before.WellFormed) :
    after.WellFormed where
  forest := view.roots.forest
  size_eq := by rw [view.roots.size_eq, view.bundles_eq, wellFormed.size_eq]
  owners_lt := by
    rw [view.owners_eq, view.bundles_eq]
    exact wellFormed.owners_lt

theorem root_eq (view : SameView before after) (wellFormed : before.WellFormed)
    (known : id < before.bundles.size) : after.root id = before.root id :=
  view.roots.rootOf_eq (by rwa [wellFormed.size_eq])

theorem idOf?_eq (view : SameView before after) (signature : Signature) :
    after.idOf? signature = before.idOf? signature := by
  rw [idOf?, idOf?, view.owners_eq]

end SameView

namespace WellFormed

theorem empty : Registry.empty.WellFormed :=
  ⟨.empty, rfl, by simp [Registry.empty]⟩

theorem root_lt (wellFormed : registry.WellFormed) (known : id < registry.bundles.size) :
    registry.root id < registry.bundles.size := by
  rw [← wellFormed.size_eq] at known ⊢
  exact wellFormed.forest.rootOf_lt known

theorem root_root (wellFormed : registry.WellFormed) (known : id < registry.bundles.size) :
    registry.root (registry.root id) = registry.root id :=
  wellFormed.forest.rootOf_rootOf (by rwa [wellFormed.size_eq])

theorem idOf?_lt (wellFormed : registry.WellFormed) {signature : Signature}
    (owned : registry.idOf? signature = some id) : id < registry.bundles.size := by
  obtain ⟨before, after, split, -⟩ := List.lookup_eq_some_iff.mp owned
  exact wellFormed.owners_lt (signature, id) (by rw [split]; simp)

end WellFormed

/-! ### Adding and finding -/

/-- A signature without a number gets the next one, which is its own root. -/
theorem add_spec (wellFormed : registry.WellFormed) {signature : Signature}
    (unowned : registry.idOf? signature = none) (bundle : Bundle) :
    ∃ after, registry.add signature bundle = .ok (registry.bundles.size, after) ∧
      after.WellFormed ∧
      after.bundles = registry.bundles.push bundle ∧
      after.owners = registry.owners ++ [(signature, registry.bundles.size)] ∧
      ∀ {id : Nat}, id ≤ registry.bundles.size →
        after.root id = if id = registry.bundles.size then id else registry.root id := by
  have pushed := wellFormed.forest.push
  rw [wellFormed.size_eq] at pushed
  refine ⟨_, by simp only [add, contains, unowned]; rfl, ⟨pushed, ?_, ?_⟩, rfl, rfl, ?_⟩
  · simp [wellFormed.size_eq]
  · intro entry member
    rw [Array.size_push]
    rcases List.mem_append.mp member with old | new
    · exact Nat.lt_succ_of_lt (wellFormed.owners_lt entry old)
    · rw [List.mem_singleton.mp new]
      exact Nat.lt_succ_self _
  · intro id known
    have knownAfter : id < registry.parents.size + 1 := by
      rw [wellFormed.size_eq]
      exact Nat.lt_succ_of_le known
    have moved := wellFormed.forest.rootOf_push knownAfter
    rw [wellFormed.size_eq] at moved
    exact moved

/-- Finding answers the root and changes nothing that can be seen. -/
theorem find_spec (wellFormed : registry.WellFormed) (known : id < registry.bundles.size) :
    ∃ after, registry.find id = .ok (registry.root id, after) ∧ SameView registry after := by
  rw [← wellFormed.size_eq] at known
  exact ⟨_, if_pos known, rfl, rfl, wellFormed.forest.sameRoots_shorten known _⟩

theorem exists_stored (known : id < registry.bundles.size) :
    ∃ bundle, registry.bundles[id]? = some bundle :=
  ⟨_, Array.getElem?_eq_getElem known⟩

theorem bundle?_eq_ok {bundle : Bundle} (stored : registry.bundles[id]? = some bundle) :
    registry.bundle? id = .ok bundle := by
  simp only [bundle?, stored]

/-! ### Merging -/

/-- Two different groups become one.  It keeps the root of the first, whose bundle
absorbs that of the second. -/
theorem union_spec (wellFormed : registry.WellFormed) {representative other : Nat}
    (representativeKnown : representative < registry.bundles.size)
    (otherKnown : other < registry.bundles.size)
    (apart : registry.root representative ≠ registry.root other) {kept dropped : Bundle}
    (keptStored : registry.bundles[registry.root representative]? = some kept)
    (droppedStored : registry.bundles[registry.root other]? = some dropped) :
    ∃ after, registry.union representative other = .ok (registry.root representative, after) ∧
      after.WellFormed ∧
      after.bundles =
        registry.bundles.setIfInBounds (registry.root representative) (kept.absorb dropped) ∧
      after.owners = registry.owners ∧
      ∀ {id : Nat}, id < registry.bundles.size →
        after.root id =
          if registry.root id = registry.root other then registry.root representative
          else registry.root id := by
  obtain ⟨first, foundFirst, viewFirst⟩ := find_spec wellFormed representativeKnown
  have firstWellFormed := viewFirst.wellFormed wellFormed
  obtain ⟨second, foundSecond, viewSecond⟩ :=
    find_spec firstWellFormed (by rwa [viewFirst.bundles_eq] : other < first.bundles.size)
  rw [viewFirst.root_eq wellFormed otherKnown] at foundSecond
  have view := viewFirst.trans viewSecond
  have secondWellFormed := view.wellFormed wellFormed
  rw [← view.bundles_eq] at keptStored droppedStored
  have sizes := secondWellFormed.size_eq
  have known : ∀ {id : Nat}, id < registry.bundles.size → id < second.parents.size := by
    intro id idKnown
    rwa [sizes, view.bundles_eq]
  have keepKnown := secondWellFormed.forest.rootOf_lt (known representativeKnown)
  have dropKnown := secondWellFormed.forest.rootOf_lt (known otherKnown)
  have keepFixed := secondWellFormed.forest.rootOf_fixed (known representativeKnown)
  have dropFixed := secondWellFormed.forest.rootOf_fixed (known otherKnown)
  simp only [← root_eq_rootOf, view.root_eq wellFormed representativeKnown,
    view.root_eq wellFormed otherKnown] at keepKnown dropKnown keepFixed dropFixed
  have answered : registry.union representative other =
      .ok (registry.root representative,
        { second with
          bundles := second.bundles.setIfInBounds (registry.root representative)
            (kept.absorb dropped)
          parents := second.parents.setIfInBounds (registry.root other)
            (registry.root representative) }) := by
    simp only [union, foundFirst, foundSecond, bundle?_eq_ok keptStored,
      bundle?_eq_ok droppedStored, bind, Except.bind, if_neg apart]
    rfl
  refine ⟨_, answered, ⟨?_, ?_, ?_⟩, ?_, view.owners_eq, ?_⟩
  · exact secondWellFormed.forest.redirect dropKnown keepKnown keepFixed (Ne.symm apart)
  · simpa using sizes
  · simpa using secondWellFormed.owners_lt
  · rw [view.bundles_eq]
  · intro id idKnown
    have moved := secondWellFormed.forest.rootOf_link dropKnown keepKnown dropFixed keepFixed
      (Ne.symm apart) (known idKnown)
    rwa [← root_eq_rootOf, view.root_eq wellFormed idKnown] at moved

/-! ### Resolving -/

/-- The bundle of the group that a signature's number belongs to. -/
def carrier? (registry : Registry) (signature : Signature) : Option Bundle :=
  (registry.idOf? signature).bind fun id => registry.bundles[registry.root id]?

theorem SameView.carrier?_eq {before after : Registry} (view : SameView before after)
    (wellFormed : before.WellFormed) (signature : Signature) :
    after.carrier? signature = before.carrier? signature := by
  unfold carrier?
  rw [view.idOf?_eq, view.bundles_eq]
  cases owned : before.idOf? signature with
  | none => rfl
  | some id =>
      simp only [Option.bind_some]
      rw [view.root_eq wellFormed (wellFormed.idOf?_lt owned)]

/-- Resolving answers the carrier and changes nothing that can be seen. -/
theorem resolve_spec (wellFormed : registry.WellFormed) (signature : Signature) :
    ∃ after, registry.resolve signature = .ok (registry.carrier? signature, after) ∧
      SameView registry after := by
  unfold resolve carrier?
  cases owned : registry.idOf? signature with
  | none => exact ⟨registry, rfl, .refl wellFormed⟩
  | some id =>
      have known := wellFormed.idOf?_lt owned
      obtain ⟨after, found, view⟩ := find_spec wellFormed known
      obtain ⟨bundle, stored⟩ := exists_stored (wellFormed.root_lt known)
      have storedAfter : after.bundles[registry.root id]? = some bundle := by
        rw [view.bundles_eq, stored]
      refine ⟨after, ?_, view⟩
      simp only [found, bundle?_eq_ok storedAfter, bind, Except.bind, Option.bind_some, stored]
      rfl

/-! ### Surviving -/

/-- The bundles of those among some numbers that are their own roots. -/
def survivingAmong (registry : Registry) (ids : List Nat) : List Bundle :=
  ids.filterMap fun id => if registry.root id = id then registry.bundles[id]? else none

theorem survivorsAmong_spec (wellFormed : registry.WellFormed) {ids : List Nat}
    (known : ∀ id ∈ ids, id < registry.bundles.size) :
    ∃ after, registry.survivorsAmong ids = .ok (registry.survivingAmong ids, after) ∧
      SameView registry after := by
  induction ids generalizing registry with
  | nil => exact ⟨registry, rfl, .refl wellFormed⟩
  | cons id rest inductionHypothesis =>
      obtain ⟨idKnown, restKnown⟩ := List.forall_mem_cons.mp known
      obtain ⟨middle, found, view⟩ := find_spec wellFormed idKnown
      have middleWellFormed := view.wellFormed wellFormed
      obtain ⟨bundle, stored⟩ := exists_stored idKnown
      have storedAfter : middle.bundles[id]? = some bundle := by rw [view.bundles_eq, stored]
      obtain ⟨after, surviving, onwards⟩ := inductionHypothesis middleWellFormed
        (by rwa [view.bundles_eq])
      have sameSurvivors : middle.survivingAmong rest = registry.survivingAmong rest := by
        unfold survivingAmong
        rw [view.bundles_eq]
        refine List.filterMap_congr fun other member => ?_
        rw [view.root_eq wellFormed (restKnown other member)]
      refine ⟨after, ?_, view.trans onwards⟩
      simp only [survivorsAmong, found, bundle?_eq_ok storedAfter, surviving, sameSurvivors,
        bind, Except.bind, pure, Except.pure]
      by_cases isRoot : registry.root id = id
      · simp [survivingAmong, isRoot, stored]
      · simp [survivingAmong, isRoot]

/-- The surviving bundles are those whose numbers are their own roots. -/
theorem survivors_spec (wellFormed : registry.WellFormed) :
    ∃ after, registry.survivors =
        .ok (registry.survivingAmong (List.range registry.bundles.size), after) ∧
      SameView registry after :=
  survivorsAmong_spec wellFormed fun _ member => List.mem_range.mp member

end StaticSite.Bundling.Registry
