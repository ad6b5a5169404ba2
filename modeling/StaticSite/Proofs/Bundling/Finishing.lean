/-
Module: StaticSite.Proofs.Bundling.Finishing
Purpose: Giving the merged bundles their URLs, and what the finished registry holds.
Trusted boundary: none
Main exports:
  Finished, finalizeBundles_spec, Merging.carrier?_eq, Merging.surviving_eq
-/
import StaticSite.Proofs.Bundling.Merging

namespace StaticSite.Bundling

/-- The bundle with the URL that its name gives it. -/
def Bundle.closed (srcStart : String) (bundle : Bundle) : Bundle :=
  { bundle with src := some (Bundle.srcOf srcStart bundle.name) }

theorem finalize_of_open {bundle : Bundle} (isOpen : bundle.src = none) (srcStart : String) :
    bundle.finalize srcStart = .ok (bundle.closed srcStart) := by
  simp only [Bundle.finalize, isOpen, Bundle.closed]

/-- The second registry is the first one with URLs given to the roots among some numbers. -/
structure Finished (srcStart : String) (ids : List Nat) (before after : Registry) : Prop where
  wellFormed : after.WellFormed
  owners_eq : after.owners = before.owners
  size_eq : after.bundles.size = before.bundles.size
  root_eq : ∀ {id : Nat}, id < before.bundles.size → after.root id = before.root id
  stored : ∀ {id : Nat}, id < before.bundles.size →
    after.bundles[id]? =
      if id ∈ ids ∧ before.root id = id then
        before.bundles[id]?.map (Bundle.closed srcStart)
      else before.bundles[id]?

/-- Every root still needs its URL. -/
def OpenRoots (ids : List Nat) (registry : Registry) : Prop :=
  ∀ id ∈ ids, registry.root id = id →
    ∃ bundle, registry.bundles[id]? = some bundle ∧ bundle.src = none

namespace Finished

variable {srcStart : String} {before middle after : Registry} {id : Nat} {rest : List Nat}

/-- A number that is not a root has no bundle to finish. -/
theorem of_not_root (view : Registry.SameView before after) (wellFormed : before.WellFormed)
    (notRoot : before.root id ≠ id) : Finished srcStart [id] before after where
  wellFormed := view.wellFormed wellFormed
  owners_eq := view.owners_eq
  size_eq := by rw [view.bundles_eq]
  root_eq := view.root_eq wellFormed
  stored := by
    intro other _
    rw [view.bundles_eq, if_neg]
    rintro ⟨member, isRoot⟩
    rw [List.mem_singleton.mp member] at isRoot
    exact notRoot isRoot

/-- A root is finished by giving its bundle the URL. -/
theorem of_root (view : Registry.SameView before middle) (wellFormed : before.WellFormed)
    (isRoot : before.root id = id) {bundle : Bundle} (stored : before.bundles[id]? = some bundle) :
    Finished srcStart [id] before
      { middle with bundles := middle.bundles.setIfInBounds id (bundle.closed srcStart) } where
  wellFormed := by
    have middleWellFormed := view.wellFormed wellFormed
    exact ⟨middleWellFormed.forest, by simp [middleWellFormed.size_eq],
      by simpa using middleWellFormed.owners_lt⟩
  owners_eq := view.owners_eq
  size_eq := by simp [view.bundles_eq]
  root_eq := view.root_eq wellFormed
  stored := by
    intro other known
    rw [view.bundles_eq]
    by_cases here : other = id
    · subst here
      rw [Array.getElem?_setIfInBounds_self_of_lt known, if_pos ⟨by simp, isRoot⟩, stored]
      rfl
    · rw [Array.getElem?_setIfInBounds_ne (Ne.symm here), if_neg (by simp [here])]

theorem idOf?_eq {ids : List Nat} (finished : Finished srcStart ids before after)
    (signature : Signature) : after.idOf? signature = before.idOf? signature := by
  rw [Registry.idOf?, Registry.idOf?, finished.owners_eq]

/-- Roots that have not had their turn are as open as before. -/
theorem openRoots (one : Finished srcStart [id] before middle) (fresh : id ∉ rest)
    (known : ∀ other ∈ rest, other < before.bundles.size) (isOpen : OpenRoots rest before) :
    OpenRoots rest middle := by
  intro other member isRoot
  have otherKnown := known other member
  have apart : other ≠ id := fun same => fresh (same ▸ member)
  rw [one.root_eq otherKnown] at isRoot
  rw [one.stored otherKnown, if_neg (by simp [apart])]
  exact isOpen other member isRoot

theorem trans (one : Finished srcStart [id] before middle)
    (two : Finished srcStart rest middle after) (fresh : id ∉ rest) :
    Finished srcStart (id :: rest) before after where
  wellFormed := two.wellFormed
  owners_eq := two.owners_eq.trans one.owners_eq
  size_eq := two.size_eq.trans one.size_eq
  root_eq := fun known => (two.root_eq (by rwa [one.size_eq])).trans (one.root_eq known)
  stored := by
    intro other known
    rw [two.stored (by rwa [one.size_eq]), one.root_eq known, one.stored known]
    by_cases here : other = id
    · simp [here, fresh]
    · simp [here]

end Finished

/-- Finishing goes through all numbers without an error and gives each root its URL. -/
theorem finalizeBundles_spec (srcStart : String) {ids : List Nat} {registry : Registry}
    (wellFormed : registry.WellFormed) (distinct : ids.Nodup)
    (known : ∀ id ∈ ids, id < registry.bundles.size) (openRoots : OpenRoots ids registry) :
    ∃ after, finalizeBundles srcStart registry ids = .ok after ∧
      Finished srcStart ids registry after := by
  induction ids generalizing registry with
  | nil => exact ⟨registry, rfl, wellFormed, rfl, rfl, fun _ => rfl, by simp⟩
  | cons id rest inductionHypothesis =>
      obtain ⟨fresh, restDistinct⟩ := List.nodup_cons.mp distinct
      obtain ⟨idKnown, restKnown⟩ := List.forall_mem_cons.mp known
      obtain ⟨openRoot, restOpen⟩ := List.forall_mem_cons.mp openRoots
      obtain ⟨middle, found, view⟩ := Registry.find_spec wellFormed idKnown
      have onwards : ∀ {next : Registry}, Finished srcStart [id] registry next →
          ∃ after, finalizeBundles srcStart next rest = .ok after ∧
            Finished srcStart (id :: rest) registry after := by
        intro next one
        obtain ⟨after, finished, two⟩ := inductionHypothesis one.wellFormed restDistinct
          (by rwa [one.size_eq]) (one.openRoots fresh restKnown restOpen)
        exact ⟨after, finished, one.trans two fresh⟩
      by_cases isRoot : registry.root id = id
      · obtain ⟨bundle, stored, isOpen⟩ := openRoot isRoot
        have storedMiddle : middle.bundles[id]? = some bundle := by
          rw [view.bundles_eq, stored]
        obtain ⟨after, finished, done⟩ := onwards (.of_root view wellFormed isRoot stored)
        refine ⟨after, ?_, done⟩
        simp only [finalizeBundles, found, isRoot, if_true, Registry.bundle?_eq_ok storedMiddle,
          finalize_of_open isOpen, Except.mapError, bind, Except.bind]
        exact finished
      · obtain ⟨after, finished, done⟩ := onwards (.of_not_root view wellFormed isRoot)
        refine ⟨after, ?_, done⟩
        simp only [finalizeBundles, found, isRoot, if_false, Except.mapError, bind, Except.bind]
        exact finished

/-! ### The finished registry -/

namespace Merging

variable {keyOf : Signature → String} {bundleOf : List Signature → Bundle}
  {all : List Signature} {registry after : Registry} {srcStart : String}

theorem root_first (state : Merging keyOf bundleOf all [] registry) {id : Nat}
    {signature : Signature} (stored : all[id]? = some signature) :
    ∃ first, all[registry.root id]? = some first ∧ keyOf first = keyOf signature := by
  have met := List.mem_map_of_mem (f := keyOf) (List.mem_of_getElem? stored)
  obtain ⟨first, firstStored, sameKey, -⟩ := state.representative met
  exact ⟨first, by rwa [state.root_done stored], sameKey⟩

theorem known_of_stored (state : Merging keyOf bundleOf all [] registry) {id : Nat}
    {signature : Signature} (stored : all[id]? = some signature) :
    id < registry.bundles.size := by
  rw [state.size_eq, List.append_nil]
  exact (List.getElem?_eq_some_iff.mp stored).1

/-- The bundle at a root carries all scripts with the key of the script there. -/
theorem stored_of_root (state : Merging keyOf bundleOf all [] registry)
    (finished : Finished srcStart (List.range registry.bundles.size) registry after) {id : Nat}
    {signature : Signature} (stored : all[id]? = some signature)
    (isRoot : registry.root id = id) :
    after.bundles[id]? = some
      ((bundleOf (all.filter fun other => keyOf other == keyOf signature)).closed srcStart) := by
  have known := state.known_of_stored stored
  rw [finished.stored known, if_pos ⟨List.mem_range.mpr known, isRoot⟩,
    state.stored_done stored isRoot]
  rfl

/-- Every script is carried by the bundle of all scripts with its key. -/
theorem carrier?_eq (state : Merging keyOf bundleOf all [] registry)
    (finished : Finished srcStart (List.range registry.bundles.size) registry after)
    (signature : Signature) :
    after.carrier? signature =
      if signature ∈ all then
        some ((bundleOf (all.filter fun other =>
          keyOf other == keyOf signature)).closed srcStart)
      else none := by
  rw [Registry.carrier?, finished.idOf?_eq, state.idOf?_eq, List.append_nil]
  by_cases member : signature ∈ all
  · have stored := List.getElem?_idxOf member
    have known := state.known_of_stored stored
    obtain ⟨first, firstStored, sameKey⟩ := state.root_first stored
    rw [if_pos member, if_pos member, Option.bind_some, finished.root_eq known,
      state.stored_of_root finished firstStored (state.wellFormed.root_root known), sameKey]
  · rw [if_neg member, if_neg member]
    rfl

/-- The surviving bundles are those of the keys in order of first encounter. -/
theorem surviving_eq (state : Merging keyOf bundleOf all [] registry)
    (finished : Finished srcStart (List.range registry.bundles.size) registry after) :
    after.survivingAmong (List.range after.bundles.size) =
      (all.map keyOf).eraseDups.map fun key =>
        (bundleOf (all.filter fun other => keyOf other == key)).closed srcStart := by
  have size := state.size_eq
  rw [List.append_nil] at size
  rw [Registry.survivingAmong, finished.size_eq, size, eraseDups_eq_filterMap_range,
    List.length_map, List.map_filterMap]
  refine List.filterMap_congr fun id member => ?_
  have inside := List.mem_range.mp member
  have stored := List.getElem?_eq_getElem inside
  have known := state.known_of_stored stored
  rw [finished.root_eq known, List.getElem?_map, stored, Option.map_some]
  by_cases isRoot : registry.root id = id
  · rw [if_pos isRoot, state.stored_of_root finished stored isRoot]
    rw [state.root_done stored] at isRoot
    simp [Option.filter_some, isRoot]
  · rw [if_neg isRoot]
    rw [state.root_done stored] at isRoot
    simp [Option.filter_some, isRoot]

end Merging

end StaticSite.Bundling
