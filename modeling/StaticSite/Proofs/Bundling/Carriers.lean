/-
Module: StaticSite.Proofs.Bundling.Carriers
Purpose: Where in the answer of the pass the bundle stands that carries a script, and which
  scripts have theirs at the same place.
Trusted boundary: none
Main exports:
  Registry.roots, Registry.place?, Registry.place?_spec, Merging.place?_eq_iff,
  bundles_eq_surviving
-/
import StaticSite.Proofs.Bundling.Extraction

namespace StaticSite.Bundling

/-! ### Places of bundles -/

namespace Registry

variable {registry : Registry} {id : Nat} {signature : Signature}

/-- The numbers of the surviving bundles, in ascending order. -/
def roots (registry : Registry) : List Nat :=
  (List.range registry.bundles.size).filter fun id => registry.root id = id

/-- The place, among the surviving bundles, of the one that carries a script. -/
def place? (registry : Registry) (signature : Signature) : Option Nat :=
  (registry.idOf? signature).map fun id => registry.roots.idxOf (registry.root id)

theorem root_mem_roots (wellFormed : registry.WellFormed) (known : id < registry.bundles.size) :
    registry.root id ∈ registry.roots := by
  rw [roots, List.mem_filter, List.mem_range]
  exact ⟨wellFormed.root_lt known, by simpa using wellFormed.root_root known⟩

/-- Every surviving number has a bundle. -/
theorem stored_of_mem_roots (isRoot : id ∈ registry.roots) :
    registry.bundles[id]? = some (registry.bundles.getD id default) := by
  obtain ⟨bundle, stored⟩ := exists_stored (List.mem_range.mp (List.mem_filter.mp isRoot).1)
  rw [stored, Array.getD_eq_getD_getElem?, stored, Option.getD_some]

/-- The surviving bundles are those of the surviving numbers, one for each. -/
theorem survivingAmong_eq_map_roots (registry : Registry) :
    registry.survivingAmong (List.range registry.bundles.size) =
      registry.roots.map fun id => registry.bundles.getD id default := by
  calc registry.survivingAmong (List.range registry.bundles.size)
      = registry.roots.filterMap fun id => registry.bundles[id]? := by
        rw [survivingAmong, roots, List.filterMap_filter]
        simp
    _ = registry.roots.filterMap fun id => some (registry.bundles.getD id default) :=
        List.filterMap_congr fun _ isRoot => stored_of_mem_roots isRoot
    _ = registry.roots.map fun id => registry.bundles.getD id default :=
        congrFun List.filterMap_eq_map _

/-- The bundle of each surviving number stands at the place of that number. -/
theorem survivingAmong_at_place (isRoot : id ∈ registry.roots) :
    (registry.survivingAmong (List.range registry.bundles.size))[registry.roots.idxOf id]? =
      registry.bundles[id]? := by
  rw [survivingAmong_eq_map_roots, List.getElem?_map, List.getElem?_idxOf isRoot, Option.map_some,
    stored_of_mem_roots isRoot]

/-- The bundle that stands at the place of a script is the one that resolving the script
answers. -/
theorem place?_spec (wellFormed : registry.WellFormed)
    (owned : registry.idOf? signature = some id) :
    ∃ place bundle, registry.place? signature = some place ∧
      registry.carrier? signature = some bundle ∧
      (registry.survivingAmong (List.range registry.bundles.size))[place]? = some bundle := by
  have known := wellFormed.idOf?_lt owned
  obtain ⟨bundle, stored⟩ := exists_stored (wellFormed.root_lt known)
  refine ⟨_, bundle, by rw [place?, owned, Option.map_some], ?_, ?_⟩
  · rw [carrier?, owned, Option.bind_some, stored]
  · rw [survivingAmong_at_place (root_mem_roots wellFormed known), stored]

/-- Scripts have their bundle at the same place when their numbers have the same root. -/
theorem place?_eq_iff (wellFormed : registry.WellFormed) {other : Signature} {otherId : Nat}
    (owned : registry.idOf? signature = some id)
    (otherOwned : registry.idOf? other = some otherId) :
    registry.place? signature = registry.place? other ↔
      registry.root id = registry.root otherId := by
  have member := root_mem_roots wellFormed (wellFormed.idOf?_lt owned)
  rw [place?, place?, owned, otherOwned, Option.map_some, Option.map_some, Option.some_inj,
    List.idxOf_inj member]

end Registry

/-! ### Places of scripts -/

namespace Merging

variable {keyOf : Signature → String} {bundleOf : List Signature → Bundle}
  {all : List Signature} {registry after : Registry} {srcStart : String}
  {first second : Signature}

theorem idOf?_final (state : Merging keyOf bundleOf all [] registry)
    (finished : Finished srcStart (List.range registry.bundles.size) registry after)
    {signature : Signature} (member : signature ∈ all) :
    after.idOf? signature = some (all.idxOf signature) := by
  rw [finished.idOf?_eq, state.idOf?_eq, List.append_nil, if_pos member]

/-- The bundles of two scripts stand at the same place exactly when their keys are equal. -/
theorem place?_eq_iff (state : Merging keyOf bundleOf all [] registry)
    (finished : Finished srcStart (List.range registry.bundles.size) registry after)
    (firstMember : first ∈ all) (secondMember : second ∈ all) :
    after.place? first = after.place? second ↔ keyOf first = keyOf second := by
  have rooted : ∀ signature ∈ all,
      after.root (all.idxOf signature) = (all.map keyOf).idxOf (keyOf signature) := by
    intro signature member
    have stored := List.getElem?_idxOf member
    rw [finished.root_eq (state.known_of_stored stored), state.root_done stored]
  rw [Registry.place?_eq_iff finished.wellFormed (state.idOf?_final finished firstMember)
      (state.idOf?_final finished secondMember), rooted first firstMember,
    rooted second secondMember, List.idxOf_inj (List.mem_map_of_mem firstMember)]

end Merging

/-! ### The answer of the pass -/

/-- The returned bundles are the surviving ones of the registry. -/
theorem bundles_eq_surviving {pages : List Page} {components : List Component}
    {minPageUsage : Int} {srcStart : String} {registry : Registry} {result : Extraction}
    (enough : 1 ≤ minPageUsage)
    (carrying : carriers pages components minPageUsage srcStart = .ok registry)
    (wellFormed : registry.WellFormed)
    (passed : extract pages components minPageUsage srcStart = .ok result) :
    result.bundles = registry.survivingAmong (List.range registry.bundles.size) := by
  obtain ⟨after, surviving, -⟩ := Registry.survivors_spec wellFormed
  rw [extract_eq_carriers, if_neg (by omega)] at passed
  simp only [carrying, surviving, Except.mapError, bind, Except.bind] at passed
  cases linking : relinkPages after pages with
  | error cause => simp [linking] at passed
  | ok linked =>
      rw [linking] at passed
      rw [← Except.ok.inj passed]

end StaticSite.Bundling
