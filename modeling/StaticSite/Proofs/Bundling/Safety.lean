/-
Module: StaticSite.Proofs.Bundling.Safety
Purpose: The pass over pages and components never comes to one of its errors: at every moment of
  each of its loops, what is done next cannot be refused.
Trusted boundary: none
Main exports:
  eligible, Makable, Mergeable, Finishable, Loadable, extraction_unhindered
-/
import StaticSite.Proofs.Bundling.Extraction

namespace StaticSite.Bundling

/-! ### What cannot be refused -/

/-- The scripts that are extracted, in the order in which the pass goes through them. -/
def eligible (pages : List Page) (components : List Component) (minPageUsage : Int) :
    List Signature :=
  ((usages pages).filter fun usage =>
    isEligible components minPageUsage usage.1 usage.2).map (·.1)

/-- When it is the turn of a script to get a bundle, it has an owner and no bundle yet. -/
def Makable (components : List Component) (scripts : List Signature) : Prop :=
  ∀ done signature rest, scripts = done ++ signature :: rest →
    ∃ registry owner, makeBundles components .empty done = .ok registry ∧
      owner? components signature = some owner ∧ registry.contains signature = false

/-- When it is the turn of a script to be merged, its bundle is a group of its own, and can be
merged into that of any script before it. -/
def Mergeable (pages : List Page) (made : Registry) : Prop :=
  ∀ done signature rest, made.signatures = done ++ signature :: rest →
    ∃ registry id, mergeBundles pages (usages pages) [] made done = .ok registry ∧
      registry.idOf? signature = some id ∧ registry.root id = id ∧
      ∀ earlier ∈ done, ∀ other, registry.idOf? earlier = some other →
        registry.root other ≠ id ∧
          ∃ after, registry.union other id = .ok (registry.root other, after)

/-- When it is the turn of a number to be finished and its bundle has not been merged into another
one, the bundle has no URL yet. -/
def Finishable (srcStart : String) (merged : Registry) : Prop :=
  ∀ done id rest, List.range merged.bundles.size = done ++ id :: rest →
    ∃ registry, finalizeBundles srcStart merged done = .ok registry ∧
      (registry.root id = id →
        ∃ bundle, registry.bundle? id = .ok bundle ∧ bundle.src = none)

/-- Whenever a bundle is asked for that a page is to load, it has its URL.  Asking shortens the
ways to the roots, so that the registry that is asked only looks like the finished one. -/
def Loadable (final : Registry) : Prop :=
  ∀ registry, Registry.SameView final registry → ∀ signature bundle after,
    registry.resolve signature = .ok (some bundle, after) → ∃ src, bundle.src = some src

/-! ### Merging different groups -/

/-- Different groups can be merged. -/
theorem Registry.WellFormed.exists_union {registry : Registry} {representative other : Nat}
    (wellFormed : registry.WellFormed)
    (representativeKnown : representative < registry.bundles.size)
    (otherKnown : other < registry.bundles.size)
    (apart : registry.root representative ≠ registry.root other) :
    ∃ after, registry.union representative other = .ok (registry.root representative, after) := by
  obtain ⟨kept, keptStored⟩ := exists_stored (wellFormed.root_lt representativeKnown)
  obtain ⟨dropped, droppedStored⟩ := exists_stored (wellFormed.root_lt otherKnown)
  obtain ⟨after, joined, -⟩ :=
    union_spec wellFormed representativeKnown otherKnown apart keptStored droppedStored
  exact ⟨after, joined⟩

/-- The groups of the scripts before the next one are led by numbers before its own. -/
theorem Merging.root_earlier_lt {keyOf : Signature → String} {bundleOf : List Signature → Bundle}
    {done rest : List Signature} {registry : Registry} {earlier : Signature} {id : Nat}
    (state : Merging keyOf bundleOf done rest registry) (member : earlier ∈ done)
    (owned : registry.idOf? earlier = some id) : registry.root id < done.length := by
  have place := state.idOf?_eq earlier
  rw [if_pos (List.mem_append_left rest member), List.idxOf_append_of_mem member, owned] at place
  obtain rfl := Option.some.inj place
  rw [state.root_done (List.getElem?_idxOf member)]
  have inside := List.idxOf_lt_length_of_mem (List.mem_map_of_mem (f := keyOf) member)
  rwa [List.length_map] at inside

/-! ### The loops of the pass -/

variable {pages : List Page} {components : List Component} {minPageUsage : Int}

theorem makable_extracted : Makable components (extracted pages components minPageUsage) := by
  intro done signature rest split
  obtain ⟨registry, making, state⟩ := exists_made split
  have member : signature ∈ extracted pages components minPageUsage := by
    rw [split]
    exact List.mem_append_right done List.mem_cons_self
  have owner := owner?_eq_ownerName (Bool.and_eq_true_iff.mp (mem_extracted.mp member).2).1
  have distinct := nodup_extracted pages components minPageUsage
  rw [split] at distinct
  have fresh : signature ∉ done := fun before =>
    (List.nodup_append.mp distinct).2.2 signature before signature List.mem_cons_self rfl
  refine ⟨registry, _, making, owner, ?_⟩
  rw [Registry.contains, state.idOf?_eq, if_neg (by simpa using fresh)]
  rfl

theorem mergeable_of_made {made : Registry}
    (state : Merging (usageOf pages) (openBundle components) []
      (extracted pages components minPageUsage) made) : Mergeable pages made := by
  intro done signature rest split
  rw [signatures_of_made state] at split
  rw [split] at state
  obtain ⟨registry, merging, between⟩ := exists_merged_to split state
  have distinct := nodup_extracted pages components minPageUsage
  rw [split] at distinct
  have alone := between.root_rest (Nat.le_refl _) between.next_lt
  refine ⟨registry, done.length, merging, between.idOf?_next distinct, alone, ?_⟩
  intro earlier member other owned
  have apart := Nat.ne_of_lt (between.root_earlier_lt member owned)
  have known := between.wellFormed.idOf?_lt owned
  exact ⟨apart, between.wellFormed.exists_union known between.next_lt (by rwa [alone])⟩

theorem finishable_of_merged (srcStart : String) {merged : Registry}
    (state : Merging (usageOf pages) (openBundle components)
      (extracted pages components minPageUsage) [] merged) : Finishable srcStart merged := by
  intro done id rest split
  have known : ∀ other ∈ done ++ id :: rest, other < merged.bundles.size := by
    rw [← split]
    exact fun other member => List.mem_range.mp member
  have idKnown := known id (List.mem_append_right done List.mem_cons_self)
  have distinct : (done ++ id :: rest).Nodup := by
    rw [← split]
    exact List.nodup_range
  have fresh : id ∉ done := fun before =>
    (List.nodup_append.mp distinct).2.2 id before id List.mem_cons_self rfl
  have roots := openRoots_of_merging components state
  rw [split] at roots
  obtain ⟨registry, finishing, finished⟩ :=
    finalizeBundles_spec srcStart state.wellFormed (List.Nodup.of_append_left distinct)
      (fun other member => known other (List.mem_append_left _ member))
      (fun other member => roots other (List.mem_append_left _ member))
  refine ⟨registry, finishing, fun isRoot => ?_⟩
  rw [finished.root_eq idKnown] at isRoot
  obtain ⟨bundle, stored, isOpen⟩ := roots id (List.mem_append_right done List.mem_cons_self) isRoot
  refine ⟨bundle, Registry.bundle?_eq_ok ?_, isOpen⟩
  rw [finished.stored idKnown, if_neg fun given => fresh given.1, stored]

theorem loadable_of_finished (srcStart : String) {merged final : Registry}
    (state : Merging (usageOf pages) (openBundle components)
      (extracted pages components minPageUsage) [] merged)
    (finished : Finished srcStart (List.range merged.bundles.size) merged final) :
    Loadable final := by
  intro registry view signature bundle after resolved
  obtain ⟨_, answered, -⟩ := Registry.resolve_spec (view.wellFormed finished.wellFormed) signature
  rw [resolved, view.carrier?_eq finished.wellFormed, state.carrier?_eq finished] at answered
  have carried := congrArg Prod.fst (Except.ok.inj answered)
  split at carried
  case isTrue =>
    obtain rfl := Option.some.inj carried
    exact ⟨_, rfl⟩
  case isFalse => cases carried

/-! ### The whole pass -/

/-- The pass raises no error, whatever the pages, the components and the start of the URLs are:
every script gets its only bundle from an owner, no bundle is merged into a group that it is in,
none gets a URL twice, and those that pages load have one. -/
theorem extraction_unhindered (pages : List Page) (components : List Component) (srcStart : String)
    (enough : 1 ≤ minPageUsage) :
    ∃ made merged final result,
      makeBundles components .empty (eligible pages components minPageUsage) = .ok made ∧
      mergeBundles pages (usages pages) [] made made.signatures = .ok merged ∧
      finalizeBundles srcStart merged (List.range merged.bundles.size) = .ok final ∧
      extract pages components minPageUsage srcStart = .ok result ∧
      Makable components (eligible pages components minPageUsage) ∧ Mergeable pages made ∧
      Finishable srcStart merged ∧ Loadable final := by
  have scripts : eligible pages components minPageUsage = extracted pages components minPageUsage :=
    eligible_eq pages components minPageUsage
  have split := (List.append_nil (extracted pages components minPageUsage)).symm
  obtain ⟨made, making, madeState⟩ := exists_made split
  have mergeable := mergeable_of_made madeState
  have order := signatures_of_made madeState
  rw [split] at madeState
  obtain ⟨merged, merging, state⟩ := exists_merged_to split madeState
  obtain ⟨final, finishing, finished⟩ :=
    finalizeBundles_spec srcStart state.wellFormed List.nodup_range
      (fun _ member => List.mem_range.mp member) (openRoots_of_merging components state)
  rw [scripts]
  refine ⟨made, merged, final, _, making, ?_, finishing,
    extract_eq pages components srcStart enough, makable_extracted, mergeable,
    finishable_of_merged srcStart state, loadable_of_finished srcStart state finished⟩
  rwa [order]

/-- Components that are given twice, and pages that share a path. -/
theorem extraction_unhindered_of_repeated :
    (1 : Int) ≤ 2 ∧ ∃ made merged final result,
      makeBundles (sampleComponents ++ sampleComponents) .empty
        (eligible (samplePages ++ samplePages) (sampleComponents ++ sampleComponents) 2) =
          .ok made ∧
      mergeBundles (samplePages ++ samplePages) (usages (samplePages ++ samplePages)) [] made
        made.signatures = .ok merged ∧
      finalizeBundles "/scripts/" merged (List.range merged.bundles.size) = .ok final ∧
      extract (samplePages ++ samplePages) (sampleComponents ++ sampleComponents) 2 "/scripts/" =
        .ok result ∧
      Makable (sampleComponents ++ sampleComponents)
        (eligible (samplePages ++ samplePages) (sampleComponents ++ sampleComponents) 2) ∧
      Mergeable (samplePages ++ samplePages) made ∧ Finishable "/scripts/" merged ∧
      Loadable final := by
  have enough : (1 : Int) ≤ 2 := by decide
  exact ⟨enough, extraction_unhindered (samplePages ++ samplePages)
    (sampleComponents ++ sampleComponents) "/scripts/" enough⟩

end StaticSite.Bundling
