/-
Module: StaticSite.Proofs.Bundling.Extraction
Purpose: The pass over pages and components as a whole: it yields the bundles of the
  reference grouping, and pages that load them.
Trusted boundary: none
Main exports:
  linkOf, isSome_linkOf_iff, exists_made, exists_merged_to, carriers, carriers_spec, extract_eq,
  extract_bundles_eq_groups
-/
import StaticSite.Proofs.Bundling.Finishing
import StaticSite.Proofs.Bundling.Linking

namespace StaticSite.Bundling

open Text Markup

/-- The URL of the bundle of the group that a script belongs to. -/
def linkOf (pages : List Page) (components : List Component) (minPageUsage : Int)
    (srcStart : String) (signature : Signature) : Option String :=
  if signature ∈ extracted pages components minPageUsage then
    (groupBundle components srcStart (groupOf pages components minPageUsage signature)).src
  else none

variable (pages : List Page) (components : List Component) {minPageUsage : Int}
  (srcStart : String)

/-- The scripts with a URL are the extracted ones. -/
theorem isSome_linkOf_iff {signature : Signature} :
    (linkOf pages components minPageUsage srcStart signature).isSome ↔
      signature ∈ extracted pages components minPageUsage := by
  rw [linkOf]
  split
  case isTrue member => exact iff_of_true rfl member
  case isFalse absent => exact iff_of_false Bool.false_ne_true absent

variable {pages components} in
/-- Making goes through the first ones of the extracted scripts without an error. -/
theorem exists_made {done rest : List Signature}
    (split : extracted pages components minPageUsage = done ++ rest) :
    ∃ made, makeBundles components .empty done = .ok made ∧
      Merging (usageOf pages) (openBundle components) [] done made := by
  have distinct := nodup_extracted pages components minPageUsage
  rw [split] at distinct
  refine makeBundles_spec .empty (List.Nodup.of_append_left distinct) fun signature member => ?_
  have isIn : signature ∈ extracted pages components minPageUsage :=
    split ▸ List.mem_append_left rest member
  exact (Bool.and_eq_true_iff.mp (mem_extracted.mp isIn).2).1

variable {pages components} in
/-- Merging goes through the first ones of the extracted scripts without an error, and leaves the
others on their own. -/
theorem exists_merged_to {made : Registry} {done rest : List Signature}
    (split : extracted pages components minPageUsage = done ++ rest)
    (state : Merging (usageOf pages) (openBundle components) [] (done ++ rest) made) :
    ∃ merged, mergeBundles pages (usages pages) [] made done = .ok merged ∧
      Merging (usageOf pages) (openBundle components) done rest merged := by
  have distinct := nodup_extracted pages components minPageUsage
  rw [split] at distinct
  refine mergeBundles_spec state .start distinct (fun signature member => ?_)
    (openBundle_append_singleton components)
  have isIn : signature ∈ extracted pages components minPageUsage :=
    split ▸ List.mem_append_left rest member
  exact usageKey_eq (mem_extracted.mp isIn).1

/-- All bundles have been made for some scripts, in this order. -/
theorem signatures_of_made {keyOf : Signature → String} {bundleOf : List Signature → Bundle}
    {scripts : List Signature} {made : Registry}
    (state : Merging keyOf bundleOf [] scripts made) : made.signatures = scripts := by
  rw [Registry.signatures, state.owners_eq]
  exact List.zipIdx_map_fst 0 _

/-- Making and merging ends with all extracted scripts in groups of equal usage. -/
theorem exists_merged (minPageUsage : Int) :
    ∃ made merged,
      makeBundles components .empty (extracted pages components minPageUsage) = .ok made ∧
      mergeBundles pages (usages pages) [] made made.signatures = .ok merged ∧
      Merging (usageOf pages) (openBundle components)
        (extracted pages components minPageUsage) [] merged := by
  have split := (List.append_nil (extracted pages components minPageUsage)).symm
  obtain ⟨made, making, madeState⟩ := exists_made split
  rw [split] at madeState
  obtain ⟨merged, merging, mergedState⟩ := exists_merged_to split madeState
  rw [← split] at madeState
  exact ⟨made, merged, making, by rwa [signatures_of_made madeState], mergedState⟩

theorem openRoots_of_merging {keyOf : Signature → String} {all : List Signature}
    {registry : Registry} (state : Merging keyOf (openBundle components) all [] registry) :
    OpenRoots (List.range registry.bundles.size) registry := by
  intro id member isRoot
  have inside := List.mem_range.mp member
  rw [state.size_eq, List.append_nil] at inside
  exact ⟨_, state.stored_done (List.getElem?_eq_getElem inside) isRoot, rfl⟩

/-- The registry that tells which bundle carries which script once all bundles have their
URLs. -/
def carriers (pages : List Page) (components : List Component) (minPageUsage : Int)
    (srcStart : String) : Except ExtractionError Registry := do
  let used := usages pages
  let eligible := (used.filter fun usage =>
    isEligible components minPageUsage usage.1 usage.2).map (·.1)
  let registry ← makeBundles components .empty eligible
  let registry ← mergeBundles pages used [] registry registry.signatures
  finalizeBundles srcStart registry (List.range registry.bundles.size)

/-- The pass answers the surviving bundles of the registry, and asks it for the links. -/
theorem extract_eq_carriers (minPageUsage : Int) :
    extract pages components minPageUsage srcStart =
      if minPageUsage < 1 then
        .error (.minPageUsage minPageUsage)
      else do
        let registry ← carriers pages components minPageUsage srcStart
        let (bundles, registry) ← registry.survivors.mapError .registry
        let (pages, log) ← relinkPages registry pages
        return { bundles := bundles, pages := pages, log := log } := by
  simp only [extract, carriers, bind_assoc]

/-- In the registry all extracted scripts are merged in groups of equal usage. -/
theorem carriers_spec (minPageUsage : Int) :
    ∃ merged final, carriers pages components minPageUsage srcStart = .ok final ∧
      Merging (usageOf pages) (openBundle components)
        (extracted pages components minPageUsage) [] merged ∧
      Finished srcStart (List.range merged.bundles.size) merged final := by
  obtain ⟨made, merged, making, merging, state⟩ := exists_merged pages components minPageUsage
  obtain ⟨final, finishing, finished⟩ :=
    finalizeBundles_spec srcStart state.wellFormed List.nodup_range
      (fun _ member => List.mem_range.mp member) (openRoots_of_merging components state)
  refine ⟨merged, final, ?_, state, finished⟩
  simp only [carriers, eligible_eq, making, merging, finishing, bind, Except.bind]

/-- The finished registry links each script to the bundle of its group. -/
theorem link?_eq_linkOf {merged final : Registry}
    (state : Merging (usageOf pages) (openBundle components)
      (extracted pages components minPageUsage) [] merged)
    (finished : Finished srcStart (List.range merged.bundles.size) merged final) :
    final.link? = linkOf pages components minPageUsage srcStart := by
  funext signature
  rw [Registry.link?, state.carrier?_eq finished, linkOf]
  split <;> rfl

/-- The whole pass: it never fails, the bundles are those of the groups, and pages load
them in place of the extracted scripts. -/
theorem extract_eq (enough : 1 ≤ minPageUsage) :
    extract pages components minPageUsage srcStart =
      .ok
        { bundles := (groups pages components minPageUsage).map (groupBundle components srcStart)
          pages := pages.map (linkPage (linkOf pages components minPageUsage srcStart))
          log := pages.filterMap
            (linkLog? (linkOf pages components minPageUsage srcStart)) } := by
  obtain ⟨merged, final, carrying, state, finished⟩ :=
    carriers_spec pages components srcStart minPageUsage
  obtain ⟨after, surviving, view⟩ := Registry.survivors_spec finished.wellFormed
  rw [state.surviving_eq finished] at surviving
  have carried := state.carrier?_eq finished
  have linked : Linked final := by
    intro signature bundle found
    rw [carried] at found
    split at found
    · exact ⟨_, by rw [← Option.some.inj found]; rfl⟩
    · simp at found
  have links := link?_eq_linkOf pages components srcStart state finished
  have linking :=
    relinkPages_spec (view.wellFormed finished.wellFormed)
      (linked.of_view view finished.wellFormed) pages
  rw [link?_of_view view finished.wellFormed, links] at linking
  rw [extract_eq_carriers, if_neg (by omega)]
  simp only [carrying, surviving, linking, Except.mapError, bind, Except.bind, groups,
    List.map_map]
  rfl

/-- The pass gives one bundle for each group of the reference grouping, in the order
of the groups. -/
theorem extract_bundles_eq_groups (enough : 1 ≤ minPageUsage) :
    ∃ result, extract pages components minPageUsage srcStart = .ok result ∧
      result.bundles =
        (groups pages components minPageUsage).map (groupBundle components srcStart) := by
  refine ⟨_, extract_eq pages components srcStart enough, ?_⟩
  rfl

/-! ### A small site -/

/-- A script element that holds this source text. -/
def plainScript (code : String) : Node :=
  .element "script" [] [.string .script code]

/-- The signature of such an element. -/
def plainSignature (code : String) : Signature :=
  ⟨"script", [], code⟩

/-- A component made of scripts. -/
def scriptsComponent (name : String) (codes : List String) : Component where
  name := name
  path := Path.ofString (name ++ ".html")
  template := codes.map plainScript
  source := concat (codes.map fun code => "<script>" ++ code ++ "</script>")

/-- Two components that share a script, and one that is used with the second. -/
def sampleComponents : List Component :=
  [ scriptsComponent "x-first" ["shared()"], scriptsComponent "x-second" ["shared()", "own()"],
    scriptsComponent "x-third" ["third()"] ]

/-- Two components, each with a script of its own. -/
def pairComponents : List Component :=
  [scriptsComponent "x-first" ["first()"], scriptsComponent "x-second" ["second()"]]

/-- One page uses the first component, two use the others inside an element. -/
def samplePages : List Page :=
  let inner : List Node := ["shared()", "own()", "third()", "local()"].map plainScript
  [ ⟨"a.html", [plainScript "shared()"]⟩, ⟨"b.html", [.element "div" [] inner]⟩,
    ⟨"c.html", [.element "div" [] inner]⟩ ]

/-- The script that all pages use stays apart from the two that go together. -/
theorem extract_bundles_of_sample :
    (1 : Int) ≤ 2 ∧ ∃ result, extract samplePages sampleComponents 2 "/scripts/" = .ok result ∧
      result.bundles =
        [ { name := "x-second", code := "shared()", components := ["x-second"],
            src := some "/scripts/x-second.js" },
          { name := "x-second-x-third", code := "own()\nthird()",
            components := ["x-second", "x-third"],
            src := some "/scripts/x-second-x-third.js" } ] := by
  refine ⟨by decide, ?_⟩
  obtain ⟨result, passed, bundles⟩ :=
    extract_bundles_eq_groups samplePages sampleComponents "/scripts/" (by decide : (1 : Int) ≤ 2)
  exact ⟨result, passed, bundles.trans (by decide +kernel)⟩

end StaticSite.Bundling
