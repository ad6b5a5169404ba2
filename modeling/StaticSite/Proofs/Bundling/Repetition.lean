/-
Module: StaticSite.Proofs.Bundling.Repetition
Purpose: The pass over pages that have been through it: a script is extracted from all of its
  pages or from none of them, so there is nothing left to extract.
Trusted boundary: none
Main exports:
  inlineScripts_relinkNode, relinkNodes_none, signatures_linkPage, extracted_linked, extract_again,
  extract_again_of_sample
-/
import StaticSite.Proofs.Bundling.Rewriting

namespace StaticSite.Bundling

open Markup

variable {srcOf : Signature → Option String}

/-! ### Scripts of a tree that has been linked -/

mutual

/-- The inline scripts that linking leaves are those without a URL.  What the others give way to
is no inline script, for it has a source. -/
theorem inlineScripts_relinkNode :
    ∀ node, (relinkNode srcOf node).inlineScripts =
      node.inlineScripts.filter fun script => (srcOf (Signature.ofScript script)).isNone
  | .string _ _ => rfl
  | .element name attributes children => by
      by_cases inline : isInlineScriptTag name attributes = true
      · rw [relinkNode, if_pos inline, Node.inlineScripts, if_pos inline]
        cases known : srcOf (Signature.ofScript ⟨attributes, scriptText children⟩) with
        | none => simp [known, Node.inlineScripts, inline]
        | some src =>
            obtain rfl := name_of_isInlineScriptTag inline
            have loads : isInlineScriptTag "script" (attributes.insert "src" src) = false := by
              rw [Attributes.insert_of_absent (has_src_of_isInlineScriptTag inline)]
              exact not_isInlineScriptTag_of_src
            simp [known, Node.inlineScripts, loads, Node.inlineScriptsOfAll]
      · rw [relinkNode, if_neg inline, Node.inlineScripts, if_neg inline, Node.inlineScripts,
          if_neg inline]
        exact inlineScriptsOfAll_relinkNodes children

/-- The inline scripts that linking leaves are those without a URL. -/
theorem inlineScriptsOfAll_relinkNodes :
    ∀ nodes, Node.inlineScriptsOfAll (relinkNodes srcOf nodes) =
      (Node.inlineScriptsOfAll nodes).filter fun script =>
        (srcOf (Signature.ofScript script)).isNone
  | [] => rfl
  | node :: rest => by
      rw [relinkNodes, Node.inlineScriptsOfAll, Node.inlineScriptsOfAll, List.filter_append,
        inlineScripts_relinkNode node, inlineScriptsOfAll_relinkNodes rest]

end

mutual

theorem relinkNode_none : ∀ node, relinkNode (fun _ => none) node = node
  | .string _ _ => rfl
  | .element name attributes children => by
      rw [relinkNode, relinkNodes_none children]
      split <;> rfl

/-- Without URLs nothing is replaced. -/
theorem relinkNodes_none : ∀ nodes, relinkNodes (fun _ => none) nodes = nodes
  | [] => rfl
  | node :: rest => by rw [relinkNodes, relinkNode_none node, relinkNodes_none rest]

end

/-! ### Pages that have been linked -/

theorem linkPage_none (page : Page) : linkPage (fun _ => none) page = page := by
  rw [linkPage, relinkNodes_none]

/-- A linked page uses the scripts that have no URL. -/
theorem signatures_linkPage (page : Page) :
    (linkPage srcOf page).signatures =
      page.signatures.filter fun signature => (srcOf signature).isNone := by
  rw [Page.signatures, Page.signatures, List.filter_map, linkPage]
  exact congrArg _ (inlineScriptsOfAll_relinkNodes page.nodes)

/-- A script without a URL is used on as many pages as before. -/
theorem length_usedBy_linked {pages : List Page} {signature : Signature}
    (unlinked : srcOf signature = none) :
    (usedBy (pages.map (linkPage srcOf)) signature).length =
      (usedBy pages signature).length := by
  have same : ((fun page : Page => page.signatures.contains signature) ∘ linkPage srcOf) =
      fun page : Page => page.signatures.contains signature := by
    funext page
    rw [Function.comp_apply, signatures_linkPage, Bool.eq_iff_iff, List.contains_iff_mem,
      List.contains_iff_mem, List.mem_filter]
    simp [unlinked]
  rw [usedBy, usedBy, List.filter_map, same, List.length_map]

section Pages

variable (pages : List Page) (components : List Component) {minPageUsage : Int}
  (srcStart : String)

theorem linkOf_eq_none_iff {signature : Signature} :
    linkOf pages components minPageUsage srcStart signature = none ↔
      signature ∉ extracted pages components minPageUsage := by
  rw [← isSome_linkOf_iff pages components srcStart, Option.not_isSome_iff_eq_none]

/-- From pages that load the bundles nothing is extracted: whatever script is left there has not
been extracted before, and is used on as many pages as before. -/
theorem extracted_linked (minPageUsage : Int) :
    extracted (pages.map (linkPage (linkOf pages components minPageUsage srcStart))) components
      minPageUsage = [] := by
  rw [extracted, List.filter_eq_nil_iff]
  intro signature left again
  obtain ⟨_, linked, found⟩ := mem_encountered.mp left
  obtain ⟨page, member, rfl⟩ := List.mem_map.mp linked
  rw [signatures_linkPage, List.mem_filter, Option.isNone_iff_eq_none] at found
  obtain ⟨used, unlinked⟩ := found
  rw [isExtracted, length_usedBy_linked unlinked] at again
  have met : signature ∈ encountered pages := mem_encountered.mpr ⟨page, member, used⟩
  exact (linkOf_eq_none_iff pages components srcStart).mp unlinked
    (mem_extracted.mpr ⟨met, again⟩)

/-- The pass does nothing to pages that have been through it: it succeeds with no bundles, the
pages stay as they are, and nothing is logged. -/
theorem extract_again (enough : 1 ≤ minPageUsage) :
    ∃ result, extract pages components minPageUsage srcStart = .ok result ∧
      extract result.pages components minPageUsage srcStart =
        .ok { bundles := [], pages := result.pages, log := [] } := by
  refine ⟨_, extract_eq pages components srcStart enough, ?_⟩
  dsimp only
  have nothing := extracted_linked pages components srcStart minPageUsage
  generalize pages.map (linkPage (linkOf pages components minPageUsage srcStart)) = linked
    at nothing ⊢
  have noGroups : groups linked components minPageUsage = [] := by
    rw [groups, nothing]
    rfl
  have noLinks : linkOf linked components minPageUsage srcStart = fun _ => none := by
    funext signature
    rw [linkOf_eq_none_iff, nothing]
    exact List.not_mem_nil
  have silent : linked.filterMap (linkLog? fun _ => none) = [] := by
    rw [List.filterMap_eq_nil_iff]
    intro page _
    simp [linkLog?]
  have unchanged : linkPage (fun _ => none) = id := funext linkPage_none
  rw [extract_eq linked components srcStart enough, noGroups, noLinks, silent, unchanged,
    List.map_id, List.map_nil]

end Pages

/-- On the small site three scripts are extracted from two pages and one from the other, and one
is left on two pages; then nothing is extracted any more. -/
theorem extract_again_of_sample :
    (1 : Int) ≤ 2 ∧ ∃ result, extract samplePages sampleComponents 2 "/scripts/" = .ok result ∧
      result.pages.map (·.signatures) =
        [[], [plainSignature "local()"], [plainSignature "local()"]] ∧
      extract result.pages sampleComponents 2 "/scripts/" =
        .ok { bundles := [], pages := result.pages, log := [] } := by
  obtain ⟨result, passed, again⟩ :=
    extract_again samplePages sampleComponents "/scripts/" (by decide : (1 : Int) ≤ 2)
  have known : (extract samplePages sampleComponents 2 "/scripts/").toOption.map
      (·.pages.map (·.signatures)) =
        some [[], [plainSignature "local()"], [plainSignature "local()"]] := by
    decide +kernel
  rw [passed] at known
  exact ⟨by decide, result, passed, Option.some.inj known, again⟩

end StaticSite.Bundling
