/-
Module: StaticSite.Proofs.Bundling.PageCode
Purpose: What a page runs before and after the pass: the bundles it is made to load carry
  the code of the inline scripts that were taken from it, no more and no less.
Trusted boundary: none
Main exports:
  removedScripts, removedScriptsAll_relinkNodes, Registry.carriedAt, Registry.placesOn,
  Merging.carriedAt_eq, page_loads, page_code_kept
-/
import StaticSite.Proofs.Bundling.Loads
import StaticSite.Proofs.Bundling.PageSets

namespace StaticSite.Bundling

open Text Markup

/-! ### Scripts that one tree has and another has not -/

mutual

/-- The inline scripts at or below a node that do not stand there any more in the node that
has come in its place, in document order. -/
def removedScripts : (before after : Node) → List Script
  | .string _ _, _ => []
  | .element name attributes children, after =>
      match (Node.element name attributes children).script? with
      | some script => if after.script? = some script then [] else [script]
      | none => removedScriptsAll children after.children

/-- The inline scripts at or below some nodes that do not stand there any more. -/
def removedScriptsAll : (before after : List Node) → List Script
  | [], _ => []
  | node :: rest, [] => node.inlineScripts ++ removedScriptsAll rest []
  | node :: rest, node' :: rest' => removedScripts node node' ++ removedScriptsAll rest rest'

end

theorem script?_of_inline {name : String} {attributes : Attributes} (children : List Node)
    (inline : isInlineScriptTag name attributes = true) :
    (Node.element name attributes children).script? = some ⟨attributes, scriptText children⟩ :=
  if_pos inline

theorem script?_of_not_inline {name : String} {attributes : Attributes} (children : List Node)
    (other : ¬ isInlineScriptTag name attributes = true) :
    (Node.element name attributes children).script? = none :=
  if_neg other

/-- What an inline script gives way to is none. -/
theorem script?_loading {name : String} {attributes : Attributes} (src : String)
    (inline : isInlineScriptTag name attributes = true) :
    (Node.element name (attributes.insert "src" src) []).script? = none := by
  rw [Attributes.insert_of_absent (has_src_of_isInlineScriptTag inline)]
  exact script?_of_not_inline [] (by rw [not_isInlineScriptTag_of_src]; exact Bool.false_ne_true)

variable {srcOf : Signature → Option String}

mutual

/-- Linking removes exactly the inline scripts that have a URL. -/
theorem removedScripts_relinkNode :
    ∀ node, removedScripts node (relinkNode srcOf node) =
      node.inlineScripts.filter fun script => (srcOf (Signature.ofScript script)).isSome
  | .string _ _ => rfl
  | .element name attributes children => by
      by_cases inline : isInlineScriptTag name attributes = true
      · rw [removedScripts, script?_of_inline children inline, relinkNode, if_pos inline,
          Node.inlineScripts, if_pos inline]
        cases known : srcOf (Signature.ofScript ⟨attributes, scriptText children⟩) with
        | none => simp [known, script?_of_inline children inline]
        | some src => simp [known, script?_loading src inline]
      · rw [removedScripts, script?_of_not_inline children inline, relinkNode, if_neg inline,
          Node.inlineScripts, if_neg inline]
        exact removedScriptsAll_relinkNodes children

/-- Linking removes exactly the inline scripts that have a URL, in document order. -/
theorem removedScriptsAll_relinkNodes :
    ∀ nodes, removedScriptsAll nodes (relinkNodes srcOf nodes) =
      (Node.inlineScriptsOfAll nodes).filter fun script =>
        (srcOf (Signature.ofScript script)).isSome
  | [] => rfl
  | node :: rest => by
      rw [relinkNodes, removedScriptsAll, Node.inlineScriptsOfAll, List.filter_append,
        removedScripts_relinkNode node, removedScriptsAll_relinkNodes rest]

end

/-- A script is removed from a page when the page uses it and it has a URL. -/
theorem mem_removedScriptsAll_linkPage {page : Page} {signature : Signature} :
    (∃ script ∈ removedScriptsAll page.nodes (linkPage srcOf page).nodes,
        Signature.ofScript script = signature) ↔
      signature ∈ page.signatures ∧ (srcOf signature).isSome := by
  rw [linkPage, removedScriptsAll_relinkNodes]
  constructor
  · rintro ⟨script, member, rfl⟩
    obtain ⟨found, linked⟩ := List.mem_filter.mp member
    exact ⟨List.mem_map_of_mem found, linked⟩
  · rintro ⟨used, linked⟩
    obtain ⟨script, found, rfl⟩ := List.mem_map.mp used
    exact ⟨script, List.mem_filter.mpr ⟨found, linked⟩, rfl⟩

/-! ### What bundles carry and pages load -/

namespace Registry

/-- The scripts whose bundle stands at a place, in the order of their addition. -/
def carriedAt (registry : Registry) (place : Nat) : List Signature :=
  registry.signatures.filter fun signature => registry.place? signature = some place

/-- The places of the bundles that are found for the scripts of a page, one for each script
that has a bundle. -/
def placesOn (registry : Registry) (page : Page) : List Nat :=
  page.signatures.filterMap registry.place?

variable {registry : Registry}

theorem mem_placesOn {page : Page} {place : Nat} :
    place ∈ registry.placesOn page ↔
      ∃ signature ∈ page.signatures, registry.place? signature = some place :=
  List.mem_filterMap

/-- The bundle at the place of a script is the one that carries it. -/
theorem place?_bind_surviving (wellFormed : registry.WellFormed) (signature : Signature) :
    ((registry.place? signature).bind fun place =>
        (registry.survivingAmong (List.range registry.bundles.size))[place]?) =
      registry.carrier? signature := by
  cases owned : registry.idOf? signature with
  | none => rw [place?, carrier?, owned, Option.map_none, Option.bind_none, Option.bind_none]
  | some id =>
      obtain ⟨place, bundle, placed, carried, stored⟩ := place?_spec wellFormed owned
      rw [placed, carried, Option.bind_some, stored]

/-- The URLs that the scripts of a page are linked to are those of the bundles found. -/
theorem filterMap_link?_eq (wellFormed : registry.WellFormed) (page : Page) :
    page.signatures.filterMap registry.link? =
      (registry.placesOn page).filterMap fun place =>
        (registry.survivingAmong (List.range registry.bundles.size))[place]?.bind (·.src) := by
  rw [placesOn, List.filterMap_filterMap]
  refine List.filterMap_congr fun signature _ => ?_
  rw [link?, ← place?_bind_surviving wellFormed, Option.bind_assoc]

end Registry

namespace Merging

variable {keyOf : Signature → String} {bundleOf : List Signature → Bundle}
  {all : List Signature} {registry after : Registry} {srcStart : String}
  {signature : Signature} {place : Nat}

/-- Only scripts that were added have a bundle. -/
theorem mem_of_place? (state : Merging keyOf bundleOf all [] registry)
    (finished : Finished srcStart (List.range registry.bundles.size) registry after)
    (placed : after.place? signature = some place) : signature ∈ all := by
  by_contra absent
  rw [Registry.place?, finished.idOf?_eq, state.idOf?_eq, List.append_nil, if_neg absent] at placed
  cases placed

theorem signatures_eq (state : Merging keyOf bundleOf all [] registry)
    (finished : Finished srcStart (List.range registry.bundles.size) registry after) :
    after.signatures = all := by
  rw [Registry.signatures, finished.owners_eq, state.owners_eq, List.append_nil]
  exact List.zipIdx_map_fst 0 all

/-- The scripts at a place are those that have the key of any one of them. -/
theorem carriedAt_eq (state : Merging keyOf bundleOf all [] registry)
    (finished : Finished srcStart (List.range registry.bundles.size) registry after)
    (placed : after.place? signature = some place) :
    after.carriedAt place = all.filter fun other => keyOf other == keyOf signature := by
  have member := state.mem_of_place? finished placed
  rw [Registry.carriedAt, state.signatures_eq finished]
  refine List.filter_congr fun other otherMember => ?_
  rw [← placed, beq_eq_decide]
  exact decide_eq_decide.mpr (state.place?_eq_iff finished otherMember member)

end Merging

/-! ### The code of a page -/

section Pages

variable (pages : List Page) (components : List Component) {minPageUsage : Int}
  (srcStart : String) {merged registry : Registry}

/-- The code of a bundle that a page loads is that of the scripts it carries. -/
theorem bundle_of_placesOn
    (state : Merging (usageOf pages) (openBundle components)
      (extracted pages components minPageUsage) [] merged)
    (finished : Finished srcStart (List.range merged.bundles.size) merged registry)
    {page : Page} {place : Nat} (loaded : place ∈ registry.placesOn page) :
    ∃ bundle src,
      (registry.survivingAmong (List.range registry.bundles.size))[place]? = some bundle ∧
        bundle.src = some src ∧
        bundle.code = joinWith "\n" ((registry.carriedAt place).map (·.code)) := by
  obtain ⟨signature, -, placed⟩ := Registry.mem_placesOn.mp loaded
  have member := state.mem_of_place? finished placed
  have carried := Registry.place?_bind_surviving finished.wellFormed signature
  rw [placed, Option.bind_some, state.carrier?_eq finished, if_pos member] at carried
  refine ⟨_, _, carried, rfl, ?_⟩
  rw [state.carriedAt_eq finished placed]
  rfl

/-- The bundles that a page loads carry exactly the extracted scripts of the page, for
scripts share a bundle only if they are used on the same pages. -/
theorem carried_on_page_iff (distinct : (pages.map (·.path)).Nodup)
    (free : PathsFreeOfColons pages)
    (state : Merging (usageOf pages) (openBundle components)
      (extracted pages components minPageUsage) [] merged)
    (finished : Finished srcStart (List.range merged.bundles.size) merged registry)
    {page : Page} (onSite : page ∈ pages) (signature : Signature) :
    (∃ place ∈ registry.placesOn page, signature ∈ registry.carriedAt place) ↔
      signature ∈ page.signatures ∧ signature ∈ extracted pages components minPageUsage := by
  constructor
  · rintro ⟨place, loaded, carried⟩
    obtain ⟨other, used, otherPlaced⟩ := Registry.mem_placesOn.mp loaded
    have otherMember := state.mem_of_place? finished otherPlaced
    rw [state.carriedAt_eq finished otherPlaced] at carried
    obtain ⟨member, sameKey⟩ := List.mem_filter.mp carried
    have together : UsedTogether pages signature other :=
      usedTogether_of_usageOf_eq distinct free (mem_extracted.mp member).1
        (mem_extracted.mp otherMember).1 (eq_of_beq sameKey)
    exact ⟨(together page onSite).mpr used, member⟩
  · rintro ⟨used, member⟩
    obtain ⟨place, -, placed, -, -⟩ :=
      Registry.place?_spec finished.wellFormed (state.idOf?_final finished member)
    refine ⟨place, Registry.mem_placesOn.mpr ⟨signature, used, placed⟩, ?_⟩
    rw [state.carriedAt_eq finished placed]
    exact List.mem_filter.mpr ⟨member, beq_self_eq_true _⟩

/-- The texts that the bundles of a page carry are those removed from it. -/
theorem carried_texts_iff (distinct : (pages.map (·.path)).Nodup)
    (free : PathsFreeOfColons pages)
    (state : Merging (usageOf pages) (openBundle components)
      (extracted pages components minPageUsage) [] merged)
    (finished : Finished srcStart (List.range merged.bundles.size) merged registry)
    {page : Page} (onSite : page ∈ pages) (text : String) :
    (∃ place ∈ registry.placesOn page, ∃ signature ∈ registry.carriedAt place,
        signature.code = text) ↔
      ∃ script ∈ removedScriptsAll page.nodes
          (linkPage (linkOf pages components minPageUsage srcStart) page).nodes,
        script.code = text := by
  have onPage := carried_on_page_iff pages components srcStart distinct free state finished onSite
  constructor
  · rintro ⟨place, loaded, signature, carried, rfl⟩
    obtain ⟨used, member⟩ := (onPage signature).mp ⟨place, loaded, carried⟩
    obtain ⟨script, gone, rfl⟩ :=
      mem_removedScriptsAll_linkPage.mpr
        ⟨used, (isSome_linkOf_iff pages components srcStart).mpr member⟩
    exact ⟨script, gone, rfl⟩
  · rintro ⟨script, gone, rfl⟩
    obtain ⟨used, linked⟩ := mem_removedScriptsAll_linkPage.mp ⟨script, gone, rfl⟩
    obtain ⟨place, loaded, carried⟩ :=
      (onPage _).mpr ⟨used, (isSome_linkOf_iff pages components srcStart).mp linked⟩
    exact ⟨place, loaded, _, carried, rfl⟩

/-- The pass makes a page load the bundles found for its scripts, one after the other, each at its
URL.  The code of a bundle is that of the scripts it carries. -/
theorem page_loads (enough : 1 ≤ minPageUsage) {number : Nat} {page : Page}
    (stored : pages[number]? = some page) :
    ∃ merged registry result,
      carriers pages components minPageUsage srcStart = .ok registry ∧
      extract pages components minPageUsage srcStart = .ok result ∧
      result.pages[number]? =
        some (linkPage (linkOf pages components minPageUsage srcStart) page) ∧
      Merging (usageOf pages) (openBundle components)
        (extracted pages components minPageUsage) [] merged ∧
      Finished srcStart (List.range merged.bundles.size) merged registry ∧
      (∀ place ∈ registry.placesOn page, ∃ bundle src, result.bundles[place]? = some bundle ∧
        bundle.src = some src ∧
        bundle.code = joinWith "\n" ((registry.carriedAt place).map (·.code))) ∧
      addedLoadsAll page.nodes
          (linkPage (linkOf pages components minPageUsage srcStart) page).nodes =
        (registry.placesOn page).filterMap
          (fun place => result.bundles[place]?.bind (·.src)) := by
  obtain ⟨merged, registry, carrying, state, finished⟩ :=
    carriers_spec pages components srcStart minPageUsage
  have passed := extract_eq pages components srcStart enough
  have returned := bundles_eq_surviving enough carrying finished.wellFormed passed
  have links := link?_eq_linkOf pages components srcStart state finished
  refine ⟨merged, registry, _, carrying, passed,
    by rw [List.getElem?_map, stored, Option.map_some], state, finished, ?_, ?_⟩
  · intro place loaded
    rw [returned]
    exact bundle_of_placesOn pages components srcStart state finished loaded
  · rw [returned, ← Registry.filterMap_link?_eq finished.wellFormed, links]
    exact addedLoadsAll_relinkNodes page.nodes

/-- Where bundles have URLs of their own, a page loads a URL exactly if it is that of one of
its bundles. -/
theorem mem_loads_iff {bundles : List Bundle} {places : List Nat}
    (apart : (bundles.map (·.src)).Nodup) {place : Nat} {bundle : Bundle} {src : String}
    (stored : bundles[place]? = some bundle) (known : bundle.src = some src) :
    src ∈ places.filterMap (fun place => bundles[place]?.bind (·.src)) ↔ place ∈ places := by
  have here : (bundles.map (·.src))[place]? = some (some src) := by
    rw [List.getElem?_map, stored, Option.map_some, known]
  rw [List.mem_filterMap]
  constructor
  · rintro ⟨other, member, found⟩
    obtain ⟨otherBundle, otherStored, otherKnown⟩ := Option.bind_eq_some_iff.mp found
    have there : (bundles.map (·.src))[other]? = some (some src) := by
      rw [List.getElem?_map, otherStored, Option.map_some, otherKnown]
    have inside := (List.getElem?_eq_some_iff.mp there).1
    rwa [(List.getElem?_inj inside apart).mp (there.trans here.symm)] at member
  · intro member
    exact ⟨place, member, by rw [stored, Option.bind_some, known]⟩

/-- If paths of pages differ and hold no colon, no page gains or loses code.  A page is made
to load the bundles found for its scripts, each at its URL; these bundles consist of the texts
of the scripts that they carry; and those texts are the texts of the inline scripts that were
removed from the page.  Where all bundles have URLs of their own, the bundles found are also
the ones at the URLs that the page loads. -/
theorem page_code_kept (enough : 1 ≤ minPageUsage) (distinct : (pages.map (·.path)).Nodup)
    (free : PathsFreeOfColons pages) {number : Nat} {page : Page}
    (stored : pages[number]? = some page) :
    ∃ registry result rewritten,
      carriers pages components minPageUsage srcStart = .ok registry ∧
      extract pages components minPageUsage srcStart = .ok result ∧
      result.pages[number]? = some rewritten ∧
      (∀ place ∈ registry.placesOn page, ∃ bundle src, result.bundles[place]? = some bundle ∧
        bundle.src = some src ∧
        bundle.code = joinWith "\n" ((registry.carriedAt place).map (·.code))) ∧
      addedLoadsAll page.nodes rewritten.nodes =
        (registry.placesOn page).filterMap
          (fun place => result.bundles[place]?.bind (·.src)) ∧
      (∀ text,
        (∃ place ∈ registry.placesOn page, ∃ signature ∈ registry.carriedAt place,
            signature.code = text) ↔
          ∃ script ∈ removedScriptsAll page.nodes rewritten.nodes, script.code = text) ∧
      ((result.bundles.map (·.src)).Nodup →
        ∀ place bundle src, result.bundles[place]? = some bundle → bundle.src = some src →
          (src ∈ addedLoadsAll page.nodes rewritten.nodes ↔
            place ∈ registry.placesOn page)) := by
  obtain ⟨merged, registry, result, carrying, passed, rewritten, state, finished, bundles, loads⟩ :=
    page_loads pages components srcStart enough stored
  refine ⟨registry, result, _, carrying, passed, rewritten, bundles, loads, ?_, ?_⟩
  · exact carried_texts_iff pages components srcStart distinct free state finished
      (List.mem_of_getElem? stored)
  · intro apart place bundle src found known
    rw [loads]
    exact mem_loads_iff apart found known

end Pages

/-- The second page of the small site gives up three scripts, and the bundles it loads in
their place carry the last of them too. -/
theorem page_code_kept_of_sample :
    ∃ page, (1 : Int) ≤ 2 ∧ (samplePages.map (·.path)).Nodup ∧ PathsFreeOfColons samplePages ∧
      samplePages[1]? = some page ∧
      ∃ registry result rewritten,
        carriers samplePages sampleComponents 2 "/scripts/" = .ok registry ∧
        extract samplePages sampleComponents 2 "/scripts/" = .ok result ∧
        result.pages[1]? = some rewritten ∧
        (removedScriptsAll page.nodes rewritten.nodes).map (·.code) =
          ["shared()", "own()", "third()"] ∧
        ∃ place ∈ registry.placesOn page, ∃ signature ∈ registry.carriedAt place,
          signature.code = "third()" := by
  have distinct : (samplePages.map (·.path)).Nodup := by decide
  have free : PathsFreeOfColons samplePages := by decide
  obtain ⟨registry, result, rewritten, carrying, passed, place, -, -, texts, -⟩ :=
    page_code_kept samplePages sampleComponents "/scripts/" (by decide : (1 : Int) ≤ 2) distinct
      free (rfl : samplePages[1]? = some (samplePages.getD 1 default))
  have known : ((extract samplePages sampleComponents 2 "/scripts/").toOption.bind
        (·.pages[1]?)).map (fun rewritten =>
          (removedScriptsAll (samplePages.getD 1 default).nodes rewritten.nodes).map (·.code)) =
      some ["shared()", "own()", "third()"] := by
    decide +kernel
  rw [passed, Except.toOption, Option.bind_some, place, Option.map_some, Option.some_inj] at known
  refine ⟨_, by decide, distinct, free, rfl, registry, result, rewritten, carrying, passed, place,
    known, (texts "third()").mpr ?_⟩
  have third : "third()" ∈ ["shared()", "own()", "third()"] := by decide
  rw [← known] at third
  exact List.mem_map.mp third

end StaticSite.Bundling
