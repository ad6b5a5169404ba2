/-
Module: StaticSite.Proofs.Bundling.Loads
Purpose: How often a rewritten page loads each bundle: once for every extracted script of the
  page that the bundle carries, for scripts give way one by one also where they share a bundle.
Trusted boundary: none
Main exports:
  addedLoads, addedLoadsAll_relinkNodes, addedLoadsAll_linkPage, loads_added_iff,
  loads_added_twice_of_merged
-/
import StaticSite.Proofs.Bundling.Rewriting

namespace StaticSite.Bundling

open Markup

/-! ### Loads that one tree has and another has not -/

/-- The URL of the file that an element loads as a script. -/
def loadedBy (name : String) (attributes : Attributes) : Option String :=
  if name = "script" then attributes.get? "src" else none

mutual

/-- The URLs that scripts at or below a node load where the node that was there before
loaded none, in document order. -/
def addedLoads : (before after : Node) → List String
  | .element name attributes children, .element name' attributes' children' =>
      match loadedBy name attributes, loadedBy name' attributes' with
      | none, some src => src :: addedLoadsAll children children'
      | _, _ => addedLoadsAll children children'
  | _, _ => []

/-- The URLs that scripts at or below some nodes load where the nodes that were there before
loaded none. -/
def addedLoadsAll : (before after : List Node) → List String
  | node :: rest, node' :: rest' => addedLoads node node' ++ addedLoadsAll rest rest'
  | _, _ => []

end

theorem addedLoads_same_tag (name : String) (attributes : Attributes)
    (children children' : List Node) :
    addedLoads (.element name attributes children) (.element name attributes children') =
      addedLoadsAll children children' := by
  rw [addedLoads]
  cases loadedBy name attributes <;> rfl

@[simp] theorem addedLoadsAll_nil (nodes : List Node) : addedLoadsAll nodes [] = [] := by
  cases nodes <;> rfl

mutual

/-- Nothing is added where nothing changes. -/
theorem addedLoads_self : ∀ node, addedLoads node node = []
  | .string _ _ => rfl
  | .element name attributes children => by
      rw [addedLoads_same_tag, addedLoadsAll_self children]

/-- Nothing is added where nothing changes. -/
theorem addedLoadsAll_self : ∀ nodes, addedLoadsAll nodes nodes = []
  | [] => rfl
  | node :: rest => by
      rw [addedLoadsAll, addedLoads_self node, addedLoadsAll_self rest, List.append_nil]

end

/-! ### Loads that linking adds -/

/-- An inline script loads no file, and what it gives way to loads the bundle. -/
theorem loadedBy_of_inline {name : String} {attributes : Attributes}
    (inline : isInlineScriptTag name attributes = true) (src : String) :
    loadedBy name attributes = none ∧
      loadedBy name (attributes.insert "src" src) = some src := by
  have absent := has_src_of_isInlineScriptTag inline
  rw [Attributes.has, Option.isSome_eq_false_iff, Option.isNone_iff_eq_none] at absent
  obtain rfl := name_of_isInlineScriptTag inline
  simp only [loadedBy, if_true, absent, Attributes.get?_insert_self, true_and]

variable {srcOf : Signature → Option String}

mutual

/-- Linking adds one load for each inline script that has a URL. -/
theorem addedLoads_relinkNode :
    ∀ node, addedLoads node (relinkNode srcOf node) =
      (node.inlineScripts.map Signature.ofScript).filterMap srcOf
  | .string _ _ => rfl
  | .element name attributes children => by
      by_cases inline : isInlineScriptTag name attributes = true
      · rw [relinkNode, if_pos inline, Node.inlineScripts, if_pos inline, List.map_singleton]
        cases known : srcOf (Signature.ofScript ⟨attributes, scriptText children⟩) with
        | none =>
            simp only [addedLoads_self, List.filterMap_cons, known, List.filterMap_nil]
        | some src =>
            obtain ⟨before, after⟩ := loadedBy_of_inline inline src
            simp only [addedLoads, before, after, addedLoadsAll_nil, List.filterMap_cons, known,
              List.filterMap_nil]
      · rw [relinkNode, if_neg inline, Node.inlineScripts, if_neg inline, addedLoads_same_tag,
          addedLoadsAll_relinkNodes children]

/-- Linking adds one load for each inline script that has a URL, in document order. -/
theorem addedLoadsAll_relinkNodes :
    ∀ nodes, addedLoadsAll nodes (relinkNodes srcOf nodes) =
      ((Node.inlineScriptsOfAll nodes).map Signature.ofScript).filterMap srcOf
  | [] => rfl
  | node :: rest => by
      rw [relinkNodes, addedLoadsAll, Node.inlineScriptsOfAll, List.map_append,
        List.filterMap_append, addedLoads_relinkNode node, addedLoadsAll_relinkNodes rest]

end

/-! ### Loads of bundles -/

section Pages

variable (pages : List Page) (components : List Component) {minPageUsage : Int}
  (srcStart : String)

/-- The extracted scripts of a page, in document order and with repetitions. -/
def extractedOn (pages : List Page) (components : List Component) (minPageUsage : Int)
    (page : Page) : List Signature :=
  page.signatures.filter fun signature => signature ∈ extracted pages components minPageUsage

/-- The pass adds a load of its bundle for every extracted script of a page. -/
theorem addedLoadsAll_linkPage (minPageUsage : Int) (page : Page) :
    addedLoadsAll page.nodes (linkPage (linkOf pages components minPageUsage srcStart) page).nodes =
      (extractedOn pages components minPageUsage page).map
        (groupSrc pages components minPageUsage srcStart) := by
  have link : ∀ signature, linkOf pages components minPageUsage srcStart signature =
      if signature ∈ extracted pages components minPageUsage then
        some (groupSrc pages components minPageUsage srcStart signature)
      else none :=
    fun _ => rfl
  calc addedLoadsAll page.nodes
        (linkPage (linkOf pages components minPageUsage srcStart) page).nodes
      = page.signatures.filterMap (linkOf pages components minPageUsage srcStart) :=
        addedLoadsAll_relinkNodes page.nodes
    _ = (extractedOn pages components minPageUsage page).filterMap
          (some ∘ groupSrc pages components minPageUsage srcStart) := by
        rw [extractedOn, List.filterMap_filter]
        exact List.filterMap_congr fun signature _ => by simp [link]
    _ = _ := congrFun List.filterMap_eq_map _

/-- An extracted script is carried by the bundle of its group, at the URL of that bundle. -/
theorem carriedAt_groupSrc {signature : Signature}
    (member : signature ∈ extracted pages components minPageUsage) :
    CarriedAt components srcStart (groups pages components minPageUsage)
      ((groups pages components minPageUsage).map (groupBundle components srcStart)) signature
      (groupSrc pages components minPageUsage srcStart signature) := by
  obtain ⟨place, at_place⟩ := List.getElem?_of_mem (groupOf_mem_groups member)
  refine ⟨place, _, at_place, mem_groupOf member, ?_, rfl⟩
  rw [List.getElem?_map, at_place, Option.map_some]

/-- If no extracted script is repeated on a page, the extracted scripts of the page are all
different. -/
theorem nodup_extractedOn {page : Page}
    (once : ∀ signature ∈ extracted pages components minPageUsage,
      page.signatures.count signature ≤ 1) :
    (extractedOn pages components minPageUsage page).Nodup := by
  rw [List.nodup_iff_count_le_one]
  intro signature
  by_cases member : signature ∈ extracted pages components minPageUsage
  · exact (List.filter_sublist.count_le signature).trans (once signature member)
  · have absent : signature ∉ extractedOn pages components minPageUsage page := by
      simp [extractedOn, member]
    rw [List.count_eq_zero.mpr absent]
    exact Nat.zero_le 1

/-- On a page that has no extracted script twice, the pass adds one load for every extracted
script of the page, of the bundle that carries it.  So a file is loaded as often as it carries
scripts of the page, and no file is loaded twice exactly if the scripts of the page are all
carried by different files. -/
theorem loads_added_iff (enough : 1 ≤ minPageUsage) {place : Nat} {page : Page}
    (stored : pages[place]? = some page)
    (once : ∀ signature ∈ extracted pages components minPageUsage,
      page.signatures.count signature ≤ 1) :
    ∃ result rewritten, extract pages components minPageUsage srcStart = .ok result ∧
      result.pages[place]? = some rewritten ∧
      ∃ srcOf : Signature → String,
        (∀ signature ∈ extracted pages components minPageUsage,
          CarriedAt components srcStart (groups pages components minPageUsage) result.bundles
            signature (srcOf signature)) ∧
        (∀ src, (addedLoadsAll page.nodes rewritten.nodes).count src =
          (extractedOn pages components minPageUsage page).countP (srcOf · == src)) ∧
        ((∀ src, (addedLoadsAll page.nodes rewritten.nodes).count src ≤ 1) ↔
          ∀ first ∈ extractedOn pages components minPageUsage page,
            ∀ second ∈ extractedOn pages components minPageUsage page,
              srcOf first = srcOf second → first = second) := by
  have added := addedLoadsAll_linkPage pages components srcStart minPageUsage page
  have distinct := nodup_extractedOn pages components once
  refine ⟨_, _, extract_eq pages components srcStart enough,
    by rw [List.getElem?_map, stored, Option.map_some],
    groupSrc pages components minPageUsage srcStart, ?_, ?_, ?_⟩
  · intro signature member
    exact carriedAt_groupSrc pages components srcStart member
  · intro src
    rw [added, List.count_eq_countP, List.countP_map]
    rfl
  · rw [added, ← List.nodup_iff_count_le_one, List.nodup_map_iff_inj_on distinct]

end Pages

/-- The second page of the small site loads the bundle of two of its scripts twice. -/
theorem loads_added_of_sample :
    ∃ page, (1 : Int) ≤ 2 ∧ samplePages[1]? = some page ∧
      (∀ signature ∈ extracted samplePages sampleComponents 2,
        page.signatures.count signature ≤ 1) ∧
      ∃ result rewritten, extract samplePages sampleComponents 2 "/scripts/" = .ok result ∧
        result.pages[1]? = some rewritten ∧
        (addedLoadsAll page.nodes rewritten.nodes).count "/scripts/x-second-x-third.js" = 2 ∧
        ∃ srcOf : Signature → String,
          (∀ signature ∈ extracted samplePages sampleComponents 2,
            CarriedAt sampleComponents "/scripts/" (groups samplePages sampleComponents 2)
              result.bundles signature (srcOf signature)) ∧
          (extractedOn samplePages sampleComponents 2 page).countP
            (srcOf · == "/scripts/x-second-x-third.js") = 2 := by
  have once : ∀ signature ∈ extracted samplePages sampleComponents 2,
      (samplePages.getD 1 default).signatures.count signature ≤ 1 := by
    decide +kernel
  obtain ⟨result, rewritten, passed, place, srcOf, carried, count, -⟩ :=
    loads_added_iff samplePages sampleComponents "/scripts/" (by decide : (1 : Int) ≤ 2)
      (rfl : samplePages[1]? = some (samplePages.getD 1 default)) once
  have known : ((extract samplePages sampleComponents 2 "/scripts/").toOption.bind
        (·.pages[1]?)).map (fun rewritten =>
          (addedLoadsAll (samplePages.getD 1 default).nodes rewritten.nodes).count
            "/scripts/x-second-x-third.js") = some 2 := by
    decide +kernel
  rw [passed, Except.toOption, Option.bind_some, place, Option.map_some, Option.some_inj] at known
  exact ⟨_, by decide, rfl, once, result, rewritten, passed, place, known, srcOf,
    carried, (count _).symm.trans known⟩

/-- Two pages that use the scripts of both components. -/
def pairPages : List Page :=
  ["a.html", "b.html"].map fun path =>
    ⟨path, [plainScript "first()", plainScript "second()"]⟩

/-- Both scripts of the pages are extracted and stand there once; they share a bundle, and
each page loads it twice. -/
theorem loads_added_twice_of_merged :
    extracted pairPages pairComponents 2 =
        [plainSignature "first()", plainSignature "second()"] ∧
      (∀ page ∈ pairPages, ∀ signature ∈ extracted pairPages pairComponents 2,
        page.signatures.count signature = 1) ∧
      (extract pairPages pairComponents 2 "/scripts/").toOption.map (·.bundles.map (·.src)) =
        some [some "/scripts/x-first-x-second.js"] ∧
      (extract pairPages pairComponents 2 "/scripts/").toOption.map (fun result =>
        List.zipWith (fun page rewritten =>
            (addedLoadsAll page.nodes rewritten.nodes).count "/scripts/x-first-x-second.js")
          pairPages result.pages) = some [2, 2] := by
  decide +kernel

end StaticSite.Bundling
