/-
Module: StaticSite.Proofs.Bundling.Rewriting
Purpose: What pages become: every extracted script, wherever it stands, gives way to an
  element that loads its bundle, and nothing else changes.
Trusted boundary: none
Main exports:
  loader?, relinkNodes_eq_replaceAll, loader_exhaustive, linkPage_eq_replaced,
  extract_pages_eq_replaced
-/
import StaticSite.Proofs.Bundling.Extraction
import StaticSite.Proofs.Markup.Replace

namespace StaticSite.Bundling

open Markup

/-- What a script that has a URL gives way to: an empty script that keeps its attributes
and loads the file at the URL. -/
def loader? (srcOf : Signature → Option String) (node : Node) : Option Node := do
  let script ← node.script?
  let src ← srcOf (Signature.ofScript script)
  return .element "script" (script.attributes ++ [("src", src)]) []

variable {srcOf : Signature → Option String}

@[simp] theorem loader?_string (kind : StringKind) (text : String) :
    loader? srcOf (.string kind text) = none :=
  rfl

theorem loader?_of_inline {attributes : Attributes} {children : List Node}
    (inline : isInlineScriptTag "script" attributes = true) :
    loader? srcOf (.element "script" attributes children) =
      (srcOf (Signature.ofScript ⟨attributes, scriptText children⟩)).map fun src =>
        .element "script" (attributes ++ [("src", src)]) [] := by
  simp only [loader?, Node.script?, if_pos inline, bind, Option.bind]
  cases srcOf (Signature.ofScript ⟨attributes, scriptText children⟩) <;> rfl

theorem loader?_of_not_inline {name : String} {attributes : Attributes} {children : List Node}
    (other : ¬ isInlineScriptTag name attributes = true) :
    loader? srcOf (.element name attributes children) = none := by
  simp only [loader?, Node.script?, if_neg other, bind, Option.bind]

mutual

/-- Relinking is replacing every script that has a URL where it stands. -/
theorem relinkNode_eq_replace :
    ∀ {node : Node}, ScriptsHoldText [node] →
      relinkNode srcOf node = node.replace (loader? srcOf)
  | .string _ _, _ => rfl
  | .element name attributes children, textOnly => by
      by_cases inline : isInlineScriptTag name attributes = true
      · obtain rfl := name_of_isInlineScriptTag inline
        have inside : Node.replaceAll (loader? srcOf) children = children :=
          Node.replaceAll_strings loader?_string textOnly.of_script
        rw [relinkNode, if_pos inline, Node.replace, loader?_of_inline inline, inside]
        cases srcOf (Signature.ofScript ⟨attributes, scriptText children⟩) with
        | none => rfl
        | some src =>
            rw [Option.map_some, Option.getD_some,
              ← Attributes.insert_of_absent (has_src_of_isInlineScriptTag inline)]
      · rw [relinkNode, if_neg inline, Node.replace, loader?_of_not_inline inline,
          Option.getD_none, relinkNodes_eq_replaceAll textOnly.of_element]

/-- Relinking is replacing every script that has a URL where it stands. -/
theorem relinkNodes_eq_replaceAll :
    ∀ {nodes : List Node}, ScriptsHoldText nodes →
      relinkNodes srcOf nodes = Node.replaceAll (loader? srcOf) nodes
  | [], _ => rfl
  | node :: rest, textOnly => by
      rw [relinkNodes, Node.replaceAll, relinkNode_eq_replace textOnly.of_cons.1,
        relinkNodes_eq_replaceAll textOnly.of_cons.2]

end

mutual

/-- No script that has a URL is left after replacing. -/
theorem loader_exhaustive :
    ∀ {node : Node}, ScriptsHoldText [node] →
      ∀ left ∈ Node.elementsNamed "script" (node.replace (loader? srcOf)),
        ∀ script, left.script? = some script → srcOf (Signature.ofScript script) = none
  | .string _ _, _, _, member, _, _ => by
      rw [Node.replace, loader?_string, Option.getD_none, Node.elementsNamed] at member
      exact absurd member List.not_mem_nil
  | .element name attributes children, textOnly, left, member, script, found => by
      by_cases inline : isInlineScriptTag name attributes = true
      · obtain rfl := name_of_isInlineScriptTag inline
        rw [Node.replace, loader?_of_inline inline,
          Node.replaceAll_strings loader?_string textOnly.of_script] at member
        cases known : srcOf (Signature.ofScript ⟨attributes, scriptText children⟩) with
        | none =>
            have only : left = .element "script" attributes children := by
              simpa [known, Node.elementsNamed, elementsNamedInAll_strings textOnly.of_script]
                using member
            rw [only, Node.script?, if_pos inline] at found
            rw [← Option.some.inj found, known]
        | some src =>
            have only : left = .element "script" (attributes ++ [("src", src)]) [] := by
              simpa [known, Node.elementsNamed, Node.elementsNamedInAll] using member
            rw [only, Node.script?, not_isInlineScriptTag_of_src] at found
            simp at found
      · rw [Node.replace, loader?_of_not_inline inline, Option.getD_none,
          Node.elementsNamed] at member
        have here_or_below : left = .element name attributes
              (Node.replaceAll (loader? srcOf) children) ∨
            left ∈ elementsNamed "script" (Node.replaceAll (loader? srcOf) children) := by
          split at member
          case isTrue => exact List.mem_cons.mp member
          case isFalse => exact .inr member
        rcases here_or_below with here | below
        · rw [here, Node.script?, if_neg inline] at found
          simp at found
        · exact loader_exhaustive_all textOnly.of_element left below script found

/-- No script that has a URL is left after replacing. -/
theorem loader_exhaustive_all :
    ∀ {nodes : List Node}, ScriptsHoldText nodes →
      ∀ left ∈ elementsNamed "script" (Node.replaceAll (loader? srcOf) nodes),
        ∀ script, left.script? = some script → srcOf (Signature.ofScript script) = none
  | [], _, _, member, _, _ => absurd member List.not_mem_nil
  | node :: rest, textOnly, left, member, script, found => by
      rw [elementsNamed, Node.replaceAll, Node.elementsNamedInAll, List.mem_append] at member
      rcases member with here | later
      · exact loader_exhaustive textOnly.of_cons.1 left here script found
      · exact loader_exhaustive_all textOnly.of_cons.2 left later script found

end

/-! ### The pages of an extraction -/

/-- The scripts that are meant have a URL, the others have none. -/
def linkWhere (isMeant : Signature → Bool) (srcOf : Signature → String)
    (signature : Signature) : Option String :=
  if isMeant signature then some (srcOf signature) else none

/-- The script belongs to a group, and the bundle at that group's place among the
bundles has this URL. -/
def CarriedAt (components : List Component) (srcStart : String) (grouping : List (List Signature))
    (bundles : List Bundle) (signature : Signature) (src : String) : Prop :=
  ∃ (place : Nat) (group : List Signature), grouping[place]? = some group ∧ signature ∈ group ∧
    bundles[place]? = some (groupBundle components srcStart group) ∧
    (groupBundle components srcStart group).src = some src

section Pages

variable (pages : List Page) (components : List Component) {minPageUsage : Int}
  (srcStart : String)

/-- A script that some page holds has a URL as soon as it is extracted. -/
theorem linkOf_of_encountered {signature : Signature} (met : signature ∈ encountered pages) :
    linkOf pages components minPageUsage srcStart signature =
      linkWhere (isExtracted pages components minPageUsage)
        (groupSrc pages components minPageUsage srcStart) signature := by
  rw [linkOf, linkWhere]
  by_cases eligible : isExtracted pages components minPageUsage signature = true
  · rw [if_pos (mem_extracted.mpr ⟨met, eligible⟩), if_pos eligible]
    rfl
  · rw [if_neg fun member => eligible (mem_extracted.mp member).2, if_neg eligible]

/-- What a page becomes, said without its list of scripts. -/
theorem linkPage_eq_replaced {page : Page} (member : page ∈ pages)
    (textOnly : ScriptsHoldText page.nodes) :
    linkPage (linkOf pages components minPageUsage srcStart) page =
      { page with
        nodes := Node.replaceAll
          (loader? (linkWhere (isExtracted pages components minPageUsage)
            (groupSrc pages components minPageUsage srcStart)))
          page.nodes } := by
  have onPage : ∀ script ∈ Node.inlineScriptsOfAll page.nodes,
      linkOf pages components minPageUsage srcStart (Signature.ofScript script) =
        linkWhere (isExtracted pages components minPageUsage)
          (groupSrc pages components minPageUsage srcStart) (Signature.ofScript script) := by
    intro script found
    have met : Signature.ofScript script ∈ encountered pages :=
      mem_encountered.mpr ⟨page, member, List.mem_map_of_mem found⟩
    exact linkOf_of_encountered pages components srcStart met
  rw [linkPage, relinkNodes_congr onPage, relinkNodes_eq_replaceAll textOnly]

/-- A page becomes its old tree with every extracted script, wherever it stands, replaced
by an empty script that loads the bundle that carries it; no extracted script is left. -/
theorem extract_pages_eq_replaced (enough : 1 ≤ minPageUsage)
    (textOnly : ∀ page ∈ pages, ScriptsHoldText page.nodes) :
    ∃ result, extract pages components minPageUsage srcStart = .ok result ∧
      ∃ srcOf : Signature → String,
        (∀ signature ∈ extracted pages components minPageUsage,
          CarriedAt components srcStart (groups pages components minPageUsage) result.bundles
            signature (srcOf signature)) ∧
        (result.pages = pages.map fun page =>
          { page with
            nodes := Node.replaceAll
              (loader? (linkWhere (isExtracted pages components minPageUsage) srcOf))
              page.nodes }) ∧
        ∀ page ∈ result.pages, ∀ left ∈ elementsNamed "script" page.nodes,
          ∀ script, left.script? = some script →
            isExtracted pages components minPageUsage (Signature.ofScript script) = false := by
  refine ⟨_, extract_eq pages components srcStart enough,
    groupSrc pages components minPageUsage srcStart, ?_, ?_, ?_⟩
  · intro signature member
    obtain ⟨place, at_place⟩ := List.getElem?_of_mem (groupOf_mem_groups member)
    refine ⟨place, _, at_place, mem_groupOf member, ?_, rfl⟩
    rw [List.getElem?_map, at_place, Option.map_some]
  · exact List.map_congr_left fun page member =>
      linkPage_eq_replaced pages components srcStart member (textOnly page member)
  · intro page member left leftMember script found
    obtain ⟨old, oldMember, rfl⟩ := List.mem_map.mp member
    have oldTextOnly := textOnly old oldMember
    rw [linkPage_eq_replaced pages components srcStart oldMember oldTextOnly] at leftMember
    have unlinked := loader_exhaustive_all oldTextOnly left leftMember script found
    by_contra eligible
    rw [linkWhere, if_pos (eq_true_of_ne_false eligible)] at unlinked
    cases unlinked

end Pages

/-- An element that loads a bundle of the small site. -/
def loading (name : String) : Node :=
  .element "script" [("src", "/scripts/" ++ name ++ ".js")] []

/-- The trees of the small site once its pages load bundles. -/
def rewrittenSample : List (List Node) :=
  let inner : List Node :=
    ["x-second", "x-second-x-third", "x-second-x-third"].map loading ++ [plainScript "local()"]
  [[loading "x-second"], [.element "div" [] inner], [.element "div" [] inner]]

/-- On the small site only the script that no component declares stays. -/
theorem extract_pages_of_sample :
    (1 : Int) ≤ 2 ∧ (∀ page ∈ samplePages, ScriptsHoldText page.nodes) ∧
      ∃ result, extract samplePages sampleComponents 2 "/scripts/" = .ok result ∧
        result.pages.map (·.nodes) = rewrittenSample ∧
        ∀ page ∈ result.pages, ∀ left ∈ elementsNamed "script" page.nodes,
          ∀ script, left.script? = some script →
            isExtracted samplePages sampleComponents 2 (Signature.ofScript script) = false := by
  have textOnly : ∀ page ∈ samplePages, ScriptsHoldText page.nodes := by decide
  obtain ⟨result, passed, srcOf, -, -, clean⟩ :=
    extract_pages_eq_replaced samplePages sampleComponents "/scripts/" (by decide : (1 : Int) ≤ 2)
      textOnly
  have known : (extract samplePages sampleComponents 2 "/scripts/").toOption.map
      (·.pages.map (·.nodes)) = some rewrittenSample := by
    decide +kernel
  rw [passed] at known
  exact ⟨by decide, textOnly, result, passed, Option.some.inj known, clean⟩

end StaticSite.Bundling
