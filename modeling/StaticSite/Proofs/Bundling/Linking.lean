/-
Module: StaticSite.Proofs.Bundling.Linking
Purpose: What pages become when their extracted scripts are replaced by links.
Trusted boundary: none
Main exports:
  Registry.link?, linkPage, linkLog?, relinkNodes_congr, relinkPages_spec
-/
import StaticSite.Bundling.Extraction
import StaticSite.Proofs.Bundling.Registry
import StaticSite.Proofs.FirstOccurrence

namespace StaticSite.Bundling

open Markup

/-! ### Replacing scripts in a tree -/

mutual

/-- Only the URLs of the scripts at or below a node matter. -/
theorem relinkNode_congr {first second : Signature → Option String} :
    ∀ {node : Node},
      (∀ script ∈ node.inlineScripts,
        first (Signature.ofScript script) = second (Signature.ofScript script)) →
      relinkNode first node = relinkNode second node
  | .string _ _, _ => rfl
  | .element name attributes children, same => by
      by_cases isScript : isInlineScriptTag name attributes = true
      · have here := same ⟨attributes, scriptText children⟩ (by simp [Node.inlineScripts, isScript])
        simp only [relinkNode, if_pos isScript, here]
      · have below : ∀ script ∈ Node.inlineScriptsOfAll children,
            first (Signature.ofScript script) = second (Signature.ofScript script) := by
          intro script member
          exact same script (by simpa [Node.inlineScripts, isScript] using member)
        simp only [relinkNode, if_neg isScript, relinkNodes_congr below]

/-- Only the URLs of the scripts at or below some nodes matter. -/
theorem relinkNodes_congr {first second : Signature → Option String} :
    ∀ {nodes : List Node},
      (∀ script ∈ Node.inlineScriptsOfAll nodes,
        first (Signature.ofScript script) = second (Signature.ofScript script)) →
      relinkNodes first nodes = relinkNodes second nodes
  | [], _ => rfl
  | node :: rest, same => by
      simp only [Node.inlineScriptsOfAll, List.mem_append] at same
      rw [relinkNodes, relinkNodes, relinkNode_congr fun script member => same script (.inl member),
        relinkNodes_congr fun script member => same script (.inr member)]

end

/-! ### Replacing scripts on pages -/

/-- The page with links in place of the scripts that have a URL. -/
def linkPage (srcOf : Signature → Option String) (page : Page) : Page :=
  { page with nodes := relinkNodes srcOf page.nodes }

/-- What is logged about a page, if it loads any script file. -/
def linkLog? (srcOf : Signature → Option String) (page : Page) : Option LogEntry :=
  let srcs := page.signatures.filterMap srcOf
  if srcs.isEmpty then none else some (pageEntry page srcs)

/-- The URL of the bundle that carries a script. -/
def Registry.link? (registry : Registry) (signature : Signature) : Option String :=
  (registry.carrier? signature).bind (·.src)

/-- Every bundle that carries a script has a URL. -/
def Linked (registry : Registry) : Prop :=
  ∀ {signature : Signature} {bundle : Bundle}, registry.carrier? signature = some bundle →
    ∃ src, bundle.src = some src

variable {registry : Registry}

theorem Linked.of_view {after : Registry} (linked : Linked registry)
    (view : Registry.SameView registry after) (wellFormed : registry.WellFormed) :
    Linked after := by
  intro signature bundle carried
  rw [view.carrier?_eq wellFormed] at carried
  exact linked carried

theorem link?_of_view {after : Registry} (view : Registry.SameView registry after)
    (wellFormed : registry.WellFormed) : after.link? = registry.link? := by
  funext signature
  rw [Registry.link?, Registry.link?, view.carrier?_eq wellFormed]

theorem srcFor_spec (wellFormed : registry.WellFormed) (linked : Linked registry)
    (signature : Signature) :
    ∃ after, srcFor registry signature = .ok (registry.link? signature, after) ∧
      Registry.SameView registry after := by
  obtain ⟨after, resolved, view⟩ := Registry.resolve_spec wellFormed signature
  refine ⟨after, ?_, view⟩
  cases carried : registry.carrier? signature with
  | none =>
      rw [carried] at resolved
      simp only [srcFor, resolved, Registry.link?, carried, Except.mapError, bind, Except.bind]
      rfl
  | some bundle =>
      obtain ⟨src, known⟩ := linked carried
      rw [carried] at resolved
      simp only [srcFor, resolved, Registry.link?, carried, known, Except.mapError, bind,
        Except.bind, Option.bind]
      rfl

/-- The URLs found for some scripts are those of the ones that have one. -/
theorem srcsFor_spec (wellFormed : registry.WellFormed) (linked : Linked registry)
    (signatures : List Signature) :
    ∃ after, srcsFor registry signatures =
        .ok (signatures.filterMap fun signature =>
          (registry.link? signature).map (signature, ·), after) ∧
      Registry.SameView registry after := by
  induction signatures generalizing registry with
  | nil => exact ⟨registry, rfl, .refl wellFormed⟩
  | cons signature rest inductionHypothesis =>
      obtain ⟨middle, found, view⟩ := srcFor_spec wellFormed linked signature
      obtain ⟨after, others, onwards⟩ :=
        inductionHypothesis (view.wellFormed wellFormed) (linked.of_view view wellFormed)
      rw [link?_of_view view wellFormed] at others
      refine ⟨after, ?_, view.trans onwards⟩
      cases known : registry.link? signature with
      | none =>
          rw [known] at found
          simp only [srcsFor, found, others, bind, Except.bind, List.filterMap_cons, known]
          rfl
      | some src =>
          rw [known] at found
          simp only [srcsFor, found, others, bind, Except.bind, List.filterMap_cons, known]
          rfl

/-- Looking up one of the scripts gives its own URL. -/
theorem lookup_filterMap_link {srcOf : Signature → Option String} {signatures : List Signature}
    {signature : Signature} (member : signature ∈ signatures) :
    (signatures.filterMap fun other => (srcOf other).map (other, ·)).lookup signature =
      srcOf signature := by
  induction signatures with
  | nil => simp at member
  | cons first rest inductionHypothesis =>
      rw [List.filterMap_cons]
      by_cases same : signature = first
      · subst same
        cases known : srcOf signature with
        | some src => simp
        | none =>
            simp only [Option.map_none]
            by_cases again : signature ∈ rest
            · rw [inductionHypothesis again, known]
            · rw [List.lookup_eq_none_iff]
              intro entry entryMember
              obtain ⟨other, otherMember, found⟩ := List.mem_filterMap.mp entryMember
              obtain ⟨src, -, rfl⟩ := Option.map_eq_some_iff.mp found
              have apart : signature ≠ other := by
                rintro rfl
                exact again otherMember
              simpa using apart
      · have onwards := inductionHypothesis ((List.mem_cons.mp member).resolve_left same)
        cases known : srcOf first with
        | none => simpa using onwards
        | some src => simpa [lookup_cons_of_ne same] using onwards

/-- Linking goes through all pages without an error and replaces exactly the scripts
that have a URL. -/
theorem relinkPages_spec (wellFormed : registry.WellFormed) (linked : Linked registry)
    (pages : List Page) :
    relinkPages registry pages =
      .ok (pages.map (linkPage registry.link?), pages.filterMap (linkLog? registry.link?)) := by
  induction pages generalizing registry with
  | nil => rfl
  | cons page rest inductionHypothesis =>
      obtain ⟨middle, found, view⟩ := srcsFor_spec wellFormed linked page.signatures
      have onwards :=
        inductionHypothesis (view.wellFormed wellFormed) (linked.of_view view wellFormed)
      rw [link?_of_view view wellFormed] at onwards
      have nodes : relinkNodes (fun signature =>
            (page.signatures.filterMap fun other =>
              (registry.link? other).map (other, ·)).lookup signature) page.nodes =
          relinkNodes registry.link? page.nodes :=
        relinkNodes_congr fun script member =>
          lookup_filterMap_link (List.mem_map_of_mem (f := Signature.ofScript) member)
      have srcs : (page.signatures.filterMap fun other =>
            (registry.link? other).map (other, ·)).map (·.2) =
          page.signatures.filterMap registry.link? := by
        rw [List.map_filterMap]
        refine List.filterMap_congr fun other _ => ?_
        cases registry.link? other <;> rfl
      have empty : (page.signatures.filterMap fun other =>
            (registry.link? other).map (other, ·)).isEmpty =
          (page.signatures.filterMap registry.link?).isEmpty := by
        rw [← srcs, List.isEmpty_map]
      simp only [relinkPages, found, onwards, nodes, srcs, empty, bind, Except.bind,
        List.map_cons, List.filterMap_cons, linkPage, linkLog?]
      split <;> rfl

end StaticSite.Bundling
