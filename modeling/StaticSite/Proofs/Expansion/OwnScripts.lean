/-
Module: StaticSite.Proofs.Expansion.OwnScripts
Purpose: The scripts that a component brings along are the inline scripts of its template that stand
  outside of all custom elements.
Trusted boundary: none
Main exports:
  isCustomElement, scriptsReached_own, clientScripts_outside_custom
-/
import StaticSite.Component
import StaticSite.Proofs.Markup.Addresses

namespace StaticSite

open Markup

/-- The node is a custom element. -/
def isCustomElement : Node → Bool
  | .string _ _ => false
  | .element name _ _ => isCustomName name

/-- Nothing is looked for inside of an inline script or of a custom element. -/
def closesTemplate (node : Node) : Bool :=
  node.isInlineScript || isCustomElement node

mutual

theorem scriptsReached_own_node :
    ∀ node : Node, node.scriptsReached closesTemplate = Node.ownScripts node
  | .string _ _ => rfl
  | .element name attributes children => by
      rw [Node.scriptsReached_element, Node.ownScripts, closesTemplate, Node.isInlineScript,
        Node.script?, isCustomElement]
      split
      case isTrue => rfl
      case isFalse =>
        cases isCustomName name with
        | true => rfl
        | false => exact scriptsReached_own children

/-- The scripts that belong to a template are found by the walk that does not look into custom
elements either. -/
theorem scriptsReached_own :
    ∀ nodes, scriptsReached closesTemplate nodes = Node.ownScriptsOfAll nodes
  | [] => rfl
  | node :: rest => by
      rw [scriptsReached_cons, Node.ownScriptsOfAll, scriptsReached_own_node node,
        scriptsReached_own rest]

end

theorem reached_closesTemplate (nodes : List Node) (address : List Nat) :
    reached closesTemplate nodes address =
      (reached Node.isInlineScript nodes address && reached isCustomElement nodes address) := by
  rw [Bool.eq_iff_iff, Bool.and_eq_true]
  simp only [reached, closesTemplate, List.all_eq_true, Bool.not_or, Bool.and_eq_true,
    imp_and, forall_and]

/-- A component brings along those inline scripts of its template that no custom element stands
above, in the same order.  The scripts are told apart by their addresses, which ascend in document
order, so each of them comes once. -/
theorem clientScripts_outside_custom (component : Component) :
    (scriptAddresses component.template).Pairwise (· < ·) ∧
    (scriptAddresses component.template).map (scriptAt? component.template) =
      (inlineScripts component.template).map some ∧
    ((scriptAddresses component.template).filter
        (reached isCustomElement component.template)).map (scriptAt? component.template) =
      component.clientScripts.map some := by
  refine ⟨(pairwise_addresses component.template).filter _,
    map_scriptAddresses component.template, ?_⟩
  have kept : (scriptAddresses component.template).filter
        (reached isCustomElement component.template) =
      (addresses component.template).filter fun address =>
        (scriptAt? component.template address).isSome &&
          reached closesTemplate component.template address := by
    rw [scriptAddresses, List.filter_filter]
    apply List.filter_congr
    intro address _
    rw [reached_closesTemplate, Bool.and_comm, Bool.and_assoc]
  rw [kept, ← map_scriptsReached, scriptsReached_own]
  rfl

end StaticSite
