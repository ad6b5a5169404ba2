/-
Module: StaticSite.Proofs.Markup.Elements
Purpose: Where the elements of a name stand in a tree, trees whose void elements are empty,
  and induction over trees.
Trusted boundary: none
Main exports:
  elementsNamed_append, elementsNamed_element, elementsNamed_children_subset, VoidElementsEmpty,
  childListInduction
-/
import StaticSite.Markup.Script

namespace StaticSite.Markup

/-! ### Elements of a name -/

theorem elementsNamedInAll_append (name : String) (first second : List Node) :
    Node.elementsNamedInAll name (first ++ second) =
      Node.elementsNamedInAll name first ++ Node.elementsNamedInAll name second := by
  induction first with
  | nil => rfl
  | cons node rest inductionHypothesis =>
      rw [List.cons_append, Node.elementsNamedInAll, Node.elementsNamedInAll,
        inductionHypothesis, List.append_assoc]

theorem elementsNamed_append (name : String) (first second : List Node) :
    elementsNamed name (first ++ second) =
      elementsNamed name first ++ elementsNamed name second :=
  elementsNamedInAll_append name first second

theorem elementsNamed_subset_append_left (name : String) (first second : List Node) :
    elementsNamed name first ⊆ elementsNamed name (first ++ second) := by
  rw [elementsNamed_append]
  exact List.subset_append_left _ _

theorem elementsNamed_subset_append_right (name : String) (first second : List Node) :
    elementsNamed name second ⊆ elementsNamed name (first ++ second) := by
  rw [elementsNamed_append]
  exact List.subset_append_right _ _

/-- An element comes before the elements inside it. -/
theorem elementsNamed_element (name tag : String) (attributes : Attributes)
    (children : List Node) :
    elementsNamed name [.element tag attributes children] =
      if tag = name then .element tag attributes children :: elementsNamed name children
      else elementsNamed name children := by
  rw [elementsNamed, Node.elementsNamedInAll, Node.elementsNamedInAll, List.append_nil,
    Node.elementsNamed]
  rfl

/-- What stands inside an element stands in every list that holds the element. -/
theorem elementsNamed_children_subset (name tag : String) (attributes : Attributes)
    (children : List Node) :
    elementsNamed name children ⊆ elementsNamed name [.element tag attributes children] := by
  rw [elementsNamed_element]
  split
  · exact List.subset_cons_self _ _
  · exact List.Subset.refl _

/-! ### Void elements -/

/-- No void element, wherever it stands, has children. -/
def VoidElementsEmpty (nodes : List Node) : Prop :=
  ∀ name ∈ voidElements, ∀ node ∈ elementsNamed name nodes, node.children = []

instance (nodes : List Node) : Decidable (VoidElementsEmpty nodes) :=
  inferInstanceAs
    (Decidable (∀ name ∈ voidElements, ∀ node ∈ elementsNamed name nodes, node.children = []))

namespace VoidElementsEmpty

theorem of_append {first second : List Node} (empty : VoidElementsEmpty (first ++ second)) :
    VoidElementsEmpty first ∧ VoidElementsEmpty second := by
  constructor
  · intro name isVoid node member
    exact empty name isVoid node (elementsNamed_subset_append_left name first second member)
  · intro name isVoid node member
    exact empty name isVoid node (elementsNamed_subset_append_right name first second member)

theorem of_cons {node : Node} {rest : List Node} (empty : VoidElementsEmpty (node :: rest)) :
    VoidElementsEmpty [node] ∧ VoidElementsEmpty rest :=
  @of_append [node] rest empty

variable {name : String} {attributes : Attributes} {children : List Node}

theorem of_element (empty : VoidElementsEmpty [.element name attributes children]) :
    VoidElementsEmpty children := fun tag isVoid node member =>
  empty tag isVoid node (elementsNamed_children_subset tag name attributes children member)

/-- An element with children is not void. -/
theorem not_void (empty : VoidElementsEmpty [.element name attributes children])
    (filled : children ≠ []) : isVoidElement name = false := by
  rw [← Bool.not_eq_true]
  intro isVoid
  have listed : name ∈ voidElements := List.contains_iff_mem.mp isVoid
  refine filled (empty name listed (.element name attributes children) ?_)
  rw [elementsNamed_element, if_pos rfl]
  exact List.mem_cons_self

end VoidElementsEmpty

/-! ### Induction -/

/-- What holds of a list of nodes as soon as it holds of the children of each of them holds of
all lists. -/
theorem childListInduction {motive : List Node → Prop}
    (nodes : ∀ nodes, (∀ node ∈ nodes, motive node.children) → motive nodes) :
    ∀ document, motive document := by
  have below : ∀ node : Node, motive node.children := by
    intro node
    refine @Node.rec (fun node => motive node.children)
      (fun list => ∀ child ∈ list, motive child.children) ?_ ?_ ?_ ?_ node
    · exact fun _ _ => nodes [] (by simp)
    · exact fun _ _ children inside => nodes children inside
    · simp
    · exact fun head tail here there => List.forall_mem_cons.mpr ⟨here, there⟩
  exact fun document => nodes document fun node _ => below node

end StaticSite.Markup
