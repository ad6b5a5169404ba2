/-
Module: StaticSite.Proofs.Expansion.Substitution
Purpose: Filling the slots of what a component expands to is the same as filling them in
  the content that it is given: expansion hands slots in content on as they are.
Trusted boundary: none
Main exports:
  substitute, substituteAll, SlotBinding.substitute, expand_substituted
-/
import StaticSite.Proofs.Expansion.Parametric
import StaticSite.Proofs.Expansion.Success

namespace StaticSite

open Markup

/-! ### Filling slots -/

mutual

/-- Put the supply for its name in the place of every slot at or below a node.  What is put
there is not looked into. -/
def substitute (supply : String → List Node) : Node → List Node
  | .string kind text => [.string kind text]
  | .element name attributes children =>
      if name = slotTag then supply (slotName attributes)
      else [.element name attributes (substituteAll supply children)]

/-- Put the supply for its name in the place of every slot at or below some nodes. -/
def substituteAll (supply : String → List Node) : List Node → List Node
  | [] => []
  | node :: rest => substitute supply node ++ substituteAll supply rest

end

/-- Fill the slots in the content for each slot. -/
def SlotBinding.substitute (supply : String → List Node) (content : SlotBinding) : SlotBinding :=
  content.map fun entry => (entry.1, substituteAll supply entry.2)

variable {supply : String → List Node}

theorem substituteAll_append (first second : List Node) :
    substituteAll supply (first ++ second) =
      substituteAll supply first ++ substituteAll supply second := by
  induction first with
  | nil => rfl
  | cons node rest inductionHypothesis =>
      rw [List.cons_append, substituteAll, substituteAll, inductionHypothesis, List.append_assoc]

theorem SlotBinding.get_substitute (content : SlotBinding) (slot : String) :
    (content.substitute supply).get slot = substituteAll supply (content.get slot) := by
  induction content with
  | nil => rfl
  | cons entry rest inductionHypothesis =>
      obtain ⟨key, nodes⟩ := entry
      simp only [SlotBinding.substitute, SlotBinding.get] at inductionHypothesis
      by_cases same : slot = key
      · simp [SlotBinding.substitute, SlotBinding.get, same]
      · simp only [SlotBinding.substitute, SlotBinding.get, List.map_cons, lookup_cons_of_ne same]
        exact inductionHypothesis

/-! ### Expansion and slots -/

/-- Templates leave no slots of their own behind, so filling slots goes past everything
that rendering adds. -/
theorem substitution_compatible (table : ComponentTable) :
    Compatible table fun nodes filled => filled = substituteAll supply nodes where
  nil := rfl
  string := fun kind text => by simp [substituteAll, StaticSite.substitute]
  append := by
    rintro first _ second _ rfl rfl
    rw [substituteAll_append]
  element := by
    rintro name attributes children _ plain rfl
    simp [substituteAll, StaticSite.substitute, plain.notSlot]

/-- A component that is given content with its slots filled expands to what it expands to
otherwise, with the slots filled there; and if it does not expand, it is for the same
reason. -/
theorem expand_substituted {table : ComponentTable} {frame : Frame} {content filled : SlotBinding}
    (agree : ∀ slot, filled.get slot = substituteAll supply (content.get slot)) :
    expand table frame filled = (expand table frame content).map (substituteAll supply) := by
  have same := expand_related (substitution_compatible table) frame agree
  exact same.eq_map

/-- A panel that hands its own slot on to a button, and shows it once more below. -/
def samplePanel : Component where
  name := "x-panel"
  path := Path.ofString "x-panel.html"
  template :=
    [ .element "x-button" [] [.element "slot" [("name", "label")] []],
      .element "p" [] [.element "slot" [("name", "label")] []] ]
  source :=
    "<x-button><slot name=\"label\"></slot></x-button><p><slot name=\"label\"></slot></p>"

/-- Content for the panel that holds a slot in turn. -/
def sampleLabel : SlotBinding :=
  [("label", [.element "b" [] [.element "slot" [("name", " text ")] [.string .text "?"]]])]

/-- What that slot is filled with; the slot in it is not filled again. -/
def sampleSupply (slot : String) : List Node :=
  if slot = "text" then [.string .text "Go", .element "slot" [("name", "text")] []] else []

/-- The label with its slot filled. -/
def sampleFilled : Node :=
  .element "b" [] [.string .text "Go", .element "slot" [("name", "text")] []]

/-- The slot in the label passes through the panel and the button unchanged, so the filled
label passes through them to the same places. -/
theorem expand_substituted_of_sample :
    (∀ slot, (sampleLabel.substitute sampleSupply).get slot =
        substituteAll sampleSupply (sampleLabel.get slot)) ∧
      expand sampleTable ⟨samplePanel, false⟩ (sampleLabel.substitute sampleSupply) =
        .ok [.element "button" [] [sampleFilled], .element "p" [] [sampleFilled]] := by
  have agree := @SlotBinding.get_substitute sampleSupply sampleLabel
  have expanded : expand sampleTable ⟨samplePanel, false⟩ sampleLabel =
      .ok [ .element "button" [] (sampleLabel.get "label"),
            .element "p" [] (sampleLabel.get "label") ] := by
    decide +kernel
  refine ⟨agree, ?_⟩
  rw [expand_substituted agree, expanded]
  decide +kernel

end StaticSite
