/-
Module: StaticSite.Proofs.Expansion.Plainness
Purpose: Rendered nodes are plain markup: at no depth is there a slot, a use of a fragment
  or an element that only a fragment could stand behind.
Trusted boundary: none
Main exports:
  ComponentTable.plain_iff, HoldsPlainNames, plainness_compatible, render_plain
-/
import StaticSite.Proofs.Markup.Elements
import StaticSite.Proofs.Expansion.Parametric
import StaticSite.Proofs.Expansion.Success

namespace StaticSite

open Markup

/-! ### Plain names -/

theorem ComponentTable.get?_eq_none_iff {table : ComponentTable} {name : String} :
    table.get? name = none ↔ table.contains name = false := by
  rw [get?, List.find?_eq_none, contains, names, ← Bool.not_eq_true, List.contains_iff_mem]
  simp

theorem ComponentTable.plain_iff {table : ComponentTable} {name : String} :
    table.Plain name ↔
      ¬ (name = slotTag ∨ table.contains name = true ∨ isCustomName name = true) := by
  constructor
  · rintro ⟨notSlot, unregistered, notCustom⟩
    rw [get?_eq_none_iff] at unregistered
    simp [notSlot, unregistered, notCustom]
  · intro plain
    simp only [not_or, Bool.not_eq_true] at plain
    exact ⟨plain.1, get?_eq_none_iff.mpr plain.2.1, plain.2.2⟩

/-! ### Plain nodes -/

/-- All elements at any depth have plain names. -/
def HoldsPlainNames (table : ComponentTable) (nodes : List Node) : Prop :=
  ∀ name, ¬ table.Plain name → elementsNamed name nodes = []

/-- Every way to put nodes together keeps them plain. -/
theorem plainness_compatible (table : ComponentTable) :
    Compatible table fun nodes _ => HoldsPlainNames table nodes where
  nil := fun _ _ => rfl
  string := fun _ _ _ _ => rfl
  append := by
    intro first _ second _ firstPlain secondPlain name special
    have inFirst := firstPlain name special
    have inSecond := secondPlain name special
    rw [elementsNamed] at inFirst inSecond ⊢
    rw [elementsNamedInAll_append, inFirst, inSecond, List.append_nil]
  element := by
    intro tag attributes children _ plain childrenPlain name special
    have apart : tag ≠ name := by
      rintro rfl
      exact special plain
    have below := childrenPlain name special
    rw [elementsNamed] at below
    simp [elementsNamed, Node.elementsNamedInAll, Node.elementsNamed, apart, below]

/-- What rendering gives holds, at any depth, no slot, no element that is named like an
entry of the table, and no custom element. -/
theorem render_plain {table : ComponentTable} {frame : Frame} {content nodes : List Node}
    (rendered : render table frame content = .ok nodes) :
    ∀ name, name = slotTag ∨ table.contains name = true ∨ isCustomName name = true →
      elementsNamed name nodes = [] := by
  have same := render_related (plainness_compatible table) frame content
  rw [rendered] at same
  intro name special
  exact same.of_ok name fun plain => ComponentTable.plain_iff.mp plain special

/-- A page that gives a button its own slot, and a card below. -/
def samplePage : Component where
  name := "index"
  path := Path.ofString "index.html"
  template :=
    [ .element "html" []
        [ .element "x-button" [] [.element "slot" [("name", "label")] []],
          .element "x-card" [] [] ] ]
  source :=
    "<html><x-button><slot name=\"label\"></slot></x-button><x-card></x-card></html>"

/-- Content for the page's slot that uses a button itself and holds a slot of no template. -/
def samplePageContent : List Node :=
  [ .element "template" [("slot", "label")]
      [.element "x-button" [] [.string .template "In"], .element "slot" [] []] ]

/-- Neither the uses in the page and in its content nor the slots are left. -/
theorem render_plain_of_sample :
    ∃ nodes, render sampleTable ⟨samplePage, false⟩ samplePageContent = .ok nodes ∧
      nodes =
        [ .element "html" []
            [ .element "button" [] [.element "button" [] [.string .template "In"]],
              .element "button" [] [.string .text "Go"], .element "button" [] [] ] ] ∧
      elementsNamed "slot" nodes = [] ∧ elementsNamed "x-button" nodes = [] ∧
      elementsNamed "x-unknown" nodes = [] := by
  have rendered : render sampleTable ⟨samplePage, false⟩ samplePageContent =
      .ok
        [ .element "html" []
            [ .element "button" [] [.element "button" [] [.string .template "In"]],
              .element "button" [] [.string .text "Go"], .element "button" [] [] ] ] := by
    decide +kernel
  have plain := render_plain rendered
  exact ⟨_, rendered, rfl, plain "slot" (.inl rfl),
    plain "x-button" (.inr (.inl (by decide +kernel))),
    plain "x-unknown" (.inr (.inr (by decide +kernel)))⟩

end StaticSite
