/-
Module: StaticSite.Proofs.Expansion.Invocable
Purpose: Which fragments can be used in a template: those whose name is one of a tag.
Trusted boundary: none
Main exports:
  name_of_compile, not_contains_of_isCustomName, invocable_iff
-/
import StaticSite.Proofs.Expansion.References
import StaticSite.Proofs.Markup.ElementNames

namespace StaticSite

open Text Markup

variable {name source : String} {path : Path} {component : Component}

theorem name_of_compile (compiled : compile name path source = .ok component) :
    component.name = name := by
  rw [compile] at compiled
  split at compiled
  case h_1 => cases compiled
  case h_2 =>
    simp only at compiled
    split at compiled
    case isTrue => cases compiled
    case isFalse => rw [← Except.ok.inj compiled]

/-- Among names that are no custom ones there is no custom name. -/
theorem not_contains_of_isCustomName {names : List String}
    (plain : ∀ other ∈ names, isCustomName other = false) (custom : isCustomName name = true) :
    names.contains name = false := by
  rw [List.contains_eq_mem, decide_eq_false_iff_not]
  intro listed
  rw [plain name listed] at custom
  cases custom

/-- The markup of an empty element with the name of a compiled fragment holds an element of this
name exactly if the name is one of a tag, and then it is this element; and an element of this
name stands for the fragment wherever the fragment is registered. -/
theorem invocable_iff (compiled : compileFile path source = .ok component)
    (fragment : component.isPage = false) :
    ((∃ nodes, parse (emptyElement component.name) = .ok nodes ∧
        elementsNamed component.name nodes ≠ []) ↔ isTagName component.name = true) ∧
      (isTagName component.name = true →
        parse (emptyElement component.name) = .ok [.element component.name [] []]) ∧
      ∀ (table : ComponentTable) (owner : Path), component ∈ table.entries →
        table.classifyTag owner component.name = .ok (.component component) := by
  have custom := ComponentTable.isCustomName_of_compile compiled fragment
  have lower : toLower component.name = component.name := by
    rw [name_of_compile compiled, componentName, toLower_toLower]
  have read : isTagName component.name = true →
      parse (emptyElement component.name) = .ok [.element component.name [] []] := fun named =>
    parse_emptyElement named lower (not_contains_of_isCustomName (by decide) custom)
      (not_contains_of_isCustomName (by decide) custom)
  refine ⟨⟨?_, fun named => ⟨_, read named, ?_⟩⟩, read, ?_⟩
  · rintro ⟨nodes, parsed, present⟩
    exact isTagName_of_parse parsed present
  · rw [elementsNamed_element, if_pos rfl]
    exact List.cons_ne_nil _ _
  · intro table owner entry
    have notSlot : component.name ≠ slotTag := by
      intro isSlot
      rw [isSlot] at custom
      exact absurd custom (by decide)
    rw [ComponentTable.classifyTag, if_neg notSlot, ComponentTable.get?_of_mem entry]

/-! ### Two fragments -/

/-- A fragment with a letter at the start of its name. -/
def letteredCard : Component where
  name := "site-card"
  path := Path.ofString "Site-Card.html"
  template := [.element "p" [] [.string .text "Card"]]
  source := "<p>Card</p>"

def letteredTable : ComponentTable where
  entries := [letteredCard]
  distinct := by decide
  fragments := by decide

theorem invocable_of_lettered :
    compileFile (Path.ofString "Site-Card.html") "<p>Card</p>" = .ok letteredCard ∧
      letteredCard.isPage = false ∧
      (∃ nodes, parse (emptyElement "site-card") = .ok nodes ∧
        elementsNamed "site-card" nodes ≠ []) ∧
      parse (emptyElement "site-card") = .ok [.element "site-card" [] []] ∧
      letteredTable.classifyTag (Path.ofString "index.html") "site-card" =
        .ok (.component letteredCard) := by
  have compiled : compileFile (Path.ofString "Site-Card.html") "<p>Card</p>" = .ok letteredCard := by
    decide +kernel
  have fragment : letteredCard.isPage = false := by decide
  obtain ⟨invocable, read, classified⟩ := invocable_iff compiled fragment
  exact ⟨compiled, fragment, invocable.mpr (by decide), read (by decide),
    classified letteredTable (Path.ofString "index.html") (List.mem_singleton.mpr rfl)⟩

/-- A fragment with digits in place of letters in its name. -/
def numberedCard : Component where
  name := "1-2"
  path := Path.ofString "1-2.html"
  template := [.element "p" [] [.string .text "Card"]]
  source := "<p>Card</p>"

/-- A fragment with a hyphen in its name is compiled even if no tag can have the name. -/
theorem numbered_not_invocable :
    compileFile (Path.ofString "1-2.html") "<p>Card</p>" = .ok numberedCard ∧
      numberedCard.isPage = false ∧
      ¬ ∃ nodes, parse (emptyElement numberedCard.name) = .ok nodes ∧
        elementsNamed numberedCard.name nodes ≠ [] := by
  refine ⟨by decide +kernel, by decide, ?_⟩
  rintro ⟨nodes, parsed, present⟩
  exact absurd (isTagName_of_parse parsed present) (by decide)

end StaticSite
