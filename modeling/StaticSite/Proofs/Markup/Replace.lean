/-
Module: StaticSite.Proofs.Markup.Replace
Purpose: Replacing nodes of a tree where they stand, and documents whose scripts hold
  only text.
Trusted boundary: none
Main exports:
  Node.replace, Node.replaceAll, ScriptsHoldText, Attributes.insert_of_absent,
  Attributes.get?_insert_self
-/
import StaticSite.Markup.Script
import StaticSite.Proofs.Markup.Elements
import StaticSite.Proofs.FirstOccurrence

namespace StaticSite.Markup

/-! ### Replacing nodes of a tree -/

mutual

/-- Put a replacement at every place of a tree whose node has one.  What is put there is
not looked into again. -/
def Node.replace (replacement? : Node → Option Node) : Node → Node
  | .string kind text => (replacement? (.string kind text)).getD (.string kind text)
  | .element name attributes children =>
      (replacement? (.element name attributes children)).getD
        (.element name attributes (Node.replaceAll replacement? children))

/-- Put a replacement at every place below some nodes whose node has one. -/
def Node.replaceAll (replacement? : Node → Option Node) : List Node → List Node
  | [] => []
  | node :: rest => Node.replace replacement? node :: Node.replaceAll replacement? rest

end

/-- Strings that have no replacement stay as they are. -/
theorem Node.replaceAll_strings {replacement? : Node → Option Node}
    (keeps : ∀ kind text, replacement? (.string kind text) = none) {nodes : List Node}
    (strings : ∀ node ∈ nodes, node.isString = true) :
    Node.replaceAll replacement? nodes = nodes := by
  induction nodes with
  | nil => rfl
  | cons node rest inductionHypothesis =>
      rw [Node.replaceAll, inductionHypothesis fun other member =>
        strings other (List.mem_cons_of_mem node member)]
      cases node with
      | string kind text => rw [Node.replace, keeps kind text, Option.getD_none]
      | element name attributes children =>
          exact absurd (strings _ List.mem_cons_self) Bool.false_ne_true

/-- Among strings there are no elements. -/
theorem elementsNamedInAll_strings {name : String} {nodes : List Node}
    (strings : ∀ node ∈ nodes, node.isString = true) :
    Node.elementsNamedInAll name nodes = [] := by
  induction nodes with
  | nil => rfl
  | cons node rest inductionHypothesis =>
      rw [Node.elementsNamedInAll, inductionHypothesis fun other member =>
        strings other (List.mem_cons_of_mem node member), List.append_nil]
      cases node with
      | string kind text => rw [Node.elementsNamed]
      | element tag attributes children =>
          exact absurd (strings _ List.mem_cons_self) Bool.false_ne_true

/-! ### Scripts that hold text -/

/-- The children of every script, wherever it stands, are strings. -/
def ScriptsHoldText (nodes : List Node) : Prop :=
  ∀ node ∈ elementsNamed "script" nodes, ∀ child ∈ node.children, child.isString = true

instance (nodes : List Node) : Decidable (ScriptsHoldText nodes) :=
  inferInstanceAs
    (Decidable (∀ node ∈ elementsNamed "script" nodes, ∀ child ∈ node.children,
      child.isString = true))

namespace ScriptsHoldText

variable {nodes first second : List Node}

theorem nil : ScriptsHoldText [] :=
  fun _ member => absurd member List.not_mem_nil

theorem of_cons {node : Node} {rest : List Node}
    (textOnly : ScriptsHoldText (node :: rest)) :
    ScriptsHoldText [node] ∧ ScriptsHoldText rest := by
  constructor
  · intro script member
    exact textOnly script (elementsNamed_subset_append_left "script" [node] rest member)
  · intro script member
    exact textOnly script (elementsNamed_subset_append_right "script" [node] rest member)

theorem of_element {name : String} {attributes : Attributes}
    {children : List Node} (textOnly : ScriptsHoldText [.element name attributes children]) :
    ScriptsHoldText children := by
  intro script member
  exact textOnly script (elementsNamed_children_subset "script" name attributes children member)

theorem of_script {attributes : Attributes} {children : List Node}
    (textOnly : ScriptsHoldText [.element "script" attributes children]) :
    ∀ child ∈ children, child.isString = true := by
  apply textOnly (.element "script" attributes children)
  rw [elementsNamed_element, if_pos rfl]
  exact List.mem_cons_self

/-- The nodes can be looked at one by one. -/
theorem iff_forall : ScriptsHoldText nodes ↔ ∀ node ∈ nodes, ScriptsHoldText [node] := by
  induction nodes with
  | nil => exact iff_of_true .nil (List.forall_mem_nil _)
  | cons node rest inductionHypothesis =>
      rw [List.forall_mem_cons, ← inductionHypothesis]
      constructor
      · exact of_cons
      · rintro ⟨here, later⟩ script member
        rw [← List.singleton_append, elementsNamed_append] at member
        rcases List.mem_append.mp member with inNode | inRest
        · exact here script inNode
        · exact later script inRest

theorem append (one : ScriptsHoldText first) (other : ScriptsHoldText second) :
    ScriptsHoldText (first ++ second) :=
  iff_forall.mpr (List.forall_mem_append.mpr ⟨iff_forall.mp one, iff_forall.mp other⟩)

theorem reverse (textOnly : ScriptsHoldText nodes) : ScriptsHoldText nodes.reverse :=
  iff_forall.mpr fun node member => iff_forall.mp textOnly node (List.mem_reverse.mp member)

theorem string (kind : StringKind) (text : String) : ScriptsHoldText [.string kind text] :=
  fun _ member => absurd member List.not_mem_nil

/-- An element is as good as its children, but a script needs strings. -/
theorem element {name : String} {attributes : Attributes} {children : List Node}
    (textOnly : ScriptsHoldText children)
    (strings : name = "script" → ∀ child ∈ children, child.isString = true) :
    ScriptsHoldText [.element name attributes children] := by
  intro script member
  rw [elementsNamed_element] at member
  split at member
  case isTrue isScript =>
    rcases List.mem_cons.mp member with rfl | below
    · exact strings isScript
    · exact textOnly script below
  case isFalse => exact textOnly script member

end ScriptsHoldText

theorem name_of_isInlineScriptTag {name : String} {attributes : Attributes}
    (inline : isInlineScriptTag name attributes = true) : name = "script" := by
  rw [isInlineScriptTag, Bool.and_eq_true_iff] at inline
  exact eq_of_beq inline.1

/-- An inline script has no `src` attribute. -/
theorem has_src_of_isInlineScriptTag {name : String} {attributes : Attributes}
    (inline : isInlineScriptTag name attributes = true) : attributes.has "src" = false := by
  rw [isInlineScriptTag, declaresInlineScript, Bool.and_eq_true_iff, Bool.and_eq_true_iff] at inline
  simpa using inline.2.1

/-- A name that is not present goes to the end. -/
theorem Attributes.insert_of_absent {attributes : Attributes} {name : String}
    (absent : attributes.has name = false) (value : String) :
    attributes.insert name value = attributes ++ [(name, value)] := by
  induction attributes with
  | nil => rfl
  | cons first rest inductionHypothesis =>
      obtain ⟨key, old⟩ := first
      by_cases same : name = key
      · subst same
        simp [Attributes.has, Attributes.get?] at absent
      · have absentInRest : Attributes.has rest name = false := by
          simpa [Attributes.has, Attributes.get?, lookup_cons_of_ne same] using absent
        rw [Attributes.insert, if_neg (Ne.symm same), inductionHypothesis absentInRest,
          List.cons_append]

/-- An attribute has the value that it was set to. -/
theorem Attributes.get?_insert_self (attributes : Attributes) (name value : String) :
    (attributes.insert name value).get? name = some value := by
  induction attributes with
  | nil => simp [Attributes.insert, Attributes.get?]
  | cons entry rest inductionHypothesis =>
      obtain ⟨key, old⟩ := entry
      by_cases same : key = name
      · simp [Attributes.insert, Attributes.get?, same]
      · rw [Attributes.get?] at inductionHypothesis
        rw [Attributes.insert, if_neg same, Attributes.get?, lookup_cons_of_ne (Ne.symm same),
          inductionHypothesis]

/-- An element with a `src` attribute is not an inline script. -/
theorem not_isInlineScriptTag_of_src {name : String} {attributes : Attributes} {src : String} :
    isInlineScriptTag name (attributes ++ [("src", src)]) = false := by
  have present : Attributes.has (attributes ++ [("src", src)]) "src" = true := by
    simp only [Attributes.has, Attributes.get?, List.lookup_append]
    cases attributes.lookup "src" <;> rfl
  simp [isInlineScriptTag, declaresInlineScript, present]

end StaticSite.Markup
