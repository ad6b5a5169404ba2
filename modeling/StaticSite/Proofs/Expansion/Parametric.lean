/-
Module: StaticSite.Proofs.Expansion.Parametric
Purpose: Content for slots is handed on and never looked into.  Contents that are related
  lead to the same error or to related nodes, for every relation that passes from nodes to
  what rendering makes of them.
Trusted boundary: none
Main exports:
  SameOutcome, ComponentTable.Plain, Compatible, SlotBinding.Related, Scope.Related,
  Scope.renderAll_related, expand_related, render_related
-/
import StaticSite.Proofs.Expansion.Walk
import StaticSite.Proofs.FirstOccurrence

namespace StaticSite

open Markup

/-! ### Outcomes -/

/-- Two computations give related values, or stop for the same reason. -/
inductive SameOutcome {ε α β : Type} (related : α → β → Prop) : Except ε α → Except ε β → Prop where
  | ok {value : α} {other : β} (holds : related value other) :
      SameOutcome related (.ok value) (.ok other)
  | error (cause : ε) : SameOutcome related (.error cause) (.error cause)

namespace SameOutcome

variable {ε α β γ δ : Type} {related : α → β → Prop} {first : Except ε α} {second : Except ε β}

/-- Sequences have the same outcome when their first steps have, and their rests have it
for related values. -/
theorem bind {onwards : γ → δ → Prop} {next : α → Except ε γ} {next' : β → Except ε δ}
    (same : SameOutcome related first second)
    (rest : ∀ value other, related value other → SameOutcome onwards (next value) (next' other)) :
    SameOutcome onwards (first >>= next) (second >>= next') := by
  cases same with
  | ok holds => exact rest _ _ holds
  | error cause => exact .error cause

theorem of_ok {value : α} {other : β}
    (same : SameOutcome related (.ok value : Except ε α) (.ok other)) : related value other := by
  cases same with
  | ok holds => exact holds

/-- Being related by a function means that the second computation applies it in the end. -/
theorem eq_map {change : α → β}
    (same : SameOutcome (fun value other => other = change value) first second) :
    second = first.map change := by
  cases same with
  | ok holds =>
      rw [holds]
      rfl
  | error cause => rfl

end SameOutcome

/-! ### Relations that rendering keeps -/

/-- Elements of this name are copied: they are neither slots nor uses of a fragment, and
no fragment could have the name. -/
structure ComponentTable.Plain (table : ComponentTable) (name : String) : Prop where
  notSlot : name ≠ slotTag
  unregistered : table.get? name = none
  notCustom : isCustomName name = false

/-- The relation holds between nodes that are put together alike from related nodes. -/
structure Compatible (table : ComponentTable) (related : List Node → List Node → Prop) :
    Prop where
  nil : related [] []
  string : ∀ kind text, related [.string kind text] [.string kind text]
  append : ∀ {first first' second second' : List Node}, related first first' →
    related second second' → related (first ++ second) (first' ++ second')
  element : ∀ {name : String} {attributes : Attributes} {children children' : List Node},
    table.Plain name → related children children' →
      related [.element name attributes children] [.element name attributes children']

/-! ### Contents -/

namespace SlotBinding

/-- Each slot has related contents. -/
def Related (related : List Node → List Node → Prop) (given other : SlotBinding) : Prop :=
  ∀ slot, related (given.get slot) (other.get slot)

/-- Adding content to a slot leaves the other slots alone. -/
theorem get_extend (content : SlotBinding) (slot : String) (nodes : List Node) (name : String) :
    (content.extend slot nodes).get name =
      if name = slot then content.get name ++ nodes else content.get name := by
  induction content with
  | nil =>
      by_cases same : name = slot
      · simp [extend, get, same]
      · simp [extend, get, lookup_cons_of_ne same, same]
  | cons entry rest inductionHypothesis =>
      obtain ⟨key, old⟩ := entry
      simp only [get] at inductionHypothesis
      by_cases here : key = slot
      · subst here
        by_cases same : name = key
        · simp [extend, get, same]
        · simp [extend, get, lookup_cons_of_ne same, same]
      · by_cases asked : name = key
        · subst asked
          simp [extend, get, here]
        · simp only [extend, if_neg here, get, lookup_cons_of_ne asked]
          exact inductionHypothesis

variable {table : ComponentTable} {related : List Node → List Node → Prop}

theorem Related.nil (compatible : Compatible table related) : Related related [] [] :=
  fun _ => compatible.nil

theorem Related.extend (compatible : Compatible table related) {given other : SlotBinding}
    (contents : Related related given other) (slot : String) {nodes nodes' : List Node}
    (added : related nodes nodes') :
    Related related (given.extend slot nodes) (other.extend slot nodes') := by
  intro name
  rw [get_extend, get_extend]
  split
  case isTrue => exact compatible.append (contents name) added
  case isFalse => exact contents name

end SlotBinding

/-! ### Rendering a template -/

namespace Scope

variable {given other : Scope} {related : List Node → List Node → Prop}

/-- The surroundings differ in the contents alone, which are related, and expand fragments
alike with related contents. -/
structure Related (related : List Node → List Node → Prop) (given other : Scope) : Prop where
  table_eq : other.table = given.table
  owner_eq : other.owner = given.owner
  binding : given.binding.Related related other.binding
  invoke : ∀ target content content', SlotBinding.Related related content content' →
    SameOutcome related (given.invoke target content) (other.invoke target content')

theorem Related.classify_eq (scopes : given.Related related other) (name : String) :
    other.classify name = given.classify name := by
  rw [classify, classify, scopes.table_eq, scopes.owner_eq]

/-- What is classified as an element has a plain name. -/
theorem plain_of_classify {scope : Scope} {name : String}
    (kind : scope.classify name = .ok .element) : scope.table.Plain name := by
  by_cases isSlot : name = slotTag
  · subst isSlot
    simp at kind
  · cases found : scope.table.get? name with
    | some target => simp [classify_of_some isSlot found] at kind
    | none =>
        cases custom : isCustomName name with
        | true => simp [classify_of_unknown isSlot found custom] at kind
        | false => exact ⟨isSlot, found, custom⟩

mutual

/-- A node is rendered alike in related surroundings. -/
theorem render_related (compatible : Compatible given.table related)
    (scopes : given.Related related other) :
    ∀ node, SameOutcome related (given.render node) (other.render node)
  | .string kind text => .ok (compatible.string kind text)
  | .element name attributes children => by
      rw [render, render, scopes.classify_eq name]
      cases kind : given.classify name with
      | error cause => exact .error cause
      | ok meaning =>
          cases meaning with
          | slot => exact .ok (scopes.binding (slotName attributes))
          | component target =>
              have contents := fill_related compatible scopes children (.nil compatible)
              exact contents.bind fun content content' => scopes.invoke target content content'
          | element =>
              have inside := renderAll_related compatible scopes children
              exact inside.bind fun _ _ holds =>
                .ok (compatible.element (plain_of_classify kind) holds)

/-- Nodes are rendered alike in related surroundings. -/
theorem renderAll_related (compatible : Compatible given.table related)
    (scopes : given.Related related other) :
    ∀ nodes, SameOutcome related (given.renderAll nodes) (other.renderAll nodes)
  | [] => .ok compatible.nil
  | node :: rest =>
      (render_related compatible scopes node).bind fun _ _ first =>
        (renderAll_related compatible scopes rest).bind fun _ _ more =>
          .ok (compatible.append first more)

/-- The children of a use are added alike to related contents. -/
theorem fill_related (compatible : Compatible given.table related)
    (scopes : given.Related related other) :
    ∀ nodes {content content' : SlotBinding}, content.Related related content' →
      SameOutcome (SlotBinding.Related related) (given.fill content nodes)
        (other.fill content' nodes)
  | [], _, _, contents => .ok contents
  | .string kind text :: rest, _, _, contents =>
      fill_related compatible scopes rest
        (contents.extend compatible defaultSlot (compatible.string kind text))
  | .element name attributes children :: rest, content, content', contents => by
      rw [fill, fill]
      cases wrapperSlot? name attributes with
      | some slot =>
          exact (renderAll_related compatible scopes children).bind fun _ _ rendered =>
            fill_related compatible scopes rest (contents.extend compatible slot rendered)
      | none =>
          have child := render_related compatible scopes (.element name attributes children)
          exact child.bind fun _ _ rendered =>
            fill_related compatible scopes rest (contents.extend compatible defaultSlot rendered)

end

end Scope

/-! ### Expanding components -/

section Expansion

variable {table : ComponentTable} {related : List Node → List Node → Prop}

/-- A component is expanded alike with related contents.  The induction is on the depth that
is left, for a fragment that the template uses is expanded with one level less. -/
theorem expandWithin_related (compatible : Compatible table related) (depth : Nat) :
    ∀ stack frame {content content' : SlotBinding}, content.Related related content' →
      SameOutcome related (expandWithin table depth stack frame content)
        (expandWithin table depth stack frame content') := by
  induction depth with
  | zero =>
      intro stack frame content content' _
      exact .error _
  | succ depth inductionHypothesis =>
      intro stack frame content content' contents
      have scopes : (frameScope table depth stack frame content).Related related
          (frameScope table depth stack frame content') :=
        { table_eq := rfl
          owner_eq := rfl
          binding := contents
          invoke := fun target _ _ handedOn =>
            inductionHypothesis (stack ++ [frame]) ⟨target, true⟩ handedOn }
      rw [expandWithin_succ, expandWithin_succ]
      split
      case isTrue => exact .error _
      case isFalse => exact Scope.renderAll_related compatible scopes frame.component.template

theorem expand_related (compatible : Compatible table related) (frame : Frame)
    {content content' : SlotBinding} (contents : content.Related related content') :
    SameOutcome related (expand table frame content) (expand table frame content') :=
  expandWithin_related compatible (table.size + 1) [] frame contents

/-- Every component is rendered to nodes that are related to themselves, whatever the nodes
given to it are: they pass through the same rules as templates. -/
theorem render_related (compatible : Compatible table related) (frame : Frame)
    (content : List Node) :
    SameOutcome related (render table frame content) (render table frame content) := by
  have scopes : (contentScope table frame).Related related (contentScope table frame) :=
    { table_eq := rfl
      owner_eq := rfl
      binding := .nil compatible
      invoke := fun target _ _ handedOn =>
        expandWithin_related compatible table.size [frame] ⟨target, true⟩ handedOn }
  have contents := Scope.fill_related compatible scopes content (.nil compatible)
  exact contents.bind fun _ _ handedOn => expand_related compatible frame handedOn

end Expansion

end StaticSite
