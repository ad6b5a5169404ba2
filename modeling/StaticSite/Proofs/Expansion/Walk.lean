/-
Module: StaticSite.Proofs.Expansion.Walk
Purpose: Rendering meets every element outside of slots, and whether it succeeds is
  decided by their names alone.
Trusted boundary: none
Main exports:
  Scope.Admits, Scope.Steady, Scope.renderAll_succeeds_iff, Expandable,
  expandWithin_succeeds_iff
-/
import StaticSite.Expansion
import StaticSite.Proofs.Expansion.References
import StaticSite.Proofs.Outcomes

namespace StaticSite

open Markup

/-! ### Rendering a template -/

namespace Scope

variable {scope : Scope}

/-- Elements of this name can be rendered: those of a fragment because its expansion
succeeds, and others unless only a fragment could have the name. -/
def Admits (scope : Scope) (tag : String) : Prop :=
  match scope.table.get? tag with
  | some target => ∀ content, Succeeds (scope.invoke target content)
  | none => isCustomName tag = false

/-- Whether a fragment can be expanded does not depend on the content it is given. -/
def Steady (scope : Scope) : Prop :=
  ∀ target content other,
    Succeeds (scope.invoke target content) → Succeeds (scope.invoke target other)

@[simp] theorem classify_slot : scope.classify slotTag = .ok .slot :=
  rfl

theorem classify_of_some {name : String} {target : Component} (notSlot : name ≠ slotTag)
    (found : scope.table.get? name = some target) :
    scope.classify name = .ok (.component target) := by
  simp [classify, ComponentTable.classifyTag, notSlot, found, Except.mapError]

theorem classify_of_none {name : String} (notSlot : name ≠ slotTag)
    (missing : scope.table.get? name = none) (plain : isCustomName name = false) :
    scope.classify name = .ok .element := by
  simp [classify, ComponentTable.classifyTag, notSlot, missing, plain, Except.mapError]

theorem classify_of_unknown {name : String} (notSlot : name ≠ slotTag)
    (missing : scope.table.get? name = none) (custom : isCustomName name = true) :
    scope.classify name = .error (.unknown ⟨name, scope.owner⟩) := by
  simp [classify, ComponentTable.classifyTag, notSlot, missing, custom, Except.mapError]

theorem admits_of_some (steady : scope.Steady) {name : String} {target : Component}
    (found : scope.table.get? name = some target) (content : SlotBinding) :
    Succeeds (scope.invoke target content) ↔ scope.Admits name := by
  rw [Admits, found]
  constructor
  · intro success other
    exact steady target content other success
  · intro success
    exact success content

theorem admits_of_none {name : String} (missing : scope.table.get? name = none) :
    scope.Admits name ↔ isCustomName name = false := by
  rw [Admits, missing]

theorem eq_template_of_wrapperSlot? {name slot : String} {attributes : Attributes}
    (wrapper : wrapperSlot? name attributes = some slot) : name = "template" := by
  by_contra other
  simp [wrapperSlot?, other] at wrapper

mutual

/-- Rendering a node succeeds when every name met outside of slots can be rendered. -/
theorem render_succeeds_iff (steady : scope.Steady)
    (noTemplate : scope.table.get? "template" = none) :
    ∀ node, Succeeds (scope.render node) ↔ ∀ tag ∈ tagsOf node, scope.Admits tag
  | .string kind text => by
      simp [render, tagsOf]
  | .element name attributes children => by
      by_cases isSlot : name = slotTag
      · subst isSlot
        simp [render, tagsOf]
      · rw [tagsOf, if_neg isSlot, List.forall_mem_cons]
        cases found : scope.table.get? name with
        | some target =>
            rw [render, classify_of_some isSlot found]
            calc
              _ ↔ Succeeds (scope.fill [] children) ∧ scope.Admits name :=
                succeeds_bind_of_iff (admits_of_some steady found)
              _ ↔ (∀ tag ∈ tagsOfAll children, scope.Admits tag) ∧ scope.Admits name := by
                rw [fill_succeeds_iff steady noTemplate children []]
              _ ↔ _ := and_comm
        | none =>
            cases custom : isCustomName name with
            | true =>
                rw [render, classify_of_unknown isSlot found custom, admits_of_none found]
                simp [custom]
            | false =>
                rw [render, classify_of_none isSlot found custom, admits_of_none found]
                refine succeeds_bind_pure.trans ?_
                rw [renderAll_succeeds_iff steady noTemplate children]
                simp [custom]

/-- Rendering nodes succeeds when every name met outside of slots can be rendered. -/
theorem renderAll_succeeds_iff (steady : scope.Steady)
    (noTemplate : scope.table.get? "template" = none) :
    ∀ nodes, Succeeds (scope.renderAll nodes) ↔ ∀ tag ∈ tagsOfAll nodes, scope.Admits tag
  | [] => by
      simp [renderAll, tagsOfAll]
  | node :: rest => by
      rw [renderAll, tagsOfAll, List.forall_mem_append,
        ← render_succeeds_iff steady noTemplate node,
        ← renderAll_succeeds_iff steady noTemplate rest]
      exact succeeds_bind_of_iff fun first => succeeds_bind_pure

/-- Rendering the children of a use succeeds when every name met outside of slots
can be rendered. -/
theorem fill_succeeds_iff (steady : scope.Steady)
    (noTemplate : scope.table.get? "template" = none) :
    ∀ nodes content,
      Succeeds (scope.fill content nodes) ↔ ∀ tag ∈ tagsOfAll nodes, scope.Admits tag
  | [], content => by
      simp [fill, tagsOfAll]
  | .string kind text :: rest, content => by
      rw [fill, tagsOfAll, tagsOf, List.nil_append]
      exact fill_succeeds_iff steady noTemplate rest _
  | .element name attributes children :: rest, content => by
      rw [tagsOfAll, List.forall_mem_append]
      cases wrapper : wrapperSlot? name attributes with
      | some slot =>
          -- A wrapper stands for its children, but its own name can be rendered as well.
          obtain rfl := eq_template_of_wrapperSlot? wrapper
          have own : scope.Admits "template" := (admits_of_none noTemplate).mpr (by decide)
          rw [tagsOf, if_neg (by decide), List.forall_mem_cons, and_iff_right own,
            ← renderAll_succeeds_iff steady noTemplate children, fill, wrapper]
          exact succeeds_bind_of_iff fun rendered =>
            fill_succeeds_iff steady noTemplate rest _
      | none =>
          rw [← render_succeeds_iff steady noTemplate (.element name attributes children),
            fill, wrapper]
          exact succeeds_bind_of_iff fun rendered =>
            fill_succeeds_iff steady noTemplate rest _

end

end Scope

/-! ### Expanding components -/

/-- Every walk along the uses of components that starts with the frame ends before it
is `depth` long, and meets neither an entry of the stack again nor an unknown name. -/
inductive Expandable (table : ComponentTable) : Nat → List Frame → Frame → Prop where
  | enter {depth : Nat} {stack : List Frame} {frame : Frame}
      (fresh : ∀ entry ∈ stack, frame.sameEntry entry = false)
      (known : ∀ tag ∈ frame.component.tags, table.get? tag = none → isCustomName tag = false)
      (within : ∀ used, table.Uses frame.component used →
        Expandable table depth (stack ++ [frame]) ⟨used, true⟩) :
      Expandable table (depth + 1) stack frame

/-- The surroundings in which the template of a frame is rendered. -/
def frameScope (table : ComponentTable) (depth : Nat) (stack : List Frame) (frame : Frame)
    (binding : SlotBinding) : Scope where
  table := table
  owner := frame.component.path
  binding := binding
  invoke := fun target content =>
    expandWithin table depth (stack ++ [frame]) ⟨target, true⟩ content

theorem expandWithin_succ {table : ComponentTable} {depth : Nat} {stack : List Frame}
    {frame : Frame} (binding : SlotBinding) :
    expandWithin table (depth + 1) stack frame binding =
      if stack.any fun entry => frame.sameEntry entry then
        .error (.cycle (chainNames stack frame))
      else
        (frameScope table depth stack frame binding).renderAll frame.component.template :=
  rfl

/-- Expansion succeeds when the walk along uses comes to an end, whatever the content
for the slots is. -/
theorem expandWithin_succeeds_iff {table : ComponentTable}
    (noTemplate : table.get? "template" = none) (depth : Nat) :
    ∀ stack frame binding,
      Succeeds (expandWithin table depth stack frame binding) ↔
        Expandable table depth stack frame := by
  induction depth with
  | zero =>
      intro stack frame binding
      constructor
      · intro success
        exact absurd success (not_succeeds_error _)
      · intro walk
        cases walk
  | succ depth inductionHypothesis =>
      intro stack frame binding
      have steady : (frameScope table depth stack frame binding).Steady := by
        intro target content other success
        exact (inductionHypothesis _ _ other).mpr ((inductionHypothesis _ _ content).mp success)
      rw [expandWithin_succ]
      by_cases met : (stack.any fun entry => frame.sameEntry entry) = true
      · rw [if_pos met]
        constructor
        · intro success
          exact absurd success (not_succeeds_error _)
        · rintro ⟨fresh, -, -⟩
          obtain ⟨entry, member, same⟩ := List.any_eq_true.mp met
          rw [fresh entry member] at same
          exact absurd same Bool.false_ne_true
      · rw [if_neg met, Scope.renderAll_succeeds_iff steady noTemplate]
        constructor
        · intro admitted
          refine .enter ?_ ?_ ?_
          · intro entry member
            by_contra same
            exact met (List.any_eq_true.mpr ⟨entry, member, eq_true_of_ne_false same⟩)
          · intro tag member missing
            exact (Scope.admits_of_none missing).mp (admitted tag member)
          · rintro used ⟨tag, member, found⟩
            have success := (Scope.admits_of_some steady found []).mpr (admitted tag member)
            exact (inductionHypothesis _ _ []).mp success
        · rintro ⟨-, known, within⟩ tag member
          cases found : table.get? tag with
          | none => exact (Scope.admits_of_none found).mpr (known tag member found)
          | some used =>
              have success := (inductionHypothesis (stack ++ [frame]) ⟨used, true⟩ []).mpr
                (within used ⟨tag, member, found⟩)
              exact (Scope.admits_of_some steady found []).mp success

end StaticSite
