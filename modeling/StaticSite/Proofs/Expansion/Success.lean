/-
Module: StaticSite.Proofs.Expansion.Success
Purpose: When a component can be expanded: exactly when its uses lead neither to a cycle
  nor to a name that no fragment is registered for.
Trusted boundary: none
Main exports:
  Expandable.acc, Trail, Trail.length_le, expandable_of_trail, expand_succeeds_iff
-/
import Mathlib.Data.List.Perm.Subperm
import StaticSite.Proofs.Expansion.Walk

namespace StaticSite

open Markup Relation ComponentTable

variable {table : ComponentTable}

/-! ### Walks that end meet no cycle -/

/-- There is no endless walk along uses. -/
theorem Expandable.acc {depth : Nat} {stack : List Frame} {frame : Frame}
    (walk : Expandable table depth stack frame) :
    Acc (fun used user => table.Uses user used) frame.component := by
  induction walk with
  | enter _ _ _ inductionHypothesis =>
      exact Acc.intro _ inductionHypothesis

theorem Expandable.not_leadsToUnknown {depth : Nat} {stack : List Frame} {frame : Frame}
    (walk : Expandable table depth stack frame) :
    ¬ table.LeadsToUnknown frame.component := by
  induction walk with
  | enter _ known _ inductionHypothesis =>
      rintro ⟨met, way, tag, member, custom, missing⟩
      rcases ReflTransGen.cases_head way with rfl | ⟨used, uses, onwards⟩
      · rw [known tag member missing] at custom
        exact absurd custom Bool.false_ne_true
      · exact inductionHypothesis used uses ⟨met, onwards, tag, member, custom, missing⟩

/-- From where all walks end no cycle is reached. -/
theorem not_leadsToCycle_of_acc {component : Component}
    (ends : Acc (fun used user => table.Uses user used) component) :
    ¬ table.LeadsToCycle component := by
  have noReturn := ends.transGen
  induction noReturn with
  | intro component _ inductionHypothesis =>
      rintro ⟨met, way, back⟩
      rcases ReflTransGen.cases_head way with rfl | ⟨used, uses, onwards⟩
      · exact inductionHypothesis component back.swap (ends.inv_of_transGen back.swap)
          ⟨component, .refl, back⟩
      · exact inductionHypothesis used (.single uses) (ends.inv uses) ⟨met, onwards, back⟩

/-! ### Walks that meet no cycle end -/

/-- The frames of a walk, in order: each leads to the later ones, none to itself, and
from the second one on all are entries of the table. -/
structure Trail (table : ComponentTable) (frames : List Frame) : Prop where
  leads : frames.Pairwise fun earlier later =>
    TransGen table.Uses earlier.component later.component
  acyclic : ∀ frame ∈ frames, ¬ TransGen table.Uses frame.component frame.component
  entry : ∀ frame ∈ frames, frame.registered = true → frame.component ∈ table.entries
  registered : ∀ frame ∈ frames.tail, frame.registered = true

/-- A walk starts at an entry, or at a component compiled apart from the table. -/
theorem Trail.start {frame : Frame}
    (entry : frame.registered = true → frame.component ∈ table.entries)
    (acyclic : ¬ table.LeadsToCycle frame.component) : Trail table [frame] where
  leads := List.pairwise_singleton _ _
  acyclic := by
    intro one member back
    obtain rfl := List.mem_singleton.mp member
    exact acyclic ⟨_, .refl, back⟩
  entry := by
    intro one member
    obtain rfl := List.mem_singleton.mp member
    exact entry
  registered := by simp

/-- A walk goes on with a component that the last one uses. -/
theorem Trail.step {stack : List Frame} {frame : Frame} {used : Component}
    (trail : Trail table (stack ++ [frame])) (uses : table.Uses frame.component used)
    (acyclic : ¬ table.LeadsToCycle used) :
    Trail table (stack ++ [frame] ++ [⟨used, true⟩]) where
  leads := by
    rw [List.pairwise_append]
    refine ⟨trail.leads, List.pairwise_singleton _ _, ?_⟩
    intro earlier member later isLast
    obtain rfl := List.mem_singleton.mp isLast
    rcases List.mem_append.mp member with before | last
    · have toFrame := (List.pairwise_append.mp trail.leads).2.2 earlier before frame
        List.mem_cons_self
      exact toFrame.tail uses
    · obtain rfl := List.mem_singleton.mp last
      exact .single uses
  acyclic := by
    intro one member back
    rcases List.mem_append.mp member with before | last
    · exact trail.acyclic one before back
    · obtain rfl := List.mem_singleton.mp last
      exact acyclic ⟨_, .refl, back⟩
  entry := by
    intro one member isRegistered
    rcases List.mem_append.mp member with before | last
    · exact trail.entry one before isRegistered
    · obtain rfl := List.mem_singleton.mp last
      obtain ⟨tag, -, found⟩ := uses
      exact get?_mem found
  registered := by
    intro one member
    rw [List.tail_append_of_ne_nil (by simp)] at member
    rcases List.mem_append.mp member with before | last
    · exact trail.registered one before
    · obtain rfl := List.mem_singleton.mp last
      rfl

/-- The last frame of a walk is not an entry met before. -/
theorem Trail.fresh {stack : List Frame} {frame : Frame}
    (trail : Trail table (stack ++ [frame])) :
    ∀ entry ∈ stack, frame.sameEntry entry = false := by
  intro entry member
  by_contra same
  have both := eq_true_of_ne_false same
  simp only [Frame.sameEntry, Bool.and_eq_true_iff, beq_iff_eq] at both
  obtain ⟨⟨frameRegistered, entryRegistered⟩, sameName⟩ := both
  have sameComponent : frame.component = entry.component :=
    eq_of_name_eq (trail.entry frame (by simp) frameRegistered)
      (trail.entry entry (by simp [member]) entryRegistered) sameName
  have back := (List.pairwise_append.mp trail.leads).2.2 entry member frame List.mem_cons_self
  rw [sameComponent] at back
  exact trail.acyclic entry (by simp [member]) back

/-- A walk has no more frames than there are entries, and the one it starts with. -/
theorem Trail.length_le {frames : List Frame} (trail : Trail table frames) :
    frames.length ≤ table.size + 1 := by
  have distinct : (frames.tail.map (·.component)).Nodup := by
    rw [List.nodup_iff_pairwise_ne, List.pairwise_map]
    refine (trail.leads.sublist (List.tail_sublist frames)).imp_of_mem ?_
    intro earlier later member _ leads same
    rw [← same] at leads
    exact trail.acyclic earlier (List.mem_of_mem_tail member) leads
  have inTable : frames.tail.map (·.component) ⊆ table.entries := by
    intro component member
    obtain ⟨frame, frameMember, rfl⟩ := List.mem_map.mp member
    exact trail.entry frame (List.mem_of_mem_tail frameMember)
      (trail.registered frame frameMember)
  have bounded := (distinct.subperm inTable).length_le
  rw [List.length_map, List.length_tail] at bounded
  rw [ComponentTable.size]
  omega

/-- A walk that leads to no cycle and no unknown name ends in time: `depth` is what is
left of the length that it can have. -/
theorem expandable_of_trail {depth : Nat} :
    ∀ {stack : List Frame} {frame : Frame}, Trail table (stack ++ [frame]) →
      depth + stack.length = table.size + 1 →
      ¬ table.LeadsToCycle frame.component → ¬ table.LeadsToUnknown frame.component →
      Expandable table depth stack frame := by
  induction depth with
  | zero =>
      intro stack frame trail remaining _ _
      have bounded := trail.length_le
      rw [List.length_append, List.length_singleton] at bounded
      omega
  | succ depth inductionHypothesis =>
      intro stack frame trail remaining noCycle noUnknown
      refine .enter trail.fresh ?_ ?_
      · intro tag member missing
        by_contra custom
        exact noUnknown ⟨_, .refl, tag, member, eq_true_of_ne_false custom, missing⟩
      · intro used uses
        have noCycleOnwards : ¬ table.LeadsToCycle used := fun cycle => noCycle (cycle.of_uses uses)
        refine inductionHypothesis (trail.step uses noCycleOnwards) ?_ noCycleOnwards
          fun unknown => noUnknown (unknown.of_uses uses)
        rw [List.length_append, List.length_singleton]
        omega

/-! ### The condition -/

/-- Expanding a component, registered or compiled apart from the table, succeeds exactly
when its uses lead to no cycle and to no unknown name, whatever is given for its slots. -/
theorem expand_succeeds_iff (built : table.Built) {frame : Frame}
    (entry : frame.registered = true → frame.component ∈ table.entries)
    (binding : SlotBinding) :
    (∃ nodes, expand table frame binding = .ok nodes) ↔
      ¬ table.LeadsToCycle frame.component ∧ ¬ table.LeadsToUnknown frame.component := by
  have noTemplate : table.get? "template" = none := by
    cases found : table.get? "template" with
    | none => rfl
    | some component =>
        have custom := built.isCustomName_of_get? found
        exact absurd custom (by decide)
  have walks := expandWithin_succeeds_iff noTemplate (table.size + 1) [] frame binding
  constructor
  · intro success
    have walk := walks.mp success
    exact ⟨not_leadsToCycle_of_acc walk.acc, walk.not_leadsToUnknown⟩
  · rintro ⟨noCycle, noUnknown⟩
    exact walks.mpr (expandable_of_trail (.start entry noCycle) (by simp) noCycle noUnknown)

/-! ### A small table -/

/-- A button around the content it is given. -/
def sampleButton : Component where
  name := "x-button"
  path := Path.ofString "x-button.html"
  template := [.element "button" [] [.element "slot" [] []]]
  source := "<button><slot></slot></button>"

/-- Two buttons, one of them given content for a slot that it does not have. -/
def sampleCard : Component where
  name := "x-card"
  path := Path.ofString "x-card.html"
  template :=
    [ .element "x-button" [] [.string .text "Go"],
      .element "x-button" []
        [.element "template" [("slot", "icon")] [.element "b" [] [.string .template "!"]]] ]
  source :=
    "<x-button>Go</x-button><x-button><template slot=\"icon\"><b>!</b></template></x-button>"

/-- The table of the two components. -/
def sampleTable : ComponentTable where
  entries := [sampleButton, sampleCard]
  distinct := by decide
  fragments := by decide

theorem sampleTable_built : sampleTable.Built := by
  refine ⟨[sampleButton, sampleCard], ?_, rfl⟩
  intro component member
  refine ⟨component.name, component.path, component.source, ?_⟩
  rcases List.mem_cons.mp member with rfl | later
  · decide +kernel
  · obtain rfl := List.mem_singleton.mp later
    decide +kernel

/-- The card can be expanded, and it leads to no cycle and to no unknown name. -/
theorem expand_succeeds_of_sample :
    sampleTable.Built ∧ sampleCard ∈ sampleTable.entries ∧
      expand sampleTable ⟨sampleCard, true⟩ [] =
        .ok [.element "button" [] [.string .text "Go"], .element "button" [] []] ∧
      ¬ sampleTable.LeadsToCycle sampleCard ∧ ¬ sampleTable.LeadsToUnknown sampleCard := by
  have entry : sampleCard ∈ sampleTable.entries := by simp [sampleTable]
  have expanded : expand sampleTable ⟨sampleCard, true⟩ [] =
      .ok [.element "button" [] [.string .text "Go"], .element "button" [] []] := by
    decide +kernel
  have condition := (@expand_succeeds_iff sampleTable sampleTable_built ⟨sampleCard, true⟩
    (fun _ => entry) []).mp ⟨_, expanded⟩
  exact ⟨sampleTable_built, entry, expanded, condition⟩

end StaticSite
