/-
Module: StaticSite.Proofs.Expansion.Invocation
Purpose: Rendering a component with content against a page that holds nothing but a use of the
  component around this content.  Both give the same nodes, but content that leads back to the
  component is refused if the component is rendered itself.
Trusted boundary: none
Main exports:
  GivesIf, ComponentTable.usedIn, ComponentTable.Asks, Scope.renderAll_givesIf,
  expandWithin_givesIf, ComponentTable.ContentLeadsTo, render_ok_iff_use
-/
import StaticSite.Proofs.Expansion.Progress
import StaticSite.Proofs.Expansion.Success

namespace StaticSite

open Markup Relation

/-! ### Computations that agree under a condition -/

/-- The first computation has the values of the second one if the condition holds, and none
otherwise. -/
def GivesIf {ε α : Type} (condition : Prop) (first second : Except ε α) : Prop :=
  ∀ value, first = .ok value ↔ second = .ok value ∧ condition

namespace GivesIf

variable {ε α β : Type} {condition other : Prop} {first second : Except ε α}

theorem ok (value : α) : GivesIf True (.ok value : Except ε α) (.ok value) :=
  fun _ => (and_iff_left trivial).symm

theorem errors (condition : Prop) (cause cause' : ε) :
    GivesIf condition (.error cause : Except ε α) (.error cause') := by
  intro value
  constructor
  · intro impossible
    cases impossible
  · rintro ⟨impossible, -⟩
    cases impossible

/-- Where the condition fails there has to be no value. -/
theorem refused (fails : ¬ condition) (cause : ε) (second : Except ε α) :
    GivesIf condition (.error cause) second := by
  intro value
  constructor
  · intro impossible
    cases impossible
  · exact fun given => absurd given.2 fails

theorem congr (agree : GivesIf condition first second) (iff : condition ↔ other) :
    GivesIf other first second := by
  intro value
  rw [agree value, iff]

theorem bind {next next' : α → Except ε β} (agree : GivesIf condition first second)
    (rest : ∀ value, GivesIf other (next value) (next' value)) :
    GivesIf (condition ∧ other) (first >>= next) (second >>= next') := by
  intro value
  rw [bind_eq_ok_iff, bind_eq_ok_iff]
  constructor
  · rintro ⟨middle, found, given⟩
    obtain ⟨foundToo, holds⟩ := (agree middle).mp found
    obtain ⟨givenToo, holdsToo⟩ := (rest middle value).mp given
    exact ⟨⟨middle, foundToo, givenToo⟩, holds, holdsToo⟩
  · rintro ⟨⟨middle, found, given⟩, holds, holdsToo⟩
    exact ⟨middle, (agree middle).mpr ⟨found, holds⟩, (rest middle value).mpr ⟨given, holdsToo⟩⟩

theorem bind_ok {pack : α → β} (agree : GivesIf condition first second) :
    GivesIf condition (first >>= fun value => .ok (pack value))
      (second >>= fun value => .ok (pack value)) :=
  (agree.bind fun value => .ok (pack value)).congr (and_iff_left trivial)

end GivesIf

/-! ### The fragments that are asked for -/

namespace ComponentTable

mutual

/-- The fragments that rendering a node asks for, in document order. -/
def usedIn (table : ComponentTable) : Node → List Component
  | .string _ _ => []
  | .element name _ children =>
      if name = slotTag then []
      else
        match table.get? name with
        | some target => target :: usedInContent table children
        | none => usedInAll table children

/-- The fragments that rendering some nodes asks for. -/
def usedInAll (table : ComponentTable) : List Node → List Component
  | [] => []
  | node :: rest => usedIn table node ++ usedInAll table rest

/-- The fragments that rendering the children of a use asks for.  A wrapper stands for what is
in it, and is not looked up itself. -/
def usedInContent (table : ComponentTable) : List Node → List Component
  | [] => []
  | .string _ _ :: rest => usedInContent table rest
  | .element name attributes children :: rest =>
      match wrapperSlot? name attributes with
      | some _ => usedInAll table children ++ usedInContent table rest
      | none => usedIn table (.element name attributes children) ++ usedInContent table rest

end

/-- Rendering the template of the first component asks for the second one. -/
def Asks (table : ComponentTable) (user used : Component) : Prop :=
  used ∈ table.usedInAll user.template

/-- Rendering these children of a use asks for a fragment that is the component or leads to it. -/
def ContentLeadsTo (table : ComponentTable) (content : List Node) (component : Component) :
    Prop :=
  ∃ used ∈ table.usedInContent content, ReflTransGen table.Asks used component

end ComponentTable

/-! ### Rendering where fewer fragments are allowed -/

namespace Scope

/-- Both surroundings have the same table and the same content for slots, and a fragment is
expanded alike in them if it is allowed, while only the second ones expand others. -/
structure Allows (allowed : Component → Prop) (first second : Scope) : Prop where
  table_eq : first.table = second.table
  binding_eq : first.binding = second.binding
  invoke : ∀ target ∈ second.table.entries, ∀ content,
    GivesIf (allowed target) (first.invoke target content) (second.invoke target content)

variable {allowed : Component → Prop} {first second : Scope}

@[simp] theorem renderAll_singleton (scope : Scope) (node : Node) :
    scope.renderAll [node] = scope.render node := by
  rw [renderAll, renderAll]
  cases scope.render node with
  | error cause => rfl
  | ok nodes => exact congrArg Except.ok (List.append_nil nodes)

mutual

/-- A node is rendered alike if all fragments it asks for are allowed, and not at all otherwise. -/
theorem render_givesIf (allows : Allows allowed first second) :
    ∀ node, GivesIf (∀ used ∈ second.table.usedIn node, allowed used)
      (first.render node) (second.render node)
  | .string kind text => (GivesIf.ok _).congr (by simp [ComponentTable.usedIn])
  | .element name attributes children => by
      rw [ComponentTable.usedIn]
      by_cases isSlot : name = slotTag
      · subst isSlot
        rw [render, render, classify_slot, classify_slot, allows.binding_eq]
        exact (GivesIf.ok _).congr (by simp)
      · rw [if_neg isSlot]
        cases found : second.table.get? name with
        | some target =>
            have foundFirst : first.table.get? name = some target := by
              rw [allows.table_eq, found]
            have entry := ComponentTable.get?_mem found
            rw [render, render, classify_of_some isSlot found,
              classify_of_some isSlot foundFirst]
            apply ((fill_givesIf allows children []).bind fun content =>
              allows.invoke target entry content).congr
            rw [List.forall_mem_cons, and_comm]
        | none =>
            have missingFirst : first.table.get? name = none := by
              rw [allows.table_eq, found]
            cases custom : isCustomName name with
            | true =>
                rw [render, render, classify_of_unknown isSlot found custom,
                  classify_of_unknown isSlot missingFirst custom]
                exact .errors _ _ _
            | false =>
                rw [render, render, classify_of_none isSlot found custom,
                  classify_of_none isSlot missingFirst custom]
                exact (renderAll_givesIf allows children).bind_ok

/-- Nodes are rendered alike if all fragments they ask for are allowed, and not at all
otherwise. -/
theorem renderAll_givesIf (allows : Allows allowed first second) :
    ∀ nodes, GivesIf (∀ used ∈ second.table.usedInAll nodes, allowed used)
      (first.renderAll nodes) (second.renderAll nodes)
  | [] => (GivesIf.ok _).congr (by simp [ComponentTable.usedInAll])
  | node :: rest => by
      rw [renderAll, renderAll, ComponentTable.usedInAll]
      apply ((render_givesIf allows node).bind fun rendered =>
        (renderAll_givesIf allows rest).bind_ok).congr
      rw [List.forall_mem_append]

/-- The children of a use fill its slots alike if all fragments they ask for are allowed, and
not at all otherwise. -/
theorem fill_givesIf (allows : Allows allowed first second) :
    ∀ nodes content, GivesIf (∀ used ∈ second.table.usedInContent nodes, allowed used)
      (first.fill content nodes) (second.fill content nodes)
  | [], content => (GivesIf.ok _).congr (by simp [ComponentTable.usedInContent])
  | .string kind text :: rest, content => by
      rw [fill, fill, ComponentTable.usedInContent]
      exact fill_givesIf allows rest _
  | .element name attributes children :: rest, content => by
      rw [fill, fill, ComponentTable.usedInContent]
      cases wrapperSlot? name attributes with
      | some slot =>
          apply ((renderAll_givesIf allows children).bind fun rendered =>
            fill_givesIf allows rest (content.extend slot rendered)).congr
          rw [List.forall_mem_append]
      | none =>
          apply ((render_givesIf allows (.element name attributes children)).bind fun rendered =>
            fill_givesIf allows rest (content.extend defaultSlot rendered)).congr
          rw [List.forall_mem_append]

end

end Scope

/-! ### Expanding where more is being expanded -/

section Guards

variable {table : ComponentTable} {banned : Component → Prop}

/-- The entry is being expanded. -/
def IsOn (stack : List Frame) (component : Component) : Prop :=
  (stack.any fun entry => Frame.sameEntry ⟨component, true⟩ entry) = true

/-- The first stack refuses the entries that the second one refuses, and the banned ones. -/
def Bans (table : ComponentTable) (banned : Component → Prop) (first second : List Frame) : Prop :=
  ∀ component ∈ table.entries,
    IsOn first component ↔ IsOn second component ∨ banned component

theorem Bans.push {first second : List Frame} (bans : Bans table banned first second)
    (frame : Frame) : Bans table banned (first ++ [frame]) (second ++ [frame]) := by
  intro component entry
  have here := bans component entry
  simp only [IsOn, List.any_append, Bool.or_eq_true] at here ⊢
  rw [here]
  constructor
  · rintro ((met | isBanned) | last)
    · exact .inl (.inl met)
    · exact .inr isBanned
    · exact .inl (.inr last)
  · rintro ((met | last) | isBanned)
    · exact .inl (.inl met)
    · exact .inr last
    · exact .inl (.inr isBanned)

/-- Being banned is met at once, or in what the template asks for. -/
theorem meets_no_banned_iff {target : Component} :
    (∀ met, ReflTransGen table.Asks target met → ¬ banned met) ↔
      ¬ banned target ∧ ∀ used ∈ table.usedInAll target.template,
        ∀ met, ReflTransGen table.Asks used met → ¬ banned met := by
  constructor
  · intro free
    exact ⟨free target .refl, fun used asked met way => free met (.head asked way)⟩
  · rintro ⟨here, onwards⟩ met way
    rcases ReflTransGen.cases_head way with rfl | ⟨used, asked, rest⟩
    · exact here
    · exact onwards used asked met rest

/-- Under the first stack an entry is expanded as under the second one, unless it leads to a
banned entry.  The induction is on the depth. -/
theorem expandWithin_givesIf (depth : Nat) :
    ∀ first second, Bans table banned first second → ∀ target ∈ table.entries, ∀ content,
      GivesIf (∀ met, ReflTransGen table.Asks target met → ¬ banned met)
        (expandWithin table depth first ⟨target, true⟩ content)
        (expandWithin table depth second ⟨target, true⟩ content) := by
  induction depth with
  | zero =>
      intro first second bans target entry content
      exact .errors _ _ _
  | succ depth inductionHypothesis =>
      intro first second bans target entry content
      have refuses := bans target entry
      simp only [IsOn] at refuses
      rw [expandWithin_succ, expandWithin_succ]
      by_cases met : (second.any fun entry => Frame.sameEntry ⟨target, true⟩ entry) = true
      · rw [if_pos met, if_pos (refuses.mpr (.inl met))]
        exact .errors _ _ _
      · by_cases isBanned : banned target
        · rw [if_pos (refuses.mpr (.inr isBanned))]
          exact .refused (fun free => free target .refl isBanned) _ _
        · rw [if_neg met, if_neg fun on => (refuses.mp on).elim met isBanned]
          have allows : Scope.Allows
              (fun used => ∀ met, ReflTransGen table.Asks used met → ¬ banned met)
              (frameScope table depth first ⟨target, true⟩ content)
              (frameScope table depth second ⟨target, true⟩ content) :=
            { table_eq := rfl
              binding_eq := rfl
              invoke := fun used usedEntry given =>
                inductionHypothesis _ _ (bans.push ⟨target, true⟩) used usedEntry given }
          apply (Scope.renderAll_givesIf allows target.template).congr
          rw [meets_no_banned_iff, and_iff_right isBanned]
          rfl

end Guards

/-! ### Content and uses -/

section Uses

variable {table : ComponentTable} {component page : Component}

/-- With the component itself on the stack in place of a page, the component is banned. -/
theorem bans_entry (entry : component ∈ table.entries) :
    Bans table (· = component) [⟨component, true⟩] [⟨page, false⟩] := by
  intro other otherEntry
  simp only [IsOn, Frame.sameEntry, List.any_cons, List.any_nil, Bool.true_and, Bool.or_false,
    Bool.false_and, Bool.false_eq_true, false_or, beq_iff_eq]
  constructor
  · exact ComponentTable.eq_of_name_eq otherEntry entry
  · rintro rfl
    rfl

/-- A page on the stack bans nothing. -/
theorem bans_none : Bans table (fun _ => False) [] [⟨page, false⟩] := by
  intro other _
  simp [IsOn, Frame.sameEntry]

/-- Used by a page, a component is expanded as it is on its own. -/
theorem expandWithin_eq_ok_iff_expand (entry : component ∈ table.entries) (binding : SlotBinding)
    (nodes : List Node) :
    expandWithin table table.size [⟨page, false⟩] ⟨component, true⟩ binding = .ok nodes ↔
      expand table ⟨component, true⟩ binding = .ok nodes := by
  have start : Route table anyTag ⟨page, false⟩ ([] ++ [⟨page, false⟩]) := .start table anyTag _
  have route : Route table anyTag ⟨page, false⟩ ([⟨page, false⟩] ++ [⟨component, true⟩]) :=
    start.push ⟨rfl, component.name, trivial, ComponentTable.get?_of_mem entry⟩
  have deeper : expandWithin table table.size [⟨page, false⟩] ⟨component, true⟩ binding =
      expandWithin table (table.size + 1) [⟨page, false⟩] ⟨component, true⟩ binding :=
    expandWithin_eq_of_enough route (List.nodup_singleton _) (Nat.le_refl _) (by simp) binding
  have unguarded := expandWithin_givesIf (table.size + 1) [] [⟨page, false⟩] bans_none component
    entry binding nodes
  rw [deeper, expand, unguarded]
  simp

section Pages

variable {attributes : Attributes} {content : List Node}

/-- Rendering a page that holds nothing but a use renders the content of the use on behalf of the
page, and expands the component. -/
theorem render_use_eq_ok_iff (entry : component ∈ table.entries)
    (usable : component.name ≠ slotTag)
    (holdsUse : page.template = [.element component.name attributes content])
    (nodes : List Node) :
    render table ⟨page, false⟩ [] = .ok nodes ↔
      ∃ binding, (frameScope table table.size [] ⟨page, false⟩ []).fill [] content = .ok binding ∧
        expand table ⟨component, true⟩ binding = .ok nodes := by
  have use : (frameScope table table.size [] ⟨page, false⟩ []).classify component.name =
      .ok (.component component) :=
    Scope.classify_of_some usable (ComponentTable.get?_of_mem entry)
  have start : render table ⟨page, false⟩ [] =
      (frameScope table table.size [] ⟨page, false⟩ []).renderAll page.template := rfl
  rw [start, holdsUse, Scope.renderAll_singleton, Scope.render, use, bind_eq_ok_iff]
  apply exists_congr
  intro binding
  exact and_congr_right fun _ => expandWithin_eq_ok_iff_expand entry binding nodes

/-- A component is rendered with content as a page is that uses it around this content, unless
the content asks for a fragment that is the component or leads to it.  Then it is refused, since
it is rendered as if it stood in the component's template. -/
theorem render_ok_iff_use (entry : component ∈ table.entries)
    (usable : component.name ≠ slotTag)
    (holdsUse : page.template = [.element component.name attributes content])
    (nodes : List Node) :
    render table ⟨component, true⟩ content = .ok nodes ↔
      render table ⟨page, false⟩ [] = .ok nodes ∧ ¬ table.ContentLeadsTo content component := by
  have allows : Scope.Allows
      (fun used => ∀ met, ReflTransGen table.Asks used met → ¬ met = component)
      (contentScope table ⟨component, true⟩)
      (frameScope table table.size [] ⟨page, false⟩ []) :=
    { table_eq := rfl
      binding_eq := rfl
      invoke := fun used usedEntry given =>
        expandWithin_givesIf table.size [⟨component, true⟩] [⟨page, false⟩] (bans_entry entry)
          used usedEntry given }
  have filled := Scope.fill_givesIf allows content []
  have apart : (∀ used ∈ table.usedInContent content,
      ∀ met, ReflTransGen table.Asks used met → ¬ met = component) ↔
      ¬ table.ContentLeadsTo content component := by
    constructor
    · rintro never ⟨used, asked, way⟩
      exact never used asked component way rfl
    · rintro apart used asked met way rfl
      exact apart ⟨used, asked, way⟩
  rw [render, bind_eq_ok_iff, render_use_eq_ok_iff entry usable holdsUse, ← apart]
  constructor
  · rintro ⟨binding, given, expanded⟩
    obtain ⟨givenToo, never⟩ := (filled binding).mp given
    exact ⟨⟨binding, givenToo, expanded⟩, never⟩
  · rintro ⟨⟨binding, given, expanded⟩, never⟩
    exact ⟨binding, (filled binding).mpr ⟨given, never⟩, expanded⟩

end Pages

end Uses

/-! ### A component around itself -/

/-- A component that puts its content into a frame. -/
def sampleFrame : Component where
  name := "x-frame"
  path := Path.ofString "x-frame.html"
  template := [.element "main" [] [.element "slot" [] []]]
  source := "<main><slot></slot></main>"

/-- The table of the frame and the button. -/
def sampleFramed : ComponentTable where
  entries := [sampleButton, sampleFrame]
  distinct := by decide
  fragments := by decide

/-- A page that uses the frame around this content. -/
def sampleUse (content : List Node) : Component where
  name := "index"
  path := Path.ofString "index.html"
  template := [.element "x-frame" [] content]
  source := ""

/-- The frame is rendered with a button as the page is that holds it around a button. -/
theorem render_ok_iff_use_of_sample :
    sampleFrame ∈ sampleFramed.entries ∧ sampleFrame.name ≠ slotTag ∧
      (sampleUse [.element "x-button" [] [.string .text "Go"]]).template =
        [.element sampleFrame.name [] [.element "x-button" [] [.string .text "Go"]]] ∧
      render sampleFramed ⟨sampleFrame, true⟩ [.element "x-button" [] [.string .text "Go"]] =
        .ok [.element "main" [] [.element "button" [] [.string .text "Go"]]] ∧
      render sampleFramed ⟨sampleUse [.element "x-button" [] [.string .text "Go"]], false⟩ [] =
        .ok [.element "main" [] [.element "button" [] [.string .text "Go"]]] ∧
      ¬ sampleFramed.ContentLeadsTo [.element "x-button" [] [.string .text "Go"]]
        sampleFrame := by
  have entry : sampleFrame ∈ sampleFramed.entries := by simp [sampleFramed]
  have usable : sampleFrame.name ≠ slotTag := by decide
  have rendered :
      render sampleFramed ⟨sampleFrame, true⟩ [.element "x-button" [] [.string .text "Go"]] =
        .ok [.element "main" [] [.element "button" [] [.string .text "Go"]]] := by
    decide +kernel
  have alike := (@render_ok_iff_use sampleFramed sampleFrame
    (sampleUse [.element "x-button" [] [.string .text "Go"]]) [] _ entry usable rfl _).mp rendered
  exact ⟨entry, usable, rfl, rendered, alike⟩

/-- A page may hold a frame in a frame, but the frame is not rendered around a frame. -/
theorem nested_content_refused :
    sampleFrame ∈ sampleFramed.entries ∧
      (sampleUse [.element "x-frame" [] [.string .text "In"]]).template =
        [.element sampleFrame.name [] [.element "x-frame" [] [.string .text "In"]]] ∧
      render sampleFramed ⟨sampleUse [.element "x-frame" [] [.string .text "In"]], false⟩ [] =
        .ok [.element "main" [] [.element "main" [] [.string .text "In"]]] ∧
      render sampleFramed ⟨sampleFrame, true⟩ [.element "x-frame" [] [.string .text "In"]] =
        .error (.cycle ["x-frame", "x-frame"]) := by
  refine ⟨by simp [sampleFramed], rfl, ?_, ?_⟩ <;> decide +kernel

end StaticSite
