/-
Module: StaticSite.Proofs.Expansion.Extension
Purpose: A component is expanded with more fragments registered, in whatever order, as it was with
  fewer of them, unless one was missing.
Trusted boundary: none
Main exports:
  Upheld, Scope.Upholds, Scope.renderAll_upheld, CarriedOver, upheldTo, expand_extended
-/
import StaticSite.Proofs.Expansion.Progress
import StaticSite.Proofs.Expansion.Success

namespace StaticSite

open Markup

/-! ### Outcomes that are upheld -/

/-- The second outcome is the first one, unless that is a refusal of an unknown element. -/
def Upheld {α : Type} (first second : Except ExpansionError α) : Prop :=
  (∃ cause, first = .error (.unknown cause)) ∨ second = first

namespace Upheld

variable {α β : Type} {first second : Except ExpansionError α}

theorem same (outcome : Except ExpansionError α) : Upheld outcome outcome :=
  .inr rfl

theorem unknown (cause : UnknownComponent) (second : Except ExpansionError α) :
    Upheld (.error (.unknown cause)) second :=
  .inl ⟨cause, rfl⟩

theorem bind {next next' : α → Except ExpansionError β} (upheld : Upheld first second)
    (rest : ∀ value, Upheld (next value) (next' value)) :
    Upheld (first >>= next) (second >>= next') := by
  rcases upheld with ⟨cause, rfl⟩ | rfl
  · exact unknown cause _
  · cases second with
    | error cause => exact same _
    | ok value => exact rest value

theorem bind_pure (upheld : Upheld first second) (pack : α → β) :
    Upheld (first >>= fun value => pure (pack value)) (second >>= fun value => pure (pack value)) :=
  upheld.bind fun _ => same _

/-- A tree or a cycle is upheld as it is. -/
theorem eq_of_settled (upheld : Upheld first second)
    (settled : Succeeds first ∨ ∃ chain, first = .error (.cycle chain)) : second = first := by
  rcases upheld with ⟨cause, refused⟩ | unchanged
  · rcases settled with ⟨value, done⟩ | ⟨chain, failed⟩
    · cases refused.symm.trans done
    · cases refused.symm.trans failed
  · exact unchanged

end Upheld

/-! ### Rendering where more fragments are known -/

namespace Scope

/-- The second surroundings know the fragments of the first ones, expand them alike, and know no
other names than those of custom elements besides. -/
structure Upholds (given other : Scope) : Prop where
  owner_eq : other.owner = given.owner
  binding_eq : other.binding = given.binding
  known : ∀ name target,
    given.table.get? name = some target → other.table.get? name = some target
  unknown : ∀ name, given.table.get? name = none → isCustomName name = false →
    other.table.get? name = none
  invoke : ∀ target ∈ given.table.entries, ∀ content,
    Upheld (given.invoke target content) (other.invoke target content)

variable {given other : Scope}

mutual

/-- A node is rendered alike, unless a fragment is missing for it. -/
theorem render_upheld (upholds : Upholds given other) :
    ∀ node, Upheld (given.render node) (other.render node)
  | .string kind text => .same _
  | .element name attributes children => by
      by_cases isSlot : name = slotTag
      · subst isSlot
        rw [render, render, classify_slot, classify_slot, upholds.binding_eq]
        exact .same _
      · cases found : given.table.get? name with
        | some target =>
            rw [render, render, classify_of_some isSlot found,
              classify_of_some isSlot (upholds.known name target found)]
            apply (fill_upheld upholds children []).bind
            exact upholds.invoke target (ComponentTable.get?_mem found)
        | none =>
            cases custom : isCustomName name with
            | true =>
                rw [render, classify_of_unknown isSlot found custom]
                exact .unknown _ _
            | false =>
                rw [render, render, classify_of_none isSlot found custom,
                  classify_of_none isSlot (upholds.unknown name found custom) custom]
                exact (renderAll_upheld upholds children).bind_pure _

theorem renderAll_upheld (upholds : Upholds given other) :
    ∀ nodes, Upheld (given.renderAll nodes) (other.renderAll nodes)
  | [] => .same _
  | node :: rest => by
      rw [renderAll, renderAll]
      apply (render_upheld upholds node).bind
      exact fun first => (renderAll_upheld upholds rest).bind_pure _

theorem fill_upheld (upholds : Upholds given other) :
    ∀ nodes content, Upheld (given.fill content nodes) (other.fill content nodes)
  | [], content => .same _
  | .string kind text :: rest, content => by
      rw [fill, fill]
      exact fill_upheld upholds rest _
  | .element name attributes children :: rest, content => by
      rw [fill, fill]
      cases wrapperSlot? name attributes with
      | some slot =>
          apply (renderAll_upheld upholds children).bind
          exact fun rendered => fill_upheld upholds rest (content.extend slot rendered)
      | none =>
          apply (render_upheld upholds (.element name attributes children)).bind
          exact fun rendered => fill_upheld upholds rest (content.extend defaultSlot rendered)

end

end Scope

/-! ### Tables with more entries -/

namespace ComponentTable

variable {table larger : ComponentTable}

theorem size_le_of_subset (kept : ∀ component ∈ table.entries, component ∈ larger.entries) :
    table.size ≤ larger.size :=
  (table.distinct.of_map.subperm kept).length_le

theorem get?_of_subset (kept : ∀ component ∈ table.entries, component ∈ larger.entries)
    {name : String} {target : Component} (found : table.get? name = some target) :
    larger.get? name = some target := by
  have sameName : target.name = name := by simpa using List.find?_some found
  rw [← sameName]
  exact get?_of_mem (kept target (get?_mem found))

/-- Names that are not those of custom elements stand for no fragment. -/
theorem Built.get?_eq_none (built : larger.Built) {name : String}
    (plain : isCustomName name = false) : larger.get? name = none := by
  cases found : larger.get? name with
  | none => rfl
  | some component =>
      rw [built.isCustomName_of_get? found] at plain
      cases plain

end ComponentTable

/-- One component, as it stands to a table and to a larger one.  It can be an entry of the larger
one only; an entry of both is one that is registered in the larger one and stands in the other. -/
structure CarriedOver (table larger : ComponentTable) (frame other : Frame) : Prop where
  component_eq : other.component = frame.component
  entry : other.registered = true → other.component ∈ larger.entries
  registered_iff : frame.registered = true ↔
    other.registered = true ∧ frame.component ∈ table.entries

section Tables

variable {table larger : ComponentTable}
  (kept : ∀ component ∈ table.entries, component ∈ larger.entries)

include kept

theorem CarriedOver.of_entry {target : Component} (entry : target ∈ table.entries) :
    CarriedOver table larger ⟨target, true⟩ ⟨target, true⟩ where
  component_eq := rfl
  entry := fun _ => kept target entry
  registered_iff := iff_of_true rfl ⟨rfl, entry⟩

/-- An entry is the one that is being expanded under the larger table if it is so under the other
one.  What only the larger table has cannot be met again. -/
theorem CarriedOver.sameEntry_eq {target : Component} (targetEntry : target ∈ table.entries)
    {frame other : Frame} (carried : CarriedOver table larger frame other) :
    Frame.sameEntry ⟨target, true⟩ other = Frame.sameEntry ⟨target, true⟩ frame := by
  obtain ⟨same, entry, registered⟩ := carried
  rw [Bool.eq_iff_iff]
  simp only [Frame.sameEntry, Bool.true_and, Bool.and_eq_true, beq_iff_eq, same, registered]
  refine and_congr_left fun sameName => ⟨fun isEntry => ⟨isEntry, ?_⟩, And.left⟩
  have isTarget : target = frame.component :=
    ComponentTable.eq_of_name_eq (kept target targetEntry) (same ▸ entry isEntry) sameName
  exact isTarget ▸ targetEntry

theorem any_sameEntry_eq {target : Component} (targetEntry : target ∈ table.entries)
    {stack others : List Frame} (carried : List.Forall₂ (CarriedOver table larger) stack others) :
    (others.any fun entry => Frame.sameEntry ⟨target, true⟩ entry) =
      stack.any fun entry => Frame.sameEntry ⟨target, true⟩ entry := by
  induction carried with
  | nil => rfl
  | cons here _ inductionHypothesis =>
      rw [List.any_cons, List.any_cons, inductionHypothesis, here.sameEntry_eq kept targetEntry]

omit kept in
theorem chainNames_eq {stack others : List Frame} {frame other : Frame}
    (carried : List.Forall₂ (CarriedOver table larger) stack others)
    (same : other.component = frame.component) :
    chainNames others other = chainNames stack frame := by
  have names : others.map (·.component.name) = stack.map (·.component.name) := by
    induction carried with
    | nil => rfl
    | cons here _ inductionHypothesis =>
        rw [List.map_cons, List.map_cons, inductionHypothesis, here.component_eq]
  simp [chainNames, names, same]

/-- Entries of the smaller table are expanded alike to this depth, whatever leads to them, unless
a fragment is missing. -/
def UpheldTo (table larger : ComponentTable) (depth : Nat) : Prop :=
  ∀ stack others, List.Forall₂ (CarriedOver table larger) stack others →
    ∀ target ∈ table.entries, ∀ content,
      Upheld (expandWithin table depth stack ⟨target, true⟩ content)
        (expandWithin larger depth others ⟨target, true⟩ content)

/-- A template is rendered alike if its fragments are expanded alike. -/
theorem template_upheld (built : larger.Built) {depth : Nat} (deeper : UpheldTo table larger depth)
    {stack others : List Frame} (carried : List.Forall₂ (CarriedOver table larger) stack others)
    {frame other : Frame} (here : CarriedOver table larger frame other) (binding : SlotBinding) :
    Upheld ((frameScope table depth stack frame binding).renderAll frame.component.template)
      ((frameScope larger depth others other binding).renderAll other.component.template) := by
  have upholds : Scope.Upholds (frameScope table depth stack frame binding)
      (frameScope larger depth others other binding) :=
    { owner_eq := congrArg Component.path here.component_eq
      binding_eq := rfl
      known := fun name target => ComponentTable.get?_of_subset kept
      unknown := fun name _ plain => built.get?_eq_none plain
      invoke := deeper _ _ (List.rel_append carried (.cons here .nil)) }
  rw [here.component_eq]
  exact Scope.renderAll_upheld upholds frame.component.template

/-- The induction is on the depth, which is the same for both tables. -/
theorem upheldTo (built : larger.Built) (depth : Nat) : UpheldTo table larger depth := by
  induction depth with
  | zero =>
      intro stack others carried target entry content
      rw [expandWithin, expandWithin, chainNames_eq carried rfl]
      exact .same _
  | succ depth inductionHypothesis =>
      intro stack others carried target entry content
      rw [expandWithin_succ, expandWithin_succ, any_sameEntry_eq kept entry carried,
        chainNames_eq carried rfl]
      split
      case isTrue => exact .same _
      case isFalse =>
        exact template_upheld kept built inductionHypothesis carried (.of_entry kept entry) content

/-- More registered fragments, and another order of them, change nothing about a component whose
expansion gives a tree or ends in a cycle: the tree is the same, and so is the cycle. -/
theorem expand_extended (built : larger.Built) {frame other : Frame}
    (carried : CarriedOver table larger frame other) (binding : SlotBinding)
    (settled : (∃ nodes, expand table frame binding = .ok nodes) ∨
      ∃ chain, expand table frame binding = .error (.cycle chain)) :
    expand larger other binding = expand table frame binding := by
  -- the larger table allows for more depth, which the smaller one has no use for
  have deeper : expand table frame binding =
      expandWithin table (larger.size + 1) [] frame binding :=
    expandWithin_eq_of_enough (Route.start table anyTag frame) List.nodup_nil (Nat.le_refl _)
      (Nat.succ_le_succ (ComponentTable.size_le_of_subset kept)) binding
  have upheld : Upheld (expandWithin table (larger.size + 1) [] frame binding)
      (expand larger other binding) := by
    rw [expand, expandWithin_succ, expandWithin_succ]
    exact template_upheld kept built (upheldTo kept built larger.size) .nil carried binding
  rw [deeper] at settled ⊢
  exact upheld.eq_of_settled settled

end Tables

/-! ### A small table and a larger one -/

/-- A banner that uses the card. -/
def sampleBanner : Component where
  name := "x-banner"
  path := Path.ofString "x-banner.html"
  template := [.element "header" [] [.element "x-card" [] []]]
  source := "<header><x-card></x-card></header>"

/-- The table of the banner, the card and the button. -/
def sampleLarger : ComponentTable where
  entries := [sampleBanner, sampleCard, sampleButton]
  distinct := by decide
  fragments := by decide

theorem sampleLarger_built : sampleLarger.Built := by
  refine ⟨[sampleBanner, sampleCard, sampleButton], ?_, rfl⟩
  refine List.forall_mem_cons.mpr ⟨?_, ?_⟩
  · refine ⟨sampleBanner.name, sampleBanner.path, sampleBanner.source, ?_⟩
    decide +kernel
  · intro component member
    apply sampleTable_built.compiled_of_mem
    simpa [sampleTable, or_comm] using member

/-- The banner is expanded as a file apart from the table of its parts, and alike as an entry of
the larger table. -/
theorem expand_extended_of_sample :
    sampleLarger.Built ∧
      (∀ component ∈ sampleTable.entries, component ∈ sampleLarger.entries) ∧
      CarriedOver sampleTable sampleLarger ⟨sampleBanner, false⟩ ⟨sampleBanner, true⟩ ∧
      (∃ nodes, expand sampleTable ⟨sampleBanner, false⟩ [] = .ok nodes) ∧
      expand sampleLarger ⟨sampleBanner, true⟩ [] =
        expand sampleTable ⟨sampleBanner, false⟩ [] := by
  have kept : ∀ component ∈ sampleTable.entries, component ∈ sampleLarger.entries := by decide
  have carried :
      CarriedOver sampleTable sampleLarger ⟨sampleBanner, false⟩ ⟨sampleBanner, true⟩ :=
    { component_eq := rfl
      entry := fun _ => List.mem_cons_self
      registered_iff := by decide }
  have expanded : ∃ nodes, expand sampleTable ⟨sampleBanner, false⟩ [] = .ok nodes := ⟨_, rfl⟩
  exact ⟨sampleLarger_built, kept, carried, expanded,
    expand_extended kept sampleLarger_built carried [] (.inl expanded)⟩

end StaticSite
