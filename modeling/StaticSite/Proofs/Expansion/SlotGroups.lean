/-
Module: StaticSite.Proofs.Expansion.SlotGroups
Purpose: Grouping the content of a use by slots loses, doubles and reorders nothing, however nodes
  are rendered.
Trusted boundary: none
Main exports:
  wrapperValue?, nodesFor, Feeds, contributed, SlotBinding.Binds, partitionInto_error_iff,
  partitionInto_adds, Scope.fill_eq_partitionInto, partitionContent_groups
-/
import StaticSite.Proofs.Expansion.Parametric
import StaticSite.Proofs.Outcomes

namespace StaticSite

open Text Markup

/-! ### What a child is for -/

/-- The value of the `slot` attribute of a wrapper.  Only a `template` element that has the
attribute is a wrapper. -/
def wrapperValue? : Node → Option String
  | .string _ _ => none
  | .element name attributes _ => if name = "template" then attributes.get? "slot" else none

/-- A wrapper feeds the slot that its value names, apart from white space at the ends; any other
node feeds the slot with the empty name. -/
def Feeds (name : String) (child : Node) : Prop :=
  match wrapperValue? child with
  | some value => trim value = name
  | none => name = ""

/-- The nodes that a child has for the slot of a name: the children of a wrapper of that slot, and
for the empty name any child itself that is no wrapper. -/
def nodesFor (name : String) (child : Node) : List Node :=
  match wrapperValue? child with
  | some value => if trim value = name then child.children else []
  | none => if name = "" then [child] else []

/-- The nodes that a child has to be rendered, for whatever slot. -/
def contributed (child : Node) : List Node :=
  match wrapperValue? child with
  | some _ => child.children
  | none => [child]

theorem contribution_cases (child : Node) :
    (∃ value, wrapperValue? child = some value ∧
      contribution child = (trim value, child.children)) ∨
    wrapperValue? child = none ∧ contribution child = ("", [child]) := by
  cases child with
  | string kind text => exact .inr ⟨rfl, rfl⟩
  | element name attributes children =>
      simp only [wrapperValue?, contribution, wrapperSlot?]
      split
      case isFalse => exact .inr ⟨rfl, rfl⟩
      case isTrue =>
        cases attributes.get? "slot" with
        | none => exact .inr ⟨rfl, rfl⟩
        | some value => exact .inl ⟨value, rfl, rfl⟩

variable {name : String} {child : Node}

theorem contribution_nodes (child : Node) : (contribution child).2 = contributed child := by
  rcases contribution_cases child with ⟨value, wraps, same⟩ | ⟨plain, same⟩
  · rw [same, contributed, wraps]
  · rw [same, contributed, plain]

theorem contribution_slot : name = (contribution child).1 ↔ Feeds name child := by
  rcases contribution_cases child with ⟨value, wraps, same⟩ | ⟨plain, same⟩
  · rw [same, Feeds, wraps, eq_comm]
  · rw [same, Feeds, plain]

theorem nodesFor_of_feeds (feeds : Feeds name child) : nodesFor name child = contributed child := by
  unfold Feeds at feeds
  unfold nodesFor contributed
  split at feeds <;> simp [feeds]

theorem nodesFor_of_not_feeds (apart : ¬ Feeds name child) : nodesFor name child = [] := by
  unfold Feeds at apart
  unfold nodesFor
  split at apart <;> simp [apart]

/-! ### Rendering nodes one after the other -/

section Rendering

variable {ε : Type} {render : Node → Except ε (List Node)} {cause : ε}
  {first second nodes more : List Node}

theorem renderEach_singleton (render : Node → Except ε (List Node)) (node : Node) :
    renderEach render [node] = render node := by
  rw [renderEach, renderEach]
  cases render node with
  | error cause => rfl
  | ok nodes => exact congrArg Except.ok (List.append_nil nodes)

theorem renderEach_append (render : Node → Except ε (List Node)) (first second : List Node) :
    renderEach render (first ++ second) = (do
      let front ← renderEach render first
      let back ← renderEach render second
      return front ++ back) := by
  induction first with
  | nil => exact (bind_pure _).symm
  | cons node rest inductionHypothesis =>
      rw [List.cons_append, renderEach, renderEach, inductionHypothesis]
      simp only [bind_assoc, pure_bind, List.append_assoc]

theorem renderEach_append_ok (front : renderEach render first = .ok nodes)
    (back : renderEach render second = .ok more) :
    renderEach render (first ++ second) = .ok (nodes ++ more) := by
  rw [renderEach_append, front, back]
  rfl

theorem renderEach_append_error_iff : renderEach render (first ++ second) = .error cause ↔
    renderEach render first = .error cause ∨
      ∃ nodes, renderEach render first = .ok nodes ∧ renderEach render second = .error cause := by
  rw [renderEach_append, bind_eq_error_iff]
  refine or_congr_right (exists_congr fun nodes => and_congr_right fun _ => ?_)
  cases renderEach render second with
  | error other => exact Iff.rfl
  | ok more => exact iff_of_false (fun impossible => by cases impossible) nofun

end Rendering

/-! ### Names that are bound -/

namespace SlotBinding

variable {binding : SlotBinding} {slot : String} {nodes : List Node}

/-- The binding has an entry for the slot, be it an empty one. -/
def Binds (binding : SlotBinding) (name : String) : Prop :=
  name ∈ binding.map Prod.fst

/-- Only a slot that was not bound is added to the names. -/
theorem names_extend_cases (binding : SlotBinding) (slot : String) (nodes : List Node) :
    (binding.extend slot nodes).map Prod.fst = binding.map Prod.fst ∧ binding.Binds slot ∨
      ¬ binding.Binds slot ∧
        (binding.extend slot nodes).map Prod.fst = binding.map Prod.fst ++ [slot] := by
  induction binding with
  | nil => exact .inr ⟨List.not_mem_nil, rfl⟩
  | cons entry rest inductionHypothesis =>
      rw [extend]
      split
      case isTrue same => exact .inl ⟨rfl, same ▸ List.mem_cons_self⟩
      case isFalse different =>
        rcases inductionHypothesis with ⟨same, bound⟩ | ⟨unbound, added⟩
        · exact .inl ⟨congrArg (entry.1 :: ·) same, List.mem_cons_of_mem entry.1 bound⟩
        · refine .inr ⟨?_, congrArg (entry.1 :: ·) added⟩
          exact List.not_mem_cons_of_ne_of_not_mem (Ne.symm different) unbound

theorem binds_extend :
    (binding.extend slot nodes).Binds name ↔ binding.Binds name ∨ name = slot := by
  unfold Binds
  rcases names_extend_cases binding slot nodes with ⟨same, bound⟩ | ⟨-, added⟩
  · rw [same, or_iff_left_of_imp]
    rintro rfl
    exact bound
  · rw [added, List.mem_append, List.mem_singleton]

theorem nodup_extend (distinct : (binding.map Prod.fst).Nodup) :
    ((binding.extend slot nodes).map Prod.fst).Nodup := by
  rcases names_extend_cases binding slot nodes with ⟨same, -⟩ | ⟨unbound, added⟩
  · rw [same]
    exact distinct
  · rw [added, ← List.concat_eq_append]
    exact distinct.concat unbound

end SlotBinding

/-! ### Children one after the other -/

section Children

variable {ε : Type} {render : Node → Except ε (List Node)} {children : List Node}
  {before middle after : SlotBinding} {cause : ε}

theorem partitionInto_cons (render : Node → Except ε (List Node)) (binding : SlotBinding)
    (child : Node) (rest : List Node) : partitionInto render binding (child :: rest) = (do
      let rendered ← renderEach render (contributed child)
      partitionInto render (binding.extend (contribution child).1 rendered) rest) := by
  rw [partitionInto, ← contribution_nodes]

/-- Grouping fails as rendering all of the content in document order does. -/
theorem partitionInto_error_iff : partitionInto render before children = .error cause ↔
    renderEach render (children.flatMap contributed) = .error cause := by
  induction children generalizing before with
  | nil => exact iff_of_false nofun nofun
  | cons child rest inductionHypothesis =>
      rw [partitionInto_cons, bind_eq_error_iff, List.flatMap_cons, renderEach_append_error_iff]
      simp only [inductionHypothesis]

/-- What the children add to a binding: to each slot what they have for it, in document order, and
the slots that they feed. -/
structure Adds (render : Node → Except ε (List Node)) (children : List Node)
    (before after : SlotBinding) : Prop where
  contents : ∀ name, ∃ added, renderEach render (children.flatMap (nodesFor name)) = .ok added ∧
    after.get name = before.get name ++ added
  bound : ∀ name, after.Binds name ↔ before.Binds name ∨ ∃ child ∈ children, Feeds name child
  distinct : (before.map Prod.fst).Nodup → (after.map Prod.fst).Nodup

theorem Adds.nothing (binding : SlotBinding) : Adds render [] binding binding where
  contents := fun name => ⟨[], rfl, (List.append_nil _).symm⟩
  bound := fun name => by simp
  distinct := id

/-- A child adds to the one slot that it feeds. -/
theorem Adds.single {rendered : List Node}
    (done : renderEach render (contributed child) = .ok rendered) :
    Adds render [child] before (before.extend (contribution child).1 rendered) where
  contents := by
    intro name
    rw [List.flatMap_singleton, SlotBinding.get_extend]
    split
    case isTrue feeds =>
      exact ⟨rendered, nodesFor_of_feeds (contribution_slot.mp feeds) ▸ done, rfl⟩
    case isFalse apart =>
      have none := nodesFor_of_not_feeds fun feeds => apart (contribution_slot.mpr feeds)
      exact ⟨[], by rw [none]; rfl, (List.append_nil _).symm⟩
  bound := by
    intro name
    rw [SlotBinding.binds_extend, contribution_slot]
    simp
  distinct := SlotBinding.nodup_extend

theorem Adds.trans {first second : List Node} (one : Adds render first before middle)
    (other : Adds render second middle after) : Adds render (first ++ second) before after where
  contents := by
    intro name
    obtain ⟨added, done, gained⟩ := one.contents name
    obtain ⟨more, doneToo, gainedToo⟩ := other.contents name
    refine ⟨added ++ more, ?_, by rw [gainedToo, gained, List.append_assoc]⟩
    rw [List.flatMap_append]
    exact renderEach_append_ok done doneToo
  bound := by
    intro name
    rw [other.bound, one.bound, or_assoc]
    simp only [List.mem_append, or_and_right, exists_or]
  distinct := fun apart => other.distinct (one.distinct apart)

/-- All children add what they have, whatever is bound already. -/
theorem partitionInto_adds (done : partitionInto render before children = .ok after) :
    Adds render children before after := by
  induction children generalizing before with
  | nil =>
      obtain rfl := Except.ok.inj done
      exact .nothing before
  | cons child rest inductionHypothesis =>
      rw [partitionInto_cons, bind_eq_ok_iff] at done
      obtain ⟨rendered, renderedChild, onwards⟩ := done
      rw [← List.singleton_append]
      exact (Adds.single renderedChild).trans (inductionHypothesis onwards)

theorem partitionContent_adds {binding : SlotBinding}
    (done : partitionContent render children = .ok binding) :
    (binding.map Prod.fst).Nodup ∧
    (∀ name, renderEach render (children.flatMap (nodesFor name)) = .ok (binding.get name)) ∧
    ∀ name, binding.Binds name ↔ ∃ child ∈ children, Feeds name child := by
  have adds := partitionInto_adds done
  refine ⟨adds.distinct List.nodup_nil, fun name => ?_, fun name => ?_⟩
  · obtain ⟨added, rendered, same⟩ := adds.contents name
    exact rendered.trans (congrArg Except.ok same.symm)
  · exact (adds.bound name).trans (or_iff_right List.not_mem_nil)

theorem partitionContent_append_succeeds_iff (front back : List Node) :
    Succeeds (partitionContent render (front ++ back)) ↔
      Succeeds (partitionContent render front) ∧ Succeeds (partitionContent render back) := by
  have alike : ∀ children, Succeeds (partitionContent render children) ↔
      Succeeds (renderEach render (children.flatMap contributed)) :=
    fun children => succeeds_iff_of_errors fun cause => partitionInto_error_iff
  rw [alike, alike, alike, List.flatMap_append, renderEach_append]
  exact succeeds_bind_of_iff fun nodes => succeeds_bind_pure

/-- The groups of some children followed by others, name by name. -/
theorem partitionContent_append {front back : List Node} {binding first second : SlotBinding}
    (whole : partitionContent render (front ++ back) = .ok binding)
    (inFront : partitionContent render front = .ok first)
    (inBack : partitionContent render back = .ok second) (name : String) :
    binding.get name = first.get name ++ second.get name ∧
      (binding.Binds name ↔ first.Binds name ∨ second.Binds name) := by
  obtain ⟨-, contents, bound⟩ := partitionContent_adds whole
  obtain ⟨-, frontContents, frontBound⟩ := partitionContent_adds inFront
  obtain ⟨-, backContents, backBound⟩ := partitionContent_adds inBack
  constructor
  · have together := renderEach_append_ok (frontContents name) (backContents name)
    rw [← List.flatMap_append, contents name] at together
    exact Except.ok.inj together
  · rw [bound, frontBound, backBound]
    simp only [List.mem_append, or_and_right, exists_or]

end Children

/-! ### Content of a use -/

namespace Scope

theorem renderAll_eq_renderEach (scope : Scope) (nodes : List Node) :
    scope.renderAll nodes = renderEach scope.render nodes := by
  induction nodes with
  | nil => rfl
  | cons node rest inductionHypothesis => rw [renderAll, renderEach, inductionHypothesis]

/-- The content of a use is grouped by its slots with the rendering of the scope around it. -/
theorem fill_eq_partitionInto (scope : Scope) (content : SlotBinding) (children : List Node) :
    scope.fill content children = partitionInto scope.render content children := by
  induction children generalizing content with
  | nil => rfl
  | cons child rest inductionHypothesis =>
      cases child with
      | string kind text => exact inductionHypothesis _
      | element name attributes inner =>
          rw [fill, partitionInto, contribution]
          cases wrapperSlot? name attributes with
          | some slot => simp only [renderAll_eq_renderEach, inductionHypothesis]
          | none => simp only [renderEach_singleton, inductionHypothesis]

end Scope

/-- Grouping children by slots loses, doubles and reorders nothing.  It fails just as rendering
their content in document order does; otherwise each slot has, in document order, what the children
have for it, those slots are bound that a child feeds, and the groups of some children followed by
others are the groups of both, put together name by name. -/
theorem partitionContent_groups {ε : Type} (render : Node → Except ε (List Node))
    (children : List Node) :
    (∀ cause, partitionContent render children = .error cause ↔
      renderEach render (children.flatMap contributed) = .error cause) ∧
    (∀ binding, partitionContent render children = .ok binding →
      (binding.map Prod.fst).Nodup ∧
      (∀ name, renderEach render (children.flatMap (nodesFor name)) = .ok (binding.get name)) ∧
      ∀ name, binding.Binds name ↔ ∃ child ∈ children, Feeds name child) ∧
    ∀ front back, children = front ++ back →
      (Succeeds (partitionContent render children) ↔
        Succeeds (partitionContent render front) ∧ Succeeds (partitionContent render back)) ∧
      ∀ binding first second, partitionContent render children = .ok binding →
        partitionContent render front = .ok first → partitionContent render back = .ok second →
        ∀ name, binding.get name = first.get name ++ second.get name ∧
          (binding.Binds name ↔ first.Binds name ∨ second.Binds name) := by
  refine ⟨fun cause => partitionInto_error_iff, fun binding => partitionContent_adds, ?_⟩
  rintro front back rfl
  refine ⟨partitionContent_append_succeeds_iff front back, ?_⟩
  exact fun binding first second => partitionContent_append

/-- Two wrappers and a plain child feed one slot when its name is empty, in the order in which they
stand; an empty wrapper binds its slot, and of nested wrappers only the outer one is taken off. -/
theorem partitionContent_groups_of_sample :
    let text := fun characters => Node.string .text characters
    let wrapper := fun value children => Node.element "template" [("slot", value)] children
    let front := [text "a", wrapper " side " [text "b", text "c"], wrapper "" [text "d"]]
    let back := [text "e", wrapper "side" [wrapper "side" [text "f"]], wrapper "foot" []]
    let render : Node → Except Unit (List Node) := fun node => .ok [node, text "|"]
    ∃ binding, partitionContent render (front ++ back) = .ok binding ∧
      renderEach render [text "a", text "d", text "e"] = .ok (binding.get "") ∧
      renderEach render [text "b", text "c", wrapper "side" [text "f"]] =
        .ok (binding.get "side") ∧
      binding.Binds "foot" ∧ binding.get "foot" = [] := by
  intro text wrapper front back render
  obtain ⟨binding, done⟩ : Succeeds (partitionContent render (front ++ back)) := ⟨_, rfl⟩
  obtain ⟨-, contents, bound⟩ :=
    (partitionContent_groups render (front ++ back)).2.1 binding done
  refine ⟨binding, done, contents "", contents "side", ?_, ?_⟩
  · refine (bound "foot").mpr ⟨wrapper "foot" [], by simp [back], ?_⟩
    rfl
  · exact (Except.ok.inj (contents "foot")).symm

end StaticSite
