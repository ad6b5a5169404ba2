/-
Module: StaticSite.Proofs.Expansion.References
Purpose: Which components refer to which: the graph of a table, said without expanding
  anything, and the tables that compiled fragments can make up.
Trusted boundary: none
Main exports:
  tagsOf, Component.tags, ComponentTable.Uses, ComponentTable.LeadsToCycle,
  ComponentTable.LeadsToUnknown, ComponentTable.Built
-/
import Mathlib.Data.List.Nodup
import Mathlib.Logic.Relation
import StaticSite.ComponentTable

namespace StaticSite

open Markup Relation

/-! ### The graph -/

mutual

/-- The names of the elements at or below a node, in document order.  Nothing is
looked for in a slot, whose children are never rendered. -/
def tagsOf : Node → List String
  | .string _ _ => []
  | .element name _ children => if name = slotTag then [] else name :: tagsOfAll children

/-- The names of the elements at or below some nodes that are not in a slot. -/
def tagsOfAll : List Node → List String
  | [] => []
  | node :: rest => tagsOf node ++ tagsOfAll rest

end

/-- The names of the elements of a template that are not in a slot. -/
def Component.tags (component : Component) : List String :=
  tagsOfAll component.template

namespace ComponentTable

/-- The template of the first component uses the second one. -/
def Uses (table : ComponentTable) (user used : Component) : Prop :=
  ∃ tag ∈ user.tags, table.get? tag = some used

/-- Uses lead from the component to one that leads back to itself. -/
def LeadsToCycle (table : ComponentTable) (component : Component) : Prop :=
  ∃ met, ReflTransGen table.Uses component met ∧ TransGen table.Uses met met

/-- Uses lead from the component to one whose template has a custom element that no
entry is for. -/
def LeadsToUnknown (table : ComponentTable) (component : Component) : Prop :=
  ∃ met, ReflTransGen table.Uses component met ∧
    ∃ tag ∈ met.tags, isCustomName tag = true ∧ table.get? tag = none

/-- The table is what registering some compiled components yields. -/
def Built (table : ComponentTable) : Prop :=
  ∃ components : List Component,
    (∀ component ∈ components, ∃ name path source, compile name path source = .ok component) ∧
      ComponentTable.empty.registerAll components = .ok table

variable {table : ComponentTable} {user used component : Component}

/-! ### What is reached -/

theorem LeadsToCycle.of_uses (uses : table.Uses user used) (cycle : table.LeadsToCycle used) :
    table.LeadsToCycle user := by
  obtain ⟨met, way, back⟩ := cycle
  exact ⟨met, .head uses way, back⟩

theorem LeadsToUnknown.of_uses (uses : table.Uses user used)
    (unknown : table.LeadsToUnknown used) : table.LeadsToUnknown user := by
  obtain ⟨met, way, unmet⟩ := unknown
  exact ⟨met, .head uses way, unmet⟩

/-! ### Entries -/

theorem get?_mem {name : String} (found : table.get? name = some component) :
    component ∈ table.entries :=
  List.mem_of_find?_eq_some found

/-- Entries of one name are one entry. -/
theorem eq_of_name_eq (first : user ∈ table.entries) (second : used ∈ table.entries)
    (sameName : user.name = used.name) : user = used :=
  List.inj_on_of_nodup_map table.distinct first second sameName

/-- An entry is found under its name. -/
theorem get?_of_mem (entry : component ∈ table.entries) :
    table.get? component.name = some component := by
  cases found : table.get? component.name with
  | none =>
      have differs := List.find?_eq_none.mp found component entry
      simp at differs
  | some other =>
      have sameName : other.name = component.name := by
        simpa using List.find?_some found
      rw [eq_of_name_eq (get?_mem found) entry sameName]

/-- What is taken for a use is not a slot, and stands for the entry of its name. -/
theorem get?_of_classifyTag {owner : Path} {name : String} {target : Component}
    (kind : table.classifyTag owner name = .ok (.component target)) :
    name ≠ slotTag ∧ table.get? name = some target := by
  rw [classifyTag] at kind
  split at kind
  case isTrue => cases kind
  case isFalse notSlot =>
    split at kind
    case h_1 entry found =>
      obtain rfl : entry = target := TagKind.component.inj (Except.ok.inj kind)
      exact ⟨notSlot, found⟩
    case h_2 =>
      split at kind <;> cases kind

theorem notSlot_of_classifyTag {owner : Path} {name : String}
    (kind : table.classifyTag owner name = .ok .element) : name ≠ slotTag := by
  rintro rfl
  rw [classifyTag, if_pos rfl] at kind
  cases kind

/-- What is refused has the name of a custom element, and there is no entry of that name. -/
theorem unknown_of_classifyTag {owner : Path} {name : String} {cause : UnknownComponent}
    (kind : table.classifyTag owner name = .error cause) :
    cause = ⟨name, owner⟩ ∧ name ≠ slotTag ∧ table.get? name = none ∧
      isCustomName name = true := by
  rw [classifyTag] at kind
  split at kind
  case isTrue => cases kind
  case isFalse notSlot =>
    split at kind
    case h_1 => cases kind
    case h_2 missing =>
      split at kind
      case isTrue custom => exact ⟨(Except.error.inj kind).symm, notSlot, missing, custom⟩
      case isFalse => cases kind

theorem register_entries {after : ComponentTable}
    (registered : table.register component = .ok after) :
    after.entries = table.entries ++ [component] ∧ component.isPage = false := by
  rw [register] at registered
  split at registered
  case isTrue => simp at registered
  case isFalse fragment =>
    split at registered
    case h_1 => simp at registered
    case h_2 =>
      obtain rfl := Except.ok.inj registered
      exact ⟨rfl, by simpa using fragment⟩

theorem registerAll_entries {after : ComponentTable} {components : List Component}
    (registered : table.registerAll components = .ok after) :
    after.entries = table.entries ++ components ∧
      ∀ component ∈ components, component.isPage = false := by
  induction components generalizing table with
  | nil =>
      obtain rfl : table = after := Except.ok.inj registered
      simp
  | cons component rest inductionHypothesis =>
      rw [registerAll, List.foldlM_cons] at registered
      cases first : table.register component with
      | error cause => simp [first, bind, Except.bind] at registered
      | ok middle =>
          rw [first] at registered
          obtain ⟨entries, fragment⟩ := register_entries first
          obtain ⟨others, fragments⟩ := inductionHypothesis registered
          refine ⟨by rw [others, entries, List.append_assoc, List.singleton_append], ?_⟩
          intro one member
          rcases List.mem_cons.mp member with rfl | later
          · exact fragment
          · exact fragments one later

theorem isCustomName_of_compile {name : String} {path : Path} {source : String}
    (compiled : compile name path source = .ok component) (fragment : component.isPage = false) :
    isCustomName component.name = true := by
  rw [compile] at compiled
  split at compiled
  case h_1 => simp at compiled
  case h_2 =>
    simp only at compiled
    split at compiled
    case isTrue => simp at compiled
    case isFalse valid =>
      obtain rfl := Except.ok.inj compiled
      simpa [fragment] using valid

/-- Every entry of a table of compiled components has been compiled. -/
theorem Built.compiled_of_mem (built : table.Built) (entry : component ∈ table.entries) :
    ∃ name path source, compile name path source = .ok component := by
  obtain ⟨components, compiled, registered⟩ := built
  rw [(registerAll_entries registered).1, empty, List.nil_append] at entry
  exact compiled component entry

/-- All entries of a table of compiled components have names of custom elements. -/
theorem Built.isCustomName_of_get? (built : table.Built) {name : String}
    (found : table.get? name = some component) : isCustomName name = true := by
  obtain ⟨given, path, source, made⟩ := built.compiled_of_mem (get?_mem found)
  have sameName : component.name = name := by
    simpa using List.find?_some found
  rw [← sameName]
  exact isCustomName_of_compile made (table.fragments component (get?_mem found))

end ComponentTable

end StaticSite
