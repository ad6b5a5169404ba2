/-
Module: StaticSite.ComponentTable
Purpose: The fragments of a site, each under its own name.
Trusted boundary: none
Main exports:
  ComponentTable, ComponentTable.register, ComponentTable.get?, RegisterError, TagKind,
  ComponentTable.classifyTag
-/
import StaticSite.Component

namespace StaticSite

open Markup

/-- The fragments that templates can use, in the order of their registration. -/
structure ComponentTable where
  entries : List Component
  /-- No two entries share a name. -/
  distinct : (entries.map (·.name)).Nodup
  /-- Pages are rendered, never used. -/
  fragments : ∀ component ∈ entries, component.isPage = false

/-- Why a component cannot be registered. -/
inductive RegisterError where
  | page (path : Path)
  | duplicate (name : String) (old new : Path)
deriving DecidableEq, Repr, Inhabited

/-- What to tell the authors of the components. -/
def RegisterError.message : RegisterError → String
  | .page path => "Page '" ++ path.toString ++ "' cannot be registered as a component."
  | .duplicate name old new =>
      "Component name must be unique. Found duplicate: " ++ name ++ " (" ++ old.toString ++ ", "
        ++ new.toString ++ ")"

namespace ComponentTable

/-- The table without entries. -/
def empty : ComponentTable :=
  ⟨[], List.nodup_nil, by simp⟩

instance : Inhabited ComponentTable := ⟨empty⟩

/-- The names of the entries in the order of their registration. -/
def names (table : ComponentTable) : List String :=
  table.entries.map (·.name)

/-- The entry of that name. -/
def get? (table : ComponentTable) (name : String) : Option Component :=
  table.entries.find? fun component => component.name == name

/-- Some entry has that name. -/
def contains (table : ComponentTable) (name : String) : Bool :=
  table.names.contains name

/-- The number of entries. -/
def size (table : ComponentTable) : Nat :=
  table.entries.length

/-- Add a component at the end.  Pages and names in use are refused. -/
def register (table : ComponentTable) (component : Component) :
    Except RegisterError ComponentTable :=
  if hp : component.isPage = true then
    .error (.page component.path)
  else
    match hf : table.get? component.name with
    | some old => .error (.duplicate component.name old.path component.path)
    | none =>
        .ok
          { entries := table.entries ++ [component]
            distinct := by
              simp only [get?, List.find?_eq_none, beq_iff_eq] at hf
              simp only [List.map_append, List.map_cons, List.map_nil, List.nodup_append]
              refine ⟨table.distinct, by simp, ?_⟩
              intro a ha b hb
              simp only [List.mem_singleton] at hb
              obtain ⟨c, hc, rfl⟩ := List.mem_map.mp ha
              rw [hb]
              exact hf c hc
            fragments := by
              intro c hc
              rcases List.mem_append.mp hc with h | h
              · exact table.fragments c h
              · rw [List.mem_singleton.mp h]
                simpa using hp }

/-- Register components one after the other. -/
def registerAll (table : ComponentTable) (components : List Component) :
    Except RegisterError ComponentTable :=
  components.foldlM register table

end ComponentTable

/-! ### What a tag stands for -/

/-- The name of the elements that are replaced by content given from outside. -/
def slotTag : String :=
  "slot"

/-- What an element of a template stands for. -/
inductive TagKind where
  /-- A place for content given from outside. -/
  | slot
  /-- A use of a fragment. -/
  | component (target : Component)
  /-- The element itself. -/
  | element
deriving DecidableEq, Repr, Inhabited

/-- A template uses a custom element that no fragment is registered for. -/
structure UnknownComponent where
  tag : String
  /-- The file of the component whose template it is. -/
  owner : Path
deriving DecidableEq, Repr, Inhabited

/-- What to tell the author of the template. -/
def UnknownComponent.message (unknown : UnknownComponent) : String :=
  "Unknown component <" ++ unknown.tag ++ "> referenced in " ++ unknown.owner.toString

/-- What an element of this name stands for in the template of a component
defined in the file `owner`. -/
def ComponentTable.classifyTag (table : ComponentTable) (owner : Path) (name : String) :
    Except UnknownComponent TagKind :=
  if name = slotTag then
    .ok .slot
  else
    match table.get? name with
    | some target => .ok (.component target)
    | none => if isCustomName name then .error ⟨name, owner⟩ else .ok .element

end StaticSite
