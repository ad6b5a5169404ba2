/-
Module: StaticSite.Expansion
Purpose: Replacing the uses of components by what their templates say.
Trusted boundary: none
Main exports:
  Frame, ExpansionError, Scope, Scope.render, Scope.renderAll, Scope.fill, expandWithin, expand,
  render
-/
import StaticSite.ComponentTable
import StaticSite.Slot

namespace StaticSite

open Text Markup

/-!
A template is copied node by node.  A use of a component is replaced by the
component's template, a slot by the content it was given.  Content is rendered
where it was written, before it is handed on, so a slot inside it is one of the
template that holds the use.
-/

/-- A component that is being expanded.  One that is `registered` is an entry of
the table, so a use can lead back to it; one compiled apart from the table
cannot be met again, even if an entry has its name. -/
structure Frame where
  component : Component
  registered : Bool
deriving DecidableEq, Repr, Inhabited

namespace Frame

/-- Both frames are of one entry of the table. -/
def sameEntry (a b : Frame) : Bool :=
  a.registered && b.registered && a.component.name == b.component.name

end Frame

/-- Why a component cannot be expanded. -/
inductive ExpansionError where
  | unknown (cause : UnknownComponent)
  /-- The names of the components that lead back to the last one of them. -/
  | cycle (chain : List String)
deriving DecidableEq, Repr, Inhabited

/-- What to tell the authors of the components. -/
def ExpansionError.message : ExpansionError → String
  | .unknown cause => cause.message
  | .cycle chain => "Recursive component definition: " ++ joinWith " -> " chain

/-- The rendered nodes, or why there are none. -/
abbrev Rendering := Except ExpansionError (List Node)

/-- The surroundings in which the nodes of one template are rendered. -/
structure Scope where
  table : ComponentTable
  /-- The file of the component whose template it is. -/
  owner : Path
  /-- The content given to the template. -/
  binding : SlotBinding
  /-- Expand a component that the template uses. -/
  invoke : Component → SlotBinding → Rendering

namespace Scope

/-- What an element of this name stands for here. -/
def classify (scope : Scope) (name : String) : Except ExpansionError TagKind :=
  (scope.table.classifyTag scope.owner name).mapError .unknown

mutual

/-- Render a node of a template. -/
def render (scope : Scope) : Node → Rendering
  | .string kind text => .ok [.string kind text]
  | .element name attributes children =>
      match scope.classify name with
      | .error e => .error e
      | .ok .slot => .ok (scope.binding.get (slotName attributes))
      | .ok (.component target) => do
          let content ← fill scope [] children
          scope.invoke target content
      | .ok .element => do
          let rendered ← renderAll scope children
          return [.element name attributes rendered]

/-- Render nodes of a template, one after the other. -/
def renderAll (scope : Scope) : List Node → Rendering
  | [] => .ok []
  | node :: rest => do
      let first ← render scope node
      let more ← renderAll scope rest
      return first ++ more

/-- Render the children of a use of a component, and add them to the content
for the slots they fill. -/
def fill (scope : Scope) (content : SlotBinding) : List Node → Except ExpansionError SlotBinding
  | [] => .ok content
  | .string kind text :: rest =>
      fill scope (content.extend defaultSlot [.string kind text]) rest
  | .element name attributes children :: rest =>
      match wrapperSlot? name attributes with
      | some slot => do
          let rendered ← renderAll scope children
          fill scope (content.extend slot rendered) rest
      | none => do
          let rendered ← render scope (.element name attributes children)
          fill scope (content.extend defaultSlot rendered) rest

end

end Scope

/-- The names of the components that are being expanded, outermost first, and of
one more. -/
def chainNames (stack : List Frame) (frame : Frame) : List String :=
  (stack ++ [frame]).map (·.component.name)

/-- Expand a component that `stack`, outermost first, leads to.  The entries of
the table on the stack are distinct, so it never gets longer than the table and
the one component that may stand outside of it; `depth` is what remains of that
length. -/
def expandWithin (table : ComponentTable) :
    (depth : Nat) → (stack : List Frame) → Frame → SlotBinding → Rendering
  | 0, stack, frame, _ => .error (.cycle (chainNames stack frame))
  | depth + 1, stack, frame, binding =>
      if stack.any fun entry => frame.sameEntry entry then
        .error (.cycle (chainNames stack frame))
      else
        Scope.renderAll
          { table := table
            owner := frame.component.path
            binding := binding
            invoke := fun target content =>
              expandWithin table depth (stack ++ [frame]) ⟨target, true⟩ content }
          frame.component.template

/-- Expand a component with content that is already rendered. -/
def expand (table : ComponentTable) (frame : Frame) (binding : SlotBinding) : Rendering :=
  expandWithin table (table.size + 1) [] frame binding

/-- The surroundings in which the content given to a component from outside is
rendered: it sees no slots. -/
def contentScope (table : ComponentTable) (frame : Frame) : Scope :=
  { table := table
    owner := frame.component.path
    binding := []
    invoke := fun target content =>
      expandWithin table table.size [frame] ⟨target, true⟩ content }

/-- Render a component, usually a page, with content for its own slots. -/
def render (table : ComponentTable) (frame : Frame) (content : List Node) : Rendering := do
  let binding ← (contentScope table frame).fill [] content
  expand table frame binding

end StaticSite
