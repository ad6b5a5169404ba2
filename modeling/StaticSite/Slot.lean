/-
Module: StaticSite.Slot
Purpose: The content a template is given for its slots.
Trusted boundary: none
Main exports:
  SlotBinding, SlotBinding.get, SlotBinding.extend, slotName, wrapperSlot?, partitionContent
-/
import StaticSite.Markup.Node

namespace StaticSite

open Text Markup

/-- The content for each named slot, in the order in which the names came up.
The default slot has the empty name. -/
abbrev SlotBinding := List (String × List Node)

namespace SlotBinding

/-- The content of a slot; a slot that is not bound is empty. -/
def get (binding : SlotBinding) (name : String) : List Node :=
  (binding.lookup name).getD []

/-- Add content at the end of a slot, binding it if it was not. -/
def extend : SlotBinding → String → List Node → SlotBinding
  | [], name, nodes => [(name, nodes)]
  | (key, old) :: rest, name, nodes =>
      if key = name then (key, old ++ nodes) :: rest else (key, old) :: extend rest name nodes

/-- Give a slot this content in place of any it had. -/
def set : SlotBinding → String → List Node → SlotBinding
  | [], name, nodes => [(name, nodes)]
  | (key, old) :: rest, name, nodes =>
      if key = name then (key, nodes) :: rest else (key, old) :: set rest name nodes

end SlotBinding

/-- The slot that content goes to when it names none. -/
def defaultSlot : String :=
  ""

/-- The slot that a `slot` element with these attributes stands for. -/
def slotName (attributes : Attributes) : String :=
  trim ((attributes.get? "name").getD defaultSlot)

/-- The slot that an element directs its children to: only a `template` element
with a `slot` attribute does. -/
def wrapperSlot? (name : String) (attributes : Attributes) : Option String :=
  if name = "template" then (attributes.get? "slot").map trim else none

/-- The slot that a child of a use of a component goes to, and the nodes that
go there: the children of a wrapper, or the child itself. -/
def contribution (child : Node) : String × List Node :=
  match child with
  | .string _ _ => (defaultSlot, [child])
  | .element name attributes children =>
      match wrapperSlot? name attributes with
      | some slot => (slot, children)
      | none => (defaultSlot, [child])

/-- Render nodes in order, and put the results one after the other. -/
def renderEach {ε : Type} (render : Node → Except ε (List Node)) :
    List Node → Except ε (List Node)
  | [] => .ok []
  | node :: rest => do
      let first ← render node
      let more ← renderEach render rest
      return first ++ more

/-- Add the rendered children of a use of a component to a binding, each in its slot. -/
def partitionInto {ε : Type} (render : Node → Except ε (List Node)) (binding : SlotBinding) :
    List Node → Except ε SlotBinding
  | [] => .ok binding
  | child :: rest => do
      let (slot, nodes) := contribution child
      let rendered ← renderEach render nodes
      partitionInto render (binding.extend slot rendered) rest

/-- Group the children of a use of a component by the slot they fill, in
document order. -/
def partitionContent {ε : Type} (render : Node → Except ε (List Node)) (children : List Node) :
    Except ε SlotBinding :=
  partitionInto render [] children

end StaticSite
