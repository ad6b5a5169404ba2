/-
Module: StaticSite.Markup.Script
Purpose: Finding the inline JavaScript of a document.
Trusted boundary: none
Main exports:
  Script, Node.script?, Node.inlineScripts, inlineScripts, elementsNamed, Node.isInlineScript
-/
import StaticSite.Markup.Serialize
import StaticSite.Sort

namespace StaticSite.Markup

open Text

/-- An inline script: the attributes of its element and its source text. -/
structure Script where
  attributes : Attributes
  code : String
deriving DecidableEq, Repr, Inhabited

/-- The values of `type` that announce JavaScript; a missing type is empty. -/
def javaScriptTypes : List String :=
  [ "", "module", "text/javascript", "application/javascript", "text/ecmascript",
    "application/ecmascript" ]

/-- A `script` element with these attributes holds JavaScript of its own: it
does not load another file, and its type announces JavaScript. -/
def declaresInlineScript (attributes : Attributes) : Bool :=
  !attributes.has "src"
    && javaScriptTypes.contains (toLower (trim ((attributes.get? "type").getD "")))

/-- An element of this name and these attributes is an inline script. -/
def isInlineScriptTag (name : String) (attributes : Attributes) : Bool :=
  name == "script" && declaresInlineScript attributes

mutual

/-- The node with the attributes of every element in the order of their names. -/
def Node.sorted : Node → Node
  | .string kind text => .string kind text
  | .element name attributes children =>
      .element name (sortBy pairLe attributes) (Node.sortedAll children)

/-- The nodes, each with sorted attributes. -/
def Node.sortedAll : List Node → List Node
  | [] => []
  | node :: rest => Node.sorted node :: Node.sortedAll rest

end

/-- The source text that the children of a `script` element hold.  Where a tree holds elements
there, which no parsed document does, they count as markup with sorted attributes. -/
def scriptText (children : List Node) : String :=
  concat (children.map fun
    | .string _ text => text
    | .element name attributes inner => (Node.element name attributes inner).sorted.toHtml)

/-- The inline script that a node is. -/
def Node.script? : Node → Option Script
  | .string _ _ => none
  | .element name attributes children =>
      if isInlineScriptTag name attributes then some ⟨attributes, scriptText children⟩ else none

/-- The node is an inline script. -/
def Node.isInlineScript (node : Node) : Bool :=
  node.script?.isSome

mutual

/-- The inline scripts at or below a node, in document order.  Nothing is
looked for inside a script. -/
def Node.inlineScripts : Node → List Script
  | .string _ _ => []
  | .element name attributes children =>
      if isInlineScriptTag name attributes then
        [⟨attributes, scriptText children⟩]
      else
        Node.inlineScriptsOfAll children

/-- The inline scripts at or below some nodes, in document order. -/
def Node.inlineScriptsOfAll : List Node → List Script
  | [] => []
  | node :: rest => Node.inlineScripts node ++ Node.inlineScriptsOfAll rest

end

/-- The inline scripts of a document, in document order. -/
def inlineScripts (nodes : List Node) : List Script :=
  Node.inlineScriptsOfAll nodes

mutual

/-- The elements named `name` at or below a node, in document order. -/
def Node.elementsNamed (name : String) : Node → List Node
  | .string _ _ => []
  | .element tag attributes children =>
      let below := Node.elementsNamedInAll name children
      if tag = name then .element tag attributes children :: below else below

/-- The elements named `name` at or below some nodes, in document order. -/
def Node.elementsNamedInAll (name : String) : List Node → List Node
  | [] => []
  | node :: rest => Node.elementsNamed name node ++ Node.elementsNamedInAll name rest

end

/-- The elements of a document that are named `name`, in document order. -/
def elementsNamed (name : String) (nodes : List Node) : List Node :=
  Node.elementsNamedInAll name nodes

end StaticSite.Markup
