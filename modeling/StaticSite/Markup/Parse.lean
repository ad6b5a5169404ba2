/-
Module: StaticSite.Markup.Parse
Purpose: Building the tree of a document from the tokens of its source.
Trusted boundary: none
Main exports:
  OpenElement, Builder, Builder.read, Builder.finish, parse
-/
import StaticSite.Markup.Token

namespace StaticSite.Markup

open Text

/-!
The tree follows the tags as they are written.  No end tag is implied: an end
tag closes everything up to the nearest open element of its name, and one that
matches no open element is ignored.
-/

/-- An element whose end tag has not been read; the children are newest first. -/
structure OpenElement where
  name : String
  attributes : Attributes
  children : List Node
deriving Repr, Inhabited

/-- The state of building a tree.  Open elements are innermost first, nodes
newest first.  `pending` is the text read since the last node.  A void element
closes itself, and then one end tag of its name may still follow: `closedVoids`
lists the ones to ignore. -/
structure Builder where
  opened : List OpenElement := []
  nodes : List Node := []
  pending : List Char := []
  closedVoids : List String := []
deriving Repr, Inhabited

/-- The kind of plain text inside an element that gives it one. -/
def textKindIn? (name : String) : Option StringKind :=
  match name with
  | "script" => some .script
  | "style" => some .style
  | "template" => some .template
  | "rt" => some .rubyText
  | "rp" => some .rubyParenthesis
  | _ => none

/-- Inside these elements white space is kept as it is. -/
def keepsSpace (name : String) : Bool :=
  name == "pre" || name == "textarea"

namespace Builder

/-- The kind plain text has at this place: the one of the innermost open
element that gives a kind. -/
def textKind (builder : Builder) : StringKind :=
  (builder.opened.findSome? fun element => textKindIn? element.name).getD .text

/-- A string of nothing but white space becomes one line feed or one space. -/
def normalize (builder : Builder) (chars : List Char) : String :=
  if chars.all isHtmlSpace && !builder.opened.any (fun element => keepsSpace element.name) then
    if chars.contains '\n' then "\n" else " "
  else
    String.ofList chars

/-- Put a node at the end of the innermost open element. -/
def add (builder : Builder) (node : Node) : Builder :=
  match builder.opened with
  | [] => { builder with nodes := node :: builder.nodes }
  | element :: outer =>
      { builder with opened := { element with children := node :: element.children } :: outer }

/-- Turn the pending text into a node. -/
def flush (builder : Builder) : Builder :=
  match builder.pending with
  | [] => builder
  | chars =>
      { builder.add (.string builder.textKind (builder.normalize chars)) with pending := [] }

/-- Close the open elements up to and including the first one that satisfies
`last`, or all of them.  `inner` holds the nodes that go into the first one. -/
def closeThrough (last : OpenElement → Bool) (builder : Builder) :
    (inner : List Node) → List OpenElement → Builder
  | inner, [] => { builder with opened := [], nodes := inner ++ builder.nodes }
  | inner, element :: outer =>
      let node := .element element.name element.attributes (inner ++ element.children).reverse
      if last element then
        { builder with opened := outer }.add node
      else
        closeThrough last builder [node] outer

/-- An end tag closes up to the nearest open element of its name; without such
an element it only ends the text before it. -/
def close (builder : Builder) (name : String) : Builder :=
  let builder := builder.flush
  if builder.opened.any fun element => element.name == name then
    builder.closeThrough (fun element => element.name == name) [] builder.opened
  else
    builder

/-- Read an end tag.  The first one after a void element of that name closed
itself is ignored. -/
def readEndTag (builder : Builder) (name : String) : Builder :=
  if builder.closedVoids.contains name then
    { builder with closedVoids := builder.closedVoids.erase name }
  else
    builder.close name

/-- Read a start tag. -/
def readStartTag (builder : Builder) (name : String) (attributes : List (String × String))
    (closed : Bool) : Builder :=
  let builder := builder.flush
  let builder := { builder with
    opened := ⟨name, Attributes.ofPairs attributes, []⟩ :: builder.opened }
  if closed then
    builder.close name
  else if isVoidElement name then
    { builder.close name with closedVoids := name :: builder.closedVoids }
  else
    builder

/-- Read one token. -/
def read (builder : Builder) : Token → Builder
  | .text chars => { builder with pending := builder.pending ++ chars }
  | .special kind chars =>
      let builder := builder.flush
      builder.add (.string kind (builder.normalize chars))
  | .startTag name attributes closed => builder.readStartTag name attributes closed
  | .endTag name => builder.readEndTag name

/-- The top-level nodes, once everything still open is closed. -/
def finish (builder : Builder) : List Node :=
  let builder := builder.flush
  (builder.closeThrough (fun _ => false) [] builder.opened).nodes.reverse

end Builder

/-- The tree that tokens describe. -/
def build (tokens : List Token) : List Node :=
  (tokens.foldl Builder.read {}).finish

/-- The top-level nodes of an HTML source. -/
def parse (source : String) : Except RejectedMarkup (List Node) := do
  return build (← tokens source)

end StaticSite.Markup
