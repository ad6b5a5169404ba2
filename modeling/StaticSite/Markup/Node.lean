/-
Module: StaticSite.Markup.Node
Purpose: The tree of an HTML document as it was authored.
Trusted boundary: none
Main exports:
  StringKind, Attributes, Node, isCustomName, isVoidElement
-/
import StaticSite.Text.Whitespace

namespace StaticSite.Markup

/-- What a run of characters in a document is.  Plain text inside the elements
`script`, `style`, `template`, `rt` and `rp` has a kind of its own. -/
inductive StringKind where
  | text
  | comment
  | doctype
  | cdata
  | instruction
  | declaration
  | script
  | style
  | template
  | rubyText
  | rubyParenthesis
deriving DecidableEq, Repr, Inhabited

/-- The attributes of an element in authored order, each name once. -/
abbrev Attributes := List (String × String)

namespace Attributes

/-- The value of an attribute. -/
def get? (attributes : Attributes) (name : String) : Option String :=
  attributes.lookup name

/-- The attribute is present, with whatever value. -/
def has (attributes : Attributes) (name : String) : Bool :=
  (attributes.get? name).isSome

/-- Set an attribute.  A name already present keeps its place and takes the
new value; a new name goes to the end. -/
def insert : Attributes → String → String → Attributes
  | [], name, value => [(name, value)]
  | (key, old) :: rest, name, value =>
      if key = name then (key, value) :: rest else (key, old) :: insert rest name value

/-- The attributes of a list of pairs in which later values win. -/
def ofPairs (pairs : List (String × String)) : Attributes :=
  pairs.foldl (fun attributes pair => attributes.insert pair.1 pair.2) []

end Attributes

/-- A node of a document: a string of some kind, or an element with its
attributes and children. -/
inductive Node where
  | string (kind : StringKind) (text : String)
  | element (name : String) (attributes : Attributes) (children : List Node)
deriving Repr, Inhabited

mutual

/-- Equality of nodes is decided by comparing the trees. -/
def Node.decEq : (a b : Node) → Decidable (a = b)
  | .string kind text, .string kind' text' =>
      if h : kind = kind' ∧ text = text' then
        isTrue (by rw [h.1, h.2])
      else
        isFalse (by intro e; injection e with hk ht; exact h ⟨hk, ht⟩)
  | .string _ _, .element _ _ _ => isFalse (by intro e; cases e)
  | .element _ _ _, .string _ _ => isFalse (by intro e; cases e)
  | .element name attributes children, .element name' attributes' children' =>
      if h : name = name' ∧ attributes = attributes' then
        match Node.decEqList children children' with
        | isTrue hc => isTrue (by rw [h.1, h.2, hc])
        | isFalse hc => isFalse (by intro e; injection e with _ _ e; exact hc e)
      else
        isFalse (by intro e; injection e with hn ha; exact h ⟨hn, ha⟩)

/-- Equality of node lists is decided by comparing them node by node. -/
def Node.decEqList : (as bs : List Node) → Decidable (as = bs)
  | [], [] => isTrue rfl
  | [], _ :: _ => isFalse (by intro e; cases e)
  | _ :: _, [] => isFalse (by intro e; cases e)
  | a :: as, b :: bs =>
      match Node.decEq a b with
      | isFalse h => isFalse (by intro e; injection e with e _; exact h e)
      | isTrue h =>
          match Node.decEqList as bs with
          | isTrue hs => isTrue (by rw [h, hs])
          | isFalse hs => isFalse (by intro e; injection e with _ e; exact hs e)

end

instance : DecidableEq Node := Node.decEq

namespace Node

/-- The node is a string of some kind. -/
def isString : Node → Bool
  | .string _ _ => true
  | .element _ _ _ => false

/-- The children of an element; a string has none. -/
def children : Node → List Node
  | .string _ _ => []
  | .element _ _ children => children

end Node

/-! ### Names of elements -/

/-- Hyphenated names that belong to SVG and MathML and are never custom elements. -/
def reservedNames : List String :=
  [ "annotation-xml", "color-profile", "font-face", "font-face-src", "font-face-uri",
    "font-face-format", "font-face-name", "missing-glyph" ]

/-- The name is that of a custom element: it holds a hyphen and is not reserved. -/
def isCustomName (name : String) : Bool :=
  name.toList.contains '-' && !reservedNames.contains name

/-- Elements that never have an end tag. -/
def voidElements : List String :=
  [ "area", "base", "br", "col", "embed", "hr", "img", "input", "keygen", "link", "menuitem",
    "meta", "param", "source", "track", "wbr", "basefont", "bgsound", "command", "frame",
    "image", "isindex", "nextid", "spacer" ]

/-- The element closes as soon as it is opened. -/
def isVoidElement (name : String) : Bool :=
  voidElements.contains name

end StaticSite.Markup
