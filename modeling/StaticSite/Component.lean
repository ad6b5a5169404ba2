/-
Module: StaticSite.Component
Purpose: Template files, compiled into pages and reusable fragments.
Trusted boundary: none
Main exports:
  Component, Component.isPage, Component.clientScripts, CompileError, compile, componentName,
  compileFile
-/
import StaticSite.Markup.Parse
import StaticSite.Markup.Script
import StaticSite.Path

namespace StaticSite

open Text Markup

/-- A compiled template file.  `source` is the markup as it was read. -/
structure Component where
  name : String
  path : Path
  template : List Node
  source : String
deriving DecidableEq, Repr, Inhabited

/-! ### Pages and fragments -/

/-- The node makes a template a page: a document type or an `html` element. -/
def marksPage : Node → Bool
  | .string kind _ => kind == .doctype
  | .element name _ _ => name == "html"

namespace Component

/-- A page is a whole document; any other component is a fragment, used through
an element of its name. -/
def isPage (component : Component) : Bool :=
  component.template.any marksPage

end Component

/-! ### Scripts of a template -/

mutual

/-- The inline scripts that belong to the template a node stands in.  Those
inside a custom element are content given to another component. -/
def Node.ownScripts : Node → List Script
  | .string _ _ => []
  | .element name attributes children =>
      if isInlineScriptTag name attributes then
        [⟨attributes, scriptText children⟩]
      else if isCustomName name then
        []
      else
        Node.ownScriptsOfAll children

/-- The inline scripts of some nodes that belong to the template they stand in. -/
def Node.ownScriptsOfAll : List Node → List Script
  | [] => []
  | node :: rest => Node.ownScripts node ++ Node.ownScriptsOfAll rest

end

/-- The inline scripts a component brings along, in document order. -/
def Component.clientScripts (component : Component) : List Script :=
  Node.ownScriptsOfAll component.template

/-! ### Compiling -/

/-- Why a source is not a component. -/
inductive CompileError where
  | rejectedMarkup
  /-- A fragment whose name no element can have. -/
  | invalidName (path : Path) (name : String)
deriving DecidableEq, Repr, Inhabited

/-- What to tell the author of the source. -/
def CompileError.message : CompileError → String
  | .rejectedMarkup => "The markup holds a marked section that no document can have."
  | .invalidName path name =>
      "Component '" ++ path.toString ++ "' must be named like a custom element (for example 'x-"
        ++ name ++ "'); got '" ++ name ++ "'."

/-- Compile a source.  A fragment needs the name of a custom element. -/
def compile (name : String) (path : Path) (source : String) : Except CompileError Component :=
  match parse source with
  | .error _ => .error .rejectedMarkup
  | .ok template =>
      let component : Component := ⟨name, path, template, source⟩
      if !component.isPage && !isCustomName name then
        .error (.invalidName path name)
      else
        .ok component

/-- The name of the component in a file: the file's name without its extension,
in lower case. -/
def componentName (path : Path) : String :=
  toLower path.stem

/-- Compile the text of a file. -/
def compileFile (path : Path) (source : String) : Except CompileError Component :=
  compile (componentName path) path source

end StaticSite
