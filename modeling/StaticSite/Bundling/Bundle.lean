/-
Module: StaticSite.Bundling.Bundle
Purpose: Script files made of the scripts of one or more components.
Trusted boundary: none
Main exports:
  Bundle, Bundle.absorb, Bundle.finalize, Bundle.relativePath, BundleError
-/
import StaticSite.Text.Search

namespace StaticSite.Bundling

open Text

/-- A script file.  Its URL is known once nothing more is merged into it. -/
structure Bundle where
  name : String
  code : String
  /-- The components whose scripts it carries. -/
  components : List String
  src : Option String := none
deriving DecidableEq, Repr, Inhabited

/-- A bundle was used too early or twice. -/
inductive BundleError where
  | alreadyFinal (name src : String)
  | notFinal (name : String)
deriving DecidableEq, Repr, Inhabited

/-- What went wrong, for a message. -/
def BundleError.message : BundleError → String
  | .alreadyFinal name src => "Bundle '" ++ name ++ "' already has a src: " ++ src
  | .notFinal name => "Bundle '" ++ name ++ "' has not been finalized."

namespace Bundle

/-- Put the name, the code and the components of another bundle at the end. -/
def absorb (bundle other : Bundle) : Bundle :=
  { bundle with
    name := bundle.name ++ "-" ++ other.name
    code := bundle.code ++ "\n" ++ other.code
    components := bundle.components ++ other.components }

/-- The URL a bundle of that name gets. -/
def srcOf (srcStart name : String) : String :=
  srcStart ++ name ++ ".js"

/-- Give the bundle its URL, which starts with `srcStart`. -/
def finalize (srcStart : String) (bundle : Bundle) : Except BundleError Bundle :=
  match bundle.src with
  | some src => .error (.alreadyFinal bundle.name src)
  | none => .ok { bundle with src := some (srcOf srcStart bundle.name) }

/-- The URL without the slashes it starts with: where the file goes below the
output directory. -/
def relativePath (bundle : Bundle) : Except BundleError String :=
  match bundle.src with
  | some src => .ok (String.ofList (src.toList.dropWhile (· == '/')))
  | none => .error (.notFinal bundle.name)

end Bundle

end StaticSite.Bundling
