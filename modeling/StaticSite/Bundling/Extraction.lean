/-
Module: StaticSite.Bundling.Extraction
Purpose: Moving inline scripts that pages share into files of their own.
Trusted boundary: none
Main exports:
  Page, Usages, usages, declarations, owner?, isEligible, Extraction, ExtractionError, extract
-/
import StaticSite.Bundling.Registry
import StaticSite.Component
import StaticSite.Log

namespace StaticSite.Bundling

open Text Markup

/-- A rendered page.  Pages are told apart by their place in the list of pages,
not by their paths. -/
structure Page where
  path : String
  nodes : List Node
deriving DecidableEq, Repr, Inhabited

/-! ### Who declares a script -/

/-- Every script that components declare, with the name of the component. -/
def declarations (components : List Component) : List (Signature × String) :=
  components.flatMap fun component =>
    component.clientScripts.map fun script => (Signature.ofScript script, component.name)

/-- The owner of a script: the last component that declares it. -/
def owner? (components : List Component) (signature : Signature) : Option String :=
  (declarations components).reverse.lookup signature

/-! ### Where a script is used -/

/-- The scripts found on pages, in order of first encounter, each with the
numbers of the pages that use it. -/
abbrev Usages := List (Signature × List Nat)

/-- Note that a script is used on a page. -/
def Usages.add : Usages → Signature → (page : Nat) → Usages
  | [], signature, page => [(signature, [page])]
  | (key, pages) :: rest, signature, page =>
      if key = signature then
        (key, if pages.contains page then pages else pages ++ [page]) :: rest
      else
        (key, pages) :: Usages.add rest signature page

/-- The signatures of the inline scripts of a page, in document order. -/
def Page.signatures (page : Page) : List Signature :=
  (inlineScripts page.nodes).map Signature.ofScript

/-- Where the scripts of pages are used; the first page has the number `first`. -/
def usagesFrom : Usages → (first : Nat) → List Page → Usages
  | usages, _, [] => usages
  | usages, first, page :: rest =>
      let usages :=
        page.signatures.foldl (fun usages signature => usages.add signature first) usages
      usagesFrom usages (first + 1) rest

/-- Where the scripts of pages are used. -/
def usages (pages : List Page) : Usages :=
  usagesFrom [] 0 pages

/-- A script is extracted when some component declares it, and it is used on
enough pages or may run at any time. -/
def isEligible (components : List Component) (minPageUsage : Int) (signature : Signature)
    (usedOn : List Nat) : Bool :=
  (owner? components signature).isSome
    && (minPageUsage ≤ (usedOn.length : Int) || signature.isAsync)

/-! ### Errors -/

/-- Why scripts cannot be extracted.  Only the first cause can come about. -/
inductive ExtractionError where
  | minPageUsage (given : Int)
  | registry (cause : RegistryError)
  | bundle (cause : BundleError)
  | noOwner (signature : Signature)
  | notFinal (name : String)
deriving DecidableEq, Repr, Inhabited

/-- What went wrong, for a message. -/
def ExtractionError.message : ExtractionError → String
  | .minPageUsage given => "min_page_usage must be at least 1, got " ++ toString given ++ "."
  | .registry cause => cause.message
  | .bundle cause => cause.message
  | .noOwner signature =>
      "Eligible script " ++ signature.shortDigest ++ " has no owning component."
  | .notFinal name => "Bundle '" ++ name ++ "' was not finalized before rewriting."

/-! ### Making bundles -/

/-- Make one bundle for each script, named after its owner. -/
def makeBundles (components : List Component) : Registry → List Signature →
    Except ExtractionError Registry
  | registry, [] => .ok registry
  | registry, signature :: rest =>
      match owner? components signature with
      | none => .error (.noOwner signature)
      | some owner => do
          let bundle : Bundle := { name := owner, code := signature.code, components := [owner] }
          let (_, registry) ← (registry.add signature bundle).mapError .registry
          makeBundles components registry rest

/-- The pages a script is used on as one string: their paths in order, with
colons between them. -/
def usageKey (pages : List Page) (usedOn : List Nat) : String :=
  joinWith ":" (sortBy stringLe (usedOn.map fun number => (pages.getD number default).path))

/-- Merge the bundles of the given scripts that are used on the same pages.
`buckets` holds, for each set of pages met so far, the bundle others are merged
into. -/
def mergeBundles (pages : List Page) (usages : Usages) :
    (buckets : List (String × Nat)) → Registry → List Signature → Except ExtractionError Registry
  | _, registry, [] => .ok registry
  | buckets, registry, signature :: rest =>
      match registry.idOf? signature with
      | none => .error (.noOwner signature)
      | some id =>
          let key := usageKey pages ((usages.lookup signature).getD [])
          match buckets.lookup key with
          | none => mergeBundles pages usages (buckets ++ [(key, id)]) registry rest
          | some representative => do
              let (_, registry) ← (registry.union representative id).mapError .registry
              mergeBundles pages usages buckets registry rest

/-- Give the bundles with these numbers their URLs, unless they have been merged
into another one. -/
def finalizeBundles (srcStart : String) : Registry → List Nat → Except ExtractionError Registry
  | registry, [] => .ok registry
  | registry, id :: rest => do
      let (root, registry) ← (registry.find id).mapError .registry
      if root = id then
        let bundle ← (registry.bundle? id).mapError .registry
        let final ← (bundle.finalize srcStart).mapError .bundle
        finalizeBundles srcStart
          { registry with bundles := registry.bundles.setIfInBounds id final } rest
      else
        finalizeBundles srcStart registry rest

/-! ### Linking pages to bundles -/

/-- The URL of the bundle that carries a script, if it was extracted. -/
def srcFor (registry : Registry) (signature : Signature) :
    Except ExtractionError (Option String × Registry) := do
  let (bundle, registry) ← (registry.resolve signature).mapError .registry
  match bundle with
  | none => return (none, registry)
  | some bundle =>
      match bundle.src with
      | none => throw (.notFinal bundle.name)
      | some src => return (some src, registry)

/-- The URLs of the bundles that carry the extracted ones among some scripts. -/
def srcsFor : Registry → List Signature →
    Except ExtractionError (List (Signature × String) × Registry)
  | registry, [] => .ok ([], registry)
  | registry, signature :: rest => do
      let (src, registry) ← srcFor registry signature
      let (more, registry) ← srcsFor registry rest
      match src with
      | some src => return ((signature, src) :: more, registry)
      | none => return (more, registry)

mutual

/-- Replace the inline scripts at or below a node that have a URL by elements
that load it.  The attributes of a script are kept. -/
def relinkNode (srcOf : Signature → Option String) : Node → Node
  | .string kind text => .string kind text
  | .element name attributes children =>
      if isInlineScriptTag name attributes then
        match srcOf (Signature.ofScript ⟨attributes, scriptText children⟩) with
        | some src => .element name (attributes.insert "src" src) []
        | none => .element name attributes children
      else
        .element name attributes (relinkNodes srcOf children)

/-- Replace the inline scripts at or below some nodes that have a URL. -/
def relinkNodes (srcOf : Signature → Option String) : List Node → List Node
  | [] => []
  | node :: rest => relinkNode srcOf node :: relinkNodes srcOf rest

end

/-- What is logged about a page that loads these URLs. -/
def pageEntry (page : Page) (srcs : List String) : LogEntry :=
  { level := .debug
    message := "Extracting " ++ toString srcs.length ++ " bundles from: " ++ page.path
      ++ concat (srcs.map ("\n  " ++ ·)) }

/-- Make pages load the bundles. -/
def relinkPages : Registry → List Page → Except ExtractionError (List Page × List LogEntry)
  | _, [] => .ok ([], [])
  | registry, page :: rest => do
      let (srcs, registry) ← srcsFor registry page.signatures
      let srcOf (signature : Signature) : Option String := srcs.lookup signature
      let relinked := { page with nodes := relinkNodes srcOf page.nodes }
      let (pages, log) ← relinkPages registry rest
      return (relinked :: pages,
        if srcs.isEmpty then log else pageEntry page (srcs.map (·.2)) :: log)

/-! ### The pass -/

/-- The outcome of extracting scripts. -/
structure Extraction where
  bundles : List Bundle
  pages : List Page
  log : List LogEntry
deriving DecidableEq, Repr, Inhabited

/-- Extract the scripts of components that at least `minPageUsage` pages share,
and those that may run at any time.  Scripts that the same pages use go into one
bundle. -/
def extract (pages : List Page) (components : List Component) (minPageUsage : Int)
    (srcStart : String) : Except ExtractionError Extraction :=
  if minPageUsage < 1 then
    .error (.minPageUsage minPageUsage)
  else do
    let used := usages pages
    let eligible := (used.filter fun usage =>
      isEligible components minPageUsage usage.1 usage.2).map (·.1)
    let registry ← makeBundles components .empty eligible
    let registry ← mergeBundles pages used [] registry registry.signatures
    let registry ← finalizeBundles srcStart registry (List.range registry.bundles.size)
    let (bundles, registry) ← registry.survivors.mapError .registry
    let (pages, log) ← relinkPages registry pages
    return { bundles := bundles, pages := pages, log := log }

end StaticSite.Bundling
