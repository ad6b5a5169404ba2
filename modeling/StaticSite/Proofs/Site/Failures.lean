/-
Module: StaticSite.Proofs.Site.Failures
Purpose: What is left of a build that ends because of how a component is defined or used.  All
  sources are read before anything is written, and all pages are rendered before the first of
  them is, so that no page and no script file is ever left half of a site.
Trusted boundary: none
Main exports:
  BuildError.isNaming, BuildError.isComponent, unwritten_of_component_error
-/
import StaticSite.Proofs.Site.Endings

namespace StaticSite.Site

open Text FileTree

/-! ### Errors of components -/

namespace BuildError

/-- A component has a name that no component can have, or that another one has. -/
def isNaming : BuildError → Bool
  | .source (.compile (.invalidName _ _)) => true
  | .source (.register (.duplicate _ _ _)) => true
  | _ => false

/-- A component has a wrong name, is unknown, or leads back to itself. -/
def isComponent : BuildError → Bool
  | .expansion _ => true
  | cause => cause.isNaming

end BuildError

variable {tree : FileTree} {now : Int} {current : Location} {config : BuildConfig}
  {cause : BuildError}

/-- A wrong name is found before anything is written. -/
theorem tree_of_naming_error (failed : (build tree now current config).outcome = .error cause)
    (naming : cause.isNaming = true) : (build tree now current config).tree = tree := by
  have ending := build_ending tree now current config
  rw [failed] at ending
  generalize (build tree now current config).tree = after at ending
  cases ending with
  | unread => rfl
  | uncopied => cases naming
  | unproduced failed =>
      obtain ⟨reason, rfl⟩ | ⟨reason, rfl⟩ := produce_error failed
      · cases naming
      · cases naming
  | unwritten => cases naming

/-- When a page cannot be rendered, the assets have been copied and nothing else. -/
theorem tree_of_component_error (failed : (build tree now current config).outcome = .error cause)
    (component : cause.isComponent = true) :
    (build tree now current config).tree = tree ∨
      (build tree now current config).tree =
        (copying (Directories.of current config) tree now).tree := by
  have ending := build_ending tree now current config
  rw [failed] at ending
  generalize (build tree now current config).tree = after at ending ⊢
  cases ending with
  | unread => exact .inl rfl
  | uncopied => exact .inr rfl
  | unproduced => exact .inr rfl
  | unwritten => cases component

/-- When a build fails because of a component, no page and no script file has been written.
After a wrong name everything is as before.  After an unknown component or a cycle the assets
have been copied: there may be new directories that lead to their targets, and files below the
output directory that are as assets are. -/
theorem unwritten_of_component_error (wellFormed : tree.WellFormed)
    (failed : (build tree now current config).outcome = .error cause)
    (component : cause.isComponent = true) :
    (cause.isNaming = true → (build tree now current config).tree = tree) ∧
    ((build tree now current config).tree = tree ∨
      (build tree now current config).tree =
        (copying (Directories.of current config) tree now).tree) ∧
    Becomes ((Directories.of current config).LeadsToAsset tree)
      (fun location entry =>
        (∃ rest, rest ≠ [] ∧ location = (Directories.of current config).output ++ rest) ∧
          (Directories.of current config).HoldsCopy tree location entry)
      tree (build tree now current config).tree := by
  refine ⟨tree_of_naming_error failed, tree_of_component_error failed component, ?_⟩
  rcases tree_of_component_error failed component with unchanged | copied
  · rw [unchanged]
    exact .refl _ _ _
  · rw [copied]
    refine (copying_becomes wellFormed ?_ now).mono (fun _ leads => leads) fun _ _ holds =>
      ⟨Directories.below_of_holdsCopy wellFormed holds, holds⟩
    exact Path.straight_resolveParts current config.outputDir

/-- A site with an asset, and a page that uses a fragment that there is not. -/
def undefinedUse : FileTree :=
  siteOf [] [(["index.html"], "<!DOCTYPE html><x-card></x-card>"), (["style.css"], "p {}")]

/-- The page is not written; what is new is the copy of the asset, in its directory. -/
theorem unwritten_of_undefined_use :
    undefinedUse.WellFormed ∧
    (build undefinedUse 9 [] (siteConfig "/scripts/")).outcome =
      .error (.expansion (.unknown ⟨"x-card", Path.ofLocation ["site", "index.html"]⟩)) ∧
    Becomes ((Directories.of [] (siteConfig "/scripts/")).LeadsToAsset undefinedUse)
      (fun location entry =>
        (∃ rest, rest ≠ [] ∧
            location = (Directories.of [] (siteConfig "/scripts/")).output ++ rest) ∧
          (Directories.of [] (siteConfig "/scripts/")).HoldsCopy undefinedUse location entry)
      undefinedUse (build undefinedUse 9 [] (siteConfig "/scripts/")).tree ∧
    (build undefinedUse 9 [] (siteConfig "/scripts/")).tree.entries = undefinedUse.entries ++
      [ (["site", "out"], .directory),
        (["site", "out", "style.css"], .file (encode "p {}") 5) ] := by
  have wellFormed : undefinedUse.WellFormed := by decide
  have failed : (build undefinedUse 9 [] (siteConfig "/scripts/")).outcome =
      .error (.expansion (.unknown ⟨"x-card", Path.ofLocation ["site", "index.html"]⟩)) := by
    decide +kernel
  refine ⟨wellFormed, failed, (unwritten_of_component_error wellFormed failed rfl).2.2, ?_⟩
  decide +kernel

end StaticSite.Site
