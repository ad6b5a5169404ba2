/-
Module: StaticSite.Bundling.Registry
Purpose: Which bundle carries which script, while bundles are being merged.
Trusted boundary: none
Main exports:
  Registry, Registry.add, Registry.find, Registry.union, Registry.resolve, Registry.survivors,
  RegistryError
-/
import StaticSite.Bundling.Bundle
import StaticSite.Bundling.Signature

namespace StaticSite.Bundling

/-!
Every signature gets the number of a bundle when it is added.  Merging points
one number at another, so that each signature leads to the bundle that its group
has become.  The pointers form a forest; following them from any number ends at
the number that represents its group.
-/

/-- Bundles by number, the parent pointer of each number, and the number each
signature was given, in the order of addition. -/
structure Registry where
  bundles : Array Bundle
  parents : Array Nat
  owners : List (Signature × Nat)
deriving DecidableEq, Repr, Inhabited

/-- Why a call on a registry fails. -/
inductive RegistryError where
  | alreadyOwned (signature : Signature)
  | sameGroup (name : String)
  | noSuchNumber (number : Nat)
deriving DecidableEq, Repr, Inhabited

/-- What went wrong, for a message. -/
def RegistryError.message : RegistryError → String
  | .alreadyOwned signature => "Script " ++ signature.shortDigest ++ " already has a bundle."
  | .sameGroup name => "Bundle '" ++ name ++ "' cannot be merged into itself."
  | .noSuchNumber number => "There is no bundle number " ++ toString number ++ "."

namespace Registry

/-- The registry without bundles. -/
def empty : Registry :=
  ⟨#[], #[], []⟩

/-- The number a signature was given when it was added. -/
def idOf? (registry : Registry) (signature : Signature) : Option Nat :=
  registry.owners.lookup signature

/-- The signatures in the order of their addition. -/
def signatures (registry : Registry) : List Signature :=
  registry.owners.map (·.1)

/-- The signature was added. -/
def contains (registry : Registry) (signature : Signature) : Bool :=
  (registry.idOf? signature).isSome

/-- The number of signatures. -/
def size (registry : Registry) : Nat :=
  registry.owners.length

/-- Add a bundle that carries a signature of its own, and give it a number. -/
def add (registry : Registry) (signature : Signature) (bundle : Bundle) :
    Except RegistryError (Nat × Registry) :=
  if registry.contains signature then
    .error (.alreadyOwned signature)
  else
    let id := registry.bundles.size
    .ok
      ( id
      , { bundles := registry.bundles.push bundle
          parents := registry.parents.push id
          owners := registry.owners ++ [(signature, id)] } )

/-- Follow at most `steps` parent pointers from a number, until one points at itself. -/
def climb (parents : Array Nat) : (steps id : Nat) → Nat
  | 0, id => id
  | steps + 1, id =>
      let parent := parents.getD id id
      if parent = id then id else climb parents steps parent

/-- The number that represents the group of `id`. -/
def root (registry : Registry) (id : Nat) : Nat :=
  climb registry.parents registry.parents.size id

/-- Point everything on the way from a number to `root` straight at `root`. -/
def shorten (root : Nat) : (steps : Nat) → Array Nat → (id : Nat) → Array Nat
  | 0, parents, _ => parents
  | steps + 1, parents, id =>
      let parent := parents.getD id root
      if parent = root then parents else shorten root steps (parents.setIfInBounds id root) parent

/-- The number that represents the group of `id`, with the pointers on the way
there shortened. -/
def find (registry : Registry) (id : Nat) : Except RegistryError (Nat × Registry) :=
  if id < registry.parents.size then
    let root := registry.root id
    .ok (root, { registry with
      parents := shorten root registry.parents.size registry.parents id })
  else
    .error (.noSuchNumber id)

/-- The bundle with that number. -/
def bundle? (registry : Registry) (id : Nat) : Except RegistryError Bundle :=
  match registry.bundles[id]? with
  | some bundle => .ok bundle
  | none => .error (.noSuchNumber id)

/-- Merge the group of `other` into that of `representative`, whose bundle
absorbs the other one. -/
def union (registry : Registry) (representative other : Nat) :
    Except RegistryError (Nat × Registry) := do
  let (keep, registry) ← registry.find representative
  let (drop, registry) ← registry.find other
  let kept ← registry.bundle? keep
  let dropped ← registry.bundle? drop
  if keep = drop then
    throw (.sameGroup kept.name)
  else
    return (keep, { registry with
      bundles := registry.bundles.setIfInBounds keep (kept.absorb dropped)
      parents := registry.parents.setIfInBounds drop keep })

/-- The bundle that carries a signature by now. -/
def resolve (registry : Registry) (signature : Signature) :
    Except RegistryError (Option Bundle × Registry) :=
  match registry.idOf? signature with
  | none => .ok (none, registry)
  | some id => do
      let (root, registry) ← registry.find id
      return (some (← registry.bundle? root), registry)

/-- The bundles among the given numbers that have not been merged into another one. -/
def survivorsAmong (registry : Registry) : List Nat → Except RegistryError (List Bundle × Registry)
  | [] => .ok ([], registry)
  | id :: rest => do
      let (root, registry) ← registry.find id
      let bundle ← registry.bundle? id
      let (more, registry) ← survivorsAmong registry rest
      return (if root = id then bundle :: more else more, registry)

/-- The bundles that have not been merged into another one, in the order of
their addition. -/
def survivors (registry : Registry) : Except RegistryError (List Bundle × Registry) :=
  registry.survivorsAmong (List.range registry.bundles.size)

end Registry

end StaticSite.Bundling
