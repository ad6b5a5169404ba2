/-
Module: StaticSite.Proofs.Bundling.Grouping
Purpose: What extraction is to yield, said at once and without a registry: which
  scripts are extracted, which of them go together, and the bundle of each group.
Trusted boundary: none
Main exports:
  usedBy, encountered, lastDeclaring?, extracted, usageOf, groups, groupOf, groupBundle,
  groupName, groupSrc
-/
import Mathlib.Data.String.Basic
import Mathlib.Data.List.Sort
import StaticSite.Bundling.Extraction
import StaticSite.Proofs.FirstOccurrence

namespace StaticSite.Bundling

open Text

/-! ### Which scripts are extracted -/

/-- The pages that use a script. -/
def usedBy (pages : List Page) (signature : Signature) : List Page :=
  pages.filter fun page => page.signatures.contains signature

/-- The scripts of pages, each once, in order of first encounter. -/
def encountered (pages : List Page) : List Signature :=
  (pages.flatMap Page.signatures).eraseDups

/-- The component declares the script. -/
def declares (component : Component) (signature : Signature) : Bool :=
  (component.clientScripts.map Signature.ofScript).contains signature

/-- The last component that declares a script owns it. -/
def lastDeclaring? (components : List Component) (signature : Signature) : Option Component :=
  components.reverse.find? fun component => declares component signature

/-- The name of the owner of a script. -/
def ownerName (components : List Component) (signature : Signature) : String :=
  ((lastDeclaring? components signature).map (·.name)).getD ""

/-- A component declares the script, and enough pages use it or it may run at any time. -/
def isExtracted (pages : List Page) (components : List Component) (minPageUsage : Int)
    (signature : Signature) : Bool :=
  components.any (declares · signature)
    && (minPageUsage ≤ ((usedBy pages signature).length : Int) || signature.isAsync)

/-- The scripts that are extracted, in order of first encounter. -/
def extracted (pages : List Page) (components : List Component) (minPageUsage : Int) :
    List Signature :=
  (encountered pages).filter (isExtracted pages components minPageUsage)

/-! ### Which scripts go together -/

/-- The paths of the pages that use a script, in ascending order with colons
between them. -/
def usageOf (pages : List Page) (signature : Signature) : String :=
  joinWith ":" (((usedBy pages signature).map (·.path)).insertionSort (· ≤ ·))

/-- The members of a list that share the usage, in the order of the list. -/
def sharing (pages : List Page) (members : List Signature) (usage : String) : List Signature :=
  members.filter fun signature => usageOf pages signature == usage

/-- The extracted scripts in groups of equal usage, the groups in the order of
their first members. -/
def groups (pages : List Page) (components : List Component) (minPageUsage : Int) :
    List (List Signature) :=
  let members := extracted pages components minPageUsage
  (members.map (usageOf pages)).eraseDups.map (sharing pages members)

/-- The group of a script: the extracted scripts of the same usage. -/
def groupOf (pages : List Page) (components : List Component) (minPageUsage : Int)
    (signature : Signature) : List Signature :=
  sharing pages (extracted pages components minPageUsage) (usageOf pages signature)

/-! ### The bundle of a group -/

/-- The bundle of some scripts before it has a URL. -/
def openBundle (components : List Component) (group : List Signature) : Bundle where
  name := joinWith "-" (group.map (ownerName components))
  code := joinWith "\n" (group.map (·.code))
  components := group.map (ownerName components)

/-- The bundle of a group. -/
def groupBundle (components : List Component) (srcStart : String) (group : List Signature) :
    Bundle :=
  let bundle := openBundle components group
  { bundle with src := some (srcStart ++ bundle.name ++ ".js") }

/-- The name of the bundle that a script is extracted to. -/
def groupName (pages : List Page) (components : List Component) (minPageUsage : Int)
    (signature : Signature) : String :=
  (openBundle components (groupOf pages components minPageUsage signature)).name

/-- The URL of the bundle that a script is extracted to. -/
def groupSrc (pages : List Page) (components : List Component) (minPageUsage : Int)
    (srcStart : String) (signature : Signature) : String :=
  Bundle.srcOf srcStart (groupName pages components minPageUsage signature)

/-! ### Laws of the parts -/

theorem mem_encountered {pages : List Page} {signature : Signature} :
    signature ∈ encountered pages ↔ ∃ page ∈ pages, signature ∈ page.signatures := by
  simp [encountered]

theorem mem_extracted {pages : List Page} {components : List Component} {minPageUsage : Int}
    {signature : Signature} :
    signature ∈ extracted pages components minPageUsage ↔
      signature ∈ encountered pages ∧
        isExtracted pages components minPageUsage signature = true :=
  List.mem_filter

theorem nodup_extracted (pages : List Page) (components : List Component) (minPageUsage : Int) :
    (extracted pages components minPageUsage).Nodup :=
  (nodup_eraseDups _).filter _

/-- Every extracted script is in its group. -/
theorem mem_groupOf {pages : List Page} {components : List Component} {minPageUsage : Int}
    {signature : Signature} (member : signature ∈ extracted pages components minPageUsage) :
    signature ∈ groupOf pages components minPageUsage signature :=
  List.mem_filter.mpr ⟨member, beq_self_eq_true _⟩

theorem groupOf_mem_groups {pages : List Page} {components : List Component}
    {minPageUsage : Int} {signature : Signature}
    (member : signature ∈ extracted pages components minPageUsage) :
    groupOf pages components minPageUsage signature ∈ groups pages components minPageUsage :=
  List.mem_map_of_mem (List.mem_eraseDups.mpr (List.mem_map_of_mem member))

/-- Every group is that of some extracted script. -/
theorem exists_groupOf {pages : List Page} {components : List Component} {minPageUsage : Int}
    {group : List Signature} (isGroup : group ∈ groups pages components minPageUsage) :
    ∃ signature ∈ extracted pages components minPageUsage,
      group = groupOf pages components minPageUsage signature := by
  obtain ⟨usage, usageMember, rfl⟩ := List.mem_map.mp isGroup
  obtain ⟨signature, member, rfl⟩ := List.mem_map.mp (List.mem_eraseDups.mp usageMember)
  exact ⟨signature, member, rfl⟩

/-- Scripts of the same usage are in the same group. -/
theorem groupOf_congr {pages : List Page} {components : List Component} {minPageUsage : Int}
    {first second : Signature} (sameUsage : usageOf pages first = usageOf pages second) :
    groupOf pages components minPageUsage first = groupOf pages components minPageUsage second := by
  rw [groupOf, groupOf, sameUsage]

/-- Strings are joined in two parts, if there are some in each. -/
theorem joinWith_append (separator : String) {first second : List String}
    (firstNonempty : first ≠ []) (secondNonempty : second ≠ []) :
    joinWith separator (first ++ second) =
      joinWith separator first ++ separator ++ joinWith separator second := by
  induction first with
  | nil => exact False.elim (firstNonempty rfl)
  | cons piece rest inductionHypothesis =>
      cases rest with
      | nil =>
          cases second with
          | nil => exact False.elim (secondNonempty rfl)
          | cons next others => rfl
      | cons next others =>
          have onwards := inductionHypothesis (List.cons_ne_nil next others)
          simp only [List.cons_append, joinWith] at onwards ⊢
          rw [onwards]
          simp only [String.append_assoc]

theorem openBundle_singleton (components : List Component) (signature : Signature) :
    openBundle components [signature] =
      { name := ownerName components signature
        code := signature.code
        components := [ownerName components signature] } :=
  rfl

/-- A bundle with one script more is what absorbing that script's bundle gives. -/
theorem openBundle_append_singleton (components : List Component) {group : List Signature}
    (nonempty : group ≠ []) (signature : Signature) :
    openBundle components (group ++ [signature]) =
      (openBundle components group).absorb (openBundle components [signature]) := by
  simp only [openBundle, Bundle.absorb, List.map_append, List.map_cons, List.map_nil]
  rw [joinWith_append _ (by simpa using nonempty) (List.cons_ne_nil _ _),
    joinWith_append _ (by simpa using nonempty) (List.cons_ne_nil _ _)]

/-- Inserting in order is the library's way of sorting. -/
theorem sortBy_stringLe (paths : List String) :
    sortBy stringLe paths = paths.insertionSort (· ≤ ·) := by
  have insert : ∀ (path : String) (sorted : List String),
      insertSorted stringLe path sorted = sorted.orderedInsert (· ≤ ·) path := by
    intro path sorted
    induction sorted with
    | nil => rfl
    | cons first rest inductionHypothesis =>
        simp [insertSorted, List.orderedInsert, stringLe, inductionHypothesis]
  induction paths with
  | nil => rfl
  | cons path rest inductionHypothesis =>
      rw [sortBy, inductionHypothesis, insert, List.insertionSort_cons]

end StaticSite.Bundling
