/-
Module: StaticSite.Proofs.Bundling.PageSets
Purpose: Scripts go into one bundle when their keys agree, and what that says about the
  pages they are used on: a key tells a set of pages as long as no path holds the colon that
  separates paths in keys.
Trusted boundary: none
Main exports:
  joinWith_injective, UsedTogether, PathsFreeOfColons, usedTogether_of_usageOf_eq,
  carried_together_iff, carried_together_of_colliding_keys
-/
import StaticSite.Proofs.Bundling.Carriers

namespace StaticSite.Bundling

open Text Markup

/-! ### Joined strings -/

theorem toList_joinWith (separator : String) (pieces : List String) :
    (joinWith separator pieces).toList =
      separator.toList.intercalate (pieces.map String.toList) := by
  induction pieces with
  | nil => rfl
  | cons first rest inductionHypothesis =>
      cases rest with
      | nil => simp [joinWith]
      | cons second rest =>
          simp only [joinWith, String.toList_append, inductionHypothesis, List.map_cons,
            List.intercalate_cons_cons]

/-- Pieces that do not hold the character between them can be told from the joined string. -/
theorem joinWith_injective {separator : String} {mark : Char} (single : separator.toList = [mark])
    {first second : List String} (firstNonempty : first ≠ []) (secondNonempty : second ≠ [])
    (firstFree : ∀ piece ∈ first, mark ∉ piece.toList)
    (secondFree : ∀ piece ∈ second, mark ∉ piece.toList)
    (same : joinWith separator first = joinWith separator second) : first = second := by
  have split : ∀ {pieces : List String}, pieces ≠ [] → (∀ piece ∈ pieces, mark ∉ piece.toList) →
      (joinWith separator pieces).toList.splitOn mark = pieces.map String.toList := by
    intro pieces nonempty free
    rw [toList_joinWith, single]
    exact List.splitOn_intercalate mark (by simpa using free) (by simpa using nonempty)
  have characters : first.map String.toList = second.map String.toList := by
    rw [← split firstNonempty firstFree, same, split secondNonempty secondFree]
  exact (List.map_inj_right fun _ _ => String.toList_injective).mp characters

/-! ### Keys and sets of pages -/

/-- The two scripts are used on exactly the same pages. -/
def UsedTogether (pages : List Page) (first second : Signature) : Prop :=
  ∀ page ∈ pages, first ∈ page.signatures ↔ second ∈ page.signatures

/-- No path holds the character that separates paths in keys. -/
def PathsFreeOfColons (pages : List Page) : Prop :=
  ∀ page ∈ pages, ':' ∉ page.path.toList

instance (pages : List Page) (first second : Signature) :
    Decidable (UsedTogether pages first second) :=
  inferInstanceAs
    (Decidable (∀ page ∈ pages, first ∈ page.signatures ↔ second ∈ page.signatures))

instance (pages : List Page) : Decidable (PathsFreeOfColons pages) :=
  inferInstanceAs (Decidable (∀ page ∈ pages, ':' ∉ page.path.toList))

variable {pages : List Page} {first second : Signature}

theorem mem_usedBy {page : Page} {signature : Signature} :
    page ∈ usedBy pages signature ↔ page ∈ pages ∧ signature ∈ page.signatures := by
  simp [usedBy]

/-- Scripts that are used on the same pages have the same key. -/
theorem UsedTogether.usageOf_eq (together : UsedTogether pages first second) :
    usageOf pages first = usageOf pages second := by
  have same : usedBy pages first = usedBy pages second := by
    refine List.filter_congr fun page member => ?_
    rw [Bool.eq_iff_iff, List.contains_iff_mem, List.contains_iff_mem]
    exact together page member
  rw [usageOf, usageOf, same]

/-- The paths of the pages that use a script, in ascending order. -/
def sortedPaths (pages : List Page) (signature : Signature) : List String :=
  ((usedBy pages signature).map (·.path)).insertionSort (· ≤ ·)

theorem mem_sortedPaths {path : String} {signature : Signature} :
    path ∈ sortedPaths pages signature ↔
      ∃ page ∈ pages, signature ∈ page.signatures ∧ page.path = path := by
  rw [sortedPaths, List.mem_insertionSort, List.mem_map]
  simp only [mem_usedBy, and_assoc]

theorem sortedPaths_ne_nil {signature : Signature} (met : signature ∈ encountered pages) :
    sortedPaths pages signature ≠ [] := by
  obtain ⟨page, member, used⟩ := mem_encountered.mp met
  exact List.ne_nil_of_mem (mem_sortedPaths.mpr ⟨page, member, used, rfl⟩)

/-- If paths are free of colons and pairwise different, keys tell which pages are meant. -/
theorem usedTogether_of_usageOf_eq (distinct : (pages.map (·.path)).Nodup)
    (free : PathsFreeOfColons pages) (firstMet : first ∈ encountered pages)
    (secondMet : second ∈ encountered pages)
    (sameKey : usageOf pages first = usageOf pages second) :
    UsedTogether pages first second := by
  have pieces : ∀ signature, ∀ path ∈ sortedPaths pages signature, ':' ∉ path.toList := by
    intro signature path member
    obtain ⟨page, pageMember, -, rfl⟩ := mem_sortedPaths.mp member
    exact free page pageMember
  have samePaths : sortedPaths pages first = sortedPaths pages second :=
    joinWith_injective (by decide) (sortedPaths_ne_nil firstMet) (sortedPaths_ne_nil secondMet)
      (pieces first) (pieces second) sameKey
  have told : ∀ signature, ∀ page ∈ pages,
      signature ∈ page.signatures ↔ page.path ∈ sortedPaths pages signature := by
    intro signature page member
    rw [mem_sortedPaths]
    constructor
    · intro used
      exact ⟨page, member, used, rfl⟩
    · rintro ⟨other, otherMember, used, samePath⟩
      rwa [List.inj_on_of_nodup_map distinct otherMember member samePath] at used
  intro page member
  rw [told first page member, told second page member, samePaths]

/-! ### Bundles and sets of pages -/

/-- Every extracted script has its bundle at a place among the returned ones.  Two scripts
have it at the same place exactly if their keys are equal, so in any case if they are used
on the same pages; and only then, provided that no path holds a colon. -/
theorem carried_together_iff (pages : List Page) (components : List Component)
    {minPageUsage : Int} (srcStart : String) (enough : 1 ≤ minPageUsage)
    (distinct : (pages.map (·.path)).Nodup) :
    ∃ registry result, carriers pages components minPageUsage srcStart = .ok registry ∧
      extract pages components minPageUsage srcStart = .ok result ∧
      (∀ signature ∈ extracted pages components minPageUsage, ∃ place bundle,
        registry.place? signature = some place ∧ registry.carrier? signature = some bundle ∧
          result.bundles[place]? = some bundle) ∧
      ∀ first ∈ extracted pages components minPageUsage,
        ∀ second ∈ extracted pages components minPageUsage,
          (registry.place? first = registry.place? second ↔
            usageOf pages first = usageOf pages second) ∧
          (UsedTogether pages first second →
            registry.place? first = registry.place? second) ∧
          (PathsFreeOfColons pages → registry.place? first = registry.place? second →
            UsedTogether pages first second) := by
  obtain ⟨merged, registry, carrying, state, finished⟩ :=
    carriers_spec pages components srcStart minPageUsage
  have passed := extract_eq pages components srcStart enough
  have returned := bundles_eq_surviving enough carrying finished.wellFormed passed
  refine ⟨registry, _, carrying, passed, ?_, ?_⟩
  · intro signature member
    rw [returned]
    exact Registry.place?_spec finished.wellFormed (state.idOf?_final finished member)
  · intro first firstMember second secondMember
    have exactly := state.place?_eq_iff finished firstMember secondMember
    refine ⟨exactly, ?_, ?_⟩
    · intro together
      exact exactly.mpr together.usageOf_eq
    · intro free samePlace
      exact usedTogether_of_usageOf_eq distinct free (mem_extracted.mp firstMember).1
        (mem_extracted.mp secondMember).1 (exactly.mp samePlace)

/-- On the small site the two scripts of the last two pages go together, and the one that
the first page uses as well stays apart. -/
theorem carried_together_of_sample :
    (1 : Int) ≤ 2 ∧ (samplePages.map (·.path)).Nodup ∧ PathsFreeOfColons samplePages ∧
      ∃ registry, carriers samplePages sampleComponents 2 "/scripts/" = .ok registry ∧
        registry.place? (plainSignature "own()") = registry.place? (plainSignature "third()") ∧
        registry.place? (plainSignature "own()") ≠ registry.place? (plainSignature "shared()") := by
  have distinct : (samplePages.map (·.path)).Nodup := by decide
  have free : PathsFreeOfColons samplePages := by decide
  obtain ⟨registry, _, carrying, -, -, pairs⟩ :=
    carried_together_iff samplePages sampleComponents "/scripts/" (by decide : (1 : Int) ≤ 2)
      distinct
  have ownMember : plainSignature "own()" ∈ extracted samplePages sampleComponents 2 := by
    decide +kernel
  refine ⟨by decide, distinct, free, registry, carrying, ?_, ?_⟩
  · exact (pairs _ ownMember _ (by decide +kernel)).2.1 (by decide +kernel)
  · intro samePlace
    have together := (pairs _ ownMember _ (by decide +kernel)).2.2 free samePlace
    exact absurd together (by decide +kernel)

/-- The path of the last page reads like the key of the first two pages. -/
def collidingPages : List Page :=
  [ ⟨"a.html", [plainScript "first()"]⟩, ⟨"b.html", [plainScript "first()"]⟩,
    ⟨"a.html:b.html", [plainScript "second()"]⟩ ]

/-- Two scripts that no page uses together are carried by one bundle, because a path with a
colon is taken for two paths. -/
theorem carried_together_of_colliding_keys :
    (collidingPages.map (·.path)).Nodup ∧
      extracted collidingPages pairComponents 1 =
        [plainSignature "first()", plainSignature "second()"] ∧
      (carriers collidingPages pairComponents 1 "/scripts/").toOption.map (fun registry =>
        (registry.place? (plainSignature "first()"),
          registry.place? (plainSignature "second()"))) = some (some 0, some 0) ∧
      (extract collidingPages pairComponents 1 "/scripts/").toOption.map
        (·.bundles.map (·.code)) = some ["first()\nsecond()"] ∧
      ¬ UsedTogether collidingPages (plainSignature "first()") (plainSignature "second()") := by
  decide +kernel

end StaticSite.Bundling
