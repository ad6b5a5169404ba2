/-
Module: StaticSite.Proofs.Bundling.Usage
Purpose: Collecting usages page by page finds each script in order of first encounter,
  with exactly the pages that use it.
Trusted boundary: none
Main exports:
  usages_eq, eligible_eq, owner?_eq, usageKey_eq
-/
import StaticSite.Proofs.Bundling.Grouping

namespace StaticSite.Bundling

open Text Markup

namespace Usages

/-- The scripts found so far. -/
def scripts (usages : Usages) : List Signature :=
  usages.map (·.1)

/-- The numbers of the pages that a script was found on. -/
def pagesOf (usages : Usages) (signature : Signature) : List Nat :=
  (usages.lookup signature).getD []

variable {usages : Usages}

theorem scripts_add (signature : Signature) (page : Nat) :
    (usages.add signature page).scripts =
      if signature ∈ usages.scripts then usages.scripts else usages.scripts ++ [signature] := by
  induction usages with
  | nil => rfl
  | cons entry rest inductionHypothesis =>
      obtain ⟨key, pages⟩ := entry
      by_cases same : key = signature
      · simp [add, scripts, same]
      · simp only [scripts] at inductionHypothesis
        by_cases present : signature ∈ rest.map (·.1)
        · simp [add, scripts, same, inductionHypothesis, present]
        · simp [add, scripts, same, Ne.symm same, inductionHypothesis, present]

theorem pagesOf_add (signature : Signature) (page : Nat) (other : Signature) :
    (usages.add signature page).pagesOf other =
      if other = signature ∧ page ∉ usages.pagesOf other then usages.pagesOf other ++ [page]
      else usages.pagesOf other := by
  induction usages with
  | nil =>
      by_cases same : other = signature
      · simp [add, pagesOf, same]
      · simp [add, pagesOf, lookup_cons_of_ne same, same]
  | cons entry rest inductionHypothesis =>
      obtain ⟨key, pages⟩ := entry
      simp only [pagesOf] at inductionHypothesis
      by_cases asked : other = key
      · subst asked
        by_cases same : other = signature
        · subst same
          by_cases present : page ∈ pages <;> simp [add, pagesOf, present]
        · simp [add, pagesOf, same]
      · by_cases same : key = signature
        · subst same
          simp [add, pagesOf, lookup_cons_of_ne asked, asked]
        · simp only [add, pagesOf, if_neg same, lookup_cons_of_ne asked]
          exact inductionHypothesis

/-- Noting all scripts of one page. -/
def addAll (usages : Usages) (signatures : List Signature) (page : Nat) : Usages :=
  signatures.foldl (fun usages signature => usages.add signature page) usages

theorem scripts_addAll (signatures : List Signature) (page : Nat) :
    (usages.addAll signatures page).scripts =
      signatures.foldl (fun seen signature =>
        if signature ∈ seen then seen else seen ++ [signature]) usages.scripts := by
  induction signatures generalizing usages with
  | nil => rfl
  | cons signature rest inductionHypothesis =>
      rw [addAll, List.foldl_cons, List.foldl_cons, ← scripts_add signature page]
      exact inductionHypothesis

theorem pagesOf_addAll (signatures : List Signature) (page : Nat) (other : Signature) :
    (usages.addAll signatures page).pagesOf other =
      if other ∈ signatures ∧ page ∉ usages.pagesOf other then usages.pagesOf other ++ [page]
      else usages.pagesOf other := by
  induction signatures generalizing usages with
  | nil => simp [addAll]
  | cons signature rest inductionHypothesis =>
      rw [addAll, List.foldl_cons, ← addAll, inductionHypothesis, pagesOf_add]
      by_cases same : other = signature
      · by_cases present : page ∈ usages.pagesOf other
        · simp [same, same ▸ present]
        · simp [same, same ▸ present]
      · simp [same]

/-- An association in which each key stands once is told by its keys and by look-ups. -/
theorem eq_map_scripts (distinct : usages.scripts.Nodup) :
    usages = usages.scripts.map fun signature => (signature, usages.pagesOf signature) := by
  induction usages with
  | nil => rfl
  | cons entry rest inductionHypothesis =>
      obtain ⟨key, pages⟩ := entry
      obtain ⟨fresh, restDistinct⟩ := List.nodup_cons.mp distinct
      have others : ∀ signature ∈ Usages.scripts rest,
          (signature, Usages.pagesOf ((key, pages) :: rest) signature) =
            (signature, Usages.pagesOf rest signature) := by
        intro signature member
        have apart : signature ≠ key := by
          rintro rfl
          exact fresh member
        simp [pagesOf, lookup_cons_of_ne apart]
      have tail := inductionHypothesis restDistinct
      simp only [scripts, List.map_cons, pagesOf, List.lookup_cons_self, Option.getD_some]
      exact congrArg _ (tail.trans (List.map_congr_left others).symm)

end Usages

/-! ### All pages -/

/-- The numbers of the pages that use a script, when the first page has the number `first`. -/
def placesFrom (first : Nat) (pages : List Page) (signature : Signature) : List Nat :=
  ((pages.zipIdx first).filter fun page => page.1.signatures.contains signature).map (·.2)

theorem usagesFrom_cons (usages : Usages) (first : Nat) (page : Page) (rest : List Page) :
    usagesFrom usages first (page :: rest) =
      usagesFrom (usages.addAll page.signatures first) (first + 1) rest :=
  rfl

theorem scripts_usagesFrom (usages : Usages) (first : Nat) (pages : List Page) :
    (usagesFrom usages first pages).scripts =
      (pages.flatMap Page.signatures).foldl (fun seen signature =>
        if signature ∈ seen then seen else seen ++ [signature]) usages.scripts := by
  induction pages generalizing usages first with
  | nil => rfl
  | cons page rest inductionHypothesis =>
      rw [usagesFrom_cons, inductionHypothesis, Usages.scripts_addAll, List.flatMap_cons,
        List.foldl_append]

/-- Pages are numbered upwards, so a page has not been noted before its turn. -/
theorem pagesOf_usagesFrom {usages : Usages} {first : Nat} (pages : List Page)
    (signature : Signature) (earlier : ∀ page ∈ usages.pagesOf signature, page < first) :
    (usagesFrom usages first pages).pagesOf signature =
      usages.pagesOf signature ++ placesFrom first pages signature := by
  induction pages generalizing usages first with
  | nil => simp [usagesFrom, placesFrom]
  | cons page rest inductionHypothesis =>
      have fresh : first ∉ usages.pagesOf signature := fun member =>
        Nat.lt_irrefl _ (earlier first member)
      have noted := @Usages.pagesOf_addAll usages page.signatures first signature
      simp only [fresh, not_false_eq_true, and_true] at noted
      rw [usagesFrom_cons, inductionHypothesis]
      · by_cases used : signature ∈ page.signatures
        · simp [noted, used, placesFrom, List.zipIdx_cons]
        · simp [noted, used, placesFrom, List.zipIdx_cons]
      · intro number member
        rw [noted] at member
        split at member
        case isTrue =>
          rcases List.mem_append.mp member with old | new
          · exact Nat.lt_succ_of_lt (earlier number old)
          · rw [List.mem_singleton.mp new]
            exact Nat.lt_succ_self _
        case isFalse => exact Nat.lt_succ_of_lt (earlier number member)

/-- The usages of pages are the scripts in order of first encounter, each with the
numbers of the pages that use it. -/
theorem usages_eq (pages : List Page) :
    usages pages =
      (encountered pages).map fun signature => (signature, placesFrom 0 pages signature) := by
  have scripts : (usages pages).scripts = encountered pages := by
    rw [usages, scripts_usagesFrom, encountered, eraseDups_eq_foldl]
    rfl
  have places : ∀ signature, (usages pages).pagesOf signature = placesFrom 0 pages signature := by
    intro signature
    rw [usages, pagesOf_usagesFrom pages signature (by simp [Usages.pagesOf])]
    rfl
  have distinct : (usages pages).scripts.Nodup := by
    rw [scripts]
    exact nodup_eraseDups _
  rw [Usages.eq_map_scripts distinct, scripts]
  simp only [places]

theorem lookup_usages {pages : List Page} {signature : Signature}
    (met : signature ∈ encountered pages) :
    (usages pages).lookup signature = some (placesFrom 0 pages signature) := by
  rw [usages_eq]
  generalize encountered pages = scripts at met
  induction scripts with
  | nil => simp at met
  | cons first rest inductionHypothesis =>
      by_cases same : signature = first
      · simp [same]
      · rw [List.map_cons, lookup_cons_of_ne same]
        exact inductionHypothesis ((List.mem_cons.mp met).resolve_left same)

/-- The numbers stand for the pages themselves. -/
theorem map_placesFrom (pages : List Page) (signature : Signature) :
    (placesFrom 0 pages signature).map (fun number => pages.getD number default) =
      usedBy pages signature := by
  have stands : ∀ entry ∈ (pages.zipIdx 0).filter fun page =>
      page.1.signatures.contains signature, pages.getD entry.2 default = entry.1 := by
    intro entry member
    obtain ⟨page, number⟩ := entry
    have stored := List.mk_mem_zipIdx_iff_getElem?.mp (List.mem_filter.mp member).1
    simp [List.getD_eq_getElem?_getD, stored]
  rw [placesFrom, List.map_map]
  calc ((pages.zipIdx 0).filter _).map _
      = ((pages.zipIdx 0).filter fun page => page.1.signatures.contains signature).map (·.1) :=
        List.map_congr_left stands
    _ = ((pages.zipIdx 0).map (·.1)).filter fun page => page.signatures.contains signature := by
        rw [List.filter_map]
        rfl
    _ = usedBy pages signature := by rw [List.zipIdx_map_fst, usedBy]

theorem length_placesFrom (pages : List Page) (signature : Signature) :
    (placesFrom 0 pages signature).length = (usedBy pages signature).length := by
  rw [← map_placesFrom, List.length_map]

/-- The key of a script is its usage. -/
theorem usageKey_eq {pages : List Page} {signature : Signature}
    (met : signature ∈ encountered pages) :
    usageKey pages (((usages pages).lookup signature).getD []) = usageOf pages signature := by
  rw [lookup_usages met, usageKey, usageOf, sortBy_stringLe, ← map_placesFrom, List.map_map]
  rfl

/-! ### Owners and eligible scripts -/

theorem lookup_map_ofScript (scripts : List Script) (name : String) (signature : Signature) :
    (scripts.map fun script => (Signature.ofScript script, name)).lookup signature =
      if (scripts.map Signature.ofScript).contains signature then some name else none := by
  induction scripts with
  | nil => rfl
  | cons script rest inductionHypothesis =>
      by_cases same : signature = Signature.ofScript script
      · simp [same]
      · rw [List.map_cons, lookup_cons_of_ne same, inductionHypothesis]
        simp [same]

/-- The owner is the name of the last component that declares the script. -/
theorem owner?_eq (components : List Component) (signature : Signature) :
    owner? components signature = (lastDeclaring? components signature).map (·.name) := by
  rw [owner?, declarations, List.reverse_flatMap, lastDeclaring?]
  induction components.reverse with
  | nil => rfl
  | cons component rest inductionHypothesis =>
      have own : ((component.clientScripts.map fun script =>
            (Signature.ofScript script, component.name)).reverse.lookup signature) =
          if declares component signature then some component.name else none := by
        rw [← List.map_reverse, lookup_map_ofScript]
        simp [declares]
      rw [List.flatMap_cons, List.lookup_append, inductionHypothesis, Function.comp_apply, own,
        List.find?_cons]
      by_cases declared : declares component signature = true
      · simp [declared]
      · simp [declared]

theorem lastDeclaring?_isSome {components : List Component} {signature : Signature} :
    (lastDeclaring? components signature).isSome = components.any (declares · signature) := by
  rw [lastDeclaring?, List.isSome_find?, List.any_reverse]

/-- A script with an owner has that owner's name as its owner's name. -/
theorem owner?_eq_ownerName {components : List Component} {signature : Signature}
    (declared : components.any (declares · signature) = true) :
    owner? components signature = some (ownerName components signature) := by
  rw [← lastDeclaring?_isSome] at declared
  obtain ⟨component, found⟩ := Option.isSome_iff_exists.mp declared
  rw [owner?_eq, ownerName, found]
  rfl

/-- The scripts that the pass finds eligible are those that are to be extracted. -/
theorem eligible_eq (pages : List Page) (components : List Component) (minPageUsage : Int) :
    ((usages pages).filter fun usage =>
        isEligible components minPageUsage usage.1 usage.2).map (·.1) =
      extracted pages components minPageUsage := by
  have same : ((fun usage : Signature × List Nat =>
        isEligible components minPageUsage usage.1 usage.2) ∘
      fun signature => (signature, placesFrom 0 pages signature)) =
      isExtracted pages components minPageUsage := by
    funext signature
    simp only [Function.comp_apply, isEligible, isExtracted, owner?_eq, Option.isSome_map,
      lastDeclaring?_isSome, length_placesFrom]
  rw [usages_eq, List.filter_map, List.map_map, same]
  exact List.map_id _

end StaticSite.Bundling
