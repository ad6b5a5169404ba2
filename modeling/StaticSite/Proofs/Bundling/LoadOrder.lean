/-
Module: StaticSite.Proofs.Bundling.LoadOrder
Purpose: In which order a rewritten page reaches the code of its extracted scripts.  A bundle has
  one order for all of its pages, that in which the pages are read, and it is reached as a whole
  where the first of its scripts has been; a page may have had its scripts in another order.
Trusted boundary: none
Main exports:
  Registry.reached, Registry.AskedFirst, ReachedInOrder, metBefore_reached_iff, load_order_iff,
  load_order_of_sample, load_order_lost_of_crossing
-/
import StaticSite.Proofs.Bundling.PageCode

namespace StaticSite.Bundling

open Text Markup

/-! ### The order of reaching scripts -/

namespace Registry

variable {registry : Registry} {page : Page} {signature first second : Signature} {place : Nat}

/-- The scripts whose code a page reaches: load by load, the scripts that the bundle found
carries. -/
def reached (registry : Registry) (page : Page) : List Signature :=
  (registry.placesOn page).flatMap registry.carriedAt

/-- Some script of the page that shares the bundle of the first script stands before all those
that share the bundle of the second. -/
def AskedFirst (registry : Registry) (page : Page) (first second : Signature) : Prop :=
  ∃ earlier ∈ page.signatures, registry.place? earlier = registry.place? first ∧
    ∀ other ∈ page.signatures, registry.place? other = registry.place? second →
      MetBefore page.signatures earlier other

instance (registry : Registry) (page : Page) (first second : Signature) :
    Decidable (registry.AskedFirst page first second) :=
  inferInstanceAs (Decidable (∃ earlier ∈ page.signatures, _ ∧ ∀ other ∈ page.signatures, _ → _))

theorem mem_carriedAt :
    signature ∈ registry.carriedAt place ↔
      signature ∈ registry.signatures ∧ registry.place? signature = some place := by
  simp [carriedAt]

/-- Scripts in one bundle are reached in the order in which they were added. -/
theorem metBefore_reached_of_same (addedFirst : first ∈ registry.signatures)
    (addedSecond : second ∈ registry.signatures) (used : first ∈ page.signatures)
    (placed : registry.place? first = some place)
    (together : registry.place? second = some place) :
    MetBefore (registry.reached page) first second ↔
      MetBefore registry.signatures first second := by
  have loaded : place ∈ registry.placesOn page := mem_placesOn.mpr ⟨first, used, placed⟩
  rw [reached, metBefore_flatMap_of_same loaded, carriedAt, metBefore_filter]
  · simpa using placed
  · simpa using together
  · intro other _
    rw [mem_carriedAt, placed, Option.some_inj, and_iff_right addedFirst, eq_comm]
  · intro other _
    rw [mem_carriedAt, together, Option.some_inj, and_iff_right addedSecond, eq_comm]

/-- Of scripts in different bundles the one is reached first whose bundle is asked for first. -/
theorem metBefore_reached_of_apart (addedFirst : first ∈ registry.signatures)
    (addedSecond : second ∈ registry.signatures) {firstPlace secondPlace : Nat}
    (placedFirst : registry.place? first = some firstPlace)
    (placedSecond : registry.place? second = some secondPlace)
    (apart : firstPlace ≠ secondPlace) :
    MetBefore (registry.reached page) first second ↔
      registry.AskedFirst page first second := by
  rw [reached, metBefore_flatMap_of_apart apart, placesOn, metBefore_filterMap_iff, AskedFirst,
    placedFirst, placedSecond]
  · intro other _
    rw [mem_carriedAt, placedFirst, Option.some_inj, and_iff_right addedFirst, eq_comm]
  · intro other _
    rw [mem_carriedAt, placedSecond, Option.some_inj, and_iff_right addedSecond, eq_comm]

end Registry

/-! ### The order of the scripts of a page -/

/-- The pass makes the page reach the first script before the second: they share a bundle, and the
first one is met before the second when all pages are read in order; or they do not, and the
bundle of the first one is asked for first. -/
def ReachedInOrder (pages : List Page) (registry : Registry) (page : Page)
    (first second : Signature) : Prop :=
  if registry.place? first = registry.place? second then
    MetBefore (pages.flatMap Page.signatures) first second
  else
    registry.AskedFirst page first second

instance (pages : List Page) (registry : Registry) (page : Page) (first second : Signature) :
    Decidable (ReachedInOrder pages registry page first second) :=
  inferInstanceAs (Decidable (if registry.place? first = registry.place? second then _ else _))

section Pages

variable (pages : List Page) (components : List Component) {minPageUsage : Int}
  (srcStart : String)

/-- Extracted scripts are added to the registry in the order in which pages are read. -/
theorem metBefore_extracted_iff {first second : Signature}
    (isFirst : first ∈ extracted pages components minPageUsage)
    (isSecond : second ∈ extracted pages components minPageUsage) :
    MetBefore (extracted pages components minPageUsage) first second ↔
      MetBefore (pages.flatMap Page.signatures) first second := by
  rw [extracted, metBefore_filter (mem_extracted.mp isFirst).2 (mem_extracted.mp isSecond).2,
    encountered, metBefore_eraseDups]

variable {merged registry : Registry} {page : Page} {first second : Signature}

/-- Which of two extracted scripts of a page is reached first. -/
theorem metBefore_reached_iff
    (state : Merging (usageOf pages) (openBundle components)
      (extracted pages components minPageUsage) [] merged)
    (finished : Finished srcStart (List.range merged.bundles.size) merged registry)
    (isFirst : first ∈ extractedOn pages components minPageUsage page)
    (isSecond : second ∈ extractedOn pages components minPageUsage page) :
    MetBefore (registry.reached page) first second ↔
      ReachedInOrder pages registry page first second := by
  have added := state.signatures_eq finished
  obtain ⟨used, extractedFirst⟩ := List.mem_filter.mp isFirst
  obtain ⟨-, extractedSecond⟩ := List.mem_filter.mp isSecond
  rw [decide_eq_true_eq] at extractedFirst extractedSecond
  obtain ⟨firstPlace, -, placedFirst, -⟩ :=
    Registry.place?_spec finished.wellFormed (state.idOf?_final finished extractedFirst)
  obtain ⟨secondPlace, -, placedSecond, -⟩ :=
    Registry.place?_spec finished.wellFormed (state.idOf?_final finished extractedSecond)
  have addedFirst : first ∈ registry.signatures := added ▸ extractedFirst
  have addedSecond : second ∈ registry.signatures := added ▸ extractedSecond
  rw [ReachedInOrder]
  split
  case isTrue together =>
    rw [Registry.metBefore_reached_of_same addedFirst addedSecond used placedFirst
      (together ▸ placedFirst), added]
    exact metBefore_extracted_iff pages components extractedFirst extractedSecond
  case isFalse apart =>
    refine Registry.metBefore_reached_of_apart addedFirst addedSecond placedFirst placedSecond ?_
    rintro rfl
    exact apart (placedFirst.trans placedSecond.symm)

/-- An extracted script of a page is reached on the page. -/
theorem mem_reached
    (state : Merging (usageOf pages) (openBundle components)
      (extracted pages components minPageUsage) [] merged)
    (finished : Finished srcStart (List.range merged.bundles.size) merged registry)
    (isFirst : first ∈ extractedOn pages components minPageUsage page) :
    first ∈ registry.reached page := by
  obtain ⟨used, isExtracted⟩ := List.mem_filter.mp isFirst
  rw [decide_eq_true_eq] at isExtracted
  obtain ⟨place, -, placed, -⟩ :=
    Registry.place?_spec finished.wellFormed (state.idOf?_final finished isExtracted)
  have added : first ∈ registry.signatures := by
    rw [state.signatures_eq finished]
    exact isExtracted
  exact List.mem_flatMap.mpr
    ⟨place, Registry.mem_placesOn.mpr ⟨first, used, placed⟩, Registry.mem_carriedAt.mpr
      ⟨added, placed⟩⟩

/-- Every page is made to load the bundles found for its scripts, and so reaches, load by load, the
scripts that they carry.  All extracted scripts of the page are reached, and of two of them the
one is reached before the other exactly in these cases: they share a bundle, and the one is met
before the other when all pages are read in order; or they do not, and some script of the page
that shares the bundle of the one stood before all those that share the bundle of the other. -/
theorem load_order_iff (enough : 1 ≤ minPageUsage) {number : Nat}
    (stored : pages[number]? = some page) :
    ∃ registry result rewritten,
      carriers pages components minPageUsage srcStart = .ok registry ∧
      extract pages components minPageUsage srcStart = .ok result ∧
      result.pages[number]? = some rewritten ∧
      addedLoadsAll page.nodes rewritten.nodes =
        (registry.placesOn page).filterMap
          (fun place => result.bundles[place]?.bind (·.src)) ∧
      (∀ place ∈ registry.placesOn page, ∃ bundle src, result.bundles[place]? = some bundle ∧
        bundle.src = some src ∧
        bundle.code = joinWith "\n" ((registry.carriedAt place).map (·.code))) ∧
      ∀ first ∈ extractedOn pages components minPageUsage page,
        ∀ second ∈ extractedOn pages components minPageUsage page,
          first ∈ registry.reached page ∧ second ∈ registry.reached page ∧
            (MetBefore (registry.reached page) first second ↔
              ReachedInOrder pages registry page first second) := by
  obtain ⟨merged, registry, result, carrying, passed, rewritten, state, finished, bundles, loads⟩ :=
    page_loads pages components srcStart enough stored
  refine ⟨registry, result, _, carrying, passed, rewritten, loads, bundles, ?_⟩
  intro first isFirst second isSecond
  exact ⟨mem_reached pages components srcStart state finished isFirst,
    mem_reached pages components srcStart state finished isSecond,
    metBefore_reached_iff pages components srcStart state finished isFirst isSecond⟩

end Pages

/-- On the second page of the small site the script that all pages use comes before one that
shares its bundle with another, and stays so. -/
theorem load_order_of_sample :
    ∃ page, (1 : Int) ≤ 2 ∧ samplePages[1]? = some page ∧
      MetBefore page.signatures (plainSignature "shared()") (plainSignature "third()") ∧
      ∃ registry, carriers samplePages sampleComponents 2 "/scripts/" = .ok registry ∧
        MetBefore (registry.reached page) (plainSignature "shared()")
          (plainSignature "third()") := by
  obtain ⟨registry, result, rewritten, carrying, -, -, -, -, order⟩ :=
    load_order_iff samplePages sampleComponents "/scripts/" (by decide : (1 : Int) ≤ 2)
      (rfl : samplePages[1]? = some (samplePages.getD 1 default))
  have before : MetBefore (samplePages.getD 1 default).signatures (plainSignature "shared()")
      (plainSignature "third()") := by
    decide +kernel
  refine ⟨_, by decide, rfl, before, registry, carrying, ?_⟩
  refine (order _ ?_ _ ?_).2.2.mpr ?_
  · decide +kernel
  · decide +kernel
  · have known : (carriers samplePages sampleComponents 2 "/scripts/").toOption.map (fun registry =>
        decide (ReachedInOrder samplePages registry (samplePages.getD 1 default)
          (plainSignature "shared()") (plainSignature "third()"))) = some true := by
      decide +kernel
    rw [carrying] at known
    exact of_decide_eq_true (Option.some.inj known)

/-- Two pages that use the scripts of both components, each in an order of its own. -/
def crossingPages : List Page :=
  [ ⟨"a.html", [plainScript "first()", plainScript "second()"]⟩,
    ⟨"b.html", [plainScript "second()", plainScript "first()"]⟩ ]

/-- The two scripts share a bundle, which has the order of the first page.  On the second page,
where the second script stood first, the first one is reached before it. -/
theorem load_order_lost_of_crossing :
    crossingPages.map (fun page => decide
        (MetBefore page.signatures (plainSignature "second()") (plainSignature "first()"))) =
      [false, true] ∧
    extracted crossingPages pairComponents 2 =
      [plainSignature "first()", plainSignature "second()"] ∧
    (extract crossingPages pairComponents 2 "/scripts/").toOption.map (fun result =>
        (result.bundles.map (·.code),
          List.zipWith (fun page rewritten => addedLoadsAll page.nodes rewritten.nodes)
            crossingPages result.pages)) =
      some (["first()\nsecond()"],
        [["/scripts/x-first-x-second.js", "/scripts/x-first-x-second.js"],
          ["/scripts/x-first-x-second.js", "/scripts/x-first-x-second.js"]]) ∧
    (carriers crossingPages pairComponents 2 "/scripts/").toOption.map (fun registry =>
        crossingPages.map (fun page => decide
          (MetBefore (registry.reached page) (plainSignature "second()")
            (plainSignature "first()")))) =
      some [false, false] := by
  decide +kernel

end StaticSite.Bundling
