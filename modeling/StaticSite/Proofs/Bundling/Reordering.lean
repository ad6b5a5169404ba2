/-
Module: StaticSite.Proofs.Bundling.Reordering
Purpose: What the order of pages and of components decides about bundling, and what it does
  not: the same scripts are extracted at the same places of every page, and the same ones
  share a bundle.
Trusted boundary: none
Main exports:
  ExtractedAt, extractedAt_relinkNodes_iff, extracted_perm, usageOf_perm, Bundled,
  exists_bundled, bundling_of_perm
-/
import StaticSite.Proofs.Bundling.PageCode
import StaticSite.Proofs.Markup.Addresses

namespace StaticSite.Bundling

open Text Markup

/-! ### Scripts and what has come in their place -/

/-- The element that a script gives way to: it keeps the attributes and loads a file. -/
def loaderOf (script : Script) (src : String) : Node :=
  .element "script" (script.attributes ++ [("src", src)]) []

/-- At an address where there was an inline script, the file at the URL is loaded instead. -/
def ExtractedAt (before after : List Node) (address : List Nat) (script : Script)
    (src : String) : Prop :=
  (nodeAt? before address).bind Node.script? = some script ∧
    nodeAt? after address = some (loaderOf script src)

variable {srcOf : Signature → Option String} {node : Node} {script : Script} {src : String}
  {address : List Nat}

theorem script?_loaderOf (script : Script) (src : String) :
    (loaderOf script src).script? = none :=
  if_neg (by rw [not_isInlineScriptTag_of_src]; exact Bool.false_ne_true)

/-- A script is replaced as soon as it has a URL. -/
theorem relinkNode_of_script (found : node.script? = some script) :
    relinkNode srcOf node =
      ((srcOf (Signature.ofScript script)).map (loaderOf script)).getD node := by
  cases node with
  | string kind text => cases found
  | element name attributes children =>
      by_cases inline : isInlineScriptTag name attributes = true
      · rw [script?_of_inline children inline] at found
        obtain rfl := Option.some.inj found
        obtain rfl := name_of_isInlineScriptTag inline
        rw [relinkNode, if_pos inline]
        cases srcOf (Signature.ofScript ⟨attributes, scriptText children⟩) with
        | none => rfl
        | some src =>
            simp only [Option.map_some, Option.getD_some, loaderOf,
              Attributes.insert_of_absent (has_src_of_isInlineScriptTag inline)]
      · rw [script?_of_not_inline children inline] at found
        cases found

/-- Other nodes stay, and what is inside of them is looked through. -/
theorem children_relinkNode_of_other (other : node.script? = none) :
    (relinkNode srcOf node).children = relinkNodes srcOf node.children := by
  cases node with
  | string kind text => rfl
  | element name attributes children =>
      by_cases inline : isInlineScriptTag name attributes = true
      · rw [script?_of_inline children inline] at other
        cases other
      · rw [relinkNode, if_neg inline]
        rfl

theorem relinkNodes_eq_map (nodes : List Node) :
    relinkNodes srcOf nodes = nodes.map (relinkNode srcOf) := by
  induction nodes with
  | nil => rfl
  | cons node rest inductionHypothesis => rw [relinkNodes, inductionHypothesis, List.map_cons]

/-- A script gives way to the element that loads its URL, and to no other one. -/
theorem relinkNode_eq_loaderOf_iff (found : node.script? = some script) :
    relinkNode srcOf node = loaderOf script src ↔
      srcOf (Signature.ofScript script) = some src := by
  rw [relinkNode_of_script found]
  cases srcOf (Signature.ofScript script) with
  | none =>
      refine iff_of_false (fun stays => ?_) (Option.some_ne_none src).symm
      rw [Option.map_none, Option.getD_none] at stays
      rw [stays, script?_loaderOf] at found
      cases found
  | some other => simp [loaderOf]

/-- Where a script has given way, nothing is found below it. -/
theorem below?_relinkNode_of_script {outer : Script} (found : node.script? = some outer)
    {place : Nat} {rest : List Nat}
    (inside : (node.below? (place :: rest)).bind Node.script? = some script) :
    (relinkNode srcOf node).below? (place :: rest) ≠ some (loaderOf script src) := by
  intro replaced
  rw [relinkNode_of_script found] at replaced
  cases known : srcOf (Signature.ofScript outer) with
  | none =>
      rw [known, Option.map_none, Option.getD_none] at replaced
      rw [replaced, Option.bind_some, script?_loaderOf] at inside
      cases inside
  | some outerSrc =>
      rw [known, Option.map_some, Option.getD_some] at replaced
      cases replaced

/-- Scripts give way exactly where they are found and have a URL. -/
theorem below?_relinkNode_iff :
    (node.below? address).bind Node.script? = some script ∧
        (relinkNode srcOf node).below? address = some (loaderOf script src) ↔
      node.ScriptAt address script ∧ srcOf (Signature.ofScript script) = some src := by
  induction address generalizing node with
  | nil =>
      simp only [Node.below?, Option.bind_some, Option.some_inj]
      constructor
      · rintro ⟨found, replaced⟩
        exact ⟨.here found, (relinkNode_eq_loaderOf_iff found).mp replaced⟩
      · rintro ⟨⟨found⟩, known⟩
        exact ⟨found, (relinkNode_eq_loaderOf_iff found).mpr known⟩
  | cons place rest inductionHypothesis =>
      have onwards (other : node.script? = none) {child : Node}
          (stored : node.children[place]? = some child) :
          node.below? (place :: rest) = child.below? rest ∧
            (relinkNode srcOf node).below? (place :: rest) =
              (relinkNode srcOf child).below? rest := by
        simp only [Node.below?, children_relinkNode_of_other other, relinkNodes_eq_map,
          List.getElem?_map, stored, Option.map_some, Option.bind_some, and_self]
      constructor
      · rintro ⟨found, replaced⟩
        cases isScript : node.script? with
        | some outer => exact absurd replaced (below?_relinkNode_of_script isScript found)
        | none =>
            cases stored : node.children[place]? with
            | none =>
                rw [Node.below?, stored] at found
                cases found
            | some child =>
                obtain ⟨before, after⟩ := onwards isScript stored
                rw [before] at found
                rw [after] at replaced
                obtain ⟨scriptAt, known⟩ := inductionHypothesis.mp ⟨found, replaced⟩
                exact ⟨.inside isScript stored scriptAt, known⟩
      · rintro ⟨scriptAt, known⟩
        cases scriptAt with
        | inside other stored found =>
            obtain ⟨before, after⟩ := onwards other stored
            rw [before, after]
            exact inductionHypothesis.mpr ⟨found, known⟩

/-- A script is extracted exactly where it is found, if it has a URL. -/
theorem extractedAt_relinkNodes_iff {nodes : List Node} :
    ExtractedAt nodes (relinkNodes srcOf nodes) address script src ↔
      (∃ place node rest, address = place :: rest ∧ nodes[place]? = some node ∧
        node.ScriptAt rest script) ∧ srcOf (Signature.ofScript script) = some src := by
  rw [ExtractedAt, relinkNodes_eq_map]
  cases address with
  | nil => simp [nodeAt?]
  | cons place rest =>
      cases stored : nodes[place]? with
      | none => simp [nodeAt?, stored]
      | some node =>
          simp only [nodeAt?, List.getElem?_map, stored, Option.map_some, Option.bind_some,
            below?_relinkNode_iff]
          simp [stored]

/-- Which places scripts are extracted from depends on which scripts have a URL, not on what
it is. -/
theorem extractedAt_congr {first second : Signature → Option String}
    (same : ∀ signature, (first signature).isSome ↔ (second signature).isSome)
    (nodes : List Node) (address : List Nat) (script : Script) :
    (∃ src, ExtractedAt nodes (relinkNodes first nodes) address script src) ↔
      ∃ src, ExtractedAt nodes (relinkNodes second nodes) address script src := by
  simp only [extractedAt_relinkNodes_iff, exists_and_left, ← Option.isSome_iff_exists,
    same (Signature.ofScript script)]

/-! ### Runs of the pass -/

/-- A run of the pass, together with the registry that tells which of its bundles carries
which script.  The scripts of the registry are those that are extracted somewhere, and where one
is extracted its bundle is loaded. -/
structure Bundled (pages : List Page) (components : List Component) (minPageUsage : Int)
    (srcStart : String) (registry : Registry) (result : Extraction) : Prop where
  carrying : carriers pages components minPageUsage srcStart = .ok registry
  passed : extract pages components minPageUsage srcStart = .ok result
  carried : ∀ signature ∈ registry.signatures, ∃ place bundle,
    registry.place? signature = some place ∧ registry.carrier? signature = some bundle ∧
      result.bundles[place]? = some bundle
  extracted_iff : ∀ signature, signature ∈ registry.signatures ↔
    ∃ (number : Nat) (page rewritten : Page) (address : List Nat) (script : Script) (src : String),
      pages[number]? = some page ∧ result.pages[number]? = some rewritten ∧
        ExtractedAt page.nodes rewritten.nodes address script src ∧
        Signature.ofScript script = signature
  linked : ∀ {number : Nat} {page rewritten : Page}, pages[number]? = some page →
    result.pages[number]? = some rewritten →
    ∀ {address : List Nat} {script : Script} {src : String},
      ExtractedAt page.nodes rewritten.nodes address script src →
        registry.link? (Signature.ofScript script) = some src

section Runs

variable (pages : List Page) (components : List Component) {minPageUsage : Int} (srcStart : String)

/-- The extracted scripts are those that give way somewhere. -/
theorem mem_extracted_iff_extractedAt {signature : Signature} :
    signature ∈ extracted pages components minPageUsage ↔
      ∃ (number : Nat) (page : Page) (address : List Nat) (script : Script) (src : String),
        pages[number]? = some page ∧
          ExtractedAt page.nodes
            (linkPage (linkOf pages components minPageUsage srcStart) page).nodes address script
            src ∧
          Signature.ofScript script = signature := by
  constructor
  · intro member
    obtain ⟨page, onSite, used⟩ := mem_encountered.mp (mem_extracted.mp member).1
    obtain ⟨script, found, rfl⟩ := List.mem_map.mp used
    obtain ⟨number, stored⟩ := List.getElem?_of_mem onSite
    obtain ⟨src, known⟩ :=
      Option.isSome_iff_exists.mp ((isSome_linkOf_iff pages components srcStart).mpr member)
    obtain ⟨place, node, rest, root, scriptAt⟩ := exists_scriptAt_of_all found
    exact ⟨number, page, place :: rest, script, src, stored,
      extractedAt_relinkNodes_iff.mpr ⟨⟨place, node, rest, rfl, root, scriptAt⟩, known⟩, rfl⟩
  · rintro ⟨number, page, address, script, src, stored, given, rfl⟩
    have known := (extractedAt_relinkNodes_iff.mp given).2
    exact (isSome_linkOf_iff pages components srcStart).mp (Option.isSome_of_eq_some known)

/-- The pass always gives such a run; the bundle of a script is that of its group. -/
theorem exists_bundled (enough : 1 ≤ minPageUsage) :
    ∃ registry result, Bundled pages components minPageUsage srcStart registry result ∧
      registry.signatures = extracted pages components minPageUsage ∧
      result.pages = pages.map (linkPage (linkOf pages components minPageUsage srcStart)) ∧
      (∀ signature ∈ extracted pages components minPageUsage,
        registry.carrier? signature =
          some (groupBundle components srcStart
            (groupOf pages components minPageUsage signature))) ∧
      ∀ first ∈ extracted pages components minPageUsage,
        ∀ second ∈ extracted pages components minPageUsage,
          (registry.place? first = registry.place? second ↔
            usageOf pages first = usageOf pages second) := by
  obtain ⟨merged, registry, carrying, state, finished⟩ :=
    carriers_spec pages components srcStart minPageUsage
  have passed := extract_eq pages components srcStart enough
  have returned := bundles_eq_surviving enough carrying finished.wellFormed passed
  have links := link?_eq_linkOf pages components srcStart state finished
  have signatures := state.signatures_eq finished
  refine ⟨registry, _, ⟨carrying, passed, ?_, ?_, ?_⟩, signatures, rfl, ?_, ?_⟩
  · intro signature member
    rw [signatures] at member
    obtain ⟨place, bundle, placed, carried, stored⟩ :=
      Registry.place?_spec finished.wellFormed (state.idOf?_final finished member)
    exact ⟨place, bundle, placed, carried, by rw [returned, stored]⟩
  · intro signature
    rw [signatures, mem_extracted_iff_extractedAt pages components srcStart]
    constructor
    · rintro ⟨number, page, address, script, src, stored, given, same⟩
      exact ⟨number, page, _, address, script, src, stored,
        by rw [List.getElem?_map, stored, Option.map_some], given, same⟩
    · rintro ⟨number, page, rewritten, address, script, src, stored, place, given, same⟩
      rw [List.getElem?_map, stored, Option.map_some, Option.some_inj] at place
      subst place
      exact ⟨number, page, address, script, src, stored, given, same⟩
  · intro number page rewritten stored place address script src given
    rw [List.getElem?_map, stored, Option.map_some, Option.some_inj] at place
    subst place
    rw [links]
    exact (extractedAt_relinkNodes_iff.mp given).2
  · intro signature member
    rw [state.carrier?_eq finished, if_pos member]
    rfl
  · intro first firstMember second secondMember
    exact state.place?_eq_iff finished firstMember secondMember

end Runs

/-! ### Permuted pages and components -/

section Orders

variable {pages pages' : List Page} {components components' : List Component}
  {minPageUsage : Int}

/-- The key of a script is made of sorted paths. -/
theorem usageOf_perm (samePages : pages.Perm pages') (signature : Signature) :
    usageOf pages signature = usageOf pages' signature := by
  have paths : ((usedBy pages signature).map (·.path)).Perm
      ((usedBy pages' signature).map (·.path)) := (samePages.filter _).map _
  have sorted : ((usedBy pages signature).map (·.path)).insertionSort (· ≤ ·) =
      ((usedBy pages' signature).map (·.path)).insertionSort (· ≤ ·) :=
    (((List.perm_insertionSort _ _).trans paths).trans
      (List.perm_insertionSort _ _).symm).eq_of_pairwise'
      (List.pairwise_insertionSort _ _) (List.pairwise_insertionSort _ _)
  rw [usageOf, usageOf, sorted]

theorem isExtracted_perm (samePages : pages.Perm pages')
    (sameComponents : components.Perm components') (signature : Signature) :
    isExtracted pages components minPageUsage signature =
      isExtracted pages' components' minPageUsage signature := by
  have used : (usedBy pages signature).length = (usedBy pages' signature).length :=
    (samePages.filter _).length_eq
  have declared : components.any (declares · signature) = components'.any (declares · signature) :=
    sameComponents.any_eq
  rw [isExtracted, isExtracted, used, declared]

/-- The same scripts are extracted, in another order. -/
theorem extracted_perm (samePages : pages.Perm pages')
    (sameComponents : components.Perm components') :
    (extracted pages components minPageUsage).Perm (extracted pages' components' minPageUsage) := by
  refine (List.perm_ext_iff_of_nodup (nodup_extracted _ _ _) (nodup_extracted _ _ _)).mpr
    fun signature => ?_
  rw [mem_extracted, mem_extracted, isExtracted_perm samePages sameComponents, mem_encountered,
    mem_encountered]
  simp only [samePages.mem_iff]

/-- Scripts go together with the same ones, in another order. -/
theorem groupOf_perm (samePages : pages.Perm pages')
    (sameComponents : components.Perm components') (signature : Signature) :
    (groupOf pages components minPageUsage signature).Perm
      (groupOf pages' components' minPageUsage signature) := by
  have sameKeys : usageOf pages = usageOf pages' := funext (usageOf_perm samePages)
  rw [groupOf, groupOf, sharing, sharing, sameKeys]
  exact (extracted_perm samePages sameComponents).filter _

/-- Which scripts are bundled together does not depend on the order of pages and of components.
Two runs whose pages and components are permuted extract the same scripts: on every page that has
the number `number` in one run and `number'` in the other one, they take them from the same
addresses.  Two of these scripts have their bundle at one place in one run exactly if they have it
at one place in the other one, and the code of a bundle consists of the same texts. -/
theorem bundling_of_perm (srcStart : String) (enough : 1 ≤ minPageUsage)
    (samePages : pages.Perm pages') (sameComponents : components.Perm components') :
    ∃ registry registry' result result',
      Bundled pages components minPageUsage srcStart registry result ∧
      Bundled pages' components' minPageUsage srcStart registry' result' ∧
      registry.signatures.Perm registry'.signatures ∧
      (∀ (number number' : Nat) (page : Page), pages[number]? = some page →
        pages'[number']? = some page →
        ∃ rewritten rewritten', result.pages[number]? = some rewritten ∧
          result'.pages[number']? = some rewritten' ∧
          ∀ address script,
            (∃ src, ExtractedAt page.nodes rewritten.nodes address script src) ↔
              ∃ src, ExtractedAt page.nodes rewritten'.nodes address script src) ∧
      (∀ first ∈ registry.signatures, ∀ second ∈ registry.signatures,
        (registry.place? first = registry.place? second ↔
          registry'.place? first = registry'.place? second)) ∧
      ∀ signature ∈ registry.signatures, ∃ bundle bundle' codes codes',
        registry.carrier? signature = some bundle ∧
          registry'.carrier? signature = some bundle' ∧ codes.Perm codes' ∧
          bundle.code = joinWith "\n" codes ∧ bundle'.code = joinWith "\n" codes' := by
  obtain ⟨registry, result, run, signatures, rewritten, bundles, together⟩ :=
    exists_bundled pages components srcStart enough
  obtain ⟨registry', result', run', signatures', rewritten', bundles', together'⟩ :=
    exists_bundled pages' components' srcStart enough
  have sameScripts : (extracted pages components minPageUsage).Perm
      (extracted pages' components' minPageUsage) := extracted_perm samePages sameComponents
  refine ⟨registry, registry', result, result', run, run', ?_, ?_, ?_, ?_⟩
  · rw [signatures, signatures']
    exact sameScripts
  · intro number number' page stored stored'
    rw [rewritten, rewritten', List.getElem?_map, List.getElem?_map, stored, stored']
    refine ⟨_, _, rfl, rfl, extractedAt_congr (fun signature => ?_) page.nodes⟩
    rw [isSome_linkOf_iff, isSome_linkOf_iff, sameScripts.mem_iff]
  · intro first firstMember second secondMember
    rw [signatures] at firstMember secondMember
    rw [together first firstMember second secondMember, usageOf_perm samePages,
      usageOf_perm samePages, together' first (sameScripts.mem_iff.mp firstMember) second
        (sameScripts.mem_iff.mp secondMember)]
  · intro signature member
    rw [signatures] at member
    exact ⟨_, _, _, _, bundles signature member,
      bundles' signature (sameScripts.mem_iff.mp member),
      (groupOf_perm samePages sameComponents signature).map (·.code), rfl, rfl⟩

end Orders

/-- In the small site put in the opposite order the script of the first page is extracted too, and
the two scripts that go together still do, although a bundle gets another owner. -/
theorem bundling_of_reversed_sample :
    (1 : Int) ≤ 2 ∧ samplePages.Perm samplePages.reverse ∧
      sampleComponents.Perm sampleComponents.reverse ∧
      ∃ registry registry' result result',
        Bundled samplePages sampleComponents 2 "/scripts/" registry result ∧
        Bundled samplePages.reverse sampleComponents.reverse 2 "/scripts/" registry' result' ∧
        result.bundles.map (·.name) ≠ result'.bundles.map (·.name) ∧
        registry'.place? (plainSignature "own()") = registry'.place? (plainSignature "third()") ∧
        ∃ page rewritten' src, samplePages[0]? = some page ∧ result'.pages[2]? = some rewritten' ∧
          ExtractedAt page.nodes rewritten'.nodes [0] ⟨[], "shared()"⟩ src := by
  have reversedPages := (List.reverse_perm samplePages).symm
  have reversedComponents := (List.reverse_perm sampleComponents).symm
  obtain ⟨registry, registry', result, result', run, run', -, places, together, -⟩ :=
    bundling_of_perm "/scripts/" (by decide : (1 : Int) ≤ 2) reversedPages reversedComponents
  obtain ⟨rewritten, rewritten', stored, stored', sameScripts⟩ :=
    places 0 2 (samplePages.getD 0 default) rfl rfl
  have names : (extract samplePages sampleComponents 2 "/scripts/").toOption.map
        (fun result => result.bundles.map (·.name)) = some ["x-second", "x-second-x-third"] ∧
      (extract samplePages.reverse sampleComponents.reverse 2 "/scripts/").toOption.map
        (fun result => result.bundles.map (·.name)) = some ["x-first", "x-second-x-third"] := by
    decide +kernel
  have scripts : (carriers samplePages sampleComponents 2 "/scripts/").toOption.map (fun registry =>
        (registry.signatures, registry.place? (plainSignature "own()"),
          registry.place? (plainSignature "third()"))) =
      some (["shared()", "own()", "third()"].map plainSignature, some 1, some 1) := by
    decide +kernel
  have given : (((extract samplePages sampleComponents 2 "/scripts/").toOption.bind
        (·.pages[0]?)).bind fun rewritten => nodeAt? rewritten.nodes [0]) =
      some (loaderOf ⟨[], "shared()"⟩ "/scripts/x-second.js") := by
    decide +kernel
  simp only [run.passed, run'.passed, Except.toOption, Option.map_some, Option.some_inj] at names
  rw [run.carrying, Except.toOption, Option.map_some, Option.some_inj] at scripts
  rw [run.passed, Except.toOption, Option.bind_some, stored, Option.bind_some] at given
  have here : ExtractedAt (samplePages.getD 0 default).nodes rewritten.nodes [0] ⟨[], "shared()"⟩
      "/scripts/x-second.js" := ⟨by decide +kernel, given⟩
  obtain ⟨src, there⟩ := (sameScripts [0] _).mp ⟨_, here⟩
  refine ⟨by decide, reversedPages, reversedComponents, registry, registry', result, result', run,
    run', ?_, ?_, _, rewritten', src, rfl, stored', there⟩
  · rw [names.1, names.2]
    decide
  · simp only [Prod.mk.injEq] at scripts
    obtain ⟨signatures, own, third⟩ := scripts
    refine (together _ ?_ _ ?_).mp (own.trans third.symm)
    · rw [signatures]
      decide
    · rw [signatures]
      decide

end StaticSite.Bundling
