/-
Module: StaticSite.Proofs.Site.Phases
Purpose: A build as the phases it goes through, whether it comes to the last of them or not:
  when it succeeds, what it has written, and that a file system stays well-formed.
Trusted boundary: none
Main exports:
  build_eq_ok_iff, toWrite, writing, build_tree_cases, build_tree_of_ok, mem_toWrite,
  writing_becomes, Artefact.IsNamed, Artefact.wellFormed_put, wellFormed_putAll, wellFormed_build
-/
import StaticSite.Proofs.Files.Preservation
import StaticSite.Proofs.Site.PageAddresses

namespace StaticSite.Site

open Text FileTree Directories

variable {tree after : FileTree} {now : Int} {current location : Location} {config : BuildConfig}
  {directories : Directories} {result : BuildResult} {products : Products}
  {artefact : Artefact} {artefacts : List Artefact}

/-! ### The phases -/

/-- A build succeeds if and only if each of its phases does, and reports what each has written. -/
theorem build_eq_ok_iff :
    (build tree now current config).outcome = .ok result ↔
      ∃ products, (Sources.read (Directories.of current config) tree).2 = none ∧
        (copying (Directories.of current config) tree now).error = none ∧
        produce (Directories.of current config) config
          (Sources.read (Directories.of current config) tree).1 = .ok products ∧
        (putAll now (copying (Directories.of current config) tree now).tree
          products.artefacts).error = none ∧
        result =
          { artefacts := (copying (Directories.of current config) tree now).written ++
              (putAll now (copying (Directories.of current config) tree now).tree
                products.artefacts).written
            skipped := (Sources.read (Directories.of current config) tree).1.skipped.map
              (·.path) } := by
  rw [build, copying]
  dsimp only
  split
  case h_1 reading => simp [reading]
  case h_2 sources reading =>
    split
    case h_1 failed => simp [failed]
    case h_2 copied =>
      rw [reading]
      dsimp only
      split
      case h_1 failed => simp [failed]
      case h_2 products produced =>
        split
        case h_1 failed => simp [copied, produced, failed]
        case h_2 written => simp [copied, produced, written, eq_comm]

/-- What a build goes on to write once its assets have been copied.  There is nothing if it
ends before that. -/
def toWrite (directories : Directories) (config : BuildConfig) (tree : FileTree) (now : Int) :
    List Artefact :=
  if (Sources.read directories tree).2 = none ∧ (copying directories tree now).error = none then
    match produce directories config (Sources.read directories tree).1 with
    | .ok products => products.artefacts
    | .error _ => []
  else
    []

/-- What has come of writing that, the last phase of a build. -/
def writing (directories : Directories) (config : BuildConfig) (tree : FileTree) (now : Int) :
    Placement :=
  putAll now (copying directories tree now).tree (toWrite directories config tree now)

/-- A build leaves what writing leaves, or has not come to copying. -/
theorem build_tree_cases (tree : FileTree) (now : Int) (current : Location)
    (config : BuildConfig) :
    (build tree now current config).tree = tree ∨
      (build tree now current config).tree =
        (writing (Directories.of current config) config tree now).tree := by
  rw [build, writing, toWrite, copying]
  dsimp only
  split
  case h_1 => exact .inl rfl
  case h_2 sources reading =>
    refine .inr ?_
    rw [reading]
    split
    case h_1 failed => simp [failed, putAll]
    case h_2 copied =>
      rw [if_pos ⟨rfl, copied⟩]
      dsimp only
      split
      case h_1 failed => rw [failed, putAll]
      case h_2 products produced =>
        rw [produced]
        dsimp only
        split <;> rfl

theorem toWrite_of_ok (read : (Sources.read directories tree).2 = none)
    (copied : (copying directories tree now).error = none)
    (produced : produce directories config (Sources.read directories tree).1 = .ok products) :
    toWrite directories config tree now = products.artefacts := by
  rw [toWrite, if_pos ⟨read, copied⟩, produced]

theorem build_tree_of_ok (succeeded : (build tree now current config).outcome = .ok result) :
    (build tree now current config).tree =
      (writing (Directories.of current config) config tree now).tree := by
  obtain ⟨products, read, copied, produced, -, -⟩ := build_eq_ok_iff.mp succeeded
  obtain ⟨_, producedToo, -, -, left, -⟩ := build_ok succeeded
  obtain rfl := Except.ok.inj (produced.symm.trans producedToo)
  rw [left, writing, toWrite_of_ok read copied produced]

/-- What is written in the last phase are script files and pages. -/
theorem mem_toWrite (wellFormed : tree.WellFormed)
    (member : artefact ∈ toWrite directories config tree now) :
    IsScriptFile directories config.scriptSrcStart artefact ∨
      IsPageFile directories (Sources.read directories tree).1.pages artefact := by
  rw [toWrite] at member
  split at member
  case isFalse => cases member
  case isTrue =>
    split at member
    case h_2 => cases member
    case h_1 products produced =>
      obtain ⟨scripts, pages, shape, areScripts, arePages, -⟩ :=
        produce_ok (fun _ fragment => (name_of_fragment wellFormed fragment).1) produced
      rw [shape] at member
      exact (List.mem_append.mp member).imp (areScripts artefact) (arePages artefact)

theorem areTexts_toWrite (wellFormed : tree.WellFormed) :
    AreTexts (toWrite directories config tree now) := by
  intro artefact member
  rcases mem_toWrite wellFormed member with ⟨_, code, -, rfl⟩ | ⟨_, -, html, rfl⟩
  · exact ⟨code, rfl⟩
  · exact ⟨html, rfl⟩

/-! ### What has been written -/

theorem written_subset (now : Int) (tree : FileTree) (artefacts : List Artefact) :
    (putAll now tree artefacts).written ⊆ artefacts := by
  induction artefacts generalizing tree with
  | nil => exact List.Subset.refl _
  | cons artefact rest inductionHypothesis =>
      rw [putAll]
      split
      case isTrue => exact List.subset_cons_of_subset _ (inductionHypothesis tree)
      case isFalse =>
        split
        case h_1 => exact List.nil_subset _
        case h_2 after _ => exact List.cons_subset_cons _ (inductionHypothesis after)

/-- Even in a run that fails, no files change but those of the artefacts that are reported as
written. -/
theorem putAll_written_becomes (now : Int) (tree : FileTree) (texts : AreTexts artefacts) :
    Becomes (fun _ => True)
      (fun location entry => ∃ artefact ∈ (putAll now tree artefacts).written,
        artefact.Fills now location entry)
      tree (putAll now tree artefacts).tree := by
  induction artefacts generalizing tree with
  | nil => exact .refl _ _ tree
  | cons artefact rest inductionHypothesis =>
      obtain ⟨text, isText⟩ := texts artefact List.mem_cons_self
      have others : AreTexts rest := fun other member => texts other (List.mem_cons_of_mem _ member)
      rw [putAll, Artefact.not_isUpToDate_of_text isText, if_neg Bool.false_ne_true]
      obtain ⟨middle, made, ⟨cause, failed⟩ | ⟨after, -, succeeded⟩⟩ :=
        Artefact.put_cases now tree artefact
      · rw [failed]
        exact made.mono (fun _ _ => trivial) fun _ _ => False.elim
      · have first : Becomes _ (artefact.Fills now) tree (artefact.put now tree).1 :=
          Artefact.put_becomes isText
        rw [succeeded] at first ⊢
        refine (first.mono (fun _ _ => trivial) ?_).trans
          ((inductionHypothesis after others).mono (fun _ _ => trivial) ?_)
        · exact fun _ _ filled => ⟨artefact, List.mem_cons_self, filled⟩
        · rintro _ _ ⟨other, isWritten, filled⟩
          exact ⟨other, List.mem_cons_of_mem _ isWritten, filled⟩

theorem writing_becomes (directories : Directories) (config : BuildConfig)
    (wellFormed : tree.WellFormed) (now : Int) :
    Becomes (fun _ => True)
      (fun location entry => ∃ artefact ∈ (writing directories config tree now).written,
        artefact.Fills now location entry)
      (copying directories tree now).tree (writing directories config tree now).tree :=
  putAll_written_becomes now _ (areTexts_toWrite wellFormed)

/-! ### File systems stay well-formed -/

namespace Artefact

/-- The artefact goes to a path of names, under a name if it is a copy. -/
structure IsNamed (artefact : Artefact) : Prop where
  target : artefact.target.IsNamed
  source : ∀ source target, artefact = .asset source target → IsFileName source.name

theorem IsNamed.of_text {text : String} (written : artefact.text? = some text)
    (named : artefact.target.IsNamed) : artefact.IsNamed := by
  refine ⟨named, ?_⟩
  rintro source target rfl
  cases written

theorem wellFormed_place (wellFormed : tree.WellFormed) (named : artefact.IsNamed)
    (placed : artefact.place now tree = .ok after) : after.WellFormed := by
  cases artefact with
  | asset source target =>
      exact wellFormed.copy named.target (named.source source target rfl) placed
  | bundle => exact wellFormed.write named.target placed
  | page => exact wellFormed.write named.target placed

theorem wellFormed_put (wellFormed : tree.WellFormed) (named : artefact.IsNamed) (now : Int) :
    (artefact.put now tree).1.WellFormed := by
  have made := wellFormed.makeDirectories named.target.parent
  rw [put]
  split
  case h_1 middle cause failed =>
    rw [failed] at made
    exact made
  case h_2 middle ready =>
    rw [ready] at made
    cases placed : artefact.place now middle with
    | ok after => exact wellFormed_place made named placed
    | error => exact made

end Artefact

theorem wellFormed_putAll (wellFormed : tree.WellFormed)
    (named : ∀ artefact ∈ artefacts, artefact.IsNamed) (now : Int) :
    (putAll now tree artefacts).tree.WellFormed := by
  induction artefacts generalizing tree with
  | nil => exact wellFormed
  | cons artefact rest inductionHypothesis =>
      have others : ∀ artefact ∈ rest, artefact.IsNamed := fun other member =>
        named other (List.mem_cons_of_mem _ member)
      have here := Artefact.wellFormed_put wellFormed (named artefact List.mem_cons_self) now
      rw [putAll]
      split
      case isTrue => exact inductionHypothesis wellFormed others
      case isFalse =>
        split
        case h_1 failed =>
          rw [failed] at here
          exact here
        case h_2 succeeded =>
          rw [succeeded] at here
          exact inductionHypothesis here others

section

variable (outputNamed : ∀ name ∈ directories.output, IsFileName name) (wellFormed : tree.WellFormed)

include outputNamed

theorem isNamed_outputRoot : directories.outputRoot.IsNamed :=
  Path.isNamed_ofLocation outputNamed

theorem isNamed_scriptFile {srcStart : String}
    (isScript : IsScriptFile directories srcStart artefact) : artefact.target.IsNamed := by
  obtain ⟨name, code, -, rfl⟩ := isScript
  rw [Artefact.target, scriptTarget]
  exact (isNamed_outputRoot outputNamed).join (Path.isNamed_ofString _)

include wellFormed

theorem isNamed_copyOf (asset : location ∈ directories.assets tree) :
    (directories.copyOf location).IsNamed := by
  obtain ⟨rest, _, _, rfl, below, found, -⟩ := asset_cases wellFormed asset
  have nonempty := List.append_ne_nil_of_right_ne_nil directories.content below
  have names := (wellFormed.named _ (mem_of_get? nonempty found)).2
  refine ⟨?_, ?_⟩
  · intro part member noDots
    rw [copyOf, Artefact.target, assetTarget_parts] at member
    exact (List.mem_append.mp member).elim (outputNamed part) fun later =>
      names part (List.mem_append_right _ later)
  · rintro source target shape
    obtain rfl := (Artefact.asset.inj shape).1
    exact wellFormed.isFileName_of_get? nonempty found

theorem isNamed_pageFile
    (isPage : IsPageFile directories (Sources.read directories tree).1.pages artefact) :
    artefact.target.IsNamed := by
  obtain ⟨page, isPage, html, rfl⟩ := isPage
  obtain ⟨rest, _, _, path, found, -⟩ := page_cases wellFormed isPage
  have relative : directories.relativeParts page.path.parts = rest := by
    rw [path]
    exact relativeParts_append directories rest
  have names : ∀ part ∈ rest, part ≠ ".." → IsFileName part := fun part member _ =>
    (wellFormed.named _ (mem_of_get? (List.ne_nil_of_mem (List.mem_append_right _ member)) found)).2
      part (List.mem_append_right _ member)
  have root := isNamed_outputRoot outputNamed
  rw [Artefact.target, outputPath, relative]
  split
  case isTrue => exact root.append names
  case isFalse =>
    have above := root.append fun part member => names part (List.dropLast_subset _ member)
    refine (above.join (Path.isNamed_ofString _)).append ?_
    simp only [List.mem_singleton, forall_eq]
    decide

theorem wellFormed_copying (now : Int) : (copying directories tree now).tree.WellFormed := by
  refine wellFormed_putAll wellFormed ?_ now
  intro artefact member
  obtain ⟨location, asset, rfl⟩ := List.mem_map.mp member
  exact isNamed_copyOf outputNamed wellFormed asset

theorem wellFormed_writing (config : BuildConfig) (now : Int) :
    (writing directories config tree now).tree.WellFormed := by
  refine wellFormed_putAll (wellFormed_copying outputNamed wellFormed now) ?_ now
  intro artefact member
  obtain ⟨text, isText⟩ := areTexts_toWrite wellFormed artefact member
  refine .of_text isText ?_
  rcases mem_toWrite wellFormed member with isScript | isPage
  · exact isNamed_scriptFile outputNamed isScript
  · exact isNamed_pageFile outputNamed wellFormed isPage

end

/-- A build leaves a well-formed file system, whether it succeeds or not. -/
theorem wellFormed_build (wellFormed : tree.WellFormed)
    (outputNamed : ∀ name ∈ (Directories.of current config).output, IsFileName name) (now : Int) :
    (build tree now current config).tree.WellFormed := by
  rcases build_tree_cases tree now current config with unchanged | written
  · rwa [unchanged]
  · rw [written]
    exact wellFormed_writing outputNamed wellFormed config now

end StaticSite.Site
