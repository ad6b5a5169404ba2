/-
Module: StaticSite.Proofs.Site.Placing
Purpose: What putting artefacts in place does to a file system: one step and a whole run, which
  files are left alone, and what is in a file that is written more than once.
Trusted boundary: none
Main exports:
  Artefact.text?, Artefact.location, Artefact.Fills, Artefact.put_cases, putAll_becomes,
  putAll_of_ok, lastText?, putAll_texts_becomes, file_of_no_text, get?_of_lastText?,
  written_of_texts, write_of_texts
-/
import StaticSite.Proofs.Files.Changes
import StaticSite.Site.Artefact

namespace StaticSite.Site

open Text FileTree

/-! ### One artefact -/

namespace Artefact

/-- The text that is written for an artefact.  A copy has none. -/
def text? : Artefact → Option String
  | .asset _ _ => none
  | .bundle _ code => some code
  | .page _ _ html => some html

/-- The place that the path of an artefact comes to. -/
def location (artefact : Artefact) : Location :=
  artefact.target.resolveParts []

/-- The artefact is written to a place, as this file. -/
def Fills (now : Int) (artefact : Artefact) (location : Location) (entry : Entry) : Prop :=
  location = artefact.location ∧
    ∃ text, artefact.text? = some text ∧ entry = .file (encode text) now

variable {now : Int} {tree after : FileTree} {artefact : Artefact} {text : String}

theorem location_eq (artefact : Artefact) :
    artefact.location = Path.walk [] artefact.target.parts :=
  Path.resolveParts_root artefact.target

theorem place_of_text (written : artefact.text? = some text) :
    artefact.place now tree = tree.write artefact.target (encode text) now := by
  cases artefact <;> simp_all [text?, place, target]

theorem not_isUpToDate_of_text (written : artefact.text? = some text) :
    artefact.isUpToDate tree = false := by
  cases artefact with
  | asset => cases written
  | bundle => rfl
  | page => rfl

/-- First the directories on the way are made.  Then the artefact is put in place, or
nothing else happens. -/
theorem put_cases (now : Int) (tree : FileTree) (artefact : Artefact) :
    ∃ middle, Becomes artefact.target.parent.Passes Nothing tree middle ∧
      ((∃ cause, artefact.put now tree = (middle, some cause)) ∨
        ∃ after, artefact.place now middle = .ok after ∧
          artefact.put now tree = (after, none)) := by
  have made := makeDirectories_becomes tree artefact.target.parent
  rw [put]
  split
  case h_1 middle cause failed =>
    rw [failed] at made
    exact ⟨middle, made, .inl ⟨cause, rfl⟩⟩
  case h_2 middle ready =>
    rw [ready] at made
    refine ⟨middle, made, ?_⟩
    cases placed : artefact.place now middle with
    | ok after => exact .inr ⟨after, rfl, rfl⟩
    | error cause => exact .inl ⟨cause, rfl⟩

/-- Of an artefact with a text only its own file is written. -/
theorem put_becomes (written : artefact.text? = some text) :
    Becomes artefact.target.parent.Passes (artefact.Fills now) tree (artefact.put now tree).1 := by
  obtain ⟨middle, made, ⟨cause, failed⟩ | ⟨after, placed, succeeded⟩⟩ :=
    put_cases now tree artefact
  · rw [failed]
    exact made.mono (fun _ passed => passed) fun _ _ => False.elim
  · rw [succeeded]
    rw [place_of_text written] at placed
    refine (made.mono (fun _ passed => passed) fun _ _ => False.elim).trans
      (write_becomes placed ⟨artefact.location_eq.symm, text, written, rfl⟩ _)

theorem get?_of_put (written : artefact.text? = some text)
    (succeeded : artefact.put now tree = (after, none)) :
    after.get? artefact.location = some (.file (encode text) now) := by
  obtain ⟨middle, -, ⟨cause, failed⟩ | ⟨after', placed, isPut⟩⟩ := put_cases now tree artefact
  · cases succeeded.symm.trans failed
  · cases succeeded.symm.trans isPut
    rw [place_of_text written] at placed
    rw [location_eq]
    exact get?_of_write placed

end Artefact

/-! ### Artefacts one after the other -/

variable {now : Int} {start tree : FileTree} {artefacts rest : List Artefact}
  {artefact : Artefact} {location : Location} {bytes : ByteArray} {modified : Int} {text : String}

/-- What each artefact may change is all that a run may change, even one that fails. -/
theorem putAll_becomes {made : Location → Prop} {written : Location → Entry → Prop}
    (step : ∀ artefact ∈ artefacts, ∀ tree, Becomes made written start tree →
      Becomes made written tree (artefact.put now tree).1)
    (sofar : Becomes made written start tree) :
    Becomes made written start (putAll now tree artefacts).tree := by
  induction artefacts generalizing tree with
  | nil => exact sofar
  | cons artefact rest inductionHypothesis =>
      have others : ∀ artefact ∈ rest, _ := fun other member =>
        step other (List.mem_cons_of_mem _ member)
      have here := sofar.trans (step artefact List.mem_cons_self tree sofar)
      rw [putAll]
      split
      case isTrue => exact inductionHypothesis others sofar
      case isFalse =>
        split
        case h_1 after cause failed =>
          rw [failed] at here
          exact here
        case h_2 after succeeded =>
          rw [succeeded] at here
          exact inductionHypothesis others here

/-- A run that succeeds puts its first artefact in place, unless that is up to date, and
then the others. -/
theorem putAll_of_ok (succeeded : (putAll now tree (artefact :: rest)).error = none) :
    (artefact.isUpToDate tree = true ∧
        putAll now tree (artefact :: rest) = putAll now tree rest) ∨
      ∃ after, artefact.isUpToDate tree = false ∧ artefact.put now tree = (after, none) ∧
        putAll now tree (artefact :: rest) =
          { putAll now after rest with
            written := artefact :: (putAll now after rest).written } := by
  rw [putAll] at succeeded ⊢
  split
  case isTrue upToDate => exact .inl ⟨upToDate, rfl⟩
  case isFalse outdated =>
    rw [if_neg outdated] at succeeded
    cases isPut : artefact.put now tree with
    | mk after error =>
        cases error with
        | none => exact .inr ⟨after, by simpa using outdated, rfl, rfl⟩
        | some cause =>
            rw [isPut] at succeeded
            cases succeeded

/-! ### Artefacts with texts -/

/-- All of the artefacts have texts: they are no copies. -/
def AreTexts (artefacts : List Artefact) : Prop :=
  ∀ artefact ∈ artefacts, ∃ text, artefact.text? = some text

/-- The text that is written last to a place. -/
def lastText? (artefacts : List Artefact) (location : Location) : Option String :=
  artefacts.reverse.findSome? fun artefact =>
    if artefact.location = location then artefact.text? else none

theorem lastText?_append (first second : List Artefact) (location : Location) :
    lastText? (first ++ second) location =
      (lastText? second location).or (lastText? first location) := by
  rw [lastText?, List.reverse_append, List.findSome?_append]
  rfl

theorem lastText?_cons (artefact : Artefact) (rest : List Artefact) (location : Location) :
    lastText? (artefact :: rest) location =
      (lastText? rest location).or
        (if artefact.location = location then artefact.text? else none) := by
  rw [← List.singleton_append, lastText?_append]
  exact congrArg _ List.findSome?_singleton

/-- Directories are made for the artefacts, and their files are written. -/
theorem putAll_texts_becomes (now : Int) (tree : FileTree) (texts : AreTexts artefacts) :
    Becomes (fun location => ∃ artefact ∈ artefacts, artefact.target.parent.Passes location)
      (fun location entry => ∃ artefact ∈ artefacts, artefact.Fills now location entry) tree
      (putAll now tree artefacts).tree := by
  apply putAll_becomes _ (.refl _ _ tree)
  intro artefact member tree _
  obtain ⟨text, written⟩ := texts artefact member
  exact (Artefact.put_becomes written).mono (fun _ passed => ⟨artefact, member, passed⟩)
    fun _ _ filled => ⟨artefact, member, filled⟩

theorem not_fills_of_no_text {entry : Entry} (apart : lastText? artefacts location = none)
    (member : artefact ∈ artefacts) : ¬ artefact.Fills now location entry := by
  rintro ⟨rfl, text, isText, -⟩
  have none := List.findSome?_eq_none_iff.mp apart artefact (List.mem_reverse.mpr member)
  simp [isText] at none

/-- A file that no text is written to stays. -/
theorem file_of_no_text (now : Int) (texts : AreTexts artefacts)
    (isFile : tree.get? location = some (.file bytes modified))
    (apart : lastText? artefacts location = none) :
    (putAll now tree artefacts).tree.get? location = some (.file bytes modified) := by
  refine ((putAll_texts_becomes now tree texts).file_iff ?_).mpr isFile
  rintro entry ⟨artefact, member, filled⟩
  exact not_fills_of_no_text apart member filled

theorem put_of_texts (texts : AreTexts (artefact :: rest))
    (succeeded : (putAll now tree (artefact :: rest)).error = none) :
    ∃ after, artefact.put now tree = (after, none) ∧
      putAll now tree (artefact :: rest) =
        { putAll now after rest with written := artefact :: (putAll now after rest).written } := by
  obtain ⟨text, written⟩ := texts artefact List.mem_cons_self
  rcases putAll_of_ok succeeded with ⟨upToDate, -⟩ | ⟨after, -, isPut, run⟩
  · rw [Artefact.not_isUpToDate_of_text written] at upToDate
    cases upToDate
  · exact ⟨after, isPut, run⟩

/-- Of the texts that are written to one place, the last one is in the file. -/
theorem get?_of_lastText? (texts : AreTexts artefacts)
    (succeeded : (putAll now tree artefacts).error = none)
    (last : lastText? artefacts location = some text) :
    (putAll now tree artefacts).tree.get? location = some (.file (encode text) now) := by
  induction artefacts generalizing tree with
  | nil => cases last
  | cons artefact rest inductionHypothesis =>
      obtain ⟨after, isPut, run⟩ := put_of_texts texts succeeded
      have others : AreTexts rest := fun other member => texts other (List.mem_cons_of_mem _ member)
      rw [run] at succeeded ⊢
      rw [lastText?_cons] at last
      cases later : lastText? rest location with
      | some text' =>
          rw [later, Option.some_or] at last
          exact inductionHypothesis others succeeded (later.trans last)
      | none =>
          rw [later, Option.none_or] at last
          split at last
          case isTrue here =>
            rw [← here] at later ⊢
            exact file_of_no_text now others (Artefact.get?_of_put last isPut) later
          case isFalse => cases last

/-- In a run that succeeds each artefact with a text is written at some moment. -/
theorem write_of_texts (texts : AreTexts artefacts)
    (succeeded : (putAll now tree artefacts).error = none) (member : artefact ∈ artefacts) :
    ∃ (before after : FileTree) (bytes : ByteArray),
      before.write artefact.target bytes now = .ok after := by
  induction artefacts generalizing tree with
  | nil => cases member
  | cons first rest inductionHypothesis =>
      obtain ⟨after, isPut, run⟩ := put_of_texts texts succeeded
      rcases List.mem_cons.mp member with rfl | later
      · obtain ⟨text, written⟩ := texts artefact List.mem_cons_self
        obtain ⟨middle, -, ⟨cause, failed⟩ | ⟨after', placed, -⟩⟩ :=
          Artefact.put_cases now tree artefact
        · cases isPut.symm.trans failed
        · rw [Artefact.place_of_text written] at placed
          exact ⟨middle, after', _, placed⟩
      · rw [run] at succeeded
        exact inductionHypothesis (fun other member => texts other (List.mem_cons_of_mem _ member))
          succeeded later

/-- All artefacts with texts are written. -/
theorem written_of_texts (texts : AreTexts artefacts)
    (succeeded : (putAll now tree artefacts).error = none) :
    (putAll now tree artefacts).written = artefacts := by
  induction artefacts generalizing tree with
  | nil => rfl
  | cons artefact rest inductionHypothesis =>
      obtain ⟨after, -, run⟩ := put_of_texts texts succeeded
      rw [run] at succeeded ⊢
      exact congrArg (artefact :: ·)
        (inductionHypothesis (fun other member => texts other (List.mem_cons_of_mem _ member))
          succeeded)

end StaticSite.Site
