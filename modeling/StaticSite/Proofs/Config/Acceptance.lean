/-
Module: StaticSite.Proofs.Config.Acceptance
Purpose: Which configuration files are accepted, told by the value that a file holds.
Trusted boundary: none
Main exports:
  Reachable, IsIndent, IndentLayout, FullLayout, Fits, Accepted, Described,
  configureMapping_succeeds_iff, loadConfig_succeeds_iff
-/
import Mathlib.Control.Monad.Basic
import StaticSite.Config
import StaticSite.Proofs.Outcomes
import StaticSite.Yaml.Equality

namespace StaticSite

open Text Yaml

/-! ### What is asked of a file -/

/-- The path that a text gives can be looked for: it is absolute, or holds no null character. -/
def Reachable (text : String) : Prop :=
  (Path.ofString (trim text)).isAbsolute = true ∨ (Path.ofString (trim text)).holdsNull = false

/-- The value is an indentation: none, a number of spaces, or a text. -/
def IsIndent (value : Value) : Prop :=
  value = .null ∨ (∃ count, value = .int count) ∨ ∃ text, value = .string text

/-- The entries of a layout in which the indentation is one.  Nothing is asked of the others. -/
def IndentLayout (entries : Mapping) : Prop :=
  ∀ value, entries.get? (.string "indent") = some value → IsIndent value

/-- The entries of a layout with nothing but a switch and an indentation. -/
structure FullLayout (entries : Mapping) : Prop where
  known : ∀ entry ∈ entries, entry.1 = .string "enabled" ∨ entry.1 = .string "indent"
  enabled : ∀ value, entries.get? (.string "enabled") = some value →
    ∃ enabled, value = .bool enabled
  indent : IndentLayout entries

/-- The entries of a configuration: every key is known and every value is one for its key,
where `place` tells which texts are paths, and `layout` which mappings are layouts. -/
structure Fits (place : String → Prop) (layout : Mapping → Prop) (mapping : Mapping) : Prop where
  known : ∀ entry ∈ mapping, ∃ key, (key ∈ pathKeys ∨ key ∈ valueKeys) ∧ entry.1 = .string key
  paths : ∀ key ∈ pathKeys, ∀ value, mapping.get? (.string key) = some value →
    ∃ text, value = .string text ∧ isBlank text = false ∧ place text
  minPageUsage : ∀ value, mapping.get? (.string "min_page_usage") = some value →
    ∃ count, value = .int count ∧ 1 ≤ count
  scriptSrcStart : ∀ value, mapping.get? (.string "script_src_prefix") = some value →
    ∃ text, value = .string text
  beautify : ∀ value, mapping.get? (.string "beautify") = some value →
    (∃ enabled, value = .bool enabled) ∨ ∃ entries, value.entries? = some entries ∧ layout entries

/-- The file is empty or holds a configuration, as it is described to those who write one. -/
def Described (place : String → Prop) (document : Value) : Prop :=
  document = .null ∨ ∃ mapping, document.entries? = some mapping ∧ Fits place FullLayout mapping

/-- What is asked of a file: any empty value counts as an empty file, and of a layout only the
indentation is looked at. -/
def Accepted (document : Value) : Prop :=
  document.isTruthy = false ∨
    ∃ mapping, document.entries? = some mapping ∧ Fits Reachable IndentLayout mapping

section

variable {tree : FileTree} {current base : Location} {path : Path} {required : Bool}
  {document value : Value} {mapping : Mapping} {key : String} {settings after : Settings}
  {setting : Setting} {overrides : Overrides} {place : String → Prop} {layout other : Mapping → Prop}

theorem Fits.weaken (fits : Fits place layout mapping)
    (less : ∀ entries, layout entries → other entries) : Fits place other mapping where
  known := fits.known
  paths := fits.paths
  minPageUsage := fits.minPageUsage
  scriptSrcStart := fits.scriptSrcStart
  beautify value given := by
    rcases fits.beautify value given with switch | ⟨entries, opened, holds⟩
    · exact .inl switch
    · exact .inr ⟨entries, opened, less entries holds⟩

theorem fits_nil : Fits place layout [] := by
  constructor
  case known => exact fun entry none => absurd none List.not_mem_nil
  all_goals intros; contradiction

theorem Described.accepted (described : Described Reachable document) : Accepted document := by
  rcases described with rfl | ⟨mapping, opened, fits⟩
  · exact .inl rfl
  · exact .inr ⟨mapping, opened, fits.weaken fun _ full => full.indent⟩

/-! ### The single checks -/

theorem isKnownKey_iff {key : Value} :
    isKnownKey key = true ↔ ∃ name, (name ∈ pathKeys ∨ name ∈ valueKeys) ∧ key = .string name := by
  cases key <;> simp [isKnownKey]

theorem unknownKeys_eq_nil_iff : unknownKeys mapping = [] ↔
    ∀ entry ∈ mapping, ∃ name, (name ∈ pathKeys ∨ name ∈ valueKeys) ∧ entry.1 = .string name := by
  simp [unknownKeys, ← isKnownKey_iff]

theorem checkKeys_succeeds_iff : Succeeds (checkKeys mapping) ↔ unknownKeys mapping = [] := by
  unfold checkKeys
  dsimp only
  split
  case isTrue none => exact iff_of_true (succeeds_ok ()) (List.isEmpty_iff.mp none)
  case isFalse some =>
    have remaining : unknownKeys mapping ≠ [] := fun none => some (List.isEmpty_iff.mpr none)
    split
    · exact iff_of_false (not_succeeds_error _) remaining
    · exact iff_of_false (not_succeeds_error _) remaining

theorem pathOf_succeeds_iff : Succeeds (pathOf base key (.value value)) ↔
    ∃ text, value = .string text ∧ isBlank text = false ∧ Reachable text := by
  cases value
  case string text =>
    unfold pathOf Setting.path?
    cases blank : isBlank text
    case true => simp [blank]
    case false =>
      cases absolute : (Path.ofString (trim text)).isAbsolute <;>
        cases null : (Path.ofString (trim text)).holdsNull <;>
          simp [Reachable, blank, absolute, null]
  all_goals simp [pathOf, Setting.path?]

theorem indentOf_succeeds_iff : Succeeds (indentOf value) ↔ IsIndent value := by
  cases value <;> simp [indentOf, IsIndent]

theorem indentLayout_iff {entries : Mapping} :
    IsIndent ((entries.get? (.string "indent")).getD .null) ↔ IndentLayout entries := by
  unfold IndentLayout
  cases entries.get? (.string "indent")
  case none => simp [IsIndent]
  case some indent => simp

theorem beautifyOf_succeeds_iff : Succeeds (beautifyOf (.value value)) ↔
    (∃ enabled, value = .bool enabled) ∨
      ∃ entries, value.entries? = some entries ∧ IndentLayout entries := by
  unfold beautifyOf
  split
  case h_1 impossible => cases impossible
  case h_2 enabled same =>
    obtain rfl := Setting.value.inj same
    exact iff_of_true (succeeds_ok _) (.inl ⟨enabled, rfl⟩)
  case h_3 value noSwitch same =>
    obtain rfl := Setting.value.inj same
    rw [or_iff_right fun ⟨enabled, isSwitch⟩ => noSwitch enabled isSwitch]
    cases value.entries?
    case none => simp
    case some entries =>
      simp only [succeeds_bind_pure, Option.some.injEq, exists_eq_left']
      exact indentOf_succeeds_iff.trans indentLayout_iff
  case h_4 impossible => cases impossible

/-! ### The whole file -/

theorem readPaths_succeeds_iff {keys : List String} :
    Succeeds (Settings.readPaths base mapping settings keys) ↔
      ∀ key ∈ keys, ∀ value, mapping.get? (.string key) = some value →
        ∃ text, value = .string text ∧ isBlank text = false ∧ Reachable text := by
  induction keys generalizing settings with
  | nil => simp [Settings.readPaths]
  | cons key rest hypothesis =>
      rw [Settings.readPaths, List.forall_mem_cons]
      cases mapping.get? (.string key) with
      | none => simpa using hypothesis
      | some value =>
          simp only [Option.some.injEq, forall_eq']
          exact (succeeds_bind_of_iff fun path => hypothesis).trans
            (and_congr_left fun _ => pathOf_succeeds_iff)

/-- Reading paths leaves the other values as they are. -/
theorem readPaths_values {keys : List String}
    (read : Settings.readPaths base mapping settings keys = .ok after) :
    after.minPageUsage = settings.minPageUsage ∧ after.scriptSrcStart = settings.scriptSrcStart ∧
      after.beautify = settings.beautify := by
  induction keys generalizing settings with
  | nil =>
      cases read
      exact ⟨rfl, rfl, rfl⟩
  | cons key rest hypothesis =>
      rw [Settings.readPaths] at read
      split at read
      case h_1 => exact hypothesis read
      case h_2 value _ =>
        obtain ⟨path, -, onwards⟩ := bind_eq_ok_iff.mp read
        have unchanged := hypothesis onwards
        unfold Settings.setPath at unchanged
        split at unchanged <;> exact unchanged

theorem readValues_eq : settings.readValues mapping = { settings with
    minPageUsage :=
      ((mapping.get? (.string "min_page_usage")).map Setting.value).or settings.minPageUsage
    scriptSrcStart :=
      ((mapping.get? (.string "script_src_prefix")).map Setting.value).or settings.scriptSrcStart
    beautify :=
      ((mapping.get? (.string "beautify")).map Setting.value).or settings.beautify } := by
  simp only [Settings.readValues, valueKeys, List.foldl]
  cases mapping.get? (.string "min_page_usage") <;>
    cases mapping.get? (.string "script_src_prefix") <;>
      cases mapping.get? (.string "beautify") <;> rfl

theorem givenOr_succeeds_iff {α : Type} {standard : α} {check : Setting → Except ConfigError α}
    {given : Option Setting} :
    Succeeds (givenOr standard check given) ↔
      ∀ setting, given = some setting → Succeeds (check setting) := by
  cases given <;> simp [givenOr]

theorem intOf_eq_ok_iff {count : Int} :
    intOf key setting = .ok count ↔ setting = .value (.int count) := by
  unfold intOf
  split <;> simp_all

theorem stringOf_succeeds_iff :
    Succeeds (stringOf key setting) ↔ ∃ text, setting = .value (.string text) := by
  unfold stringOf
  split <;> simp_all

theorem BuildConfig.check_succeeds_iff {config : BuildConfig} :
    Succeeds config.check ↔ 1 ≤ config.minPageUsage := by
  unfold BuildConfig.check
  split
  case isTrue small => exact iff_of_false (not_succeeds_error _) (Int.not_le.mpr small)
  case isFalse large => exact iff_of_true (succeeds_ok config) (Int.not_lt.mp large)

theorem finish_succeeds_iff : Succeeds (settings.finish base) ↔
    (∀ setting, settings.minPageUsage = some setting →
      ∃ count, setting = .value (.int count) ∧ 1 ≤ count) ∧
    (∀ setting, settings.scriptSrcStart = some setting → ∃ text, setting = .value (.string text)) ∧
    ∀ setting, settings.beautify = some setting → Succeeds (beautifyOf setting) := by
  unfold Settings.finish
  dsimp only
  rw [succeeds_bind]
  refine Iff.trans (exists_congr fun count => and_congr_right fun _ =>
    succeeds_bind_of_iff fun srcStart => @succeeds_bind_of_iff _ _ _ _ _ (1 ≤ count)
      fun beautify => BuildConfig.check_succeeds_iff) ?_
  simp only [givenOr_succeeds_iff, stringOf_succeeds_iff]
  cases settings.minPageUsage with
  | none => simp [givenOr, BuildConfig.standardMinPageUsage]
  | some setting =>
      simp only [givenOr, intOf_eq_ok_iff, Option.some.injEq, forall_eq']
      constructor
      · rintro ⟨count, given, text, layout, enough⟩
        exact ⟨⟨count, given, enough⟩, text, layout⟩
      · rintro ⟨⟨count, given, enough⟩, text, layout⟩
        exact ⟨count, given, text, layout, enough⟩

theorem configureMapping_succeeds_iff :
    Succeeds (configureMapping mapping base current []) ↔ Fits Reachable IndentLayout mapping := by
  have checked : ∀ settings,
      Settings.readPaths base mapping {} pathKeys = .ok settings →
      (Succeeds ((settings.readValues mapping).finish base) ↔
        (∀ value, mapping.get? (.string "min_page_usage") = some value →
          ∃ count, value = .int count ∧ 1 ≤ count) ∧
        (∀ value, mapping.get? (.string "script_src_prefix") = some value →
          ∃ text, value = .string text) ∧
        ∀ value, mapping.get? (.string "beautify") = some value →
          (∃ enabled, value = .bool enabled) ∨
            ∃ entries, value.entries? = some entries ∧ IndentLayout entries) := by
    intro settings read
    obtain ⟨noCount, noText, noLayout⟩ := readPaths_values read
    rw [finish_succeeds_iff, readValues_eq, noCount, noText, noLayout]
    simp [beautifyOf_succeeds_iff]
  unfold configureMapping
  constructor
  · intro success
    obtain ⟨_, keys, onwards⟩ := succeeds_bind.mp success
    obtain ⟨settings, read, finished⟩ := succeeds_bind.mp onwards
    obtain ⟨count, text, layout⟩ := (checked settings read).mp finished
    exact {
      known := unknownKeys_eq_nil_iff.mp (checkKeys_succeeds_iff.mp ⟨_, keys⟩)
      paths := readPaths_succeeds_iff.mp ⟨settings, read⟩
      minPageUsage := count
      scriptSrcStart := text
      beautify := layout }
  · intro fits
    have keys := checkKeys_succeeds_iff.mpr (unknownKeys_eq_nil_iff.mpr fits.known)
    obtain ⟨settings, read⟩ := readPaths_succeeds_iff.mpr fits.paths
    have finished :=
      (checked settings read).mpr ⟨fits.minPageUsage, fits.scriptSrcStart, fits.beautify⟩
    exact succeeds_bind.mpr ⟨(), keys.choose_spec, succeeds_bind.mpr ⟨settings, read, finished⟩⟩

theorem configure_succeeds_iff :
    Succeeds (configure document base current []) ↔ Accepted document := by
  unfold configure
  rw [succeeds_bind]
  simp only [configureMapping_succeeds_iff]
  unfold topMapping Accepted
  cases document.isTruthy
  case false => simp [fits_nil]
  case true => cases document.entries? <;> simp

theorem loadConfig_of_read
    (present : tree.pathExists ((Path.ofLocation current).join path) = true)
    (read : readDocument tree ((Path.ofLocation current).join path) = .ok document) :
    loadConfig tree current (some path) overrides required =
      configure document (Path.resolveParts current path).dropLast current overrides := by
  unfold loadConfig
  dsimp only
  rw [if_pos present, read]
  rfl

/-- An existing file gives a configuration exactly if it holds an empty value or a mapping that
fits: known keys only, texts for the directories that name places, a positive number of pages, a
text for the start of script addresses, and a layout that is a switch or a mapping with a proper
indentation.  So every file that is as described is accepted if its paths can be looked for. -/
theorem loadConfig_succeeds_iff
    (present : tree.pathExists ((Path.ofLocation current).join path) = true)
    (read : readDocument tree ((Path.ofLocation current).join path) = .ok document) :
    (Succeeds (loadConfig tree current (some path) [] required) ↔ Accepted document) ∧
      (Described Reachable document →
        Succeeds (loadConfig tree current (some path) [] required)) := by
  rw [loadConfig_of_read present read]
  exact ⟨configure_succeeds_iff, fun described => configure_succeeds_iff.mpr described.accepted⟩

end

/-! ### Two files -/

/-- A file system with one file, in its root. -/
def fileTreeOf (text : String) : FileTree :=
  ⟨[(["compose.yaml"], .file text.toUTF8 0)]⟩

/-- The path of this file. -/
def composePath : Path :=
  ⟨.root, ["compose.yaml"]⟩

def describedText : String :=
  "input_dir: pages\nbeautify:\n  enabled: false\n  indent: 4\n"

def describedMapping : Mapping :=
  [(.string "input_dir", .string "pages"),
    (.string "beautify", .map [(.string "enabled", .bool false), (.string "indent", .int 4)])]

theorem fullLayout_sample :
    FullLayout [(.string "enabled", .bool false), (.string "indent", .int 4)] where
  known := by simp
  enabled value given := ⟨false, Option.some.inj given.symm⟩
  indent value given := .inr (.inl ⟨4, Option.some.inj given.symm⟩)

theorem described_sample : Described Reachable (.map describedMapping) := by
  refine .inr ⟨describedMapping, rfl, ?_⟩
  constructor
  case known => simp [describedMapping, pathKeys, valueKeys]
  case paths =>
    intro key isPath value given
    simp only [pathKeys, List.mem_cons, List.not_mem_nil, or_false] at isPath
    rcases isPath with rfl | rfl | rfl
    · exact ⟨"pages", Option.some.inj given.symm, by decide, .inr (by decide +kernel)⟩
    · cases given
    · cases given
  case minPageUsage =>
    intro value given
    cases given
  case scriptSrcStart =>
    intro value given
    cases given
  case beautify =>
    intro value given
    exact .inr ⟨_, congrArg Value.entries? (Option.some.inj given.symm), fullLayout_sample⟩

theorem loadConfig_of_sample :
    (fileTreeOf describedText).pathExists ((Path.ofLocation []).join composePath) = true ∧
      readDocument (fileTreeOf describedText) ((Path.ofLocation []).join composePath) =
        .ok (.map describedMapping) ∧
      Succeeds (loadConfig (fileTreeOf describedText) [] (some composePath) [] true) := by
  have present : (fileTreeOf describedText).pathExists
      ((Path.ofLocation []).join composePath) = true := by decide +kernel
  have read : readDocument (fileTreeOf describedText) ((Path.ofLocation []).join composePath) =
      .ok (.map describedMapping) := by decide +kernel
  exact ⟨present, read,
    (@loadConfig_succeeds_iff _ [] composePath true _ present read).2 described_sample⟩

/-- The switch of this layout is a text. -/
def textSwitch : Mapping :=
  [(.string "beautify", .map [(.string "enabled", .string "no")])]

theorem textSwitch_loaded :
    (loadConfig (fileTreeOf "beautify:\n  enabled: 'no'\n") [] (some composePath) [] true) =
      .ok {
        inputDir := ⟨.root, []⟩
        outputDir := ⟨.root, ["out"]⟩
        rootDir := none
        minPageUsage := 2
        scriptSrcStart := "/scripts/"
        beautify := { enabled := true, indent := none } } := by
  decide +kernel

/-- A layout with a text in place of its switch is not as described, and yet accepted: any text
but the empty one switches the layout on. -/
theorem textSwitch_accepted :
    (fileTreeOf "beautify:\n  enabled: 'no'\n").pathExists
        ((Path.ofLocation []).join composePath) = true ∧
      readDocument (fileTreeOf "beautify:\n  enabled: 'no'\n")
        ((Path.ofLocation []).join composePath) = .ok (.map textSwitch) ∧
      ¬ (Succeeds (loadConfig (fileTreeOf "beautify:\n  enabled: 'no'\n") [] (some composePath)
        [] true) ↔ Described (fun _ => True) (.map textSwitch)) := by
  refine ⟨by decide +kernel, by decide +kernel, fun same => ?_⟩
  rcases same.mp ⟨_, textSwitch_loaded⟩ with impossible | ⟨mapping, opened, fits⟩
  · cases impossible
  · cases opened
    rcases fits.beautify _ rfl with ⟨enabled, impossible⟩ | ⟨entries, opened, full⟩
    · cases impossible
    · cases opened
      obtain ⟨enabled, impossible⟩ := full.enabled _ rfl
      cases impossible

end StaticSite
