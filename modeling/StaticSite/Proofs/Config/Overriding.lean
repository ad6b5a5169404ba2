/-
Module: StaticSite.Proofs.Config.Overriding
Purpose: Settings given in place of those of a file have the effect of an edited file.
Trusted boundary: none
Main exports:
  Entries, Entries.configure, ReadFrom, Setting.written, edited, StandsFor, StandsFor.override,
  StandsFor.overrideAll, CompletedFrom, loadConfig_edited
-/
import StaticSite.Proofs.Config.Acceptance

namespace StaticSite

open Text Yaml

/-! ### Files with paths and layouts in them -/

/-- The entries of a configuration.  Besides values a path or a layout may stand for a key, which
no text of a file can express. -/
abbrev Entries := List (Value × Setting)

namespace Entries

/-- The entries of a file. -/
def ofFile (file : Mapping) : Entries :=
  file.map fun entry => (entry.1, .value entry.2)

/-- The setting for a key. -/
def get? (entries : Entries) (key : String) : Option Setting :=
  (entries.find? fun entry => entry.1.sameKey (.string key)).map (·.2)

/-- Set a key.  A key already present keeps its place and takes the new setting; a new key goes
to the end. -/
def set : Entries → String → Setting → Entries
  | [], key, setting => [(.string key, setting)]
  | (old, oldSetting) :: rest, key, setting =>
      if old.sameKey (.string key) then (old, setting) :: rest
      else (old, oldSetting) :: set rest key setting

/-- The keys with nothing in place of their settings. -/
def keys (entries : Entries) : Mapping :=
  entries.map fun entry => (entry.1, .null)

/-- The path for a key, seen from the directory `base`, if one is set. -/
def path? (entries : Entries) (base : Location) (key : String) :
    Except ConfigError (Option Path) :=
  match entries.get? key with
  | none => .ok none
  | some setting => do return some (← pathOf base key setting)

/-- The settings of a file in the directory `base`, with its paths checked. -/
def settings (entries : Entries) (base : Location) : Except ConfigError Settings := do
  let inputDir ← entries.path? base "input_dir"
  let outputDir ← entries.path? base "output_dir"
  let rootDir ← entries.path? base "root_dir"
  return {
    inputDir := inputDir
    outputDir := outputDir
    rootDir := rootDir
    minPageUsage := entries.get? "min_page_usage"
    scriptSrcStart := entries.get? "script_src_prefix"
    beautify := entries.get? "beautify" }

/-- The configuration that entries describe when they stand in a file in the directory `base` and
nothing is given in their place. -/
def configure (entries : Entries) (base : Location) : Except ConfigError BuildConfig := do
  checkKeys entries.keys
  let settings ← entries.settings base
  settings.finish base

end Entries

/-- The mapping that loading starts from and the directory its paths are seen from: those of an
existing file, or an empty mapping and the current directory. -/
inductive ReadFrom (tree : FileTree) (current : Location) :
    Option Path → (required : Bool) → Mapping → (base : Location) → Prop where
  | noPath {required : Bool} : ReadFrom tree current none required [] current
  | missing {path : Path}
      (absent : tree.pathExists ((Path.ofLocation current).join path) = false) :
      ReadFrom tree current (some path) false [] current
  | file {path : Path} {required : Bool} {document : Value} {mapping : Mapping}
      (present : tree.pathExists ((Path.ofLocation current).join path) = true)
      (read : readDocument tree ((Path.ofLocation current).join path) = .ok document)
      (opened : topMapping document = .ok mapping) :
      ReadFrom tree current (some path) required mapping (Path.resolveParts current path).dropLast

/-! ### The edited file -/

/-- The setting leaves the one of the file in its place. -/
def Setting.isNull : Setting → Bool
  | .value .null => true
  | _ => false

/-- The indentation that a file sets for the layout, or null. -/
def fileIndent (file : Mapping) : Value :=
  match (file.get? (.string "beautify")).bind Value.entries? with
  | some layout => (layout.get? (.string "indent")).getD .null
  | none => .null

/-- What a setting given in place of the one of a file amounts to in the file: a path is absolute,
seen from the directory `current`, and a switch for the layout is a layout with the indentation of
the file. -/
def Setting.written (setting : Setting) (current : Location) (file : Mapping) (key : String) :
    Setting :=
  if key ∈ pathKeys then
    match setting.path? with
    | some given => .path (if given.isAbsolute then given else given.resolve current)
    | none => setting
  else
    match key, setting with
    | "beautify", .value (.bool enabled) =>
        .value (.map [(.string "enabled", .bool enabled), (.string "indent", fileIndent file)])
    | _, _ => setting

/-- Put a setting into the entries, unless it is null. -/
def edit (current : Location) (file : Mapping) (entries : Entries) (given : String × Setting) :
    Entries :=
  if given.2.isNull then entries
  else entries.set given.1 (given.2.written current file given.1)

/-- The entries of a file with other settings put in place of its own. -/
def edited (current : Location) (file : Mapping) (overrides : Overrides) : Entries :=
  overrides.foldl (edit current file) (Entries.ofFile file)

/-- The directories of a configuration are absolute, and those that the entries do not set follow
from the others. -/
structure CompletedFrom (entries : Entries) (base : Location) (config : BuildConfig) : Prop where
  inputDir : entries.get? "input_dir" = none → config.inputDir = Path.ofLocation base
  outputDir : entries.get? "output_dir" = none →
    config.outputDir = config.inputDir.append [BuildConfig.standardOutput]
  contentRoot : entries.get? "root_dir" = none → config.contentRoot = config.inputDir
  inputAbsolute : config.inputDir.isAbsolute = true
  outputAbsolute : config.outputDir.isAbsolute = true
  rootAbsolute : ∀ root, config.rootDir = some root → root.isAbsolute = true
  contentAbsolute : config.contentRoot.isAbsolute = true

namespace Settings

/-- The path that is set for a key. -/
def path? (settings : Settings) : String → Option Path
  | "input_dir" => settings.inputDir
  | "output_dir" => settings.outputDir
  | "root_dir" => settings.rootDir
  | _ => none

/-- The setting for one of the other keys. -/
def value? (settings : Settings) : String → Option Setting
  | "min_page_usage" => settings.minPageUsage
  | "script_src_prefix" => settings.scriptSrcStart
  | "beautify" => settings.beautify
  | _ => none

end Settings

/-- The settings are those of the entries, but for the layout, of which only what it comes to
has to be the same. -/
structure StandsFor (base : Location) (settings : Settings) (entries : Entries) : Prop where
  paths : ∀ key ∈ pathKeys, entries.path? base key = .ok (settings.path? key)
  values : ∀ key ∈ valueKeys, key ≠ "beautify" → settings.value? key = entries.get? key
  layout : givenOr {} beautifyOf (settings.value? "beautify") =
    givenOr {} beautifyOf (entries.get? "beautify")

/-- What putting a setting in place of the one of a file can come to. -/
inductive Overridden (current : Location) (settings : Settings) (key : String) :
    Setting → Settings → Prop where
  | kept : Overridden current settings key (.value .null) settings
  | path {setting : Setting} {path : Path} (notNull : setting.isNull = false)
      (isPath : key ∈ pathKeys) (found : pathOf current key setting = .ok path) :
      Overridden current settings key setting (settings.setPath key path)
  | switch {enabled : Bool} {configured : BeautifyConfig} (isLayout : key = "beautify")
      (found : givenOr {} beautifyOf settings.beautify = .ok configured) :
      Overridden current settings key (.value (.bool enabled))
        (settings.setValue key (.layout ⟨enabled, configured.indent⟩))
  | value {setting : Setting} (notNull : setting.isNull = false) (notPath : key ∉ pathKeys)
      (noSwitch : ∀ enabled, key = "beautify" → setting ≠ .value (.bool enabled)) :
      Overridden current settings key setting (settings.setValue key setting)

section

variable {tree : FileTree} {current base : Location} {path : Path} {choice : Option Path}
  {required : Bool} {file : Mapping} {entries : Entries} {key : String} {setting : Setting}
  {settings after : Settings} {overrides : Overrides} {config : BuildConfig}

/-! ### Entries -/

theorem sameKey_string (key other : String) :
    (Value.string key).sameKey (.string other) = decide (key = other) := by
  rw [Value.sameKey]
  exact beq_eq_decide key other

/-- A key that is one and the same as a text is this text. -/
theorem eq_of_sameKey_string {value : Value} (same : value.sameKey (.string key) = true) :
    value = .string key := by
  cases value <;> simp_all [Value.sameKey, Value.asInt?]

theorem Entries.get?_ofFile (file : Mapping) (key : String) :
    (Entries.ofFile file).get? key = (file.get? (.string key)).map Setting.value := by
  rw [ofFile, get?, List.find?_map, Mapping.get?, Option.map_map, Option.map_map]
  rfl

/-- Setting a key changes nothing else. -/
theorem Entries.get?_set (entries : Entries) (key other : String) (setting : Setting) :
    (entries.set key setting).get? other =
      if other = key then some setting else entries.get? other := by
  induction entries with
  | nil =>
      by_cases same : other = key
      · simp [set, get?, sameKey_string, same]
      · simp [set, get?, sameKey_string, same, Ne.symm same]
  | cons entry rest inductionHypothesis =>
      obtain ⟨old, oldSetting⟩ := entry
      simp only [get?] at inductionHypothesis
      rw [set]
      split
      case isTrue here =>
        obtain rfl := eq_of_sameKey_string here
        by_cases same : other = key
        · simp [get?, sameKey_string, same]
        · simp [get?, sameKey_string, same, Ne.symm same]
      case isFalse apart =>
        cases asked : old.sameKey (.string other) with
        | true =>
            obtain rfl := eq_of_sameKey_string asked
            have different : other ≠ key := by
              rintro rfl
              exact apart asked
            simp [get?, asked, different]
        | false => simpa [get?, asked] using inductionHypothesis

theorem Entries.path?_set_of_ne {other : String} (different : other ≠ key) :
    (entries.set key setting).path? base other = entries.path? base other := by
  rw [path?, path?, get?_set, if_neg different]

theorem Entries.known_set (known : ∀ entry ∈ entries, isKnownKey entry.1 = true)
    (isKey : isKnownKey (.string key) = true) :
    ∀ entry ∈ entries.set key setting, isKnownKey entry.1 = true := by
  induction entries with
  | nil =>
      intro entry member
      obtain rfl := List.mem_singleton.mp member
      exact isKey
  | cons first rest inductionHypothesis =>
      obtain ⟨here, later⟩ := List.forall_mem_cons.mp known
      rw [set]
      split
      case isTrue => exact List.forall_mem_cons.mpr ⟨here, later⟩
      case isFalse => exact List.forall_mem_cons.mpr ⟨here, inductionHypothesis later⟩

/-! ### The file itself -/

/-- Checking keys looks at nothing but keys. -/
theorem checkKeys_keys_ofFile (file : Mapping) :
    checkKeys (Entries.ofFile file).keys = checkKeys file := by
  have same : unknownKeys (Entries.ofFile file).keys = unknownKeys file := by
    simp [unknownKeys, Entries.keys, Entries.ofFile, Function.comp_def]
  unfold checkKeys
  rw [same]

/-- Each path of a file is taken over if it is set. -/
theorem readPaths_cons {rest : List String} :
    Settings.readPaths base file settings (key :: rest) =
      (Entries.ofFile file).path? base key >>= fun found =>
        Settings.readPaths base file (found.elim settings (settings.setPath key)) rest := by
  rw [Settings.readPaths, Entries.path?, Entries.get?_ofFile]
  cases file.get? (.string key) with
  | none => rfl
  | some value =>
      cases given : pathOf base key (.value value) with
      | error cause => simp [given, bind, Except.bind]
      | ok path => simp [given, bind, Except.bind, pure, Except.pure]

theorem Entries.settings_ofFile (file : Mapping) (base : Location) :
    (Settings.readPaths base file {} pathKeys >>= fun settings =>
      pure (settings.readValues file)) = (Entries.ofFile file).settings base := by
  rw [settings, pathKeys, readPaths_cons, bind_assoc]
  refine bind_congr fun inputDir => ?_
  rw [readPaths_cons, bind_assoc]
  refine bind_congr fun outputDir => ?_
  rw [readPaths_cons, bind_assoc]
  refine bind_congr fun rootDir => ?_
  rw [Settings.readPaths, get?_ofFile, get?_ofFile, get?_ofFile]
  change Except.ok _ = Except.ok _
  rw [readValues_eq]
  cases inputDir <;> cases outputDir <;> cases rootDir <;>
    simp [Settings.setPath, Option.or_none]

/-- Without settings in place of its own a file is loaded as its entries are. -/
theorem configureMapping_eq (file : Mapping) (base current : Location) :
    configureMapping file base current [] = (Entries.ofFile file).configure base := by
  unfold configureMapping Entries.configure
  rw [checkKeys_keys_ofFile, ← Entries.settings_ofFile]
  simp [Settings.overrideAll]

/-! ### Paths -/

theorem isAbsolute_ofLocation (location : Location) :
    (Path.ofLocation location).isAbsolute = true :=
  rfl

/-- A path that is taken over is absolute, and stands in the edited file as it is. -/
theorem written_of_pathOf (isPath : key ∈ pathKeys)
    (found : pathOf current key setting = .ok path) :
    setting.written current file key = .path path ∧ path.isAbsolute = true := by
  unfold pathOf at found
  unfold Setting.written
  rw [if_pos isPath]
  split at found
  case h_1 => cases found
  case h_2 given isGiven =>
    rw [isGiven]
    split at found
    case isTrue absolute =>
      obtain rfl := Except.ok.inj found
      exact ⟨by simp [absolute], absolute⟩
    case isFalse relative =>
      split at found
      case isTrue => cases found
      case isFalse =>
        obtain rfl := Except.ok.inj found
        exact ⟨by simp [relative], rfl⟩

theorem pathOf_of_absolute (absolute : path.isAbsolute = true) :
    pathOf base key (.path path) = .ok path := by
  simp [pathOf, Setting.path?, absolute]

theorem Entries.isAbsolute_of_path? (isPath : key ∈ pathKeys)
    (found : entries.path? base key = .ok (some path)) : path.isAbsolute = true := by
  unfold path? at found
  split at found
  case h_1 => cases found
  case h_2 given _ =>
    obtain ⟨read, isRead, same⟩ := bind_eq_ok_iff.mp found
    cases same
    exact (@written_of_pathOf base _ [] key given isPath isRead).2

theorem Entries.path?_set_self (absolute : path.isAbsolute = true) :
    (entries.set key (.path path)).path? base key = .ok (some path) := by
  rw [path?, get?_set, if_pos rfl]
  simp only [pathOf_of_absolute absolute]
  rfl

/-! ### One setting in place of another -/

/-- No key of a path is one of another setting. -/
theorem ne_of_kinds {other : String} (isPath : key ∈ pathKeys) (isValue : other ∈ valueKeys) :
    other ≠ key := by
  simp only [pathKeys, valueKeys, List.mem_cons, List.not_mem_nil, or_false] at isPath isValue
  rcases isPath with rfl | rfl | rfl <;> rcases isValue with rfl | rfl | rfl <;> decide

namespace Settings

variable {other : String}

theorem path?_setPath (isPath : key ∈ pathKeys) (isOther : other ∈ pathKeys) :
    (settings.setPath key path).path? other =
      if other = key then some path else settings.path? other := by
  simp only [pathKeys, List.mem_cons, List.not_mem_nil, or_false] at isPath isOther
  rcases isPath with rfl | rfl | rfl <;> rcases isOther with rfl | rfl | rfl <;> rfl

theorem value?_setPath (isPath : key ∈ pathKeys) :
    (settings.setPath key path).value? = settings.value? := by
  simp only [pathKeys, List.mem_cons, List.not_mem_nil, or_false] at isPath
  rcases isPath with rfl | rfl | rfl <;> rfl

theorem path?_setValue (isValue : key ∈ valueKeys) :
    (settings.setValue key setting).path? = settings.path? := by
  simp only [valueKeys, List.mem_cons, List.not_mem_nil, or_false] at isValue
  rcases isValue with rfl | rfl | rfl <;> rfl

theorem value?_setValue (isValue : key ∈ valueKeys) (isOther : other ∈ valueKeys) :
    (settings.setValue key setting).value? other =
      if other = key then some setting else settings.value? other := by
  simp only [valueKeys, List.mem_cons, List.not_mem_nil, or_false] at isValue isOther
  rcases isValue with rfl | rfl | rfl <;> rcases isOther with rfl | rfl | rfl <;> rfl

end Settings

theorem standsFor_of_settings (read : entries.settings base = .ok settings) :
    StandsFor base settings entries := by
  obtain ⟨inputDir, isInput, onwards⟩ := bind_eq_ok_iff.mp read
  obtain ⟨outputDir, isOutput, onwards⟩ := bind_eq_ok_iff.mp onwards
  obtain ⟨rootDir, isRoot, onwards⟩ := bind_eq_ok_iff.mp onwards
  obtain rfl := Except.ok.inj onwards
  refine ⟨?_, ?_, rfl⟩
  · simp only [pathKeys, List.forall_mem_cons]
    exact ⟨isInput, isOutput, isRoot, List.forall_mem_nil _⟩
  · intro key isValue notLayout
    simp only [valueKeys, List.mem_cons, List.not_mem_nil, or_false] at isValue
    rcases isValue with rfl | rfl | rfl
    · rfl
    · rfl
    · exact absurd rfl notLayout

/-- What settings stand for is read and completed to the same configuration. -/
theorem StandsFor.finish_eq (stands : StandsFor base settings entries) :
    (entries.settings base >>= fun read => read.finish base) = settings.finish base := by
  have input := stands.paths "input_dir" (by decide)
  have output := stands.paths "output_dir" (by decide)
  have root := stands.paths "root_dir" (by decide)
  have count := stands.values "min_page_usage" (by decide) (by decide)
  have start := stands.values "script_src_prefix" (by decide) (by decide)
  have layout := stands.layout
  simp only [Settings.path?, Settings.value?] at input output root count start layout
  rw [Entries.settings, input, output, root]
  unfold Settings.finish
  rw [count, start, layout]
  rfl

/-- Setting a path does the same to the settings and to what they stand for. -/
theorem StandsFor.setPath (stands : StandsFor base settings entries) (isPath : key ∈ pathKeys)
    (absolute : path.isAbsolute = true) :
    StandsFor base (settings.setPath key path) (entries.set key (.path path)) := by
  have apart : ∀ other ∈ valueKeys,
      (entries.set key (.path path)).get? other = entries.get? other := by
    intro other isValue
    rw [Entries.get?_set, if_neg (ne_of_kinds isPath isValue)]
  constructor
  · intro other isOther
    rw [Settings.path?_setPath isPath isOther]
    split
    case isTrue same =>
      rw [same]
      exact Entries.path?_set_self absolute
    case isFalse different =>
      rw [Entries.path?_set_of_ne different]
      exact stands.paths other isOther
  · intro other isValue notLayout
    rw [Settings.value?_setPath isPath, apart other isValue]
    exact stands.values other isValue notLayout
  · rw [Settings.value?_setPath isPath, apart "beautify" (by decide)]
    exact stands.layout

/-- Setting another value does the same if it comes to the same. -/
theorem StandsFor.setValue (stands : StandsFor base settings entries) (isValue : key ∈ valueKeys)
    {written : Setting} (plain : key ≠ "beautify" → setting = written)
    (laidOut : key = "beautify" → beautifyOf setting = beautifyOf written) :
    StandsFor base (settings.setValue key setting) (entries.set key written) := by
  constructor
  · intro other isOther
    rw [Settings.path?_setValue isValue,
      Entries.path?_set_of_ne (ne_of_kinds isOther isValue).symm]
    exact stands.paths other isOther
  · intro other isOther notLayout
    rw [Settings.value?_setValue isValue isOther, Entries.get?_set]
    split
    case isTrue here => rw [plain (here ▸ notLayout)]
    case isFalse => exact stands.values other isOther notLayout
  · rw [Settings.value?_setValue isValue (by decide), Entries.get?_set]
    split
    case isTrue here => exact laidOut here.symm
    case isFalse => exact stands.layout

theorem Setting.isNull_iff : setting.isNull = true ↔ setting = .value .null := by
  constructor
  · intro null
    unfold isNull at null
    split at null
    case h_1 => rfl
    case h_2 => cases null
  · rintro rfl
    rfl

theorem overridden_of_ok (done : settings.override current key setting = .ok after) :
    Overridden current settings key setting after := by
  unfold Settings.override at done
  split at done
  case h_1 =>
    obtain rfl := Except.ok.inj done
    exact .kept
  case h_2 notNull =>
    have notNull : setting.isNull = false :=
      Bool.eq_false_iff.mpr fun null => notNull (Setting.isNull_iff.mp null)
    split at done
    case isTrue isPath =>
      obtain ⟨path, found, same⟩ := bind_eq_ok_iff.mp done
      obtain rfl := Except.ok.inj same
      exact .path notNull (List.contains_iff_mem.mp isPath) found
    case isFalse notPath =>
      have notPath : key ∉ pathKeys := fun member => notPath (List.contains_iff_mem.mpr member)
      split at done
      case h_1 enabled _ _ =>
        obtain ⟨configured, found, same⟩ := bind_eq_ok_iff.mp done
        obtain rfl := Except.ok.inj same
        refine .switch rfl ?_
        cases present : settings.beautify with
        | none =>
            rw [present] at found
            exact found
        | some layout =>
            rw [present] at found
            exact found
      case h_2 noSwitch =>
        obtain rfl := Except.ok.inj done
        exact .value notNull notPath fun enabled isLayout isSwitch =>
          noSwitch enabled isLayout isSwitch

/-- The indentation that a file sets is the one of its layout. -/
theorem indentOf_fileIndent {configured : BeautifyConfig}
    (found : givenOr {} beautifyOf ((file.get? (.string "beautify")).map Setting.value) =
      .ok configured) : indentOf (fileIndent file) = .ok configured.indent := by
  unfold fileIndent
  cases present : file.get? (.string "beautify") with
  | none =>
      rw [present] at found
      obtain rfl := Except.ok.inj found
      rfl
  | some layout =>
      rw [present] at found
      change beautifyOf (.value layout) = .ok configured at found
      unfold beautifyOf at found
      split at found
      case h_1 impossible => cases impossible
      case h_2 same =>
        obtain rfl := Setting.value.inj same
        obtain rfl := Except.ok.inj found
        rfl
      case h_3 value _ same =>
        obtain rfl := Setting.value.inj same
        split at found
        case h_1 entries opened =>
          obtain ⟨indent, isIndent, same⟩ := bind_eq_ok_iff.mp found
          obtain rfl := Except.ok.inj same
          simpa [opened] using isIndent
        case h_2 => cases found
      case h_4 impossible => cases impossible

/-- A layout that is written out is read as it was meant. -/
theorem beautifyOf_written {indent : Value} {read : Option Indent} {enabled : Bool}
    (isIndent : indentOf indent = .ok read) :
    beautifyOf (.value (.map [(.string "enabled", .bool enabled), (.string "indent", indent)])) =
      .ok ⟨enabled, read⟩ := by
  rcases indentOf_succeeds_iff.mp ⟨read, isIndent⟩ with rfl | ⟨count, rfl⟩ | ⟨text, rfl⟩
  all_goals
    obtain rfl := Except.ok.inj isIndent
    rfl

/-- One setting in place of another has the effect of editing the entries, as long as they agree
with the file in what the setting is for. -/
theorem StandsFor.override (stands : StandsFor base settings entries)
    (known : key ∈ pathKeys ∨ key ∈ valueKeys)
    (own : entries.get? key = (Entries.ofFile file).get? key)
    (done : settings.override current key setting = .ok after) :
    StandsFor base after (edit current file entries (key, setting)) := by
  unfold edit
  cases overridden_of_ok done with
  | kept => exact stands
  | path notNull isPath found =>
      obtain ⟨written, absolute⟩ := @written_of_pathOf _ _ file _ _ isPath found
      simp only [notNull, written, Bool.false_eq_true, if_false]
      exact stands.setPath isPath absolute
  | @switch enabled configured isLayout found =>
      subst isLayout
      rw [Entries.get?_ofFile] at own
      have layout := stands.layout
      simp only [Settings.value?] at layout
      rw [found, own] at layout
      have read := indentOf_fileIndent layout.symm
      refine stands.setValue (by decide) (fun notLayout => absurd rfl notLayout) fun _ => ?_
      exact (beautifyOf_written read).symm
  | value notNull notPath noSwitch =>
      have written : setting.written current file key = setting := by
        unfold Setting.written
        rw [if_neg notPath]
        split
        case h_1 enabled => exact absurd rfl (noSwitch enabled rfl)
        case h_2 => rfl
      simp only [notNull, written, Bool.false_eq_true, if_false]
      exact stands.setValue (known.resolve_left notPath) (fun _ => rfl) fun _ => rfl

/-! ### All settings in place of others -/

theorem get?_edit_of_ne {given : String × Setting} (different : key ≠ given.1) :
    (edit current file entries given).get? key = entries.get? key := by
  unfold edit
  split
  case isTrue => rfl
  case isFalse => rw [Entries.get?_set, if_neg different]

theorem known_edit {given : String × Setting}
    (known : ∀ entry ∈ entries, isKnownKey entry.1 = true)
    (isKey : isKnownKey (.string given.1) = true) :
    ∀ entry ∈ edit current file entries given, isKnownKey entry.1 = true := by
  unfold edit
  split
  case isTrue => exact known
  case isFalse => exact Entries.known_set known isKey

/-- Settings for different keys have the effect of editing the entries with one after the other.
The induction is on the settings; those still to come are for keys that have not been edited. -/
theorem StandsFor.overrideAll (stands : StandsFor base settings entries)
    (known : ∀ given ∈ overrides, given.1 ∈ pathKeys ∨ given.1 ∈ valueKeys)
    (once : (overrides.map (·.1)).Nodup)
    (own : ∀ given ∈ overrides, entries.get? given.1 = (Entries.ofFile file).get? given.1)
    (done : settings.overrideAll current overrides = .ok after) :
    StandsFor base after (overrides.foldl (edit current file) entries) := by
  induction overrides generalizing settings entries with
  | nil =>
      obtain rfl := Except.ok.inj done
      exact stands
  | cons given rest inductionHypothesis =>
      obtain ⟨isKnown, othersKnown⟩ := List.forall_mem_cons.mp known
      obtain ⟨isOwn, othersOwn⟩ := List.forall_mem_cons.mp own
      obtain ⟨different, othersOnce⟩ := List.nodup_cons.mp once
      rw [Settings.overrideAll, List.foldlM_cons] at done
      obtain ⟨middle, first, onwards⟩ := bind_eq_ok_iff.mp done
      refine inductionHypothesis (stands.override isKnown isOwn first) othersKnown othersOnce ?_
        onwards
      intro other member
      have apart : other.1 ≠ given.1 := by
        intro same
        exact different (List.mem_map.mpr ⟨other, member, same⟩)
      rw [get?_edit_of_ne apart]
      exact othersOwn other member

theorem known_edited (fromFile : ∀ entry ∈ file, isKnownKey entry.1 = true)
    (known : ∀ given ∈ overrides, given.1 ∈ pathKeys ∨ given.1 ∈ valueKeys) :
    ∀ entry ∈ edited current file overrides, isKnownKey entry.1 = true := by
  have start : ∀ entry ∈ Entries.ofFile file, isKnownKey entry.1 = true := by
    intro entry member
    obtain ⟨own, listed, rfl⟩ := List.mem_map.mp member
    exact fromFile own listed
  unfold edited
  generalize Entries.ofFile file = entries at start
  induction overrides generalizing entries with
  | nil => exact start
  | cons given rest inductionHypothesis =>
      obtain ⟨isKnown, othersKnown⟩ := List.forall_mem_cons.mp known
      exact inductionHypothesis othersKnown _
        (known_edit start (isKnownKey_iff.mpr ⟨given.1, isKnown, rfl⟩))

/-- Settings that are null make no difference. -/
theorem overrideAll_filter (current : Location) (settings : Settings) (overrides : Overrides) :
    settings.overrideAll current (overrides.filter fun given => !given.2.isNull) =
      settings.overrideAll current overrides := by
  unfold Settings.overrideAll
  induction overrides generalizing settings with
  | nil => rfl
  | cons given rest inductionHypothesis =>
      rw [List.filter_cons, List.foldlM_cons]
      split
      case isTrue =>
        rw [List.foldlM_cons]
        exact bind_congr fun after => inductionHypothesis after
      case isFalse null =>
        obtain ⟨key, setting⟩ := given
        obtain rfl : setting = .value .null := Setting.isNull_iff.mp (by simpa using null)
        exact inductionHypothesis settings

/-! ### Whole configurations -/

theorem finish_directories (done : settings.finish base = .ok config) :
    config.inputDir = settings.inputDir.getD (Path.ofLocation base) ∧
      config.outputDir =
        settings.outputDir.getD (config.inputDir.append [BuildConfig.standardOutput]) ∧
      config.rootDir = settings.rootDir := by
  obtain ⟨count, -, onwards⟩ := bind_eq_ok_iff.mp done
  obtain ⟨start, -, onwards⟩ := bind_eq_ok_iff.mp onwards
  obtain ⟨layout, -, checked⟩ := bind_eq_ok_iff.mp onwards
  unfold BuildConfig.check at checked
  split at checked
  case isTrue => cases checked
  case isFalse =>
    obtain rfl := Except.ok.inj checked
    exact ⟨rfl, rfl, rfl⟩

/-- What is not set follows from what is. -/
theorem StandsFor.completed (stands : StandsFor base settings entries)
    (done : settings.finish base = .ok config) : CompletedFrom entries base config := by
  obtain ⟨isInput, isOutput, isRoot⟩ := finish_directories done
  have input := stands.paths "input_dir" (by decide)
  have output := stands.paths "output_dir" (by decide)
  have root := stands.paths "root_dir" (by decide)
  simp only [Settings.path?] at input output root
  have unset : ∀ key found, entries.path? base key = .ok found → entries.get? key = none →
      found = none := by
    intro key found read none
    simp only [Entries.path?, none] at read
    exact (Except.ok.inj read).symm
  have inputAbsolute : config.inputDir.isAbsolute = true := by
    rw [isInput]
    cases given : settings.inputDir with
    | none => exact isAbsolute_ofLocation base
    | some path => exact Entries.isAbsolute_of_path? (by decide) (given ▸ input)
  have rootAbsolute : ∀ root, config.rootDir = some root → root.isAbsolute = true := by
    intro path given
    rw [isRoot] at given
    exact Entries.isAbsolute_of_path? (by decide) (given ▸ root)
  refine {
    inputDir := fun none => ?_
    outputDir := fun none => ?_
    contentRoot := fun none => ?_
    inputAbsolute := inputAbsolute
    outputAbsolute := ?_
    rootAbsolute := rootAbsolute
    contentAbsolute := ?_ }
  · rw [isInput, unset "input_dir" _ input none]
    rfl
  · rw [isOutput, unset "output_dir" _ output none]
    rfl
  · rw [BuildConfig.contentRoot, isRoot, unset "root_dir" _ root none]
    rfl
  · rw [isOutput]
    cases given : settings.outputDir with
    | none => exact inputAbsolute
    | some path => exact Entries.isAbsolute_of_path? (by decide) (given ▸ output)
  · rw [BuildConfig.contentRoot]
    cases given : config.rootDir with
    | none => exact inputAbsolute
    | some path => exact rootAbsolute path given

theorem ReadFrom.load_eq (source : ReadFrom tree current choice required file base)
    (overrides : Overrides) : loadConfig tree current choice overrides required =
      configureMapping file base current overrides := by
  cases source with
  | noPath => rfl
  | missing absent => simp [loadConfig, absent]
  | file present read opened =>
      rw [loadConfig_of_read present read, configure, opened]
      rfl

/-- A configuration that is loaded comes from some mapping. -/
theorem exists_readFrom (loaded : loadConfig tree current choice overrides required = .ok config) :
    ∃ file base, ReadFrom tree current choice required file base := by
  unfold loadConfig at loaded
  split at loaded
  case h_1 => exact ⟨_, _, .noPath⟩
  case h_2 path =>
    dsimp only at loaded
    split at loaded
    case isTrue present =>
      obtain ⟨document, read, configured⟩ := bind_eq_ok_iff.mp loaded
      obtain ⟨mapping, opened, -⟩ := bind_eq_ok_iff.mp configured
      exact ⟨_, _, .file present read opened⟩
    case isFalse absent =>
      split at loaded
      case isTrue => cases loaded
      case isFalse optional =>
        obtain rfl : required = false := Bool.eq_false_iff.mpr optional
        exact ⟨_, _, .missing (Bool.eq_false_iff.mpr absent)⟩

theorem configureMapping_edited
    (known : ∀ given ∈ overrides, given.1 ∈ pathKeys ∨ given.1 ∈ valueKeys)
    (once : (overrides.map (·.1)).Nodup)
    (loaded : configureMapping file base current overrides = .ok config) :
    (edited current file overrides).configure base = .ok config ∧
      CompletedFrom (edited current file overrides) base config := by
  obtain ⟨_, checked, onwards⟩ := bind_eq_ok_iff.mp loaded
  obtain ⟨read, isRead, onwards⟩ := bind_eq_ok_iff.mp onwards
  obtain ⟨settings, overridden, finished⟩ := bind_eq_ok_iff.mp onwards
  have start : StandsFor base (read.readValues file) (Entries.ofFile file) := by
    apply standsFor_of_settings
    rw [← Entries.settings_ofFile, isRead]
    rfl
  have stands : StandsFor base settings (edited current file overrides) :=
    start.overrideAll known once (fun _ _ => rfl) overridden
  have fromFile := unknownKeys_eq_nil_iff.mp (checkKeys_succeeds_iff.mp ⟨_, checked⟩)
  have allKnown := @known_edited current file overrides
    (fun entry member => isKnownKey_iff.mpr (fromFile entry member)) known
  have checkedToo : Succeeds (checkKeys (edited current file overrides).keys) := by
    rw [checkKeys_succeeds_iff, unknownKeys_eq_nil_iff]
    intro entry member
    obtain ⟨own, listed, rfl⟩ := List.mem_map.mp member
    exact isKnownKey_iff.mp (allKnown own listed)
  refine ⟨?_, stands.completed finished⟩
  unfold Entries.configure
  rw [checkedToo.choose_spec]
  exact stands.finish_eq.trans finished

/-- Whatever is read, loading it is loading its entries; and when it is loaded with settings put
in place of its own, the result is what the edited entries give, in which paths are absolute and
a switch for the layout keeps the indentation of the file.  Settings that are null make no
difference, and what is not set follows from the edited entries. -/
theorem loadConfig_edited
    (known : ∀ given ∈ overrides, given.1 ∈ pathKeys ∨ given.1 ∈ valueKeys)
    (once : (overrides.map (·.1)).Nodup)
    (loaded : loadConfig tree current choice overrides required = .ok config) :
    ∃ file base, ReadFrom tree current choice required file base ∧
      loadConfig tree current choice [] required = (Entries.ofFile file).configure base ∧
      (edited current file overrides).configure base = .ok config ∧
      CompletedFrom (edited current file overrides) base config ∧
      loadConfig tree current choice (overrides.filter fun given => !given.2.isNull) required =
        .ok config := by
  obtain ⟨file, base, source⟩ := exists_readFrom loaded
  have configured := (source.load_eq overrides).symm.trans loaded
  obtain ⟨sameResult, completed⟩ := configureMapping_edited known once configured
  refine ⟨file, base, source, ?_, sameResult, completed, ?_⟩
  · rw [source.load_eq, configureMapping_eq]
  · rw [source.load_eq, ← configured]
    unfold configureMapping
    simp only [overrideAll_filter]

end

/-! ### A file and four settings -/

/-- A switch for the layout, two paths that are not absolute, and no number of pages. -/
def sampleOverrides : Overrides :=
  [ ("beautify", .value (.bool true)), ("root_dir", .path (Path.ofString "site")),
    ("min_page_usage", .value .null), ("output_dir", .value (.string " dist ")) ]

/-- What they come to for a file that sets the input directory and a layout of four spaces. -/
def sampleMerged : BuildConfig where
  inputDir := ⟨.root, ["pages"]⟩
  outputDir := ⟨.root, ["work", "dist"]⟩
  rootDir := some ⟨.root, ["work", "site"]⟩
  minPageUsage := 2
  scriptSrcStart := "/scripts/"
  beautify := ⟨true, some (.spaces 4)⟩

/-- The layout is switched on and keeps the indentation of the file, and the paths are seen from
the current directory, while that of the file is seen from its own directory. -/
theorem loadConfig_edited_of_sample :
    (∀ given ∈ sampleOverrides, given.1 ∈ pathKeys ∨ given.1 ∈ valueKeys) ∧
      (sampleOverrides.map (·.1)).Nodup ∧
      loadConfig (fileTreeOf describedText) ["work"] (some composePath) sampleOverrides true =
        .ok sampleMerged ∧
      edited ["work"] describedMapping sampleOverrides =
        [ (.string "input_dir", .value (.string "pages")),
          (.string "beautify", .value (.map
            [(.string "enabled", .bool true), (.string "indent", .int 4)])),
          (.string "root_dir", .path ⟨.root, ["work", "site"]⟩),
          (.string "output_dir", .path ⟨.root, ["work", "dist"]⟩) ] ∧
      ∃ file base,
        ReadFrom (fileTreeOf describedText) ["work"] (some composePath) true file base ∧
          (edited ["work"] file sampleOverrides).configure base = .ok sampleMerged ∧
          CompletedFrom (edited ["work"] file sampleOverrides) base sampleMerged := by
  have known : ∀ given ∈ sampleOverrides, given.1 ∈ pathKeys ∨ given.1 ∈ valueKeys := by
    simp [sampleOverrides, pathKeys, valueKeys]
  have once : (sampleOverrides.map (·.1)).Nodup := by decide
  have loaded : loadConfig (fileTreeOf describedText) ["work"] (some composePath) sampleOverrides
      true = .ok sampleMerged := by
    decide +kernel
  obtain ⟨file, base, source, -, sameResult, completed, -⟩ :=
    loadConfig_edited known once loaded
  exact ⟨known, once, loaded, rfl, file, base, source, sameResult, completed⟩

end StaticSite
