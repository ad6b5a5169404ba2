/-
Module: StaticSite.Proofs.Config.Refusals
Purpose: Which errors loading a configuration can end with, and what each of them says of the
  settings that were given.
Trusted boundary: none
Main exports:
  fileEntries, Given, Attributed, Explained, Attributed.explained, AccountedFor, AccountedFor.bind,
  DrawnFrom, overrideAll_accounted, configure_accounted, loadConfig_error_explained
-/
import StaticSite.Proofs.Config.Acceptance
import StaticSite.Proofs.Config.Showing

namespace StaticSite

open Text Yaml

/-! ### What is given, and what an error says of it -/

/-- The entries of the mapping that a file holds, none if it holds another value. -/
def fileEntries (document : Value) : Mapping :=
  document.entries?.getD []

/-- The settings that are given, each for its key: those of the file, those in place of them,
and the indentation of a layout. -/
inductive Given (mapping : Mapping) (overrides : Overrides) : String → Setting → Prop where
  | file {key : String} {value : Value} (found : mapping.get? (.string key) = some value) :
      Given mapping overrides key (.value value)
  | override {key : String} {setting : Setting} (listed : (key, setting) ∈ overrides) :
      Given mapping overrides key setting
  | indent {layout value : Value} {entries : Mapping}
      (given : Given mapping overrides "beautify" (.value layout))
      (opened : layout.entries? = some entries)
      (found : entries.get? (.string "indent") = some value) :
      Given mapping overrides "beautify.indent" (.value value)

/-- What is known of an error: the configuration is refused, and what the message shows has been
given, or there is something in it that cannot be looked at. -/
inductive Attributed (mapping : Mapping) (overrides : Overrides) : ConfigError → Prop where
  | refusal {cause : ConfigError} (refused : cause.isRefusal = true)
      (given : ∀ setting ∈ cause.subject?, ∃ key, Given mapping overrides key setting) :
      Attributed mapping overrides cause
  | strangeKeys {entry : Value × Value} (listed : entry ∈ mapping)
      (strange : entry.1.text? = none) : Attributed mapping overrides .strangeKeys
  | nullCharacter {key : String} {setting : Setting} {path : Path}
      (given : Given mapping overrides key setting) (isPath : key ∈ pathKeys)
      (written : setting.path? = some path) (relative : path.isAbsolute = false)
      (null : path.holdsNull = true) : Attributed mapping overrides (.nullCharacter path)

/-- What is known when loading a configuration fails, and `room` calls within each other are left
for a message: the configuration is refused, or there is something in it that cannot be looked at,
or the message would show a given setting that cannot be shown. -/
inductive Explained (mapping : Mapping) (overrides : Overrides) (room : Nat) :
    ConfigFailure → Prop where
  | refusal {cause : ConfigError} (refused : cause.isRefusal = true) :
      Explained mapping overrides room (.error cause)
  | strangeKeys {entry : Value × Value} (listed : entry ∈ mapping)
      (strange : entry.1.text? = none) : Explained mapping overrides room (.error .strangeKeys)
  | nullCharacter {key : String} {setting : Setting} {path : Path}
      (given : Given mapping overrides key setting) (isPath : key ∈ pathKeys)
      (written : setting.path? = some path) (relative : path.isAbsolute = false)
      (null : path.holdsNull = true) :
      Explained mapping overrides room (.error (.nullCharacter path))
  | longNumber {key : String} {setting : Setting} (given : Given mapping overrides key setting)
      (long : setting.holdsLongNumber = true) :
      Explained mapping overrides room (.unshown .longNumber)
  | tooDeep {key : String} {setting : Setting} (given : Given mapping overrides key setting)
      (deep : room < setting.callDepth) : Explained mapping overrides room (.unshown .tooDeep)

/-- The outcome is accounted for: a value has the property, and an error is attributed. -/
inductive AccountedFor (mapping : Mapping) (overrides : Overrides) {α : Type} (holds : α → Prop) :
    Except ConfigError α → Prop where
  | ok {value : α} (sound : holds value) : AccountedFor mapping overrides holds (.ok value)
  | error {cause : ConfigError} (attributed : Attributed mapping overrides cause) :
      AccountedFor mapping overrides holds (.error cause)

/-- The values that are not checked yet are given ones; a layout may be settled already. -/
structure DrawnFrom (mapping : Mapping) (overrides : Overrides) (settings : Settings) : Prop where
  minPageUsage : ∀ setting, settings.minPageUsage = some setting →
    Given mapping overrides "min_page_usage" setting
  scriptSrcStart : ∀ setting, settings.scriptSrcStart = some setting →
    Given mapping overrides "script_src_prefix" setting
  beautify : ∀ setting, settings.beautify = some setting →
    Given mapping overrides "beautify" setting ∨ ∃ config, setting = .layout config

section

variable {tree : FileTree} {current base : Location} {path : Path} {required : Bool}
  {document value : Value} {mapping : Mapping} {overrides : Overrides} {key name expected : String}
  {settings after : Settings} {setting : Setting} {cause : ConfigError}

section AccountedFor

variable {α β : Type} {holds weaker : α → Prop} {onwards : β → Prop}

theorem AccountedFor.bind {first : Except ConfigError α} {next : α → Except ConfigError β}
    (start : AccountedFor mapping overrides holds first)
    (rest : ∀ value, holds value → AccountedFor mapping overrides onwards (next value)) :
    AccountedFor mapping overrides onwards (first >>= next) := by
  cases start with
  | ok sound => exact rest _ sound
  | error attributed => exact .error attributed

theorem AccountedFor.weaken {outcome : Except ConfigError α}
    (accounted : AccountedFor mapping overrides holds outcome)
    (less : ∀ value, holds value → weaker value) :
    AccountedFor mapping overrides weaker outcome := by
  cases accounted with
  | ok sound => exact .ok (less _ sound)
  | error attributed => exact .error attributed

/-- Whatever is known of the value, it is the one of this outcome. -/
theorem AccountedFor.remember {outcome : Except ConfigError α}
    (accounted : AccountedFor mapping overrides holds outcome) :
    AccountedFor mapping overrides (fun value => outcome = .ok value) outcome := by
  cases accounted with
  | ok sound => exact .ok rfl
  | error attributed => exact .error attributed

theorem AccountedFor.attributed {outcome : Except ConfigError α}
    (accounted : AccountedFor mapping overrides holds outcome) (failed : outcome = .error cause) :
    Attributed mapping overrides cause := by
  cases accounted with
  | ok sound => cases failed
  | error attributed =>
      cases failed
      exact attributed

end AccountedFor

/-! ### The single checks -/

theorem Attributed.wrongType (given : Given mapping overrides key setting) :
    Attributed mapping overrides (.wrongType name expected setting) := by
  refine .refusal rfl ?_
  rintro _ ⟨⟩
  exact ⟨key, given⟩

theorem Attributed.of_nothing_shown (refused : cause.isRefusal = true)
    (nothing : cause.subject? = none) : Attributed mapping overrides cause := by
  refine .refusal refused ?_
  rw [nothing]
  rintro _ ⟨⟩

theorem pathOf_accounted (given : Given mapping overrides key setting) (isPath : key ∈ pathKeys) :
    AccountedFor mapping overrides (fun _ => True) (pathOf base key setting) := by
  unfold pathOf
  split
  case h_1 => exact .error (.of_nothing_shown rfl rfl)
  case h_2 path written =>
    split
    case isTrue => exact .ok trivial
    case isFalse relative =>
      split
      case isTrue null =>
        exact .error (.nullCharacter given isPath written (Bool.eq_false_iff.mpr relative) null)
      case isFalse => exact .ok trivial

theorem intOf_accounted (given : Given mapping overrides key setting) :
    AccountedFor mapping overrides (fun count => Given mapping overrides key (.value (.int count)))
      (intOf name setting) := by
  unfold intOf
  split
  case h_1 => exact .ok given
  case h_2 => exact .error (.wrongType given)

theorem stringOf_accounted (given : Given mapping overrides key setting) :
    AccountedFor mapping overrides (fun _ => True) (stringOf name setting) := by
  unfold stringOf
  split
  case h_1 => exact .ok trivial
  case h_2 => exact .error (.wrongType given)

theorem indentOf_accounted (given : Given mapping overrides key (.value value)) :
    AccountedFor mapping overrides (fun _ => True) (indentOf value) := by
  unfold indentOf
  split
  case h_4 => exact .error (.wrongType given)
  all_goals exact .ok trivial

theorem beautifyOf_accounted (given : Given mapping overrides "beautify" setting) :
    AccountedFor mapping overrides (fun _ => True) (beautifyOf setting) := by
  unfold beautifyOf
  split
  case h_1 => exact .ok trivial
  case h_2 => exact .ok trivial
  case h_3 value _ =>
    split
    case h_1 entries opened =>
      cases found : entries.get? (.string "indent")
      case none => exact .ok trivial
      case some value =>
        exact (indentOf_accounted (.indent given opened found)).bind fun _ _ => .ok trivial
    case h_2 => exact .error (.wrongType given)
  case h_4 => exact .error (.wrongType given)

/-- The keys are all texts, known ones or not, or there is one that is no text. -/
theorem checkKeys_cases (mapping : Mapping) :
    (∀ entry ∈ mapping, entry.1.text? ≠ none) ∧
        (checkKeys mapping = .ok () ∨ ∃ keys, checkKeys mapping = .error (.unknownKeys keys)) ∨
      (∃ entry ∈ mapping, entry.1.text? = none) ∧ checkKeys mapping = .error .strangeKeys := by
  -- a key that is no text is unknown, so only the unknown ones have to be looked at
  have texts : (∀ entry ∈ mapping, entry.1.text? ≠ none) ↔
      ((unknownKeys mapping).filterMap Value.text?).length = (unknownKeys mapping).length := by
    rw [List.filterMap_length_eq_length]
    simp only [unknownKeys, List.mem_filter, List.mem_map, Bool.not_eq_true']
    constructor
    · rintro allTexts _ ⟨⟨entry, listed, rfl⟩, -⟩
      exact Option.isSome_iff_ne_none.mpr (allTexts entry listed)
    · intro unknownTexts entry listed strange
      have unknown : isKnownKey entry.1 = false := by
        unfold isKnownKey
        split
        case h_1 text same => simp [same, Value.text?] at strange
        case h_2 => rfl
      have isText := unknownTexts entry.1 ⟨⟨entry, listed, rfl⟩, unknown⟩
      simp [strange] at isText
  by_cases allTexts : ∀ entry ∈ mapping, entry.1.text? ≠ none
  case pos =>
    refine .inl ⟨allTexts, ?_⟩
    simp only [checkKeys, texts.mp allTexts, bne_self_eq_false, Bool.false_eq_true, if_false]
    split
    case isTrue => exact .inl rfl
    case isFalse => exact .inr ⟨_, rfl⟩
  case neg =>
    have fewer := mt texts.mpr allTexts
    have some : (unknownKeys mapping).isEmpty = false := by
      cases none : unknownKeys mapping
      case nil => simp [none] at fewer
      case cons => rfl
    simp only [not_forall, not_not, exists_prop] at allTexts
    exact .inr ⟨allTexts, by simp [checkKeys, some, fewer]⟩

/-! ### Putting settings together -/

theorem readPaths_accounted {keys : List String} (arePaths : ∀ key ∈ keys, key ∈ pathKeys) :
    AccountedFor mapping overrides (fun _ => True)
      (Settings.readPaths base mapping settings keys) := by
  induction keys generalizing settings with
  | nil => exact .ok trivial
  | cons key rest hypothesis =>
      obtain ⟨isPath, others⟩ := List.forall_mem_cons.mp arePaths
      rw [Settings.readPaths]
      split
      case h_1 => exact hypothesis others
      case h_2 value found =>
        exact (pathOf_accounted (.file found) isPath).bind fun path _ => hypothesis others

theorem readValues_drawn (read : Settings.readPaths base mapping {} pathKeys = .ok settings) :
    DrawnFrom mapping overrides (settings.readValues mapping) := by
  obtain ⟨noCount, noText, noLayout⟩ := readPaths_values read
  rw [readValues_eq, noCount, noText, noLayout]
  have ofFile : ∀ key setting, ((mapping.get? (.string key)).map Setting.value).or none =
      some setting → Given mapping overrides key setting := by
    intro key setting given
    rw [Option.or_none] at given
    obtain ⟨value, found, rfl⟩ := Option.map_eq_some_iff.mp given
    exact .file found
  exact {
    minPageUsage := ofFile "min_page_usage"
    scriptSrcStart := ofFile "script_src_prefix"
    beautify := fun setting given => .inl (ofFile "beautify" setting given) }

theorem DrawnFrom.setPath (drawn : DrawnFrom mapping overrides settings) :
    DrawnFrom mapping overrides (settings.setPath key path) := by
  unfold Settings.setPath
  split <;> exact ⟨drawn.minPageUsage, drawn.scriptSrcStart, drawn.beautify⟩

theorem DrawnFrom.setValue (drawn : DrawnFrom mapping overrides settings)
    (given : Given mapping overrides key setting) :
    DrawnFrom mapping overrides (settings.setValue key setting) := by
  unfold Settings.setValue
  split
  case h_1 =>
    exact { drawn with minPageUsage := by rintro _ ⟨⟩; exact given }
  case h_2 => exact { drawn with scriptSrcStart := by rintro _ ⟨⟩; exact given }
  case h_3 => exact { drawn with beautify := by rintro _ ⟨⟩; exact .inl given }
  case h_4 => exact drawn

/-- One setting in place of another leaves nothing but given values. -/
theorem override_accounted (drawn : DrawnFrom mapping overrides settings)
    (listed : (key, setting) ∈ overrides) :
    AccountedFor mapping overrides (DrawnFrom mapping overrides)
      (settings.override current key setting) := by
  have given : Given mapping overrides key setting := .override listed
  unfold Settings.override
  split
  case h_1 => exact .ok drawn
  case h_2 =>
    split
    case isTrue isPath =>
      exact (pathOf_accounted given (List.contains_iff_mem.mp isPath)).bind
        fun path _ => .ok drawn.setPath
    case isFalse =>
      split
      case h_1 enabled _ _ =>
        have configured : AccountedFor mapping overrides (fun _ => True)
            (beautifyOf (settings.beautify.getD (.value (.bool true)))) := by
          cases present : settings.beautify
          case none => exact .ok trivial
          case some layout =>
            rcases drawn.beautify layout present with given | ⟨config, rfl⟩
            · exact beautifyOf_accounted given
            · exact .ok trivial
        exact configured.bind fun config _ =>
          .ok { drawn with beautify := by rintro _ ⟨⟩; exact .inr ⟨_, rfl⟩ }
      case h_2 => exact .ok (drawn.setValue given)

theorem overrideAll_accounted {some : Overrides} (listed : ∀ entry ∈ some, entry ∈ overrides)
    (drawn : DrawnFrom mapping overrides settings) :
    AccountedFor mapping overrides (DrawnFrom mapping overrides)
      (settings.overrideAll current some) := by
  unfold Settings.overrideAll
  induction some generalizing settings with
  | nil => exact .ok drawn
  | cons entry rest hypothesis =>
      obtain ⟨here, later⟩ := List.forall_mem_cons.mp listed
      rw [List.foldlM_cons]
      exact (override_accounted drawn here).bind fun settings drawn => hypothesis later drawn

theorem givenOr_accounted {α : Type} {holds : α → Prop} {standard : α}
    {check : Setting → Except ConfigError α} {choice : Option Setting} (sound : holds standard)
    (checked : ∀ setting, choice = some setting →
      AccountedFor mapping overrides holds (check setting)) :
    AccountedFor mapping overrides holds (givenOr standard check choice) := by
  cases choice with
  | none => exact .ok sound
  | some setting => exact checked setting rfl

theorem BuildConfig.check_accounted {config : BuildConfig}
    (origin : 1 ≤ config.minPageUsage ∨
      Given mapping overrides "min_page_usage" (.value (.int config.minPageUsage))) :
    AccountedFor mapping overrides (fun _ => True) config.check := by
  unfold BuildConfig.check
  split
  case isFalse => exact .ok trivial
  case isTrue small =>
    rcases origin with enough | given
    · exact absurd small (Int.not_lt.mpr enough)
    · refine .error (.refusal rfl ?_)
      rintro _ ⟨⟩
      exact ⟨_, given⟩

theorem finish_accounted (drawn : DrawnFrom mapping overrides settings) :
    AccountedFor mapping overrides (fun _ => True) (settings.finish base) := by
  have counted : AccountedFor mapping overrides
      (fun count => 1 ≤ count ∨ Given mapping overrides "min_page_usage" (.value (.int count)))
      (givenOr BuildConfig.standardMinPageUsage (intOf "min_page_usage")
        settings.minPageUsage) := by
    apply givenOr_accounted (.inl (by decide))
    intro setting present
    exact (intOf_accounted (drawn.minPageUsage setting present)).weaken fun _ => .inr
  have named : AccountedFor mapping overrides (fun _ => True)
      (givenOr BuildConfig.standardSrcStart (stringOf "script_src_prefix")
        settings.scriptSrcStart) := by
    apply givenOr_accounted trivial
    intro setting present
    exact stringOf_accounted (drawn.scriptSrcStart setting present)
  have laidOut : AccountedFor mapping overrides (fun _ => True)
      (givenOr {} beautifyOf settings.beautify) := by
    apply givenOr_accounted trivial
    intro setting present
    rcases drawn.beautify setting present with given | ⟨config, rfl⟩
    · exact beautifyOf_accounted given
    · exact .ok trivial
  exact counted.bind fun count origin => named.bind fun _ _ => laidOut.bind fun _ _ =>
    BuildConfig.check_accounted origin

theorem checkKeys_accounted :
    AccountedFor mapping overrides (fun _ => True) (checkKeys mapping) := by
  rcases checkKeys_cases mapping with
    ⟨-, known | ⟨unknown, refused⟩⟩ | ⟨⟨entry, listed, strange⟩, failed⟩
  · exact known ▸ .ok trivial
  · exact refused ▸ .error (.of_nothing_shown rfl rfl)
  · exact failed ▸ .error (.strangeKeys listed strange)

theorem configureMapping_accounted :
    AccountedFor mapping overrides (fun _ => True)
      (configureMapping mapping base current overrides) := by
  have paths : AccountedFor mapping overrides _
      (Settings.readPaths base mapping {} pathKeys) := (readPaths_accounted fun _ => id).remember
  exact checkKeys_accounted.bind fun _ _ => paths.bind fun settings read =>
    (overrideAll_accounted (fun _ => id) (readValues_drawn read)).bind fun settings drawn =>
      finish_accounted drawn

/-- A file that holds no mapping is refused, or counts as an empty one. -/
theorem topMapping_cases (document : Value) :
    topMapping document = .ok (fileEntries document) ∨
      fileEntries document = [] ∧ topMapping document = .error .notMapping := by
  unfold topMapping fileEntries
  cases truthy : document.isTruthy
  case true => cases document.entries? <;> simp
  case false =>
    have empty : document.entries?.getD [] = [] := by
      cases document
      case map entries => simp_all [Value.isTruthy, Value.entries?, Value.closedEntries]
      case orderedMap entries => simp_all [Value.isTruthy, Value.entries?, Value.closedEntries]
      all_goals rfl
    simp [empty]

theorem configure_accounted :
    AccountedFor (fileEntries document) overrides (fun _ => True)
      (configure document base current overrides) := by
  unfold configure
  rcases topMapping_cases document with mapping | ⟨-, refused⟩
  · rw [mapping]
    exact configureMapping_accounted
  · rw [refused]
    exact .error (.of_nothing_shown rfl rfl)

theorem configure_strangeKeys_iff :
    configure document base current overrides = .error .strangeKeys ↔
      ∃ entry ∈ fileEntries document, entry.1.text? = none := by
  constructor
  · intro failed
    cases configure_accounted.attributed failed with
    | refusal impossible => cases impossible
    | strangeKeys listed strange => exact ⟨_, listed, strange⟩
  · rintro ⟨entry, listed, strange⟩
    rcases topMapping_cases document with mapping | ⟨empty, -⟩
    · rcases checkKeys_cases (fileEntries document) with ⟨texts, -⟩ | ⟨-, failed⟩
      · exact absurd strange (texts entry listed)
      · unfold configure
        rw [mapping]
        exact bind_eq_error_iff.mpr (.inr ⟨_, rfl, bind_eq_error_iff.mpr (.inl failed)⟩)
    · rw [empty] at listed
      cases listed

/-- What becomes of an attributed error is explained: either its message can show all that is
given, or there is something in it that keeps it from being shown. -/
theorem Attributed.explained (attributed : Attributed mapping overrides cause) (room : Nat) :
    Explained mapping overrides room (cause.raised room) := by
  cases attributed with
  | strangeKeys listed strange => exact .strangeKeys listed strange
  | nullCharacter given isPath written relative null =>
      exact .nullCharacter given isPath written relative null
  | refusal refused given =>
      unfold ConfigError.raised
      split
      case h_1 obstacle met =>
        obtain ⟨setting, shown, found⟩ := Option.bind_eq_some_iff.mp met
        obtain ⟨key, isGiven⟩ := given setting shown
        cases Setting.meets_of_obstacle? found with
        | longNumber holds => exact .longNumber isGiven holds
        | tooDeep deep => exact .tooDeep isGiven deep
      case h_2 => exact .refusal refused

/-- For an existing file that can be read, whatever it holds and whatever is given in place of
it, loading fails with a refusal that tells what is wrong, or for one of four other reasons: a
key of the file is no text (and then always so), a relative path that is given holds a null
character, or the message would show a given value that holds a number too long to be shown, or
whose parts are further within each other than there is room for calls.  There are no symbolic
links here, which could lead around in a circle. -/
theorem loadConfig_error_explained (room : Nat)
    (present : tree.pathExists ((Path.ofLocation current).join path) = true)
    (read : readDocument tree ((Path.ofLocation current).join path) = .ok document) :
    (loadConfig tree current (some path) overrides required = .error .strangeKeys ↔
      ∃ entry ∈ fileEntries document, entry.1.text? = none) ∧
    ∀ cause, loadConfig tree current (some path) overrides required = .error cause →
      Explained (fileEntries document) overrides room (cause.raised room) := by
  rw [loadConfig_of_read present read]
  refine ⟨configure_strangeKeys_iff, fun cause failed => ?_⟩
  exact (configure_accounted.attributed failed).explained room

end

/-! ### Two failures -/

/-- The start of script addresses is a number here. -/
def numberedText : String :=
  "script_src_prefix: 5\n"

theorem loadConfig_error_of_sample :
    (fileTreeOf numberedText).pathExists ((Path.ofLocation []).join composePath) = true ∧
      readDocument (fileTreeOf numberedText) ((Path.ofLocation []).join composePath) =
        .ok (.map [(.string "script_src_prefix", .int 5)]) ∧
      loadConfig (fileTreeOf numberedText) [] (some composePath)
          [("root_dir", .path (Path.ofString "site"))] true =
        .error (.wrongType "script_src_prefix" "a string" (.value (.int 5))) ∧
      Explained [(.string "script_src_prefix", .int 5)] [("root_dir", .path (Path.ofString "site"))]
        messageRoom
        (.error (.wrongType "script_src_prefix" "a string" (.value (.int 5)))) := by
  have present : (fileTreeOf numberedText).pathExists
      ((Path.ofLocation []).join composePath) = true := by decide +kernel
  have read : readDocument (fileTreeOf numberedText) ((Path.ofLocation []).join composePath) =
      .ok (.map [(.string "script_src_prefix", .int 5)]) := by decide +kernel
  have failed : loadConfig (fileTreeOf numberedText) [] (some composePath)
      [("root_dir", .path (Path.ofString "site"))] true =
        .error (.wrongType "script_src_prefix" "a string" (.value (.int 5))) := by decide +kernel
  have reported :
      (ConfigError.wrongType "script_src_prefix" "a string" (.value (.int 5))).raised messageRoom =
        .error (.wrongType "script_src_prefix" "a string" (.value (.int 5))) := by decide +kernel
  refine ⟨present, read, failed, ?_⟩
  rw [← reported]
  exact (loadConfig_error_explained messageRoom present read).2 _ failed

/-- A key of this mapping is a number. -/
def numberedKey : Mapping :=
  [(.int 1, .string "x")]

/-- A key that is no text is not refused as an unknown key: the unknown keys are put in order and
joined for the message, which texts only can be. -/
theorem numberedKey_not_refused :
    (fileTreeOf "1: x\n").pathExists ((Path.ofLocation []).join composePath) = true ∧
      readDocument (fileTreeOf "1: x\n") ((Path.ofLocation []).join composePath) =
        .ok (.map numberedKey) ∧
      ¬ ∀ cause, loadConfig (fileTreeOf "1: x\n") [] (some composePath) [] true = .error cause →
        cause.isRefusal = true := by
  have failed : loadConfig (fileTreeOf "1: x\n") [] (some composePath) [] true =
      .error .strangeKeys := by decide +kernel
  refine ⟨by decide +kernel, by decide +kernel, fun always => ?_⟩
  cases always .strangeKeys failed

end StaticSite
