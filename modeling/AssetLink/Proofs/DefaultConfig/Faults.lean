import Mathlib
import AssetLink.DefaultConfig.Basic
import AssetLink.Proofs.Change
import AssetLink.Proofs.Dictionary

/-!
Which documents are configs. Settings hold text, numbers and truth values, and
plugin paths are a list of texts; a document of these types is read without loss,
and of any other the first fault is reported: in the settings, then in those of
the UI delegate, then in the plugin paths.
-/

namespace AssetLink

namespace Toml.Value

/-- Of a kind that a setting can have. -/
inductive IsSimple : Value → Prop
  | string (text : String) : IsSimple (.string text)
  | integer (n : Int64) : IsSimple (.integer n)
  | float (x : Binary64) : IsSimple (.float x)
  | boolean (b : Bool) : IsSimple (.boolean b)

def ofTexts (texts : List String) : Value :=
  .array (texts.map .string)

end Toml.Value

/-- The first key of a table, in the order of keys, that is no setting. -/
structure FirstFault (table : Dictionary Toml.Value) (key : String) : Prop where
  here : ∃ value, table.get? key = some value ∧ ¬ value.IsSimple
  first : ∀ earlier value, earlier < key → table.get? earlier = some value → value.IsSimple

def AllSimple (table : Dictionary Toml.Value) : Prop :=
  ∀ key value, table.get? key = some value → value.IsSimple

theorem firstFault_iff {table : Dictionary Toml.Value} {key : String} :
    FirstFault table key ↔
      ∃ before value after, table.entries = before ++ (key, value) :: after ∧
        ¬ value.IsSimple ∧ ∀ entry ∈ before, entry.2.IsSimple := by
  constructor
  · rintro ⟨⟨value, under, faulty⟩, first⟩
    obtain ⟨before, after, split, inFront⟩ :=
      (Dictionary.exists_split_iff (p := fun entry => entry.2.IsSimple)).2 ⟨under, first⟩
    exact ⟨before, value, after, split, faulty, inFront⟩
  · rintro ⟨before, value, after, split, faulty, inFront⟩
    obtain ⟨under, first⟩ := Dictionary.exists_split_iff.1 ⟨before, after, split, inFront⟩
    exact ⟨⟨value, under, faulty⟩, first⟩

namespace ConfigDocument

structure WellTyped (document : ConfigDocument) : Prop where
  settings : AllSimple document.settings
  uiDelegateSettings : AllSimple document.uiDelegateSettings
  pluginPaths : ∀ value, document.pluginPaths = some value → ∃ texts, value = .ofTexts texts

end ConfigDocument

namespace DefaultConfig

variable {configDir : String}

/-- What a setting is read as. Only text is changed. -/
inductive ReadsAs (configDir : String) : Toml.Value → PropertyValue → Prop
  | string (text : String) : ReadsAs configDir (.string text) (.str (expand configDir text))
  | integer (n : Int64) : ReadsAs configDir (.integer n) (.int n)
  | float (x : Binary64) : ReadsAs configDir (.float x) (.float x)
  | boolean (b : Bool) : ReadsAs configDir (.boolean b) (.bool b)

theorem readSetting_eq_ok_iff {key : String} {value : Toml.Value} {setting : PropertyValue} :
    readSetting configDir key value = .ok setting ↔ ReadsAs configDir value setting := by
  constructor
  · intro read
    cases value <;> cases read <;> constructor
  · intro reads
    cases reads <;> rfl

theorem readSetting_eq_error_iff {key : String} {value : Toml.Value} {e : AssetError} :
    readSetting configDir key value = .error e ↔
      ¬ value.IsSimple ∧ e = unsupportedSetting key := by
  constructor
  · intro read
    cases value <;> cases read <;> exact ⟨nofun, rfl⟩
  · rintro ⟨faulty, rfl⟩
    cases value with
    | string text => exact absurd (.string text) faulty
    | integer n => exact absurd (.integer n) faulty
    | float x => exact absurd (.float x) faulty
    | boolean b => exact absurd (.boolean b) faulty
    | _ => rfl

theorem isSimple_iff (configDir : String) {value : Toml.Value} :
    value.IsSimple ↔ ∃ setting, ReadsAs configDir value setting := by
  constructor
  · intro simple
    cases simple <;> exact ⟨_, by constructor⟩
  · rintro ⟨setting, reads⟩
    cases reads <;> constructor

theorem ReadsAs.unique {value : Toml.Value} {setting other : PropertyValue}
    (h : ReadsAs configDir value setting) (h' : ReadsAs configDir value other) :
    setting = other := by
  cases h <;> cases h' <;> rfl

section Settings

variable {table : Dictionary Toml.Value} {settings : InfoDictionary}

def readEntry (configDir : String) (entry : String × Toml.Value) :
    Except AssetError (String × PropertyValue) := do
  return (entry.1, ← readSetting configDir entry.1 entry.2)

theorem readEntry_eq_ok_iff {entry : String × Toml.Value} {setting : String × PropertyValue} :
    readEntry configDir entry = .ok setting ↔
      entry.1 = setting.1 ∧ ReadsAs configDir entry.2 setting.2 := by
  rw [readEntry, except_bind_eq_ok_iff]
  simp only [readSetting_eq_ok_iff, pure, Except.pure, Except.ok.injEq]
  grind

theorem readEntry_eq_error_iff {entry : String × Toml.Value} {e : AssetError} :
    readEntry configDir entry = .error e ↔
      ¬ entry.2.IsSimple ∧ e = unsupportedSetting entry.1 := by
  rw [readEntry, except_bind_eq_error_iff, readSetting_eq_error_iff]
  simp [pure, Except.pure]

theorem readSettings_eq (configDir : String) (table : Dictionary Toml.Value) :
    readSettings configDir table = (table.entries.mapM (readEntry configDir)).map .ofList := by
  change table.entries.mapM (readEntry configDir) >>=
    (fun entries => pure (Dictionary.ofList entries)) = _
  cases table.entries.mapM (readEntry configDir) <;> rfl

theorem reads_of_readSettings (read : readSettings configDir table = .ok settings) (key : String) :
    Option.Rel (ReadsAs configDir) (table.get? key) (settings.get? key) := by
  rw [readSettings_eq, except_map_eq_ok_iff] at read
  obtain ⟨entries, each, rfl⟩ := read
  rw [mapM_eq_ok_iff] at each
  exact Dictionary.rel_get?_ofList (each.imp fun _ _ => readEntry_eq_ok_iff.1) key

theorem readSettings_eq_error_iff {e : AssetError} :
    readSettings configDir table = .error e ↔
      ∃ key, FirstFault table key ∧ e = unsupportedSetting key := by
  have fine : ∀ entry, (∃ setting, readEntry configDir entry = .ok setting) ↔ entry.2.IsSimple := by
    intro entry
    rw [isSimple_iff configDir]
    simp only [readEntry_eq_ok_iff]
    exact ⟨fun ⟨setting, _, reads⟩ => ⟨_, reads⟩,
      fun ⟨setting, reads⟩ => ⟨(_, setting), rfl, reads⟩⟩
  rw [readSettings_eq, except_map_eq_error_iff, Dictionary.mapM_entries_eq_error_iff]
  simp only [fine, readEntry_eq_error_iff]
  constructor
  · rintro ⟨key, value, under, ⟨faulty, rfl⟩, first⟩
    exact ⟨key, ⟨⟨value, under, faulty⟩, first⟩, rfl⟩
  · rintro ⟨key, ⟨⟨value, under, faulty⟩, first⟩, rfl⟩
    exact ⟨key, value, under, ⟨faulty, rfl⟩, first⟩

theorem allSimple_of_reads
    (reads : ∀ key, Option.Rel (ReadsAs configDir) (table.get? key) (settings.get? key)) :
    AllSimple table := by
  intro key value under
  have here := reads key
  rw [under] at here
  generalize settings.get? key = answer at here
  cases here with
  | some here => exact (isSimple_iff configDir).2 ⟨_, here⟩

theorem exists_readSettings_iff (configDir : String) :
    (∃ settings, readSettings configDir table = .ok settings) ↔ AllSimple table := by
  refine ⟨fun ⟨settings, read⟩ => allSimple_of_reads (reads_of_readSettings read), fun simple => ?_⟩
  cases read : readSettings configDir table with
  | ok settings => exact ⟨settings, rfl⟩
  | error e =>
    obtain ⟨key, fault, -⟩ := readSettings_eq_error_iff.1 read
    obtain ⟨value, under, faulty⟩ := fault.here
    exact absurd (simple key value under) faulty

theorem rel_readsAs_unique {value : Option Toml.Value} {setting other : Option PropertyValue}
    (h : Option.Rel (ReadsAs configDir) value setting)
    (h' : Option.Rel (ReadsAs configDir) value other) : setting = other := by
  cases h with
  | none => cases h'; rfl
  | some reads =>
    cases h' with
    | some reads' => rw [reads.unique reads']

theorem readSettings_eq_ok_iff :
    readSettings configDir table = .ok settings ↔
      ∀ key, Option.Rel (ReadsAs configDir) (table.get? key) (settings.get? key) := by
  refine ⟨reads_of_readSettings, fun reads => ?_⟩
  obtain ⟨others, read⟩ := (exists_readSettings_iff configDir).2 (allSimple_of_reads reads)
  rw [read]
  exact congrArg _ (Dictionary.ext_get? fun key =>
    rel_readsAs_unique (reads_of_readSettings read key) (reads key))

end Settings

section Paths

variable {value : Toml.Value} {paths : List String} {e : AssetError}

def readPath (configDir : String) (item : Toml.Value) : Except AssetError String :=
  item.text?.elim (.error invalidPluginPaths) fun text => .ok (expand configDir text)

theorem readPath_eq_ok_iff {path : String} :
    readPath configDir value = .ok path ↔
      ∃ text, value = .string text ∧ path = expand configDir text := by
  cases value <;> simp [readPath, Toml.Value.text?, eq_comm]

theorem eq_of_readPath_eq_error (fault : readPath configDir value = .error e) :
    e = invalidPluginPaths := by
  cases value <;> cases fault <;> rfl

theorem readPaths_eq_ok_iff :
    readPaths configDir value = .ok paths ↔
      ∃ texts, value = .ofTexts texts ∧ paths = texts.map (expand configDir) := by
  cases value with
  | array items =>
    change items.mapM (readPath configDir) = .ok paths ↔ _
    simp only [mapM_eq_ok_iff, readPath_eq_ok_iff, forall₂_exists_iff, Toml.Value.ofTexts,
      Toml.Value.array.injEq]
  | _ => simp [readPaths, Toml.Value.ofTexts]

theorem eq_of_readPaths_eq_error (fault : readPaths configDir value = .error e) :
    e = invalidPluginPaths := by
  cases value with
  | array items =>
    obtain ⟨item, -, fault⟩ := exists_of_mapM_eq_error fault
    exact eq_of_readPath_eq_error fault
  | _ => cases fault; rfl

theorem readPaths_eq_error_iff :
    readPaths configDir value = .error e ↔
      (∀ texts, value ≠ .ofTexts texts) ∧ e = invalidPluginPaths := by
  constructor
  · intro fault
    refine ⟨fun texts isList => ?_, eq_of_readPaths_eq_error fault⟩
    have read : readPaths configDir value = _ := readPaths_eq_ok_iff.2 ⟨texts, isList, rfl⟩
    cases read.symm.trans fault
  · rintro ⟨other, rfl⟩
    cases read : readPaths configDir value with
    | ok paths =>
      obtain ⟨texts, isList, -⟩ := readPaths_eq_ok_iff.1 read
      exact absurd isList (other texts)
    | error e => rw [eq_of_readPaths_eq_error read]

end Paths

/-- A config says what a document says, with text expanded. An identifier that is
no text counts as empty. -/
structure Describes (document : ConfigDocument) (configDir : String) (config : DefaultConfig) :
    Prop where
  settings : ∀ key,
    Option.Rel (ReadsAs configDir) (document.settings.get? key) (config.settings.get? key)
  uiDelegateSettings : ∀ key, Option.Rel (ReadsAs configDir)
    (document.uiDelegateSettings.get? key) (config.uiDelegateSettings.get? key)
  pluginPaths : Option.Rel
    (fun value paths => ∃ texts, value = .ofTexts texts ∧ paths = texts.map (expand configDir))
    document.pluginPaths config.pluginPaths
  identifier : (∃ text, document.identifier = some (.string text) ∧ config.identifier = text) ∨
    (∀ text, document.identifier ≠ some (.string text)) ∧ config.identifier = ""
  configDir : config.configDir = configDir

/-- The first fault of a document, in the order in which its parts are read. -/
inductive Refused (document : ConfigDocument) : AssetError → Prop
  | setting {key : String} (fault : FirstFault document.settings key) :
      Refused document (.configuration s!"Unsupported value type for '{key}'.")
  | uiDelegateSetting {key : String} (settings : AllSimple document.settings)
      (fault : FirstFault document.uiDelegateSettings key) :
      Refused document (.configuration s!"Unsupported value type for '{key}'.")
  | pluginPaths {value : Toml.Value} (settings : AllSimple document.settings)
      (uiDelegateSettings : AllSimple document.uiDelegateSettings)
      (given : document.pluginPaths = some value) (fault : ∀ texts, value ≠ .ofTexts texts) :
      Refused document
        (.configuration "Invalid 'plugin_paths' value, must be an array of strings.")

section Document

variable {document : ConfigDocument} {config : DefaultConfig} {e : AssetError}

theorem Refused.kind_eq (h : Refused document e) : e.kind = .configuration := by
  cases h <;> rfl

theorem eq_identifierOf_iff {value : Option Toml.Value} {identifier : String} :
    identifier = identifierOf value ↔
      (∃ text, value = some (.string text) ∧ identifier = text) ∨
        (∀ text, value ≠ some (.string text)) ∧ identifier = "" := by
  rcases value with _ | value
  · simp [identifierOf]
  · cases value <;> simp [identifierOf, Toml.Value.text?, eq_comm]

theorem ofDocument_eq_ok_iff :
    ofDocument document configDir = .ok config ↔ Describes document configDir config := by
  rw [ofDocument]
  simp only [except_bind_eq_ok_iff, readSettings_eq_ok_iff, option_mapM_eq_ok_iff,
    readPaths_eq_ok_iff]
  constructor
  · rintro ⟨settings, s, uiDelegateSettings, u, pluginPaths, p, built⟩
    cases built
    exact ⟨s, u, p, eq_identifierOf_iff.1 rfl, rfl⟩
  · rintro ⟨s, u, p, identifier, rfl⟩
    refine ⟨_, s, _, u, _, p, ?_⟩
    rw [← eq_identifierOf_iff.2 identifier]
    rfl

theorem ofDocument_eq_error_iff :
    ofDocument document configDir = .error e ↔ Refused document e := by
  rw [ofDocument]
  simp only [except_bind_eq_error_iff, readSettings_eq_error_iff, option_mapM_eq_error_iff,
    readPaths_eq_error_iff]
  constructor
  · rintro (⟨key, fault, rfl⟩ | ⟨settings, read, ⟨key, fault, rfl⟩ | ⟨uiDelegateSettings, readToo,
      ⟨value, given, other, rfl⟩ | ⟨pluginPaths, -, fault⟩⟩⟩)
    · exact .setting fault
    · exact .uiDelegateSetting ((exists_readSettings_iff configDir).1 ⟨_, read⟩) fault
    · exact .pluginPaths ((exists_readSettings_iff configDir).1 ⟨_, read⟩)
        ((exists_readSettings_iff configDir).1 ⟨_, readToo⟩) given other
    · cases fault
  · intro refused
    cases refused with
    | setting fault => exact .inl ⟨_, fault, rfl⟩
    | uiDelegateSetting settings fault =>
      obtain ⟨_, read⟩ := (exists_readSettings_iff configDir).2 settings
      exact .inr ⟨_, read, .inl ⟨_, fault, rfl⟩⟩
    | pluginPaths settings uiDelegateSettings given fault =>
      obtain ⟨_, read⟩ := (exists_readSettings_iff configDir).2 settings
      obtain ⟨_, readToo⟩ := (exists_readSettings_iff configDir).2 uiDelegateSettings
      exact .inr ⟨_, read, .inr ⟨_, readToo, .inl ⟨_, given, fault, rfl⟩⟩⟩

theorem exists_ofDocument_iff (configDir : String) :
    (∃ config, ofDocument document configDir = .ok config) ↔ document.WellTyped := by
  constructor
  · rintro ⟨config, read⟩
    have describes := ofDocument_eq_ok_iff.1 read
    refine ⟨allSimple_of_reads describes.settings, allSimple_of_reads describes.uiDelegateSettings,
      fun value given => ?_⟩
    have related := describes.pluginPaths
    rw [given] at related
    generalize config.pluginPaths = paths at related
    cases related with
    | some related =>
      obtain ⟨texts, isList, -⟩ := related
      exact ⟨texts, isList⟩
  · intro typed
    cases read : ofDocument document configDir with
    | ok config => exact ⟨config, rfl⟩
    | error e =>
      cases ofDocument_eq_error_iff.1 read with
      | setting fault =>
        obtain ⟨value, under, faulty⟩ := fault.here
        exact absurd (typed.settings _ value under) faulty
      | uiDelegateSetting _ fault =>
        obtain ⟨value, under, faulty⟩ := fault.here
        exact absurd (typed.uiDelegateSettings _ value under) faulty
      | pluginPaths _ _ given fault =>
        obtain ⟨texts, isList⟩ := typed.pluginPaths _ given
        exact absurd isList (fault texts)

end Document

variable {complaint : String → String}

theorem parse_of_parse? {text : String} {document : ConfigDocument}
    (parsed : ConfigDocument.parse? text = some document) (configDir : String) :
    parse complaint text configDir = ofDocument document configDir := by
  rw [parse, parsed, Option.elim_some]

theorem parse_eq_ok_iff {text : String} {config : DefaultConfig} :
    parse complaint text configDir = .ok config ↔
      ∃ document, ConfigDocument.parse? text = some document ∧
        Describes document configDir config := by
  rw [parse]
  cases ConfigDocument.parse? text with
  | none => simp
  | some document => simp [ofDocument_eq_ok_iff]

theorem parse_eq_error_iff {text : String} {e : AssetError} :
    parse complaint text configDir = .error e ↔
      ConfigDocument.parse? text = none ∧ e = unparsable (complaint text) ∨
        ∃ document, ConfigDocument.parse? text = some document ∧ Refused document e := by
  rw [parse]
  cases ConfigDocument.parse? text with
  | none => simp [eq_comm]
  | some document => simp [ofDocument_eq_error_iff]

/-- Text is read as a config exactly if its document is well typed, and then
without loss. Of any other document the first fault is reported, whatever other
faults there are. -/
theorem parse_reports_first_fault {text : String} {document : ConfigDocument}
    (parsed : ConfigDocument.parse? text = some document) (complaint : String → String)
    (configDir : String) :
    ((∃ config, parse complaint text configDir = .ok config) ↔ document.WellTyped) ∧
    (∀ config, parse complaint text configDir = .ok config ↔ Describes document configDir config) ∧
    (∀ e, parse complaint text configDir = .error e ↔ Refused document e) ∧
    ∀ e, Refused document e → e.kind = .configuration := by
  rw [parse_of_parse? parsed]
  exact ⟨exists_ofDocument_iff configDir, fun config => ofDocument_eq_ok_iff,
    fun e => ofDocument_eq_error_iff, fun e refused => refused.kind_eq⟩

/-- A document with a fault in each of its parts. The first fault in the order of
keys is not the first one written. -/
def faultyText : String :=
  "[uiDelegate.settings]\nc=[]\n[manager]\nplugin_paths=[1]\n"
    ++ "[manager.settings]\nz=[]\nb=[]\na=true\n"

def faultyDocument : ConfigDocument where
  pluginPaths := some (.array [.integer 1])
  settings := .ofList [("a", .boolean true), ("b", .array []), ("z", .array [])]
  uiDelegateSettings := .ofList [("c", .array [])]

theorem parse?_faultyText : ConfigDocument.parse? faultyText = some faultyDocument := by cbv

theorem parse_reports_first_fault_faultyText :
    ConfigDocument.parse? faultyText = some faultyDocument ∧
    parse (fun _ => "") faultyText "/d" = .error (.configuration "Unsupported value type for 'b'.") ∧
    ¬ faultyDocument.WellTyped := by
  obtain ⟨accepts, -, reports, -⟩ := parse_reports_first_fault parse?_faultyText (fun _ => "") "/d"
  have fault : FirstFault faultyDocument.settings "b" :=
    firstFault_iff.2 ⟨[("a", .boolean true)], .array [], [("z", .array [])], rfl, nofun,
      List.forall_mem_singleton.2 (.boolean true)⟩
  have reported := (reports _).2 (.setting fault)
  refine ⟨parse?_faultyText, reported, fun typed => ?_⟩
  obtain ⟨config, read⟩ := accepts.2 typed
  cases read.symm.trans reported

end DefaultConfig

end AssetLink
