import Mathlib
import AssetLink.Proofs.DefaultConfig.Faults
import AssetLink.Proofs.Text.Replacing

/-!
Where the directory of a config stands in it. It takes the place of every
placeholder in texts of the settings and in plugin paths, once and for all; keys,
the identifier and all other values are left alone.
-/

namespace AssetLink

/-- A place for text that may refer to the directory. -/
inductive TextPlace
  | setting (key : String)
  | uiDelegateSetting (key : String)
  | pluginPath (index : Nat)

/-- A setting that is no text, as it is read. -/
def Toml.Value.untouched? : Toml.Value → Option PropertyValue
  | .integer n => some (.int n)
  | .float x => some (.float x)
  | .boolean b => some (.bool b)
  | _ => none

def ConfigDocument.textAt? (document : ConfigDocument) : TextPlace → Option String
  | .setting key => (document.settings.get? key).bind (·.text?)
  | .uiDelegateSetting key => (document.uiDelegateSettings.get? key).bind (·.text?)
  | .pluginPath index =>
      match document.pluginPaths with
      | some (.array items) => items[index]?.bind (·.text?)
      | _ => none

namespace DefaultConfig

variable {document : ConfigDocument} {configDir : String} {config : DefaultConfig}
  {complaint : String → String}

def textAt? (config : DefaultConfig) : TextPlace → Option String
  | .setting key => (config.settings.get? key).bind (·.asStr?)
  | .uiDelegateSetting key => (config.uiDelegateSettings.get? key).bind (·.asStr?)
  | .pluginPath index => config.pluginPaths.bind (·[index]?)

/-- All placeholders of a text are replaced by the directory. -/
def Expanded (configDir text expanded : String) : Prop :=
  Text.Replaced configDirPlaceholder.toList configDir.toList text.toList expanded.toList

theorem expanded_iff {text expanded : String} :
    Expanded configDir text expanded ↔ expanded = expand configDir text := by
  rw [Expanded, Text.replaced_iff (by decide), expand, Text.replaceAll, ← String.toList_inj,
    String.toList_ofList]

theorem expand_of_absent {text : String}
    (absent : ¬ configDirPlaceholder.toList <:+: text.toList) (configDir : String) :
    expand configDir text = text := by
  rw [expand, Text.replaceAll, Text.replaceAfter_of_absent absent, String.ofList_toList]

section Settings

variable {value : Option Toml.Value} {setting : Option PropertyValue}

theorem untouched?_of_reads (reads : Option.Rel (ReadsAs configDir) value setting) :
    setting.filter (·.asStr? = none) = value.bind (·.untouched?) := by
  cases reads with
  | none => rfl
  | some reads => cases reads <;> rfl

theorem asStr?_of_reads (reads : Option.Rel (ReadsAs configDir) value setting) :
    setting.bind (·.asStr?) = (value.bind (·.text?)).map (expand configDir) := by
  cases reads with
  | none => rfl
  | some reads => cases reads <;> rfl

end Settings

theorem Describes.textAt?_eq (h : Describes document configDir config) (place : TextPlace) :
    config.textAt? place = (document.textAt? place).map (expand configDir) := by
  cases place with
  | setting key => exact asStr?_of_reads (h.settings key)
  | uiDelegateSetting key => exact asStr?_of_reads (h.uiDelegateSettings key)
  | pluginPath index =>
    have related := h.pluginPaths
    rw [textAt?, ConfigDocument.textAt?]
    generalize document.pluginPaths = given at related
    generalize config.pluginPaths = paths at related
    cases related with
    | none => rfl
    | some related =>
      obtain ⟨texts, rfl, rfl⟩ := related
      simp [Toml.Value.ofTexts, Option.bind_map, Toml.Value.text?]

/-- An accepted config has, at every place for text, the text of the document with
its placeholders replaced in one pass, and differs from the document in nothing
else. A directory that can neither complete a placeholder nor begin one leaves
none. -/
theorem expansion_is_single_pass {text : String}
    (parsed : ConfigDocument.parse? text = some document)
    (accepted : parse complaint text configDir = .ok config) :
    (∀ place, (document.textAt? place = none → config.textAt? place = none) ∧
      ∀ raw, document.textAt? place = some raw →
        ∀ expanded, config.textAt? place = some expanded ↔ Expanded configDir raw expanded) ∧
    config.settings.keys = document.settings.keys ∧
    config.uiDelegateSettings.keys = document.uiDelegateSettings.keys ∧
    (∀ identifier, document.identifier = some (.string identifier) →
      config.identifier = identifier) ∧
    (∀ key, (config.settings.get? key).filter (·.asStr? = none) =
      (document.settings.get? key).bind (·.untouched?)) ∧
    (∀ key, (config.uiDelegateSettings.get? key).filter (·.asStr? = none) =
      (document.uiDelegateSettings.get? key).bind (·.untouched?)) ∧
    ((∃ rest, configDir.toList = '/' :: rest) → '$' ∉ configDir.toList →
      ∀ place expanded, config.textAt? place = some expanded →
        ¬ configDirPlaceholder.toList <:+: expanded.toList ∧
          ∀ other, expand other expanded = expanded) := by
  rw [parse_of_parse? parsed, ofDocument_eq_ok_iff] at accepted
  refine ⟨fun place => ⟨fun absent => ?_, fun raw there expanded => ?_⟩,
    (Dictionary.keys_eq_of_rel accepted.settings).symm,
    (Dictionary.keys_eq_of_rel accepted.uiDelegateSettings).symm, fun identifier given => ?_,
    fun key => untouched?_of_reads (accepted.settings key),
    fun key => untouched?_of_reads (accepted.uiDelegateSettings key), ?_⟩
  · rw [accepted.textAt?_eq, absent, Option.map_none]
  · rw [accepted.textAt?_eq, there, Option.map_some, Option.some.injEq, expanded_iff, eq_comm]
  · rcases accepted.identifier with ⟨name, isText, same⟩ | ⟨noText, -⟩
    · cases isText.symm.trans given
      exact same
    · exact absurd given (noText identifier)
  · rintro ⟨rest, opening⟩ lacks place expanded there
    rw [accepted.textAt?_eq, Option.map_eq_some_iff] at there
    obtain ⟨raw, -, rfl⟩ := there
    have replaced := expanded_iff.2 (rfl : expand configDir raw = _)
    rw [Expanded, opening] at replaced
    rw [opening] at lacks
    have absent := replaced.not_infix (by decide) lacks
    exact ⟨absent, expand_of_absent absent⟩

-- Otherwise a directory may complete a placeholder with the text around it.
example : expand "$" "$\x7bconfig_dir\x7d\x7bconfig_dir\x7d" = "$\x7bconfig_dir\x7d" := by
  decide +kernel

def placedText : String :=
  "[manager]\nidentifier='$\x7bconfig_dir\x7d'\nplugin_paths=['$\x7bconfig_dir\x7d/p']\n"
    ++ "[manager.settings]\na='$\x7bconfig_dir\x7d$\x7bconfig_dir\x7d'\nb=1\n"

def placedDocument : ConfigDocument where
  identifier := some (.string "$\x7bconfig_dir\x7d")
  pluginPaths := some (.ofTexts ["$\x7bconfig_dir\x7d/p"])
  settings := .ofList [
    ("a", .string "$\x7bconfig_dir\x7d$\x7bconfig_dir\x7d"), ("b", .integer 1)]

def placedConfig : DefaultConfig where
  identifier := "$\x7bconfig_dir\x7d"
  pluginPaths := some ["/d/p"]
  settings := .ofList [("a", .str "/d/d"), ("b", .int 1)]
  uiDelegateSettings := {}
  configDir := "/d"

theorem parse?_placedText : ConfigDocument.parse? placedText = some placedDocument := by cbv

theorem parse_placedText (complaint : String → String) :
    parse complaint placedText "/d" = .ok placedConfig := by
  rw [parse_of_parse? parse?_placedText]
  cbv

theorem expansion_is_single_pass_placedText :
    ConfigDocument.parse? placedText = some placedDocument ∧
    parse (fun _ => "") placedText "/d" = .ok placedConfig ∧
    Expanded "/d" "$\x7bconfig_dir\x7d$\x7bconfig_dir\x7d" "/d/d" ∧
    placedConfig.identifier = "$\x7bconfig_dir\x7d" ∧
    (∃ rest, "/d".toList = '/' :: rest) ∧ '$' ∉ "/d".toList ∧
    ¬ configDirPlaceholder.toList <:+: "/d/p".toList ∧ expand "/e" "/d/p" = "/d/p" := by
  obtain ⟨texts, -, -, identifier, -, -, again⟩ :=
    expansion_is_single_pass parse?_placedText (parse_placedText fun _ => "")
  have expanded := ((texts (.setting "a")).2 _ rfl _).1 rfl
  obtain ⟨absent, same⟩ := again ⟨['d'], rfl⟩ (by decide) (.pluginPath 0) "/d/p" rfl
  exact ⟨parse?_placedText, parse_placedText _, expanded, identifier _ rfl, ⟨['d'], rfl⟩, by decide,
    absent, same "/e"⟩

end DefaultConfig

end AssetLink
