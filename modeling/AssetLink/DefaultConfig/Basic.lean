import AssetLink.DefaultConfig.Document
import AssetLink.PropertyValue
import AssetLink.Text.Placeholder

/-!
The default config. It gives a manager's identifier, paths on which to look for
plugins, and settings for the manager and for its UI delegate. Text settings and
paths may refer to the directory of the file that it was read from.
-/

namespace AssetLink

def configDirPlaceholder : String := "$\x7bconfig_dir\x7d"

def defaultConfigVariable : String := "ASSETIO_DEFAULT_CONFIG"

structure DefaultConfig where
  identifier : String
  pluginPaths : Option (List String)
  settings : InfoDictionary
  uiDelegateSettings : InfoDictionary
  configDir : String
deriving DecidableEq

namespace DefaultConfig

def unparsable (complaint : String) : AssetError :=
  .configuration s!"Error parsing config file. {complaint}"

def unsupportedSetting (key : String) : AssetError :=
  .configuration s!"Unsupported value type for '{key}'."

def invalidPluginPaths : AssetError :=
  .configuration "Invalid 'plugin_paths' value, must be an array of strings."

def expand (configDir text : String) : String :=
  Text.replaceAll configDirPlaceholder configDir text

def readSetting (configDir key : String) : Toml.Value → Except AssetError PropertyValue
  | .string text => .ok (.str (expand configDir text))
  | .integer value => .ok (.int value)
  | .float value => .ok (.float value)
  | .boolean value => .ok (.bool value)
  | _ => .error (unsupportedSetting key)

/-- The settings of a table; of several that are not supported the first in key
order is reported. -/
def readSettings (configDir : String) (table : Dictionary Toml.Value) :
    Except AssetError InfoDictionary := do
  let entries ← table.entries.mapM fun (key, value) => return (key, ← readSetting configDir key value)
  return .ofList entries

def readPaths (configDir : String) : Toml.Value → Except AssetError (List String)
  | .array items =>
      items.mapM fun item =>
        item.text?.elim (.error invalidPluginPaths) fun text => .ok (expand configDir text)
  | _ => .error invalidPluginPaths

/-- An identifier that is not a string counts as empty, and chooses no
manager. -/
def identifierOf (value : Option Toml.Value) : String :=
  (value.bind (·.text?)).getD ""

def ofDocument (document : ConfigDocument) (configDir : String) :
    Except AssetError DefaultConfig := do
  let settings ← readSettings configDir document.settings
  let uiDelegateSettings ← readSettings configDir document.uiDelegateSettings
  let pluginPaths ← document.pluginPaths.mapM (readPaths configDir)
  return ⟨identifierOf document.identifier, pluginPaths, settings, uiDelegateSettings, configDir⟩

/-- Read the text of a file in `configDir`. What the TOML reader says of a text that
it does not accept is handed on. -/
def parse (complaint : String → String) (text configDir : String) :
    Except AssetError DefaultConfig :=
  (ConfigDocument.parse? text).elim (.error (unparsable (complaint text)))
    (ofDocument · configDir)

end DefaultConfig

end AssetLink
