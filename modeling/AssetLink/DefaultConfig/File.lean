import AssetLink.DefaultConfig.Basic
import AssetLink.Files.World

/-!
Reading the default config from a file, on behalf of the default manager or of
the default UI delegate. On whose behalf shows in messages and in nothing else.
-/

namespace AssetLink.DefaultConfig

def absent (c : Capability) (path : String) : AssetError :=
  .inputValidation
    s!"Could not load default {c.name} config from '{path}', file does not exist."

def isDirectory (c : Capability) (path : String) : AssetError :=
  .inputValidation (s!"Could not load default {c.name} config from '{path}', "
    ++ "must be a TOML file not a directory.")

def unreadable (c : Capability) (path fault : String) : AssetError :=
  .configuration s!"Could not read default {c.name} config from '{path}': {fault}"

/-- The config in a file; its directory is where links finally lead. -/
def read (c : Capability) (w : World) (path : String) : Except AssetError DefaultConfig := do
  if !w.isPresent path then throw (absent c path)
  if w.isDirectory path then throw (isDirectory c path)
  let text ← (w.readText path).mapError (unreadable c path)
  parse w.tomlComplaint text ((w.directoryOf? path).getD "")

def load (c : Capability) (w : World) (path : String) :
    ExceptT AssetError Logged DefaultConfig := do
  Logged.log (.loadingConfig c path)
  ExceptT.mk (pure (read c w path))

def settingsFor (config : DefaultConfig) : Capability → InfoDictionary
  | .manager => config.settings
  | .uiDelegate => config.uiDelegateSettings

end AssetLink.DefaultConfig
