import AssetLink.Discovery.PluginSource
import AssetLink.DefaultConfig.File
import AssetLink.Host.Held

/-!
The default manager and the default UI delegate, made and configured as the
default config says. Each step is taken only if the one before succeeded.
-/

namespace AssetLink

/-- Why there is no default implementation. One that was made and could not be
configured was given up; it is kept as it was left. -/
structure DefaultFailure (c : Capability) where
  error : AssetError
  abandoned : Option (Held c) := none

abbrev Starting (σ : Type) (c : Capability) (α : Type) := ExceptT (DefaultFailure c) (Act σ) α

namespace Starting

variable {σ α : Type} {c : Capability}

def ofAttempt (attempt : Attempt σ α) : Starting σ c α :=
  ExceptT.mk do return (← attempt.run).mapError fun error => { error }

end Starting

namespace Default

variable {σ : Type} {c : Capability}

def fromConfig (provider : Provider σ (Implementation c)) (w : World) (config : DefaultConfig) :
    Starting σ c (Held c) := do
  let implementation ← Starting.ofAttempt (provider.instantiate w config.identifier)
  let (answer, held) ←
    ((Held.configure (config.settingsFor c)).run ⟨implementation, []⟩ : Logged _)
  match answer with
  | .ok () => return held
  | .error error =>
      let ((), abandoned) ← (Held.release c held : Logged _)
      throw { error, abandoned := some abandoned }

def loadConfig (w : World) (path : String) : Starting σ c DefaultConfig :=
  Starting.ofAttempt (ExceptT.mk ((DefaultConfig.load c w path).run : Logged _))

def fromFile (provider : Provider σ (Implementation c)) (w : World) (path : String) :
    Starting σ c (Held c) := do
  fromConfig provider w (← loadConfig w path)

def configPath (c : Capability) (w : World) : Logged (Option String) := do
  match w.valueOf? defaultConfigVariable with
  | none =>
      Logged.log (.configUnset c defaultConfigVariable)
      return none
  | some path =>
      Logged.log (.configFound c defaultConfigVariable)
      return some path

def fromEnvironment (provider : Provider σ (Implementation c)) (w : World) :
    Starting σ c (Option (Held c)) := do
  match ← (configPath c w : Logged _) with
  | none => return none
  | some path => return some (← fromFile provider w path)

/-- Where to look for the manager's plugin: on the paths of the environment if
it has any variable for them, else on those of the config. -/
def pluginSource (w : World) (config : DefaultConfig) : Logged (PluginSource .manager) := do
  match config.pluginPaths with
  | none => return {}
  | some paths =>
      if w.environment.contains pluginPathVariable then
        Logged.log (.pathsOverridden pluginPathVariable)
        return {}
      else return { paths }

def managerFromPlugins (w : World) (path : String) : Starting Unit .manager Manager := do
  let config ← loadConfig w path
  let source ← (pluginSource w config : Logged _)
  ExceptT.mk fun s => do
    let (outcome, _) ← (fromConfig (Provider.plugins .manager) w config).run source
    return (outcome, s)

def managerFromEnvironment (w : World) : Starting Unit .manager (Option Manager) := do
  match ← (configPath .manager w : Logged _) with
  | none => return none
  | some path => return some (← managerFromPlugins w path)

end Default

end AssetLink
