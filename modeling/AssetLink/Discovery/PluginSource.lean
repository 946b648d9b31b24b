import AssetLink.Discovery.Provider
import AssetLink.Discovery.Scan

/-!
Implementations from the plugins on search paths. A source scans the first time
that it is asked anything, and from then on answers from what it found, until it
is reset. The plugins that it found are taken to give the same answers at any time.
-/

namespace AssetLink

def pluginPathVariable : String := "ASSETIO_PLUGIN_PATH"

/-- What a scan left: the plugins found, and for those of them that cannot be
used why. -/
structure Catalogue where
  registry : Registry
  refused : Dictionary String

structure PluginSource (c : Capability) where
  /-- Paths to search in place of those that the environment lists. -/
  paths : List String := []
  environmentVariable : String := pluginPathVariable
  loaders : List Loader := [.native]
  catalogue : Option Catalogue := none
  isScanning : Bool := false

namespace PluginSource

variable {c : Capability}

instance : Inhabited (PluginSource c) := ⟨{}⟩

def phase (s : PluginSource c) : ScanPhase :=
  if s.catalogue.isSome then .scanned
  else if s.isScanning then .scanning
  else .unscanned

def reset (s : PluginSource c) : PluginSource c :=
  { s with catalogue := none }

/-- The paths to search that are not empty. The environment is asked only if no
path was given at all. -/
def searchPaths (s : PluginSource c) (w : World) : List String :=
  let paths :=
    if s.paths.isEmpty then (w.valueOf? s.environmentVariable).elim [] Path.ofSearchList
    else s.paths
  paths.filter fun path => !path.isEmpty

def refusals (c : Capability) (registry : Registry) : List (String × String) :=
  (registry.plugins.entries.filter fun entry => !entry.2.plugin.supports c).map fun entry =>
    (entry.1, entry.2.path)

def scan (s : PluginSource c) (w : World) : Logged Catalogue := do
  let paths := s.searchPaths w
  if paths.isEmpty then Logged.log (.noSearchPaths s.environmentVariable)
  let registry ← Registry.scan ⟨s.loaders, {}⟩ w (some s.phase) paths
  let refusals := refusals c registry
  refusals.forM fun (identifier, path) => Logged.log (.unsupported c identifier path)
  return ⟨registry, .ofList (refusals.map fun (identifier, path) =>
    (identifier, c.refusal identifier path))⟩

def obtain (w : World) : Act (PluginSource c) Catalogue := do
  match (← get).catalogue with
  | some catalogue => return catalogue
  | none =>
      modify fun s => { s with isScanning := true }
      let catalogue ← (← get).scan w
      modify fun s => { s with isScanning := false }
      modify fun s => { s with catalogue := some catalogue }
      return catalogue

theorem obtain_of_some {s : PluginSource c} {k : Catalogue} (h : s.catalogue = some k)
    (w : World) : obtain w s = pure (k, s) := by
  change (obtain w).run s = _
  simp [obtain, h]

theorem obtain_of_none {s : PluginSource c} (h : s.catalogue = none) (w : World) :
    obtain w s = do
      let k ← scan ({ s with isScanning := true } : PluginSource c) w
      return (k, { s with isScanning := false, catalogue := some k }) := by
  change (obtain w).run s = _
  simp [obtain, h]

end PluginSource

namespace Catalogue

def identifiers (k : Catalogue) : List String :=
  k.registry.identifiers.filter fun identifier => !k.refused.contains identifier

def instantiate (k : Catalogue) (c : Capability) (identifier : String) :
    Except AssetError (Implementation c) := do
  let loaded ← k.registry.plugin identifier
  match loaded.plugin.query c with
  | .ok made => made
  | .error _ => throw (.inputValidation (c.refusal identifier loaded.path))

end Catalogue

def Provider.plugins (c : Capability) : Provider (PluginSource c) (Implementation c) where
  identifiers w := do
    return (← PluginSource.obtain w).identifiers
  instantiate w identifier := do
    let catalogue ← (PluginSource.obtain w : Act (PluginSource c) Catalogue)
    Attempt.ofExcept (catalogue.instantiate c identifier)

/-- Sources of plugins side by side, each known by its place. -/
abbrev Shelf (c : Capability) := List (PluginSource c)

def Provider.shelved (c : Capability) (place : Nat) : Provider (Shelf c) (Implementation c) :=
  (Provider.plugins c).within (·.getD place {}) fun source shelf => shelf.set place source

end AssetLink
