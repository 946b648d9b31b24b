import AssetLink.Discovery.Loading

/-!
The plugins found on search paths. A scan looks at the paths in the order given
and at the entries of one directory in the order of their names; of several
plugins with one identifier the first found is kept.
-/

namespace AssetLink

inductive Visit
  | notDirectory (path : String)
  | unreadableDirectory (path fault : String)
  | unreadableEntry (directory fault : String)
  | entry (path : String)
deriving DecidableEq, Repr

namespace World

def sortedNames (names : List String) : List String :=
  names.mergeSort fun a b => decide (a ≤ b)

/-- What a scan of one directory comes upon. The entries that cannot be read
come first. -/
def visit (w : World) (directory : String) : List Visit :=
  if w.isDirectory directory then
    match w.contents directory with
    | .error fault => [.unreadableDirectory directory fault]
    | .ok contents =>
        contents.faults.map (Visit.unreadableEntry directory)
          ++ (sortedNames contents.names).map fun name => .entry (Path.join directory name)
  else [.notDirectory directory]

def visits (w : World) (paths : List String) : List Visit :=
  paths.flatMap w.visit

end World

structure Registry where
  loaders : List Loader
  plugins : Dictionary LoadedPlugin := {}

namespace Registry

def offer (loaders : List Loader) (w : World) (phase : Option ScanPhase) (path : String) :
    Logged (Option (Except LoadError LoadedPlugin)) := do
  match loaders.find? (·.isCandidate w path) with
  | none => return none
  | some loader =>
      Logged.log (.loading path loader.name)
      return some (← (loader.load w phase path).run)

def register (r : Registry) (loaded : LoadedPlugin) : Logged Registry := do
  match r.plugins.get? loaded.identifier with
  | some kept =>
      Logged.log (.duplicate loaded.identifier loaded.path kept.path)
      return r
  | none =>
      Logged.log (.registered loaded.identifier loaded.path)
      return { r with plugins := r.plugins.insert loaded.identifier loaded }

def visitEntry (w : World) (phase : Option ScanPhase) (r : Registry) (path : String) :
    Logged Registry := do
  match ← offer r.loaders w phase path with
  | some (.ok loaded) => r.register loaded
  | some (.error e) =>
      Logged.log (.ignored e)
      return r
  | none =>
      Logged.log (.unclaimed path)
      return r

def visit (w : World) (phase : Option ScanPhase) (r : Registry) : Visit → Logged Registry
  | .notDirectory path => do
      Logged.log (.notDirectory path)
      return r
  | .unreadableDirectory path fault => do
      Logged.log (.unreadableDirectory path fault)
      return r
  | .unreadableEntry directory fault => do
      Logged.log (.unreadableEntry directory fault)
      return r
  | .entry path => visitEntry w phase r path

def scan (r : Registry) (w : World) (phase : Option ScanPhase) (paths : List String) :
    Logged Registry :=
  (w.visits paths).foldlM (visit w phase) r

def reset (r : Registry) : Registry :=
  { r with plugins := {} }

def identifiers (r : Registry) : List String :=
  r.plugins.keys

def unknown (identifier : String) : AssetError :=
  .inputValidation s!"PluginSystem: No plug-in registered with the identifier '{identifier}'"

def plugin (r : Registry) (identifier : String) : Except AssetError LoadedPlugin :=
  (r.plugins.get? identifier).elim (.error (unknown identifier)) .ok

theorem visits_append (w : World) (p q : List String) :
    w.visits (p ++ q) = w.visits p ++ w.visits q := by
  simp [World.visits]

theorem scan_append (r : Registry) (w : World) (phase : Option ScanPhase) (p q : List String) :
    r.scan w phase (p ++ q) = r.scan w phase p >>= fun r => r.scan w phase q := by
  simp [scan, visits_append, List.foldlM_append]

end Registry

end AssetLink
