import AssetLink.Plugin.Samples
import AssetLink.Proofs.Host.Starting

/-!
Where the default manager is looked for. The variable for search paths goes
before the paths of the config; whether it is set is what counts, and not whether
it lists anything.
-/

namespace AssetLink

namespace PluginSource

variable {c : Capability}

def search (c : Capability) (loaders : List Loader) (environmentVariable : String) (w : World)
    (directories : List String) : Logged Catalogue := do
  if directories = [] then Logged.log (.noSearchPaths environmentVariable)
  let registry ← Registry.scan ⟨loaders, {}⟩ w (some .scanning) directories
  let refusals := refusals c registry
  refusals.forM fun (identifier, path) => Logged.log (.unsupported c identifier path)
  return ⟨registry, .ofList (refusals.map fun (identifier, path) =>
    (identifier, c.refusal identifier path))⟩

theorem survey_eq_search (s : PluginSource c) (w : World) :
    s.survey w = search c s.loaders s.environmentVariable w (s.searchPaths w) := by
  rw [survey_eq, pathWarning, search]
  by_cases none : s.searchPaths w = []
  · rw [if_pos none, if_pos none]
    rfl
  · rw [if_neg none, if_neg none]
    rfl

end PluginSource

namespace Default

def managerFromDirectories (w : World) (config : DefaultConfig) (directories : List String) :
    Logged (Except (DefaultFailure .manager) Manager) := do
  let catalogue ← PluginSource.search .manager [.native] pluginPathVariable w directories
  match catalogue.instantiate .manager config.identifier with
  | .ok implementation => configureMade config.settings implementation
  | .error error => return .error { error }

theorem run_fromConfig_unqueried (w : World) (config : DefaultConfig) (paths : List String) :
    let s : PluginSource .manager := { paths }
    let made := (fromConfig (Provider.plugins .manager) w config).run.run s
    made.value.1 = (managerFromDirectories w config (s.searchPaths w)).value ∧
      made.events = (managerFromDirectories w config (s.searchPaths w)).events := by
  intro s made
  have scanned : PluginSource.obtain w s = (fun catalogue => (catalogue, s.known (some w))) <$>
      PluginSource.search .manager [.native] pluginPathVariable w (s.searchPaths w) := by
    have surveyed := PluginSource.obtain_known_none s w
    rw [PluginSource.survey_eq_search] at surveyed
    exact surveyed.trans (congrArg (Logged.mk _) (Logged.events_map _ _).symm)
  have steps : made = (fun outcome => (outcome, s.known (some w))) <$>
      managerFromDirectories w config (s.searchPaths w) := by
    rw [show made = _ from run_fromConfig _ w config s, PluginSource.run_instantiate_plugins,
      scanned, managerFromDirectories]
    simp only [bind_map_left, map_bind, bind_assoc, pure_bind]
    refine bind_congr fun catalogue => ?_
    cases catalogue.instantiate .manager config.identifier with
    | ok implementation => rfl
    | error error => rfl
  rw [steps]
  exact ⟨rfl, Logged.events_map _ _⟩

theorem valueOf?_pluginPathVariable (w : World) :
    w.valueOf? pluginPathVariable = w.environment.get? pluginPathVariable := by
  have whole : Text.splitFirst? '=' pluginPathVariable = none := by decide +kernel
  rw [World.valueOf?, whole]

theorem pluginSource_eq {config : DefaultConfig} {paths : List String}
    (given : config.pluginPaths = some paths) (w : World) :
    pluginSource w config =
      match w.valueOf? pluginPathVariable with
      | some _ => ⟨{}, [.pathsOverridden pluginPathVariable]⟩
      | none => ⟨{ paths }, []⟩ := by
  rw [pluginSource, given, valueOf?_pluginPathVariable]
  cases value : w.environment.get? pluginPathVariable with
  | none => simp [Dictionary.contains, value]; rfl
  | some value => simp [Dictionary.contains, value]; rfl

/-- The default manager for a config file comes from a search of these
directories, of all of them in this order and of no others, after these warnings
about the config. -/
structure Searches (w : World) (path : String) (config : DefaultConfig)
    (directories : List String) (warnings : List Event) : Prop where
  source : (pluginSource w config).events = warnings
  run : (managerFromPlugins w path).run.run () =
    let made := managerFromDirectories w config directories
    ⟨(made.value, ()), .loadingConfig .manager path :: (warnings ++ made.events)⟩

theorem searches {w : World} {path : String} {config : DefaultConfig} {warnings : List Event}
    {paths : List String} (load : DefaultConfig.read .manager w path = .ok config)
    (source : pluginSource w config = ⟨{ paths }, warnings⟩) :
    Searches w path config (({ paths } : PluginSource .manager).searchPaths w) warnings := by
  refine ⟨congrArg Logged.events source, ?_⟩
  obtain ⟨value, events⟩ := run_fromConfig_unqueried w config paths
  rw [run_managerFromPlugins, load]
  dsimp only
  rw [source, ← value, ← events]
  simp [bind, Logged.bind, Logged.log]

theorem searchPaths_of_unset {w : World} (unset : w.valueOf? pluginPathVariable = none)
    (paths : List String) :
    ({ paths } : PluginSource .manager).searchPaths w =
      paths.filter fun path => !path.isEmpty := by
  have effective := PluginSource.effective_searchPaths ({ paths } : PluginSource .manager) w
  cases paths with
  | nil => exact effective.unset rfl unset
  | cons first rest => exact effective.given (List.cons_ne_nil first rest)

theorem searchPaths_of_set {w : World} {value : String}
    (set : w.valueOf? pluginPathVariable = some value) :
    ({} : PluginSource .manager).searchPaths w =
      (Path.ofSearchList value).filter fun path => !path.isEmpty := by
  simp [PluginSource.searchPaths, set]

theorem managerFromDirectories_nil (w : World) (config : DefaultConfig) :
    managerFromDirectories w config [] =
      ⟨.error { error := Registry.unknown config.identifier },
        [.noSearchPaths pluginPathVariable]⟩ := rfl

section Trial

def trialConfig : DefaultConfig where
  identifier := "n"
  pluginPaths := some ["/p"]
  settings := {}
  uiDelegateSettings := {}
  configDir := "/"

def trialPlugin : Plugin :=
  Library.Sample.described .manager { id := "n" }

def trialHost (environment : Dictionary String) : World where
  root := .directory [
    ("c", .file (.ofText "[manager]\nidentifier = 'n'\nplugin_paths = ['/p']\n")),
    ("p", .directory [("a.so", .file (.ofLibrary (.exporting trialPlugin)))] [] none)] [] none
  environment

variable (environment : Dictionary String)

theorem read_trialHost :
    DefaultConfig.read .manager (trialHost environment) "/c" = .ok trialConfig := by cbv

theorem visits_trialHost : (trialHost environment).visits ["/p"] = [.entry "/p/a.so"] := by cbv

theorem visit_trialHost :
    Registry.visit (trialHost environment) (some .scanning) ⟨[.native], {}⟩ (.entry "/p/a.so") =
      ⟨⟨[.native], Dictionary.insert {} "n" ⟨"n", "/p/a.so", trialPlugin⟩⟩,
        [.loading "/p/a.so" "native", .libraryLoaded "/p/a.so", .registered "n" "/p/a.so"]⟩ := by
  have candidate : Loader.native.isCandidate (trialHost environment) "/p/a.so" = true := by
    change Loader.native.isCandidate (trialHost {}) "/p/a.so" = true
    decide +kernel
  have first : [Loader.native].find? (·.isCandidate (trialHost environment) "/p/a.so") =
      some .native := List.find?_cons_of_pos candidate
  have leads : (trialHost environment).position? "/p/a.so" = some ["p", "a.so"] := by
    change (trialHost {}).position? "/p/a.so" = _
    decide +kernel
  have opened : (trialHost environment).openLibrary "/p/a.so" = .ok (.exporting trialPlugin) :=
    World.openLibrary_of_find? (by decide +kernel) (by decide +kernel) (by decide +kernel) rfl
      leads rfl
  have load : (Loader.native.load (trialHost environment) (some .scanning) "/p/a.so").run =
      ⟨.ok ⟨"n", "/p/a.so", trialPlugin⟩, [.libraryLoaded "/p/a.so"]⟩ := by
    simp only [Loader.native, opened]
    rfl
  simp only [Registry.visit, Registry.visitEntry, Registry.offer, first, load]
  rfl

theorem managerFromDirectories_trialHost :
    (managerFromDirectories (trialHost environment) trialConfig ["/p"]).value.isOk = true := by
  simp only [managerFromDirectories, PluginSource.search, Registry.scan, visits_trialHost,
    List.foldlM_cons, List.foldlM_nil, visit_trialHost]
  rfl

end Trial

/-- Where the config lists paths, a variable that is set takes their place: its
components are searched, as far as they are not empty. So a variable that lists
nothing leaves nothing to be searched. -/
theorem variable_decides_searched_paths {w : World} {path : String} {config : DefaultConfig}
    {paths : List String} (load : DefaultConfig.read .manager w path = .ok config)
    (given : config.pluginPaths = some paths) :
    (∀ value, w.valueOf? pluginPathVariable = some value →
      Searches w path config ((Path.ofSearchList value).filter fun path => !path.isEmpty)
        [.pathsOverridden pluginPathVariable] ∧
      ":".intercalate (Path.ofSearchList value) = value ∧
      (∀ component ∈ Path.ofSearchList value, ':' ∉ component.toList)) ∧
    (w.valueOf? pluginPathVariable = none →
      Searches w path config (paths.filter fun path => !path.isEmpty) []) ∧
    (∀ value, w.valueOf? pluginPathVariable = some value →
      (∀ component ∈ Path.ofSearchList value, component = "") →
      (managerFromPlugins w path).run.run () =
        ⟨(.error { error := Registry.unknown config.identifier }, ()),
          [.loadingConfig .manager path, .pathsOverridden pluginPathVariable,
            .noSearchPaths pluginPathVariable]⟩) ∧
    (∀ name, (Event.pathsOverridden name).level = .warn ∧ (Event.pathsOverridden name).message =
      s!"{name} environment variable overrides plugin paths in config file") ∧
    ∀ name, (Event.noSearchPaths name).level = .warn ∧ (Event.noSearchPaths name).message =
      s!"No search paths specified, no plugins will load - check ${name} is set" := by
  have source := pluginSource_eq given w
  refine ⟨fun value set => ?_, fun unset => ?_, fun value set empty => ?_, fun _ => ⟨rfl, rfl⟩,
    fun _ => ⟨rfl, rfl⟩⟩
  · rw [set] at source
    have searched := searches load source
    rw [searchPaths_of_set set] at searched
    exact ⟨searched, Text.intercalate_pieces ':' value, fun _ => Text.not_mem_of_mem_pieces⟩
  · rw [unset] at source
    exact searchPaths_of_unset unset paths ▸ searches load source
  · rw [set] at source
    have searched := (searches load source).run
    have none : (Path.ofSearchList value).filter (fun path => !path.isEmpty) = [] := by
      simpa using empty
    rw [searchPaths_of_set set, none, managerFromDirectories_nil] at searched
    exact searched

/-- While the variable is unset, the manager is found where the config says; an
empty variable hides it. -/
theorem empty_variable_hides_listed_paths :
    let empty := trialHost (.ofList [(pluginPathVariable, "")])
    DefaultConfig.read .manager empty "/c" = .ok trialConfig ∧
    trialConfig.pluginPaths = some ["/p"] ∧
    empty.valueOf? pluginPathVariable = some "" ∧
    (managerFromDirectories empty trialConfig ["/p"]).value.isOk = true ∧
    Searches (trialHost {}) "/c" trialConfig ["/p"] [] ∧
    Searches empty "/c" trialConfig [] [.pathsOverridden pluginPathVariable] ∧
    ¬ ∃ warnings, Searches empty "/c" trialConfig ["/p"] warnings := by
  intro empty
  have load : DefaultConfig.read .manager empty "/c" = .ok trialConfig := read_trialHost _
  have set : empty.valueOf? pluginPathVariable = some "" := by decide +kernel
  have unset : (trialHost {}).valueOf? pluginPathVariable = none := by decide +kernel
  have given : trialConfig.pluginPaths = some ["/p"] := rfl
  have found := managerFromDirectories_trialHost (.ofList [(pluginPathVariable, "")])
  have listed : Searches (trialHost {}) "/c" trialConfig ["/p"] [] := by
    have source := pluginSource_eq given (trialHost {})
    rw [unset] at source
    exact searches (read_trialHost {}) source
  have hidden : Searches empty "/c" trialConfig [] [.pathsOverridden pluginPathVariable] := by
    have source := pluginSource_eq given empty
    rw [set] at source
    have searched := searches load source
    rw [searchPaths_of_set set] at searched
    exact searched
  refine ⟨load, given, set, found, listed, hidden, fun ⟨warnings, claimed⟩ => ?_⟩
  have same : (managerFromDirectories empty trialConfig ["/p"]).value =
      (managerFromDirectories empty trialConfig []).value :=
    congrArg (·.value.1) (claimed.run.symm.trans hidden.run)
  rw [same, managerFromDirectories_nil] at found
  cases found

theorem variable_decides_searched_paths_trialHost :
    let w := trialHost (.ofList [(pluginPathVariable, ":/q::/p")])
    DefaultConfig.read .manager w "/c" = .ok trialConfig ∧
    trialConfig.pluginPaths = some ["/p"] ∧
    w.valueOf? pluginPathVariable = some ":/q::/p" ∧
    Searches w "/c" trialConfig ["/q", "/p"] [.pathsOverridden pluginPathVariable] := by
  intro w
  have load : DefaultConfig.read .manager w "/c" = .ok trialConfig := read_trialHost _
  have set : w.valueOf? pluginPathVariable = some ":/q::/p" := by decide +kernel
  exact ⟨load, rfl, set, ((variable_decides_searched_paths load rfl).1 _ set).1⟩

end Default

end AssetLink
