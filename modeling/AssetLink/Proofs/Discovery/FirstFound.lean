import AssetLink.Discovery.DescriptionFile
import AssetLink.Proofs.Dictionary
import AssetLink.Proofs.Discovery.Visits

/-!
The registry that a scan leaves. Under an identifier stands what stood there
before, and otherwise the plugin of the first entry in the order of the scan
that was loaded under it.
-/

namespace AssetLink

theorem find?_filterMap_eq_some_iff {α β : Type} {f : α → Option β} {p : β → Bool}
    {xs : List α} {b : β} :
    (xs.filterMap f).find? p = some b ↔
      ∃ before x after, xs = before ++ x :: after ∧ f x = some b ∧ p b = true ∧
        ∀ y ∈ before, ∀ c, f y = some c → p c = false := by
  rw [List.find?_filterMap, Option.bind_eq_some_iff]
  simp only [List.find?_eq_some_iff_append]
  constructor
  · rintro ⟨x, ⟨accepted, before, after, rfl, earlier⟩, becomes⟩
    refine ⟨before, x, after, rfl, becomes, by simpa [becomes] using accepted, ?_⟩
    intro y member c other
    simpa [other] using earlier y member
  · rintro ⟨before, x, after, rfl, becomes, accepted, earlier⟩
    refine ⟨x, ⟨by simpa [becomes] using accepted, before, after, rfl, ?_⟩, becomes⟩
    intro y member
    cases other : f y with
    | none => rfl
    | some c => simp [earlier y member c other]

namespace Registry

variable {w : World} {phase : Option ScanPhase}

def yield? (loaders : List Loader) (w : World) (phase : Option ScanPhase) (path : String) :
    Option LoadedPlugin :=
  (loaders.find? (·.isCandidate w path)).bind fun loader =>
    (loader.load w phase path).run.value.toOption

def found (loaders : List Loader) (w : World) (phase : Option ScanPhase) (paths : List String) :
    List LoadedPlugin :=
  (w.entries paths).filterMap (yield? loaders w phase)

theorem yield?_eq_none {loaders : List Loader} {path : String}
    (unclaimed : ∀ loader ∈ loaders, loader.isCandidate w path = false) :
    yield? loaders w phase path = none := by
  rw [yield?, Loader.find?_eq_none_iff.2 unclaimed, Option.bind_none]

theorem yield?_of_isFirst {loaders : List Loader} {path : String} {loader : Loader}
    (first : Loader.IsFirst loaders w path loader) :
    yield? loaders w phase path = (loader.load w phase path).run.value.toOption := by
  rw [yield?, Loader.isFirst_iff.1 first, Option.bind_some]

theorem yield?_eq_some_iff {loaders : List Loader} {path : String} {loaded : LoadedPlugin} :
    yield? loaders w phase path = some loaded ↔
      ∃ loader, Loader.IsFirst loaders w path loader ∧
        (loader.load w phase path).run.value = .ok loaded := by
  simp only [yield?, Option.bind_eq_some_iff, Loader.isFirst_iff]
  refine exists_congr fun loader => and_congr_right fun _ => ?_
  cases (loader.load w phase path).run.value <;> simp [Except.toOption]

theorem get?_visited {r after : Registry} {v : Visit} {log : List Event}
    (h : Visited w phase r v log after) (identifier : String) :
    after.plugins.get? identifier =
      (r.plugins.get? identifier).or
        ((v.entry?.bind (yield? r.loaders w phase)).filter (·.identifier = identifier)) := by
  cases h with
  | unclaimed none => simp [Visit.entry?, yield?_eq_none none]
  | failed first load => simp [Visit.entry?, yield?_of_isFirst first, load, Except.toOption]
  | duplicate first load taken =>
    rename_i path loader loaded kept
    simp only [Visit.entry?, Option.bind_some, yield?_of_isFirst first, load, Except.toOption]
    by_cases same : loaded.identifier = identifier
    · rw [← same, taken, Option.some_or]
    · simp [Option.filter_some, same]
  | registered first load free =>
    rename_i path loader loaded
    simp only [Visit.entry?, Option.bind_some, yield?_of_isFirst first, load, Except.toOption]
    rw [Dictionary.get?_insert]
    by_cases same : loaded.identifier = identifier
    · subst same
      simp [Option.filter_some, free]
    · simp [Option.filter_some, same, Ne.symm same]
  | _ => simp [Visit.entry?]

theorem get?_scanned {r after : Registry} {visits : List Visit} {logs : List (List Event)}
    (h : Scanned w phase r visits logs after) (identifier : String) :
    after.plugins.get? identifier =
      (r.plugins.get? identifier).or
        (((visits.filterMap Visit.entry?).filterMap (yield? r.loaders w phase)).find?
          (·.identifier = identifier)) := by
  induction h with
  | nil => simp
  | @cons r middle after v rest log logs first _ ih =>
    rw [ih, loaders_visited first, get?_visited first, Option.or_assoc]
    congr 1
    cases entry : v.entry? with
    | none => simp [entry]
    | some path =>
      cases becomes : yield? r.loaders w phase path with
      | none => simp [entry, becomes]
      | some loaded =>
        by_cases same : loaded.identifier = identifier <;>
          simp [entry, becomes, same, Option.filter_some]

theorem get?_scan (r : Registry) (w : World) (phase : Option ScanPhase) (paths : List String)
    (identifier : String) :
    (r.scan w phase paths).value.plugins.get? identifier =
      (r.plugins.get? identifier).or
        ((found r.loaders w phase paths).find? (·.identifier = identifier)) := by
  obtain ⟨logs, h, _⟩ := scanned_foldlM w phase r (w.visits paths)
  rw [scan, get?_scanned h, World.filterMap_entry?_visits, found]

/-- The first loader that understands an entry loads it as this plugin. -/
def Yields (loaders : List Loader) (w : World) (phase : Option ScanPhase) (path : String)
    (loaded : LoadedPlugin) : Prop :=
  ∃ loader, Loader.IsFirst loaders w path loader ∧
    (loader.load w phase path).run.value = .ok loaded

theorem Yields.unique {loaders : List Loader} {path : String} {loaded other : LoadedPlugin}
    (h : Yields loaders w phase path loaded) (h' : Yields loaders w phase path other) :
    loaded = other :=
  Option.some.inj ((yield?_eq_some_iff.2 h).symm.trans (yield?_eq_some_iff.2 h'))

/-- An entry that is loaded under an identifier after others none of which is. -/
def FirstYield (loaders : List Loader) (w : World) (phase : Option ScanPhase)
    (entries : List String) (identifier : String) (loaded : LoadedPlugin) : Prop :=
  ∃ before path after, entries = before ++ path :: after ∧
    Yields loaders w phase path loaded ∧ loaded.identifier = identifier ∧
    ∀ other ∈ before, ∀ earlier, Yields loaders w phase other earlier →
      earlier.identifier ≠ identifier

theorem find?_found_eq_some_iff {loaders : List Loader} {paths : List String}
    {identifier : String} {loaded : LoadedPlugin} :
    (found loaders w phase paths).find? (·.identifier = identifier) = some loaded ↔
      FirstYield loaders w phase (w.entries paths) identifier loaded := by
  rw [found, find?_filterMap_eq_some_iff, FirstYield]
  simp only [Yields, ← yield?_eq_some_iff, decide_eq_true_eq, decide_eq_false_iff_not, ne_eq]

/-- The registries that hosts can come to have. -/
inductive Reachable : Registry → Prop
  | new (loaders : List Loader) : Reachable ⟨loaders, {}⟩
  | withLoaders {r : Registry} (more : List Loader) (from_ : Reachable r) :
      Reachable { r with loaders := r.loaders ++ more }
  | scan {r : Registry} (w : World) (phase : Option ScanPhase) (paths : List String)
      (from_ : Reachable r) : Reachable (r.scan w phase paths).value
  | reset {r : Registry} (from_ : Reachable r) : Reachable r.reset

def Keyed (r : Registry) : Prop :=
  ∀ identifier loaded, r.plugins.get? identifier = some loaded → loaded.identifier = identifier

theorem keyed_scan {r : Registry} (keyed : r.Keyed) (w : World) (phase : Option ScanPhase)
    (paths : List String) : (r.scan w phase paths).value.Keyed := by
  intro identifier loaded h
  rw [get?_scan, Option.or_eq_some_iff] at h
  rcases h with kept | ⟨_, first⟩
  · exact keyed identifier loaded kept
  · simpa using List.find?_some first

theorem keyed_of_reachable {r : Registry} (h : Reachable r) : r.Keyed := by
  induction h with
  | new loaders =>
    intro identifier loaded none
    cases none
  | withLoaders _ _ ih => exact ih
  | scan w phase paths _ ih => exact keyed_scan ih w phase paths
  | reset _ _ =>
    intro identifier loaded none
    cases none

theorem mem_found_iff {loaders : List Loader} {paths : List String} {loaded : LoadedPlugin} :
    loaded ∈ found loaders w phase paths ↔
      ∃ path ∈ w.entries paths, Yields loaders w phase path loaded := by
  simp only [found, List.mem_filterMap, yield?_eq_some_iff, Yields]

theorem contains_scan_iff (r : Registry) (w : World) (phase : Option ScanPhase)
    (paths : List String) (identifier : String) :
    (r.scan w phase paths).value.plugins.contains identifier = true ↔
      r.plugins.contains identifier = true ∨
        ∃ loaded ∈ found r.loaders w phase paths, loaded.identifier = identifier := by
  rw [Dictionary.contains, get?_scan, Option.isSome_or, Bool.or_eq_true, List.find?_isSome]
  simp only [decide_eq_true_eq, Dictionary.contains]

theorem plugin_eq_ok_iff {r : Registry} {identifier : String} {loaded : LoadedPlugin} :
    r.plugin identifier = .ok loaded ↔ r.plugins.get? identifier = some loaded := by
  rw [plugin]
  cases r.plugins.get? identifier <;> simp

theorem plugin_of_none {r : Registry} {identifier : String}
    (free : r.plugins.get? identifier = none) :
    r.plugin identifier = .error (unknown identifier) := by
  rw [plugin, free]
  rfl

/-- What a registry tells about an identifier. -/
structure Tells (r : Registry) (identifier : String) : Prop where
  listed : identifier ∈ r.identifiers ↔ r.plugins.contains identifier = true
  held : ∀ loaded, r.plugin identifier = .ok loaded ↔ r.plugins.get? identifier = some loaded
  unknown : r.plugins.get? identifier = none →
    r.plugin identifier = .error (.inputValidation
      s!"PluginSystem: No plug-in registered with the identifier '{identifier}'")

theorem tells (r : Registry) (identifier : String) : r.Tells identifier where
  listed := Dictionary.mem_keys_iff.trans Dictionary.contains_iff.symm
  held _ := plugin_eq_ok_iff
  unknown := plugin_of_none

/-- A scan keeps what is registered and adds, under each identifier that is
free, the plugin of the first entry that is loaded under it. -/
theorem scan_registers_first_found (r : Registry) (w : World) (phase : Option ScanPhase)
    (paths : List String) :
    (∀ identifier, (r.scan w phase paths).value.plugins.contains identifier = true ↔
      r.plugins.contains identifier = true ∨
        ∃ path ∈ w.entries paths, ∃ loaded, Yields r.loaders w phase path loaded ∧
          loaded.identifier = identifier) ∧
    (∀ identifier kept, r.plugins.get? identifier = some kept →
      (r.scan w phase paths).value.plugins.get? identifier = some kept) ∧
    (∀ identifier, r.plugins.get? identifier = none → ∀ loaded,
      (r.scan w phase paths).value.plugins.get? identifier = some loaded ↔
        FirstYield r.loaders w phase (w.entries paths) identifier loaded) ∧
    (w.visits paths).filterMap Visit.entry? =
      paths.flatMap (fun directory => (w.entryNames directory).map (Path.join directory)) ∧
    (∀ directory, w.isDirectory directory = false ∨ (∃ fault, w.contents directory = .error fault) →
      w.entryNames directory = []) ∧
    (∀ directory contents, w.isDirectory directory = true →
      w.contents directory = .ok contents →
      (w.entryNames directory).Perm contents.names ∧
        (w.entryNames directory).Pairwise fun a b => Text.bytes a ≤ Text.bytes b) ∧
    (∃ logs, Scanned w phase r (w.visits paths) logs (r.scan w phase paths).value ∧
      (r.scan w phase paths).events = logs.flatten) ∧
    (∀ (reached : Registry) (identifier : String), reached.Tells identifier) ∧
    ∀ reached : Registry, reached.Reachable →
      (∀ identifier loaded, reached.plugins.get? identifier = some loaded →
        loaded.identifier = identifier) ∧
      reached.identifiers.Pairwise (· < ·) := by
  refine ⟨fun identifier => ?_, fun identifier kept taken => ?_, fun identifier free loaded => ?_,
    World.filterMap_entry?_visits w paths, ?_, fun directory contents present readable => ?_,
    scanned_foldlM w phase r (w.visits paths), tells, fun reached h =>
      ⟨keyed_of_reachable h, reached.plugins.keys_sorted⟩⟩
  · simp only [contains_scan_iff, mem_found_iff]
    grind
  · rw [get?_scan, taken, Option.some_or]
  · rw [get?_scan, free, Option.none_or, find?_found_eq_some_iff]
  · rintro directory (missing | ⟨fault, unreadable⟩)
    · rw [World.entryNames, missing]
      rfl
    · rw [World.entryNames, unreadable]
      split <;> rfl
  · have names : w.entryNames directory = World.sortedNames contents.names := by
      rw [World.entryNames, present, readable]
      rfl
    rw [names]
    exact ⟨World.sortedNames_perm _, World.sortedNames_sorted _⟩

theorem yields_describing {name extension path text : String} {position : List String}
    {plugin : Plugin} (kind identifier : String) (candidate : Path.extension? path = some extension)
    (leads : w.position? path = some position)
    (there : w.root.find? position = some (.file (.ofText text)))
    (ofKind : (DescriptionFile.ofText text).kind = kind)
    (ofIdentifier : (DescriptionFile.ofText text).identifier = identifier)
    (known : DescriptionFile.plugin? ⟨kind, identifier⟩ = some plugin)
    (named : plugin.identifier.isEmpty = false) :
    Yields [.describing name extension false] w phase path
      ⟨plugin.identifier, path, plugin⟩ := by
  have accepts : (Loader.describing name extension false).isCandidate w path = true := by
    simpa [Loader.describing] using candidate
  have read : w.readText path = .ok text := by
    rw [World.readText, World.node?, leads, Option.bind_some, there]
    rfl
  have content : DescriptionFile.ofText text = ⟨kind, identifier⟩ := by
    rw [← ofKind, ← ofIdentifier]
  have made : LoadedPlugin.ofPlugin path plugin = .ok ⟨plugin.identifier, path, plugin⟩ := by
    rw [LoadedPlugin.ofPlugin, named]
    rfl
  refine ⟨.describing name extension false, ⟨[], [], rfl, accepts, by simp⟩, ?_⟩
  simp [Loader.describing, read, content, known, made]

/-- Two directories, each with a plugin of the same identifier: the first makes a
UI delegate, the second a manager. -/
def twoDirectories : World where
  root := .directory [
    ("a", .directory [("x.plugin", .file (.ofText "kind=ui\nidentifier=p"))] [] none),
    ("b", .directory [("x.plugin", .file (.ofText "kind=manager\nidentifier=p"))] [] none)] [] none

theorem entries_twoDirectories :
    twoDirectories.entries ["/a", "/b"] = ["/a/x.plugin", "/b/x.plugin"] := by
  have leadsA : twoDirectories.position? "/a" = some ["a"] := by decide +kernel
  have leadsB : twoDirectories.position? "/b" = some ["b"] := by decide +kernel
  have a : twoDirectories.entryNames "/a" = World.sortedNames ["x.plugin"] :=
    World.entryNames_of_find? leadsA rfl
  have b : twoDirectories.entryNames "/b" = World.sortedNames ["x.plugin"] :=
    World.entryNames_of_find? leadsB rfl
  rw [World.entries, List.flatMap_cons, List.flatMap_singleton, a, b, World.sortedNames,
    List.mergeSort_singleton]
  decide +kernel

theorem scan_twoDirectories :
    let r : Registry := ⟨[.describing "stub" "plugin" false], {}⟩
    let after := (r.scan twoDirectories none ["/a", "/b"]).value
    ∃ loaded, after.plugins.get? "p" = some loaded ∧ loaded.path = "/a/x.plugin" ∧
      after.plugin "p" = .ok loaded ∧ "p" ∈ after.identifiers := by
  intro r after
  have leads : twoDirectories.position? "/a/x.plugin" = some ["a", "x.plugin"] := by
    decide +kernel
  have yields : Yields r.loaders twoDirectories none "/a/x.plugin" _ :=
    yields_describing "ui" "p" (by decide +kernel) leads rfl (by decide +kernel)
      (by decide +kernel) rfl rfl
  obtain ⟨-, -, registers, -, -, -, -, tells, -⟩ :=
    scan_registers_first_found r twoDirectories none ["/a", "/b"]
  have first : FirstYield r.loaders twoDirectories none (twoDirectories.entries ["/a", "/b"]) "p" _ :=
    ⟨[], "/a/x.plugin", ["/b/x.plugin"], entries_twoDirectories, yields, rfl, by simp⟩
  have registered := (registers "p" rfl _).2 first
  obtain ⟨listed, held, -⟩ := tells after "p"
  refine ⟨_, registered, rfl, (held _).2 registered, listed.2 ?_⟩
  rw [Dictionary.contains, registered]
  rfl

end Registry

end AssetLink
