import AssetLink.Proofs.Discovery.Offers

/-!
Scanning on. What is registered stays, whatever is scanned after it, and several
scans come to the same as one of all their directories. A directory that was
scanned has nothing to add: every plugin that its entries become has its
identifier taken.
-/

namespace AssetLink

namespace World

theorem node?_keepLibrary (w : World) (library path : String) :
    (w.keepLibrary library).node? path = w.node? path := by
  unfold keepLibrary
  cases w.openLibrary library <;> rfl

theorem entryNames_keepLibrary (w : World) (library directory : String) :
    (w.keepLibrary library).entryNames directory = w.entryNames directory := by
  have contents : (w.keepLibrary library).contents directory = w.contents directory := by
    rw [World.contents, World.contents, node?_keepLibrary]
  rw [entryNames, isDirectory, node?_keepLibrary, contents]
  rfl

theorem afterEvents_eq_of_keepLibrary {α : Type} {f : World → α}
    (kept : ∀ w library, f (w.keepLibrary library) = f w) (w : World) (events : List Event) :
    f (w.afterEvents events) = f w := by
  induction events generalizing w with
  | nil => rfl
  | cons e rest ih =>
      rw [afterEvents, List.foldl_cons]
      refine (ih _).trans ?_
      cases e with
      | libraryLoaded path => exact kept w path
      | _ => rfl

end World

/-- A loader that makes the same of a file whatever libraries stay loaded. -/
structure Loader.Steady (loader : Loader) : Prop where
  isCandidate : ∀ w library path,
    loader.isCandidate (w.keepLibrary library) path = loader.isCandidate w path
  load : ∀ w library phase path,
    loader.load (w.keepLibrary library) phase path = loader.load w phase path

theorem Loader.steady_native : native.Steady where
  isCandidate w library path := by
    simp only [native, World.isFile, World.node?_keepLibrary]
  load w library phase path := by
    simp only [native, World.openLibrary_keepLibrary]

theorem Loader.steady_describing (name extension : String) (asking : Bool) :
    (describing name extension asking).Steady where
  isCandidate w library path := rfl
  load w library phase path := by
    simp only [describing, World.readText, World.node?_keepLibrary]

namespace Registry

variable {w : World} {phase : Option ScanPhase}

theorem yield?_keepLibrary {loaders : List Loader} (steady : ∀ loader ∈ loaders, loader.Steady)
    (w : World) (library path : String) :
    yield? loaders (w.keepLibrary library) phase path = yield? loaders w phase path := by
  have agree : ∀ loader ∈ loaders, loader.Agrees w (w.keepLibrary library) := fun loader member =>
    ⟨(steady loader member).isCandidate w library, (steady loader member).load w library⟩
  rw [yield?, yield?, Loader.find?_of_agrees agree]
  cases found : loaders.find? (·.isCandidate w path) with
  | none => rfl
  | some loader =>
      rw [Option.bind_some, Option.bind_some,
        (steady loader (List.mem_of_find?_eq_some found)).load]

theorem found_afterEvents {loaders : List Loader} (steady : ∀ loader ∈ loaders, loader.Steady)
    (w : World) (events : List Event) (paths : List String) :
    found loaders (w.afterEvents events) phase paths = found loaders w phase paths := by
  refine World.afterEvents_eq_of_keepLibrary (f := (found loaders · phase paths)) ?_ w events
  intro w library
  simp only [found, World.entries, World.entryNames_keepLibrary, yield?_keepLibrary steady]

theorem eq_of_get? {r s : Registry} (loaders : r.loaders = s.loaders)
    (plugins : ∀ identifier, r.plugins.get? identifier = s.plugins.get? identifier) : r = s := by
  cases r
  cases s
  cases loaders
  cases Dictionary.ext_get? plugins
  rfl

theorem loaders_scanned {r after : Registry} {visits : List Visit} {logs : List (List Event)}
    (h : Scanned w phase r visits logs after) : after.loaders = r.loaders := by
  induction h with
  | nil => rfl
  | cons first _ ih => rw [ih, loaders_visited first]

@[simp] theorem loaders_scan (r : Registry) (w : World) (phase : Option ScanPhase)
    (paths : List String) : (r.scan w phase paths).value.loaders = r.loaders := by
  obtain ⟨logs, scanned, -⟩ := scanned_foldlM w phase r (w.visits paths)
  exact loaders_scanned scanned

theorem value_scan_congr {r : Registry} {w later : World} {paths : List String}
    (same : found r.loaders later phase paths = found r.loaders w phase paths) :
    (r.scan later phase paths).value = (r.scan w phase paths).value := by
  apply eq_of_get?
  · rw [loaders_scan, loaders_scan]
  · intro identifier
    rw [get?_scan, get?_scan, same]

/-- Everything registered in one registry is registered in another, as the very
same plugin. -/
def PartOf (r after : Registry) : Prop :=
  ∀ identifier loaded, r.plugins.get? identifier = some loaded →
    after.plugins.get? identifier = some loaded

theorem partOf_scan (r : Registry) (w : World) (phase : Option ScanPhase) (paths : List String) :
    r.PartOf (r.scan w phase paths).value := by
  intro identifier loaded registered
  rw [get?_scan, registered, Option.some_or]

theorem get?_scan_origin {r : Registry} {paths : List String} {identifier : String}
    {loaded : LoadedPlugin}
    (registered : (r.scan w phase paths).value.plugins.get? identifier = some loaded) :
    r.plugins.get? identifier = some loaded ∨
      r.plugins.get? identifier = none ∧
        FirstYield r.loaders w phase (w.entries paths) identifier loaded := by
  rw [get?_scan, Option.or_eq_some_iff, find?_found_eq_some_iff] at registered
  exact registered

/-- One scan after the other. The files stay as they are; a library that a scan
loads stays loaded for those after it. -/
def scanEach (phase : Option ScanPhase) (calls : List (List String)) (start : Registry × World) :
    Registry × World :=
  calls.foldl (fun now paths =>
    let done := now.1.scan now.2 phase paths
    (done.value, now.2.afterEvents done.events)) start

theorem scanEach_eq {r : Registry} (steady : ∀ loader ∈ r.loaders, loader.Steady) (w : World)
    (phase : Option ScanPhase) (calls : List (List String)) :
    (scanEach phase calls (r, w)).1 = (r.scan w phase calls.flatten).value := by
  induction calls generalizing r w with
  | nil => rfl
  | cons paths rest ih =>
      have later : ∀ loader ∈ (r.scan w phase paths).value.loaders, loader.Steady := by
        rwa [loaders_scan]
      rw [List.flatten_cons, scan_append, Logged.value_bind, scanEach, List.foldl_cons]
      refine (ih later _).trans (value_scan_congr ?_)
      exact found_afterEvents later w _ _

def Settled (r : Registry) (w : World) (phase : Option ScanPhase) (directory : String) : Prop :=
  ∀ loaded ∈ found r.loaders w phase [directory], r.plugins.contains loaded.identifier = true

theorem mem_found_iff_exists_mem {loaders : List Loader} {paths : List String}
    {loaded : LoadedPlugin} :
    loaded ∈ found loaders w phase paths ↔
      ∃ directory ∈ paths, loaded ∈ found loaders w phase [directory] := by
  simp only [mem_found_iff, World.entries, List.mem_flatMap, List.mem_singleton, exists_eq_left]
  grind

theorem settled_scan {r : Registry} {paths : List String} {directory : String}
    (scanned : directory ∈ paths) : (r.scan w phase paths).value.Settled w phase directory := by
  intro loaded isFound
  rw [loaders_scan] at isFound
  have among := mem_found_iff_exists_mem.2 ⟨directory, scanned, isFound⟩
  exact (contains_scan_iff r w phase paths loaded.identifier).2 (.inr ⟨loaded, among, rfl⟩)

theorem scan_eq_self_of_settled {r : Registry} {paths : List String}
    (settled : ∀ directory ∈ paths, r.Settled w phase directory) :
    (r.scan w phase paths).value = r := by
  refine eq_of_get? (loaders_scan r w phase paths) fun identifier => ?_
  rw [get?_scan]
  cases registered : r.plugins.get? identifier with
  | some loaded => rfl
  | none =>
      rw [Option.none_or, List.find?_eq_none]
      intro loaded isFound same
      obtain ⟨directory, listed, foundThere⟩ := mem_found_iff_exists_mem.1 isFound
      have taken := settled directory listed loaded foundThere
      rw [of_decide_eq_true same, Dictionary.contains, registered] at taken
      cases taken

theorem scan_append_eq_of_subset {r : Registry} {paths again : List String}
    (scanned : ∀ directory ∈ again, directory ∈ paths) :
    (r.scan w phase (paths ++ again)).value = (r.scan w phase paths).value := by
  rw [scan_append, Logged.value_bind]
  exact scan_eq_self_of_settled fun directory listed => settled_scan (scanned directory listed)

end Registry

namespace PluginSource

variable {c : Capability}

theorem searchPaths_made_append {paths : List String} (given : paths ≠ []) (more : List String)
    (environmentVariable : String) (loaders : List Loader) (w : World) :
    (made c (paths ++ more) environmentVariable loaders).searchPaths w =
      (made c paths environmentVariable loaders).searchPaths w ++
        more.filter fun path => !path.isEmpty := by
  have longer : paths ++ more ≠ [] := List.append_ne_nil_of_left_ne_nil given more
  simp only [searchPaths, made, List.isEmpty_iff, given, longer, if_false, List.filter_append]

theorem partOf_survey {paths : List String} (given : paths ≠ []) (more : List String)
    (environmentVariable : String) (loaders : List Loader) (w : World) :
    Registry.PartOf
      ((made c paths environmentVariable loaders).survey w).value.registry
      ((made c (paths ++ more) environmentVariable loaders).survey w).value.registry := by
  rw [registry_survey, registry_survey, registryIn, registryIn,
    searchPaths_made_append given, Registry.scan_append]
  exact Registry.partOf_scan _ _ _ _

/-- After the same requests, what one source lists another lists too, and both make
it from the very same plugin. -/
def OffersAllOf (other s : PluginSource c) (history : List (World × Request)) (w : World) : Prop :=
  let seen := (scannedIn history).getD w
  ∃ listed listedByOther : List String,
    (serve w (.query .identifiers) (s.after history)).value.1 = .answer (.identifiers listed) ∧
    (serve w (.query .identifiers) (other.after history)).value.1 =
      .answer (.identifiers listedByOther) ∧
    ∀ identifier ∈ listed, identifier ∈ listedByOther ∧ ∃ loaded made,
      (s.survey seen).value.registry.plugins.get? identifier = some loaded ∧
      (other.survey seen).value.registry.plugins.get? identifier = some loaded ∧
      loaded.plugin.provides c = some made ∧
      (serve w (.query (.instantiate identifier)) (s.after history)).value.1 =
        .answer (.instantiated made) ∧
      (serve w (.query (.instantiate identifier)) (other.after history)).value.1 =
        .answer (.instantiated made)

theorem offersAllOf_append {paths : List String} (given : paths ≠ []) (more : List String)
    (environmentVariable : String) (loaders : List Loader) (history : List (World × Request))
    (w : World) :
    OffersAllOf (made c (paths ++ more) environmentVariable loaders)
      (made c paths environmentVariable loaders) history w := by
  let s := made c paths environmentVariable loaders
  let longer := made c (paths ++ more) environmentVariable loaders
  let seen := (scannedIn history).getD w
  have served : ∀ q, serve w (.query q) (s.after history) = _ := serve_query_after s history w
  have servedLonger : ∀ q, serve w (.query q) (longer.after history) = _ :=
    serve_query_after longer history w
  refine ⟨(s.survey seen).value.identifiers, (longer.survey seen).value.identifiers,
    congrArg (·.value.1) (served _), congrArg (·.value.1) (servedLonger _),
    fun identifier member => ?_⟩
  obtain ⟨loaded, registered, supports⟩ :=
    (Catalogue.mem_identifiers_iff (faithful_survey s seen)).1 member
  obtain ⟨made, provides⟩ := Option.isSome_iff_exists.1 supports
  have kept :=
    partOf_survey given more environmentVariable loaders seen identifier loaded registered
  refine ⟨(Catalogue.mem_identifiers_iff (faithful_survey longer seen)).2 ⟨loaded, kept, supports⟩,
    loaded, made, registered, kept, provides, ?_, ?_⟩
  · refine (congrArg (·.value.1) (served _)).trans ?_
    rw [← Catalogue.instantiate_of_provides registered provides]
    rfl
  · refine (congrArg (·.value.1) (servedLonger _)).trans ?_
    rw [← Catalogue.instantiate_of_provides kept provides]
    rfl

end PluginSource

namespace Registry

/-- Whatever is scanned after it, what a scan leaves registered stays, and only
identifiers without a plugin get one. Directories that were scanned add nothing
when they are scanned again, and a source offers all it did when it is given more
paths. -/
theorem scanning_on_keeps_registered (r : Registry) (w : World) (phase : Option ScanPhase)
    (p q : List String) :
    let first := (r.scan w phase p).value
    r.scan w phase (p ++ q) = (r.scan w phase p >>= fun r => r.scan w phase q) ∧
    (∀ (later : World) (phase : Option ScanPhase),
      first.PartOf (first.scan later phase q).value ∧
      ∀ identifier loaded,
        (first.scan later phase q).value.plugins.get? identifier = some loaded →
        first.plugins.get? identifier = some loaded ∨
          first.plugins.get? identifier = none ∧
            FirstYield r.loaders later phase (later.entries q) identifier loaded) ∧
    ((∀ loader ∈ r.loaders, loader.Steady) → ∀ calls more : List (List String),
      (scanEach phase calls (r, w)).1 = (r.scan w phase calls.flatten).value ∧
      ((∀ directory ∈ more.flatten, directory ∈ calls.flatten) →
        (scanEach phase (calls ++ more) (r, w)).1 = (scanEach phase calls (r, w)).1)) ∧
    Loader.native.Steady ∧
    (∀ name extension asking, (Loader.describing name extension asking).Steady) ∧
    ∀ (c : Capability) (paths more : List String) (environmentVariable : String)
      (loaders : List Loader) (history : List (World × Request)) (w : World), paths ≠ [] →
      PluginSource.OffersAllOf (.made c (paths ++ more) environmentVariable loaders)
        (.made c paths environmentVariable loaders) history w := by
  intro first
  refine ⟨scan_append r w phase p q, fun later phase => ⟨partOf_scan first later phase q, ?_⟩,
    fun steady calls more => ⟨scanEach_eq steady w phase calls, fun scanned => ?_⟩,
    Loader.steady_native, Loader.steady_describing, ?_⟩
  · intro identifier loaded registered
    have origin := get?_scan_origin registered
    rwa [loaders_scan] at origin
  · rw [scanEach_eq steady, scanEach_eq steady, List.flatten_append]
    exact scan_append_eq_of_subset scanned
  · intro c paths more environmentVariable loaders history w given
    exact PluginSource.offersAllOf_append given more environmentVariable loaders history w

theorem survey_secondDirectory :
    ∃ loaded, ((PluginSource.made .manager ["/b"] pluginPathVariable
        [.describing "stub" "plugin" false]).survey
          twoDirectories).value.registry.plugins.get? "p" = some loaded ∧
      loaded.path = "/b/x.plugin" ∧ loaded.plugin.supports .manager = true := by
  have leads : twoDirectories.position? "/b" = some ["b"] := by decide +kernel
  have leadsThere : twoDirectories.position? "/b/x.plugin" = some ["b", "x.plugin"] := by
    decide +kernel
  have entries : twoDirectories.entries ["/b"] = ["/b/x.plugin"] := by
    rw [World.entries, List.flatMap_singleton, World.entryNames_of_find? leads rfl,
      World.sortedNames, List.map_singleton, List.mergeSort_singleton]
    decide +kernel
  have manager : Yields [.describing "stub" "plugin" false] twoDirectories (some .scanning)
      "/b/x.plugin" _ :=
    yields_describing "manager" "p" (by decide +kernel) leadsThere rfl (by decide +kernel)
      (by decide +kernel) rfl rfl
  have paths : (PluginSource.made .manager ["/b"] pluginPathVariable
      [.describing "stub" "plugin" false]).searchPaths twoDirectories = ["/b"] := by
    decide +kernel
  refine ⟨_, PluginSource.get?_survey_iff.2 ⟨[], "/b/x.plugin", [], ?_, manager, rfl, by simp⟩,
    rfl, rfl⟩
  rw [paths, entries]
  rfl

/-- Both directories are scanned again. Of two sources one searches the second
directory only, and the other searches the first after it. -/
theorem scanning_on_twoDirectories :
    let loader := Loader.describing "stub" "plugin" false
    let r : Registry := ⟨[loader], {}⟩
    let s := PluginSource.made .manager ["/b"] pluginPathVariable [loader]
    let longer := PluginSource.made .manager ["/b", "/a"] pluginPathVariable [loader]
    loader.Steady ∧
    (scanEach none [["/a"], ["/b"], ["/b", "/a", "/b"]] (r, twoDirectories)).1 =
      (scanEach none [["/a"], ["/b"]] (r, twoDirectories)).1 ∧
    (∃ loaded,
      (scanEach none [["/a"], ["/b"]] (r, twoDirectories)).1.plugins.get? "p" = some loaded ∧
      loaded.path = "/a/x.plugin") ∧
    ∃ loaded made, loaded.path = "/b/x.plugin" ∧
      (s.survey twoDirectories).value.registry.plugins.get? "p" = some loaded ∧
      (longer.survey twoDirectories).value.registry.plugins.get? "p" = some loaded ∧
      (PluginSource.serve twoDirectories (.query (.instantiate "p")) longer).value.1 =
        .answer (.instantiated made) := by
  intro loader r s longer
  obtain ⟨-, -, again, -, describing, offers⟩ :=
    scanning_on_keeps_registered r twoDirectories none ["/a"] ["/b"]
  have steady : ∀ loader ∈ r.loaders, loader.Steady := by
    intro other member
    rw [List.mem_singleton.1 member]
    exact describing "stub" "plugin" false
  obtain ⟨together, rest⟩ := again steady [["/a"], ["/b"]] [["/b", "/a", "/b"]]
  refine ⟨steady loader List.mem_cons_self, rest (by decide), ?_, ?_⟩
  · have leads : twoDirectories.position? "/a/x.plugin" = some ["a", "x.plugin"] := by
      decide +kernel
    have panel : Yields [loader] twoDirectories none "/a/x.plugin" _ :=
      yields_describing "ui" "p" (by decide +kernel) leads rfl (by decide +kernel)
        (by decide +kernel) rfl rfl
    have first : FirstYield [loader] twoDirectories none
        (twoDirectories.entries ["/a", "/b"]) "p" _ :=
      ⟨[], "/a/x.plugin", ["/b/x.plugin"], entries_twoDirectories, panel, rfl, by simp⟩
    have registered := (get?_scan r twoDirectories none ["/a", "/b"] "p").trans
      (find?_found_eq_some_iff.2 first)
    exact ⟨_, (congrArg (·.plugins.get? "p") together).trans registered, rfl⟩
  · obtain ⟨loaded, registered, path, supports⟩ := survey_secondDirectory
    obtain ⟨listed, _, lists, -, offered⟩ :=
      offers .manager ["/b"] ["/a"] pluginPathVariable [loader] [] twoDirectories (by simp)
    have same : listed = (s.survey twoDirectories).value.identifiers := by
      have served := congrArg (·.value.1)
        (PluginSource.serve_query_after s [] twoDirectories .identifiers)
      cases lists.symm.trans served
      rfl
    have isListed : "p" ∈ listed := by
      rw [same, Catalogue.mem_identifiers_iff (PluginSource.faithful_survey s twoDirectories)]
      exact ⟨loaded, registered, supports⟩
    obtain ⟨-, kept, made, there, thereToo, -, -, makes⟩ := offered "p" isListed
    cases registered.symm.trans there
    exact ⟨loaded, made, path, registered, thereToo, makes⟩

end Registry

end AssetLink
