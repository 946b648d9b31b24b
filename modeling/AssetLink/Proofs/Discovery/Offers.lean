import AssetLink.Proofs.Discovery.Scanning

/-!
What a source of plugins offers. It lists an identifier exactly if it can make
what is registered under it: the texts that a scan keeps for plugins without the
capability agree with what those plugins say when they are asked again.
-/

namespace AssetLink

namespace Catalogue

variable {c : Capability} {k : Catalogue} {identifier : String}

/-- The texts kept are those of the registered plugins that lack the capability. -/
def Faithful (c : Capability) (k : Catalogue) : Prop :=
  ∀ identifier, k.refused.get? identifier =
    ((k.registry.plugins.get? identifier).filter fun loaded => !loaded.plugin.supports c).map
      fun loaded => c.refusal identifier loaded.path

theorem contains_refused_iff (faithful : k.Faithful c) :
    k.refused.contains identifier = true ↔
      ∃ loaded, k.registry.plugins.get? identifier = some loaded ∧
        loaded.plugin.supports c = false := by
  rw [Dictionary.contains_iff, faithful]
  simp only [Option.map_eq_some_iff, Option.filter_eq_some_iff, Bool.not_eq_true']
  constructor
  · rintro ⟨_, loaded, lacking, _⟩
    exact ⟨loaded, lacking⟩
  · rintro ⟨loaded, lacking⟩
    exact ⟨_, loaded, lacking, rfl⟩

theorem identifiers_sorted (k : Catalogue) : k.identifiers.Pairwise (· < ·) :=
  k.registry.plugins.keys_sorted.filter _

theorem mem_identifiers_iff (faithful : k.Faithful c) :
    identifier ∈ k.identifiers ↔
      ∃ loaded, k.registry.plugins.get? identifier = some loaded ∧
        loaded.plugin.supports c = true := by
  rw [identifiers, List.mem_filter, Registry.identifiers, Dictionary.mem_keys_iff,
    Bool.not_eq_true', ← Bool.not_eq_true, contains_refused_iff faithful]
  constructor
  · rintro ⟨⟨loaded, registered⟩, kept⟩
    refine ⟨loaded, registered, ?_⟩
    by_contra lacks
    exact kept ⟨loaded, registered, Bool.not_eq_true _ ▸ lacks⟩
  · rintro ⟨loaded, registered, supports⟩
    refine ⟨⟨loaded, registered⟩, ?_⟩
    rintro ⟨other, same, lacks⟩
    cases registered.symm.trans same
    rw [supports] at lacks
    cases lacks

theorem not_mem_identifiers (faithful : k.Faithful c) {loaded : LoadedPlugin}
    (registered : k.registry.plugins.get? identifier = some loaded)
    (lacks : loaded.plugin.supports c = false) : identifier ∉ k.identifiers := by
  rw [mem_identifiers_iff faithful]
  rintro ⟨other, same, supports⟩
  cases registered.symm.trans same
  rw [lacks] at supports
  cases supports

theorem instantiate_of_none (absent : k.registry.plugins.get? identifier = none) :
    k.instantiate c identifier = .error (Registry.unknown identifier) := by
  rw [instantiate, Registry.plugin_of_none absent]
  rfl

theorem instantiate_of_provides {loaded : LoadedPlugin}
    {made : Except AssetError (Implementation c)}
    (registered : k.registry.plugins.get? identifier = some loaded)
    (provides : loaded.plugin.provides c = some made) : k.instantiate c identifier = made := by
  rw [instantiate, Registry.plugin_eq_ok_iff.2 registered]
  simp only [bind, Except.bind, Plugin.query, provides, Option.elim_some]

theorem instantiate_of_lacks {loaded : LoadedPlugin}
    (registered : k.registry.plugins.get? identifier = some loaded)
    (lacks : loaded.plugin.supports c = false) :
    k.instantiate c identifier =
      .error (.inputValidation (c.refusal identifier loaded.path)) := by
  have none : loaded.plugin.provides c = none := by simpa [Plugin.supports] using lacks
  rw [instantiate, Registry.plugin_eq_ok_iff.2 registered]
  simp only [bind, Except.bind, Plugin.query, none, Option.elim_none]
  rfl

end Catalogue

namespace PluginSource

open Registry (twoDirectories)

variable {c : Capability}

theorem refusals_sorted (c : Capability) (registry : Registry) :
    (refusals c registry).Pairwise fun a b => a.1 < b.1 :=
  (registry.plugins.sorted.filter _).map _ fun _ _ h => h

theorem mem_refusals_iff {registry : Registry} {identifier path : String} :
    (identifier, path) ∈ refusals c registry ↔
      ∃ loaded, registry.plugins.get? identifier = some loaded ∧
        loaded.plugin.supports c = false ∧ loaded.path = path := by
  simp only [refusals, List.mem_map, List.mem_filter, Prod.exists, Prod.mk.injEq,
    Dictionary.mem_entries_iff]
  constructor
  · rintro ⟨identifier, loaded, ⟨registered, lacks⟩, rfl, rfl⟩
    exact ⟨loaded, registered, by simpa using lacks, rfl⟩
  · rintro ⟨loaded, registered, lacks, rfl⟩
    exact ⟨identifier, loaded, ⟨registered, by simpa using lacks⟩, rfl, rfl⟩

theorem faithful_survey (s : PluginSource c) (w : World) : (s.survey w).value.Faithful c := by
  intro identifier
  have texts : (s.survey w).value.refused =
      .ofList ((refusals c (s.survey w).value.registry).map fun refusal =>
        (refusal.1, c.refusal refusal.1 refusal.2)) := by
    rw [registry_survey, survey_eq]
    rfl
  have sorted := (refusals_sorted c (s.survey w).value.registry).map
    (S := fun a b : String × String => a.1 < b.1)
    (fun refusal : String × String => (refusal.1, c.refusal refusal.1 refusal.2)) fun _ _ h => h
  apply Option.ext
  intro text
  rw [← Dictionary.mem_entries_iff, texts, Dictionary.entries_ofList sorted]
  simp only [List.mem_map, Prod.exists, Prod.mk.injEq, mem_refusals_iff, Option.map_eq_some_iff,
    Option.filter_eq_some_iff, Bool.not_eq_true']
  constructor
  · rintro ⟨identifier, path, ⟨loaded, registered, lacks, rfl⟩, rfl, rfl⟩
    exact ⟨loaded, ⟨registered, lacks⟩, rfl⟩
  · rintro ⟨loaded, ⟨registered, lacks⟩, rfl⟩
    exact ⟨identifier, loaded.path, ⟨loaded, registered, lacks, rfl⟩, rfl, rfl⟩

theorem get?_survey_iff {s : PluginSource c} {w : World} {identifier : String}
    {loaded : LoadedPlugin} :
    (s.survey w).value.registry.plugins.get? identifier = some loaded ↔
      Registry.FirstYield s.loaders w (some .scanning) (w.entries (s.searchPaths w)) identifier
        loaded := by
  have free : ({} : Dictionary LoadedPlugin).get? identifier = none := rfl
  rw [registry_survey, registryIn, Registry.get?_scan, free, Option.none_or,
    Registry.find?_found_eq_some_iff]

theorem serve_query_after (s : PluginSource c) (history : List (World × Request)) (w : World)
    (q : Query) :
    let seen := (scannedIn history).getD w
    serve w (.query q) ((s.known none).after history) =
      ⟨(.answer ((s.survey seen).value.answer c q), s.known (some seen)),
        if (scannedIn history).isSome then [] else (s.survey seen).events⟩ := by
  rw [after_known, serve_query_known]
  cases scannedIn history <;> rfl

section Reach

variable (c) (loaders : List Loader) (w : World) (entries : List String)

/-- What a source lists and makes goes by the plugins that are found first: those that
have the capability are listed and made, and any other one hides those behind it. -/
structure Offers (listed : List String) (make : String → Except AssetError (Implementation c)) :
    Prop where
  sorted : listed.Pairwise (· < ·)
  mem_listed_iff : ∀ identifier, identifier ∈ listed ↔
    ∃ loaded, Registry.FirstYield loaders w (some .scanning) entries identifier loaded ∧
      loaded.plugin.supports c = true
  makes : ∀ identifier ∈ listed,
    ∃ loaded, Registry.FirstYield loaders w (some .scanning) entries identifier loaded ∧
      loaded.plugin.provides c = some (make identifier)
  refuses : ∀ identifier loaded,
    Registry.FirstYield loaders w (some .scanning) entries identifier loaded →
    loaded.plugin.supports c = false →
    make identifier = .error (.inputValidation (c.refusal identifier loaded.path))
  unknown : ∀ identifier,
    (∀ loaded, ¬ Registry.FirstYield loaders w (some .scanning) entries identifier loaded) →
    make identifier = .error (Registry.unknown identifier)
  hides : ∀ before path after loaded hidden other, entries = before ++ path :: after →
    Registry.Yields loaders w (some .scanning) path loaded →
    (∀ earlier ∈ before, ∀ plugin, Registry.Yields loaders w (some .scanning) earlier plugin →
      plugin.identifier ≠ loaded.identifier) →
    loaded.plugin.supports c = false → other ∈ after →
    Registry.Yields loaders w (some .scanning) other hidden →
    hidden.identifier = loaded.identifier → hidden.plugin.supports c = true →
    hidden.identifier ∉ listed ∧ make hidden.identifier =
      .error (.inputValidation (c.refusal hidden.identifier loaded.path))

/-- The plugins of which a scan warns: each that is found first and lacks the
capability, in the order of the identifiers. -/
structure Lacking (plugins : List (String × String)) : Prop where
  sorted : plugins.Pairwise fun a b => a.1 < b.1
  mem_iff : ∀ identifier path, (identifier, path) ∈ plugins ↔
    ∃ loaded, Registry.FirstYield loaders w (some .scanning) entries identifier loaded ∧
      loaded.plugin.supports c = false ∧ loaded.path = path
  warning : ∀ identifier path, (Event.unsupported c identifier path).level = .warn ∧
    (Event.unsupported c identifier path).message = c.refusal identifier path

end Reach

theorem offers_survey (s : PluginSource c) (w : World) :
    Offers c s.loaders w (w.entries (s.searchPaths w)) (s.survey w).value.identifiers
      ((s.survey w).value.instantiate c) := by
  have faithful := faithful_survey s w
  have listed_iff : ∀ identifier, identifier ∈ (s.survey w).value.identifiers ↔
      ∃ loaded, Registry.FirstYield s.loaders w (some .scanning) (w.entries (s.searchPaths w))
        identifier loaded ∧ loaded.plugin.supports c = true := by
    intro identifier
    simp only [Catalogue.mem_identifiers_iff faithful, get?_survey_iff]
  refine ⟨Catalogue.identifiers_sorted _, listed_iff, fun identifier member => ?_,
    fun identifier loaded isFirst lacks => ?_, fun identifier absent => ?_, ?_⟩
  · obtain ⟨loaded, isFirst, supports⟩ := (listed_iff identifier).1 member
    obtain ⟨made, provides⟩ := Option.isSome_iff_exists.1 supports
    refine ⟨loaded, isFirst, ?_⟩
    rw [Catalogue.instantiate_of_provides (get?_survey_iff.2 isFirst) provides, provides]
  · exact Catalogue.instantiate_of_lacks (get?_survey_iff.2 isFirst) lacks
  · apply Catalogue.instantiate_of_none
    rw [Option.eq_none_iff_forall_ne_some]
    exact fun loaded found => absent loaded (get?_survey_iff.1 found)
  · intro before path after loaded hidden other split yields earlier lacks _ _ same _
    have registered := get?_survey_iff.2
      ⟨before, path, after, split, yields, same.symm, same ▸ earlier⟩
    exact ⟨Catalogue.not_mem_identifiers faithful registered lacks,
      Catalogue.instantiate_of_lacks registered lacks⟩

theorem lacking_survey (s : PluginSource c) (w : World) :
    Lacking c s.loaders w (w.entries (s.searchPaths w))
      (refusals c (s.survey w).value.registry) where
  sorted := refusals_sorted c _
  mem_iff identifier path := by simp only [mem_refusals_iff, get?_survey_iff]
  warning _ _ := ⟨rfl, rfl⟩

/-- At every point of every run a source lists the identifiers of the plugins
found first that have the capability, and makes exactly those. Of the others it warns
when it scans. That plugins do not change their answers is part of what a plugin is
here. -/
theorem lists_what_it_instantiates (c : Capability) (paths : List String)
    (environmentVariable : String) (loaders : List Loader) (history : List (World × Request))
    (w : World) :
    let s := made c paths environmentVariable loaders
    let now := s.after history
    let seen := (scannedIn history).getD w
    let entries := seen.entries (s.searchPaths seen)
    (∃ (listed : List String) (make : String → Except AssetError (Implementation c)),
      (serve w (.query .identifiers) now).value.1 = .answer (.identifiers listed) ∧
      (∀ identifier, (serve w (.query (.instantiate identifier)) now).value.1 =
        .answer (.instantiated (make identifier))) ∧
      Offers c loaders seen entries listed make) ∧
    (∀ identifier loaded,
      (s.survey seen).value.registry.plugins.get? identifier = some loaded ↔
        Registry.FirstYield loaders seen (some .scanning) entries identifier loaded) ∧
    (∀ q, (serve w (.query q) now).events =
      if (scannedIn history).isSome then [] else (s.survey seen).events) ∧
    ∃ (logs : List (List Event)) (lacking : List (String × String)),
      Registry.Scanned seen (some .scanning) ⟨loaders, {}⟩ (seen.visits (s.searchPaths seen)) logs
        (s.survey seen).value.registry ∧
      (s.survey seen).events = (s.pathWarning seen).events ++ logs.flatten ++
        lacking.map (fun plugin => .unsupported c plugin.1 plugin.2) ∧
      Lacking c loaders seen entries lacking ∧
      ∀ identifier path, c.refusal identifier path =
        s!"Plugin '{identifier}' from '{path}' is not a {c.name} plugin as {c.lack}" := by
  intro s now seen entries
  have served : ∀ q, serve w (.query q) now = _ := serve_query_after s history w
  obtain ⟨logs, scanned, events⟩ := scanned_survey s seen
  refine ⟨⟨(s.survey seen).value.identifiers, (s.survey seen).value.instantiate c, ?_,
    fun identifier => ?_, offers_survey s seen⟩, fun identifier loaded => get?_survey_iff,
    fun q => by rw [served], logs, _, scanned, events, lacking_survey s seen, fun _ _ => rfl⟩
  · rw [served]
    rfl
  · rw [served]
    rfl

theorem panel_hides_manager :
    let s := made .manager ["/a", "/b"] pluginPathVariable [.describing "stub" "plugin" false]
    ∃ listed : List String,
      (serve twoDirectories (.query .identifiers) s).value.1 = .answer (.identifiers listed) ∧
      "p" ∉ listed ∧
      (serve twoDirectories (.query (.instantiate "p")) s).value.1 =
        .answer (.instantiated
          (.error (.inputValidation (Capability.manager.refusal "p" "/a/x.plugin")))) := by
  intro s
  have paths : s.searchPaths twoDirectories = ["/a", "/b"] := by decide +kernel
  have leadsA : twoDirectories.position? "/a/x.plugin" = some ["a", "x.plugin"] := by
    decide +kernel
  have leadsB : twoDirectories.position? "/b/x.plugin" = some ["b", "x.plugin"] := by
    decide +kernel
  have panel : Registry.Yields s.loaders twoDirectories (some .scanning) "/a/x.plugin" _ :=
    Registry.yields_describing "ui" "p" (by decide +kernel) leadsA rfl (by decide +kernel)
      (by decide +kernel) rfl rfl
  have manager : Registry.Yields s.loaders twoDirectories (some .scanning) "/b/x.plugin" _ :=
    Registry.yields_describing "manager" "p" (by decide +kernel) leadsB rfl (by decide +kernel)
      (by decide +kernel) rfl rfl
  obtain ⟨⟨listed, make, lists, makes, offers⟩, -⟩ :=
    lists_what_it_instantiates .manager ["/a", "/b"] pluginPathVariable
      [.describing "stub" "plugin" false] [] twoDirectories
  have entries : twoDirectories.entries (s.searchPaths twoDirectories) =
      [] ++ "/a/x.plugin" :: ["/b/x.plugin"] := by
    rw [paths]
    exact Registry.entries_twoDirectories
  have hidden := offers.hides [] "/a/x.plugin" ["/b/x.plugin"] _ _ "/b/x.plugin" entries panel
    (by simp) rfl (by simp) manager rfl rfl
  have refused : make "p" =
      .error (.inputValidation (Capability.manager.refusal "p" "/a/x.plugin")) := hidden.2
  refine ⟨listed, lists, hidden.1, ?_⟩
  rw [← refused]
  exact makes "p"

end PluginSource

end AssetLink
