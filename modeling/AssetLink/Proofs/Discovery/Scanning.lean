import AssetLink.Discovery.PluginSource
import AssetLink.Proofs.Discovery.FirstFound
import Mathlib.Data.List.DropRight

/-!
When a source of plugins scans. Whatever it is asked and however the world
changes in between, its state is known from one world: the one in which it was
first queried after it was made or last reset. Only that query scans.
-/

namespace AssetLink

inductive Query
  | identifiers
  | instantiate (identifier : String)
deriving DecidableEq

inductive Answer (c : Capability)
  | identifiers (listed : List String)
  | instantiated (result : Except AssetError (Implementation c))

def Catalogue.answer (k : Catalogue) (c : Capability) : Query → Answer c
  | .identifiers => .identifiers k.identifiers
  | .instantiate identifier => .instantiated (k.instantiate c identifier)

def Provider.answer {σ : Type} {c : Capability} (provider : Provider σ (Implementation c))
    (w : World) : Query → Act σ (Answer c)
  | .identifiers => do return .identifiers (← provider.identifiers w)
  | .instantiate identifier => do
      return .instantiated (← (provider.instantiate w identifier).run)

namespace Provider

variable {σ ι : Type}

def recorded (provider : Provider σ ι) : Provider (σ × List Query) ι :=
  let inner := provider.within Prod.fst fun (s : σ) (t : σ × List Query) => (s, t.2)
  { identifiers := fun w => do
      modify fun (s, asked) => (s, asked ++ [.identifiers])
      inner.identifiers w
    instantiate := fun w identifier => do
      modify fun (s, asked) => (s, asked ++ [.instantiate identifier])
      inner.instantiate w identifier }

theorem run_instantiate_recorded (provider : Provider σ ι) (w : World) (identifier : String)
    (s : σ) (asked : List Query) :
    (provider.recorded.instantiate w identifier).run.run (s, asked) =
      (fun made => (made.1, made.2, asked ++ [.instantiate identifier])) <$>
        (provider.instantiate w identifier).run.run s := rfl

end Provider

inductive Request
  | query (q : Query)
  | phase
  | reset
deriving DecidableEq

inductive Reply (c : Capability)
  | answer (a : Answer c)
  | phase (p : ScanPhase)
  | done

namespace PluginSource

variable {c : Capability}

def serve (w : World) : Request → Act (PluginSource c) (Reply c)
  | .query q => do return .answer (← (Provider.plugins c).answer w q)
  | .phase => do return .phase (← get).phase
  | .reset => do
      modify reset
      return .done

def after (s : PluginSource c) (history : List (World × Request)) : PluginSource c :=
  history.foldl (fun s step => (serve step.1 step.2 s).value.2) s

def queriedIn? (step : World × Request) : Option World :=
  match step.2 with
  | .query _ => some step.1
  | _ => none

/-- The world of the first query since the last reset, if there was one. -/
def scannedIn (history : List (World × Request)) : Option World :=
  (history.rtakeWhile fun step => step.2 ≠ .reset).findSome? queriedIn?

def note (seen : Option World) (step : World × Request) : Option World :=
  match step.2 with
  | .query _ => seen.or (some step.1)
  | .phase => seen
  | .reset => none

theorem scannedIn_concat (history : List (World × Request)) (step : World × Request) :
    scannedIn (history ++ [step]) = note (scannedIn history) step := by
  obtain ⟨w, request⟩ := step
  rw [scannedIn, List.rtakeWhile_concat]
  cases request with
  | reset => rfl
  | phase => simp [scannedIn, note, queriedIn?, List.findSome?_append]
  | query q => simp [scannedIn, note, queriedIn?, List.findSome?_append]

def made (c : Capability) (paths : List String) (environmentVariable : String)
    (loaders : List Loader) : PluginSource c :=
  { paths, environmentVariable, loaders }

def survey (s : PluginSource c) (w : World) : Logged Catalogue :=
  scan ({ s with catalogue := none, isScanning := true } : PluginSource c) w

/-- The source when it goes by a world, or by none. -/
def known (s : PluginSource c) (seen : Option World) : PluginSource c :=
  { s with catalogue := seen.map fun w => (s.survey w).value, isScanning := false }

theorem run_instantiate_plugins (w : World) (identifier : String) (s : PluginSource c) :
    ((Provider.plugins c).instantiate w identifier).run.run s = do
      let done ← obtain w s
      return (done.1.instantiate c identifier, done.2) := by
  change (ExceptT.run (ExceptT.lift (obtain w) >>= fun catalogue =>
    Attempt.ofExcept (catalogue.instantiate c identifier))).run s = _
  rw [ExceptT.run_bind_lift]
  rfl

theorem answer_plugins (w : World) (q : Query) (s : PluginSource c) :
    (Provider.plugins c).answer w q s = do
      let done ← obtain w s
      return (done.1.answer c q, done.2) := by
  change ((Provider.plugins c).answer w q).run s = _
  cases q with
  | identifiers =>
    simp only [Provider.answer, Provider.plugins, Catalogue.answer, bind_pure_comp, StateT.run_map,
      Functor.map_map]
    rfl
  | instantiate identifier =>
    have made := run_instantiate_plugins w identifier s
    simp only [Provider.answer, Catalogue.answer, bind_pure_comp, StateT.run_map] at made ⊢
    rw [made]
    simp

theorem obtain_known_none (s : PluginSource c) (w : World) :
    obtain w (s.known none) =
      ⟨((s.survey w).value, s.known (some w)), (s.survey w).events⟩ := by
  rw [obtain_of_none rfl]
  simp [bind, pure, Logged.bind, Logged.pure]
  exact ⟨⟨rfl, rfl⟩, rfl⟩

theorem obtain_known_some (s : PluginSource c) (first w : World) :
    obtain w (s.known (some first)) = ⟨((s.survey first).value, s.known (some first)), []⟩ :=
  obtain_of_some rfl w

theorem serve_query_known (s : PluginSource c) (seen : Option World) (w : World) (q : Query) :
    serve w (.query q) (s.known seen) =
      match seen with
      | none => ⟨(.answer ((s.survey w).value.answer c q), s.known (some w)), (s.survey w).events⟩
      | some first => ⟨(.answer ((s.survey first).value.answer c q), s.known seen), []⟩ := by
  have served : serve w (.query q) (s.known seen) = do
      let done ← obtain w (s.known seen)
      return (.answer (done.1.answer c q), done.2) := by
    change (do
      let done ← (Provider.plugins c).answer w q (s.known seen)
      pure (Reply.answer done.1, done.2) : Logged (Reply c × PluginSource c)) = _
    rw [answer_plugins, bind_assoc]
    rfl
  rw [served]
  cases seen with
  | none => rw [obtain_known_none]; simp [bind, pure, Logged.bind, Logged.pure]
  | some first => rw [obtain_known_some]; simp [bind, pure, Logged.bind, Logged.pure]

theorem serve_phase_known (s : PluginSource c) (seen : Option World) (w : World) :
    serve w .phase (s.known seen) =
      ⟨(.phase (if seen.isSome then .scanned else .unscanned), s.known seen), []⟩ := by
  cases seen <;> rfl

theorem serve_reset_known (s : PluginSource c) (seen : Option World) (w : World) :
    serve w .reset (s.known seen) = ⟨(.done, s.known none), []⟩ := rfl

/-- Every request leaves the source in a state that goes by a world or by none. -/
theorem serve_known (s : PluginSource c) (seen : Option World) (w : World) (r : Request) :
    (serve w r (s.known seen)).value.2 = s.known (note seen (w, r)) := by
  cases r with
  | query q =>
    rw [serve_query_known]
    cases seen <;> rfl
  | phase => rw [serve_phase_known]; rfl
  | reset => rfl

theorem after_known (s : PluginSource c) (history : List (World × Request)) :
    (s.known none).after history = s.known (scannedIn history) := by
  induction history using List.reverseRecOn with
  | nil => rfl
  | append_singleton history step ih =>
    rw [after, List.foldl_append, List.foldl_cons, List.foldl_nil, scannedIn_concat]
    rw [after] at ih
    rw [ih, serve_known]

def pathWarning (s : PluginSource c) (w : World) : Logged Unit :=
  if s.searchPaths w = [] then Logged.log (.noSearchPaths s.environmentVariable) else pure ()

def registryIn (s : PluginSource c) (w : World) : Logged Registry :=
  Registry.scan ⟨s.loaders, {}⟩ w (some .scanning) (s.searchPaths w)

theorem survey_eq (s : PluginSource c) (w : World) :
    s.survey w = do
      s.pathWarning w
      let registry ← s.registryIn w
      (refusals c registry).forM fun refusal => Logged.log (.unsupported c refusal.1 refusal.2)
      return ⟨registry, .ofList ((refusals c registry).map fun refusal =>
        (refusal.1, c.refusal refusal.1 refusal.2))⟩ := by
  rw [survey, scan, pathWarning]
  simp only [List.isEmpty_iff]
  by_cases none : s.searchPaths w = []
  · rw [if_pos none]
    exact if_pos none
  · rw [if_neg none, pure_bind]
    exact if_neg none

theorem registry_survey (s : PluginSource c) (w : World) :
    (s.survey w).value.registry = (s.registryIn w).value := by
  rw [survey_eq]
  rfl

theorem events_forM_log {α : Type} (event : α → Event) (xs : List α) :
    (xs.forM fun x => Logged.log (event x)).events = xs.map event := by
  induction xs with
  | nil => rfl
  | cons x rest ih =>
    change event x :: (rest.forM fun x => Logged.log (event x)).events = _
    rw [ih, List.map_cons]

theorem events_survey (s : PluginSource c) (w : World) :
    (s.survey w).events =
      (s.pathWarning w).events ++ (s.registryIn w).events ++
        (refusals c (s.registryIn w).value).map fun refusal =>
          .unsupported c refusal.1 refusal.2 := by
  rw [survey_eq]
  simp only [Logged.events_bind, Logged.events_pure, events_forM_log, List.append_nil,
    List.append_assoc]

/-- A scan is its visits one after the other, by loaders that are told that it is
under way, and then a warning for each plugin without the capability. -/
theorem scanned_survey (s : PluginSource c) (w : World) :
    ∃ logs, Registry.Scanned w (some .scanning) ⟨s.loaders, {}⟩ (w.visits (s.searchPaths w)) logs
        (s.survey w).value.registry ∧
      (s.survey w).events = (s.pathWarning w).events ++ logs.flatten ++
        (refusals c (s.survey w).value.registry).map fun refusal =>
          .unsupported c refusal.1 refusal.2 := by
  obtain ⟨logs, scanned, events⟩ := Registry.scanned_foldlM w (some .scanning) ⟨s.loaders, {}⟩
    (w.visits (s.searchPaths w))
  have found : (s.survey w).value.registry = (s.registryIn w).value := registry_survey s w
  refine ⟨logs, found ▸ scanned, ?_⟩
  rw [events_survey, found, ← events]
  rfl

/-- The directories that a source searches: those of its paths that are not empty,
or if it has no paths, those that the value of its variable lists. -/
structure Effective (paths : List String) (value? : Option String) (directories : List String) :
    Prop where
  given : paths ≠ [] → directories = paths.filter fun path => !path.isEmpty
  unset : paths = [] → value? = none → directories = []
  listed : paths = [] → ∀ value, value? = some value → ∃ components,
    ":".intercalate components = value ∧ (∀ component ∈ components, ':' ∉ component.toList) ∧
      directories = components.filter fun path => !path.isEmpty

theorem effective_searchPaths (s : PluginSource c) (w : World) :
    Effective s.paths (w.valueOf? s.environmentVariable) (s.searchPaths w) where
  given nonempty := by
    rw [searchPaths, if_neg (mt List.isEmpty_iff.1 nonempty)]
  unset empty unset := by
    rw [searchPaths, if_pos (List.isEmpty_iff.2 empty), unset]
    rfl
  listed empty value set := by
    refine ⟨Path.ofSearchList value, Text.intercalate_pieces ':' value,
      fun _ => Text.not_mem_of_mem_pieces, ?_⟩
    rw [searchPaths, if_pos (List.isEmpty_iff.2 empty), set]
    rfl

/-- Only the first query since a source was made or last reset scans. Every other
request logs nothing, and every later query is answered from the world of that
first one. -/
theorem source_goes_by_first_query (c : Capability) (paths : List String)
    (environmentVariable : String) (loaders : List Loader) (history : List (World × Request))
    (w : World) :
    let s := made c paths environmentVariable loaders
    let now := s.after history
    (∀ q, serve w (.query q) now =
      match scannedIn history with
      | none => ⟨(.answer ((s.survey w).value.answer c q), s.known (some w)), (s.survey w).events⟩
      | some first => ⟨(.answer ((s.survey first).value.answer c q), now), []⟩) ∧
    serve w .phase now =
      ⟨(.phase (if (scannedIn history).isSome then .scanned else .unscanned), now), []⟩ ∧
    serve w .reset now = ⟨(.done, s), []⟩ ∧
    Effective paths (w.valueOf? environmentVariable) (s.searchPaths w) ∧
    (∃ logs, Registry.Scanned w (some .scanning) ⟨loaders, {}⟩ (w.visits (s.searchPaths w)) logs
        (s.survey w).value.registry ∧
      (s.survey w).events = (s.pathWarning w).events ++ logs.flatten ++
        (refusals c (s.survey w).value.registry).map fun refusal =>
          .unsupported c refusal.1 refusal.2) ∧
    (w.visits (s.searchPaths w)).filterMap Visit.entry? =
      (s.searchPaths w).flatMap fun directory =>
        (w.entryNames directory).map (Path.join directory) := by
  intro s now
  have state : now = s.known (scannedIn history) := after_known s history
  refine ⟨fun q => ?_, ?_, ?_, effective_searchPaths s w, ?_, World.filterMap_entry?_visits w _⟩
  · rw [state, serve_query_known]
  · rw [state, serve_phase_known]
  · rw [state, serve_reset_known]
    rfl
  · exact scanned_survey s w

def listedTwice : World :=
  { Registry.twoDirectories with environment := .ofList [("P", ":/b::/b")] }

theorem visits_listedTwice :
    listedTwice.visits ["/b", "/b"] = [.entry "/b/x.plugin", .entry "/b/x.plugin"] := by
  have leads : listedTwice.position? "/b" = some ["b"] := by decide +kernel
  rw [World.visits, List.flatMap_cons, List.flatMap_singleton, World.visit_of_find? leads rfl,
    World.sortedNames, List.map_singleton, List.mergeSort_singleton]
  decide +kernel

/-- A directory that the variable lists twice is gone through twice, and only for
the first query. -/
theorem source_goes_by_first_query_listedTwice :
    let s := made .manager [] "P" [.describing "stub" "plugin" true]
    let queried := s.after [(listedTwice, .query .identifiers)]
    let state : Event := .note .info "state while loading: Scanning"
    s.searchPaths listedTwice = ["/b", "/b"] ∧
    serve listedTwice (.query .identifiers) s = ⟨(.answer (.identifiers ["p"]), queried),
      [.loading "/b/x.plugin" "stub", state, .registered "p" "/b/x.plugin",
        .loading "/b/x.plugin" "stub", state, .duplicate "p" "/b/x.plugin" "/b/x.plugin"]⟩ ∧
    serve {} (.query .identifiers) queried = ⟨(.answer (.identifiers ["p"]), queried), []⟩ ∧
    serve {} .phase queried = ⟨(.phase .scanned, queried), []⟩ := by
  intro s queried state
  have searched : s.searchPaths listedTwice = ["/b", "/b"] := by decide +kernel
  have events : (s.survey listedTwice).events = [.loading "/b/x.plugin" "stub", state,
      .registered "p" "/b/x.plugin", .loading "/b/x.plugin" "stub", state,
      .duplicate "p" "/b/x.plugin" "/b/x.plugin"] := by
    rw [events_survey, pathWarning, registryIn, searched, Registry.scan, visits_listedTwice]
    decide +kernel
  have listed : (s.survey listedTwice).value.identifiers = ["p"] := by
    rw [survey_eq, pathWarning, registryIn, searched, Registry.scan, visits_listedTwice]
    decide +kernel
  have answered : (s.survey listedTwice).value.answer .manager .identifiers = .identifiers ["p"] :=
    congrArg _ listed
  have known : queried = s.known (some listedTwice) := after_known s [(listedTwice, .query .identifiers)]
  obtain ⟨first, -⟩ :=
    source_goes_by_first_query .manager [] "P" [.describing "stub" "plugin" true] [] listedTwice
  obtain ⟨later, phase, -⟩ := source_goes_by_first_query .manager [] "P"
    [.describing "stub" "plugin" true] [(listedTwice, .query .identifiers)] {}
  refine ⟨searched, ?_, ?_, phase⟩
  · rw [known, ← events, ← answered]
    exact first .identifiers
  · rw [← answered]
    exact later .identifiers

end PluginSource

end AssetLink
