import AssetLink.Proofs.Discovery.Ordering
import AssetLink.Proofs.Host.SearchedPaths

/-!
Two ways to name the directories to be searched. A list of paths and a variable that
holds the same paths with colons between them lead to one search; the environment
counts only where no path is listed.
-/

namespace AssetLink

theorem World.node?_environment (w : World) (environment : Dictionary String) (path : String) :
    World.node? { w with environment } path = w.node? path := rfl

def Loader.Detached (loader : Loader) : Prop :=
  ∀ w environment, loader.Agrees w { w with environment }

theorem Loader.detached_native : native.Detached := fun w environment => {
  isCandidate := fun path => by simp only [native, World.isFile, w.node?_environment]
  load := fun phase path => by
    simp only [native, World.openLibrary, World.findLibrary, w.node?_environment] }

theorem Loader.detached_describing (name extension : String) (asking : Bool) :
    (describing name extension asking).Detached := fun w environment => {
  isCandidate := fun _ => rfl
  load := fun phase path => by simp only [describing, World.readText, w.node?_environment] }

/-- The loader leaves it to the source to warn that there is nothing to search. -/
def Loader.Quiet (loader : Loader) (w : World) : Prop :=
  ∀ phase path name, Event.noSearchPaths name ∉ (loader.load w phase path).run.events

/-- Only the code of a plugin could log it. -/
theorem Loader.quiet_native {w : World}
    (silent : ∀ path library declaration, w.openLibrary path = .ok library →
      library.declaration = some declaration →
      ∀ name, .noSearchPaths name ∉ declaration.create.events) : native.Quiet w := by
  intro phase path name
  cases opened : w.openLibrary path with
  | error fault => simp [native, opened]
  | ok library =>
      cases declared : library.declaration with
      | none => simp [native, opened, Library.load, declared]
      | some declaration =>
          have created := silent path library declaration opened declared name
          by_cases compatible : declaration.isCompatible <;>
            simp [native, opened, Library.load, declared, compatible, created]

theorem Loader.quiet_describing (name extension : String) (asking : Bool) (w : World) :
    (describing name extension asking).Quiet w := by
  intro phase path unset
  cases text : w.readText path with
  | error fault => cases asking <;> cases phase <;> simp [describing, text]
  | ok text' =>
      cases made : (DescriptionFile.ofText text').plugin? <;> cases asking <;> cases phase <;>
        simp [describing, text, made]

namespace Registry

variable {w : World} {phase : Option ScanPhase}

theorem noSearchPaths_notMem_visited {r after : Registry} {v : Visit} {log : List Event}
    (quiet : ∀ loader ∈ r.loaders, loader.Quiet w) (h : Visited w phase r v log after)
    (name : String) : .noSearchPaths name ∉ log := by
  cases h with
  | failed first | duplicate first | registered first =>
      have silent := quiet _ (List.mem_of_find?_eq_some (Loader.isFirst_iff.1 first))
      simpa [Loader.attempt] using silent phase _ name
  | _ => simp

theorem noSearchPaths_notMem_scanned {r after : Registry} {visits : List Visit}
    {logs : List (List Event)} (quiet : ∀ loader ∈ r.loaders, loader.Quiet w)
    (h : Scanned w phase r visits logs after) (name : String) :
    .noSearchPaths name ∉ logs.flatten := by
  induction h with
  | nil => simp
  | cons first _ ih =>
      rw [List.flatten_cons, List.mem_append, not_or]
      exact ⟨noSearchPaths_notMem_visited quiet first name, ih (loaders_visited first ▸ quiet)⟩

end Registry

namespace PluginSource

variable {c : Capability}

theorem survey_of_nothing {s : PluginSource c} {w : World} (none : s.searchPaths w = []) :
    (s.survey w).events = [.noSearchPaths s.environmentVariable] := by
  rw [survey_eq_search, none]
  rfl

theorem noSearchPaths_notMem_survey {s : PluginSource c} {w : World}
    (some : s.searchPaths w ≠ []) (quiet : ∀ loader ∈ s.loaders, loader.Quiet w) (name : String) :
    .noSearchPaths name ∉ (s.survey w).events := by
  obtain ⟨logs, scanned, events⟩ := scanned_survey s w
  have visits := Registry.noSearchPaths_notMem_scanned quiet scanned name
  rw [events, pathWarning, if_neg some]
  simp [visits]

theorem value_search (c : Capability) (loaders : List Loader) (u v : String) (w : World)
    (directories : List String) :
    (search c loaders u w directories).value = (search c loaders v w directories).value := by
  cases directories <;> rfl

theorem search_congr {directories : List String} {u v : String}
    (same : directories = [] → u = v) (c : Capability) (loaders : List Loader) (w : World) :
    search c loaders u w directories = search c loaders v w directories := by
  cases directories with
  | nil => rw [same rfl]
  | cons => rfl

theorem exists_mem_of_scannedIn {history : List (World × Request)} {w : World}
    (h : scannedIn history = some w) : ∃ request, (w, request) ∈ history := by
  obtain ⟨⟨u, request⟩, member, queried⟩ := List.exists_of_findSome?_eq_some h
  have among := (List.rtakeWhile_suffix _ _).subset member
  cases request with
  | query q =>
      obtain rfl := Option.some.inj queried
      exact ⟨_, among⟩
  | phase | reset => cases queried

theorem serve_known_congr {s t : PluginSource c} {seen : Option World} {w : World}
    (same : (t.survey w).value = (s.survey w).value)
    (before : ∀ first, seen = some first → (t.survey first).value = (s.survey first).value)
    (request : Request) :
    (serve w request (t.known seen)).value.1 = (serve w request (s.known seen)).value.1 ∧
      ((t.survey w).events = (s.survey w).events →
        (serve w request (t.known seen)).events = (serve w request (s.known seen)).events) := by
  cases request with
  | phase => rw [serve_phase_known, serve_phase_known]; exact ⟨rfl, fun _ => rfl⟩
  | reset => exact ⟨rfl, fun _ => rfl⟩
  | query q =>
      rw [serve_query_known, serve_query_known]
      cases seen with
      | none => exact ⟨by rw [same], id⟩
      | some first =>
          refine ⟨?_, fun _ => rfl⟩
          dsimp only
          rw [before first rfl]

theorem after_made (c : Capability) (paths : List String) (v : String) (loaders : List Loader)
    (history : List (World × Request)) :
    (made c paths v loaders).after history =
      (made c paths v loaders).known (scannedIn history) :=
  after_known (made c paths v loaders) history

theorem events_serve_known (s : PluginSource c) (seen : Option World) (w : World)
    (request : Request) :
    (serve w request (s.known seen)).events = [] ∨
      seen = none ∧ (∃ q, request = .query q) ∧
        (serve w request (s.known seen)).events = (s.survey w).events := by
  cases request with
  | phase => exact .inl (by rw [serve_phase_known])
  | reset => exact .inl rfl
  | query q =>
      rw [serve_query_known]
      cases seen with
      | none => exact .inr ⟨rfl, ⟨q, rfl⟩, rfl⟩
      | some first => exact .inl rfl

/-- A source warns that there is nothing to search with every scan that finds it so,
and never otherwise. -/
structure WarnsOfNothing (s : PluginSource c) (history : List (World × Request)) (w : World) :
    Prop where
  nothing : s.searchPaths w = [] → (s.survey w).events = [.noSearchPaths s.environmentVariable]
  something : s.searchPaths w ≠ [] → (∀ loader ∈ s.loaders, loader.Quiet w) →
    ∀ name, .noSearchPaths name ∉ (s.survey w).events
  scan_only : ∀ request, (serve w request (s.after history)).events = [] ∨
    scannedIn history = none ∧ (∃ q, request = .query q) ∧
      (serve w request (s.after history)).events = (s.survey w).events

section Lists

variable (c) (loaders : List Loader) (u v : String) {paths : List String}

theorem survey_listed (nonempty : paths ≠ []) (w : World) :
    (made c paths u loaders).searchPaths w = (paths.filter fun path => !path.isEmpty) ∧
      (made c paths u loaders).survey w =
        search c loaders u w (paths.filter fun path => !path.isEmpty) := by
  have searched : (made c paths u loaders).searchPaths w =
      paths.filter fun path => !path.isEmpty :=
    (effective_searchPaths (made c paths u loaders) w).given nonempty
  exact ⟨searched, searched ▸ survey_eq_search _ w⟩

theorem survey_fromVariable (nonempty : paths ≠ []) (colonless : ∀ path ∈ paths, ':' ∉ path.toList)
    {w : World} (holds : w.valueOf? v = some (":".intercalate paths)) :
    (made c [] v loaders).searchPaths w = (paths.filter fun path => !path.isEmpty) ∧
      (made c [] v loaders).survey w =
        search c loaders v w (paths.filter fun path => !path.isEmpty) := by
  have apart : Path.ofSearchList (":".intercalate paths) = paths :=
    Text.pieces_intercalate nonempty colonless
  have searched : (made c [] v loaders).searchPaths w =
      paths.filter fun path => !path.isEmpty := by
    simp [searchPaths, made, holds, apart]
  exact ⟨searched, searched ▸ survey_eq_search _ w⟩

theorem survey_environment (nonempty : paths ≠ []) {w : World} {environment : Dictionary String}
    (agree : ∀ loader ∈ loaders, loader.Agrees w { w with environment }) :
    (made c paths u loaders).survey { w with environment } =
      (made c paths u loaders).survey w := by
  have scans : ∀ directories, Registry.scan ⟨loaders, {}⟩ { w with environment } (some .scanning)
      directories = Registry.scan ⟨loaders, {}⟩ w (some .scanning) directories :=
    fun directories => Registry.scan_of_agrees agree rfl
  rw [(survey_listed c loaders u nonempty _).2, (survey_listed c loaders u nonempty w).2, search,
    search, scans]

theorem warnsOfNothing_made (given : List String) (w : World) (history : List (World × Request)) :
    WarnsOfNothing (made c given v loaders) history w where
  nothing := survey_of_nothing
  something := noSearchPaths_notMem_survey
  scan_only request := by
    rw [after_made]
    exact events_serve_known _ _ w request

/-- It is the same whether paths are listed or a variable holds them with colons
between them: the paths that are not empty are searched, in their order. -/
theorem listed_as_in_variable (nonempty : paths ≠ [])
    (colonless : ∀ path ∈ paths, ':' ∉ path.toList) :
    let listed := made c paths u loaders
    let fromVariable := made c [] v loaders
    let directories := paths.filter fun path => !path.isEmpty
    (∀ w, listed.searchPaths w = directories ∧
      listed.survey w = search c loaders u w directories ∧
      ∀ environment, (∀ loader ∈ loaders, loader.Agrees w { w with environment }) →
        listed.survey { w with environment } = listed.survey w) ∧
    (∀ w, w.valueOf? v = some (":".intercalate paths) →
      fromVariable.searchPaths w = directories ∧
      fromVariable.survey w = search c loaders v w directories ∧
      (fromVariable.survey w).value = (listed.survey w).value ∧
      ((directories = [] → u = v) → fromVariable.survey w = listed.survey w)) ∧
    (∀ history w, (∀ step ∈ history, step.1.valueOf? v = some (":".intercalate paths)) →
      w.valueOf? v = some (":".intercalate paths) → ∀ request,
        (serve w request (fromVariable.after history)).value.1 =
          (serve w request (listed.after history)).value.1 ∧
        ((directories = [] → u = v) →
          (serve w request (fromVariable.after history)).events =
            (serve w request (listed.after history)).events)) ∧
    Loader.native.Detached ∧
    (∀ name extension asking, (Loader.describing name extension asking).Detached) ∧
    (∀ given w history, WarnsOfNothing (made c given v loaders) history w) ∧
    (∀ name, (Event.noSearchPaths name).level = .warn ∧ (Event.noSearchPaths name).message =
      s!"No search paths specified, no plugins will load - check ${name} is set") ∧
    (∀ w, (∀ path library declaration, w.openLibrary path = .ok library →
        library.declaration = some declaration →
        ∀ name, .noSearchPaths name ∉ declaration.create.events) →
      Loader.native.Quiet w) ∧
    ∀ name extension asking w, (Loader.describing name extension asking).Quiet w := by
  intro listed fromVariable directories
  have ofListed := survey_listed c loaders u nonempty
  have ofVariable := fun w => survey_fromVariable c loaders v (w := w) nonempty colonless
  have value : ∀ w, w.valueOf? v = some (":".intercalate paths) →
      (fromVariable.survey w).value = (listed.survey w).value := fun w holds => by
    rw [(ofVariable w holds).2, (ofListed w).2, value_search c loaders v u]
  have whole : ∀ w, w.valueOf? v = some (":".intercalate paths) → (directories = [] → u = v) →
      fromVariable.survey w = listed.survey w := fun w holds same => by
    rw [(ofVariable w holds).2, (ofListed w).2, search_congr same]
  refine ⟨fun w => ?_, fun w holds => ?_, fun history w held holds request => ?_,
    Loader.detached_native, Loader.detached_describing, warnsOfNothing_made c loaders v,
    fun _ => ⟨rfl, rfl⟩, fun _ => Loader.quiet_native, Loader.quiet_describing⟩
  · obtain ⟨searched, surveyed⟩ := ofListed w
    exact ⟨searched, surveyed, fun environment => survey_environment c loaders u nonempty⟩
  · obtain ⟨searched, surveyed⟩ := ofVariable w holds
    exact ⟨searched, surveyed, value w holds, whole w holds⟩
  · have replies := serve_known_congr (value w holds)
      (fun first (seen : scannedIn history = some first) => by
        obtain ⟨earlier, member⟩ := exists_mem_of_scannedIn seen
        exact value first (held _ member)) request
    rw [after_made, after_made]
    exact ⟨replies.1, fun same => replies.2 (congrArg Logged.events (whole w holds same))⟩

end Lists

theorem listed_as_in_variable_twoDirectories :
    let loaders : List Loader := [.describing "stub" "plugin" false]
    let w := { Registry.twoDirectories with environment := .ofList [("P", ":/a::/b")] }
    let listed := made .manager ["", "/a", "", "/b"] "P" loaders
    let fromVariable := made .manager [] "P" loaders
    listed.searchPaths Registry.twoDirectories = ["/a", "/b"] ∧
      listed.survey Registry.twoDirectories = listed.survey w ∧
      fromVariable.searchPaths w = ["/a", "/b"] ∧
      fromVariable.survey w = listed.survey w ∧
      (serve w (.query (.instantiate "p"))
          (fromVariable.after [(w, .query .identifiers)])).value.1 =
        (serve w (.query (.instantiate "p")) (listed.after [(w, .query .identifiers)])).value.1 ∧
      ∀ name, .noSearchPaths name ∉ (listed.survey w).events := by
  intro loaders w listed fromVariable
  have holds : w.valueOf? "P" = some (":".intercalate ["", "/a", "", "/b"]) := by decide +kernel
  have directories : ["", "/a", "", "/b"].filter (fun path => !path.isEmpty) = ["/a", "/b"] := by
    decide +kernel
  obtain ⟨ofListed, ofVariable, replies, -, detached, warns, -, -, quiet⟩ :=
    listed_as_in_variable .manager loaders "P" "P" (List.cons_ne_nil "" ["/a", "", "/b"])
      (by decide +kernel)
  rw [directories] at ofListed ofVariable replies
  obtain ⟨searched, -, unchanged⟩ := ofListed w
  refine ⟨(ofListed _).1, ?_, (ofVariable w holds).1, ?_, ?_, ?_⟩
  · refine unchanged {} fun loader member => ?_
    obtain rfl := List.mem_singleton.1 member
    exact detached _ _ _ w {}
  · exact (ofVariable w holds).2.2.2 fun _ => rfl
  · exact (replies [(w, .query .identifiers)] w (by simpa using holds) holds _).1
  · refine (warns ["", "/a", "", "/b"] w []).something (by rw [searched]; simp) fun loader member => ?_
    obtain rfl := List.mem_singleton.1 member
    exact quiet _ _ _ w

end PluginSource

end AssetLink
