import AssetLink.Plugin.Samples
import AssetLink.Proofs.Discovery.Accounting
import AssetLink.Proofs.Discovery.Rescanning

/-!
Which libraries are trusted. A library's code builds a plugin only if its
declaration was made for this host; of every other library no more than its
versions is looked at. So all that is ever registered from native libraries was
built by code that is compatible with the host, and has a name.
-/

namespace AssetLink

namespace Declaration

structure Compatible (d : Declaration) : Prop where
  abi : d.abi = hostAbi
  core : d.core = hostCore

theorem isCompatible_iff {d : Declaration} : d.isCompatible = true ↔ d.Compatible := by
  rw [isCompatible, Bool.and_eq_true, beq_iff_eq, beq_iff_eq]
  exact ⟨fun h => ⟨h.1, h.2⟩, fun h => ⟨h.abi, h.core⟩⟩

/-- The same declaration, with a mark in the log wherever its plugin is built. -/
def marked (d : Declaration) (mark : Event) : Declaration :=
  { d with create := do Logged.log mark; d.create }

end Declaration

theorem Loading.run_logged_bind {α β : Type} (x : Logged α) (f : α → Loading β) :
    (liftM x >>= f : Loading β).run = x >>= fun a => (f a).run :=
  ExceptT.run_bind_lift x f

def World.Exports (w : World) (path : String) (d : Declaration) : Prop :=
  ∃ library, w.openLibrary path = .ok library ∧ library.declaration = some d

namespace Loader

/-- What loading a native library logs and what comes of it. The code that builds
the plugin logs first, if it is run at all. -/
inductive LoadsNatively (w : World) (path : String) :
    List Event → Except LoadError LoadedPlugin → Prop
  | unopenable {fault : String} (opens : w.openLibrary path = .error fault) :
      LoadsNatively w path [] (.error (.unopenable path fault))
  | noEntryPoint {library : Library} (opens : w.openLibrary path = .ok library)
      (exports : library.declaration = none) :
      LoadsNatively w path [] (.error (.noEntryPoint path))
  | foreignAbi {d : Declaration} (exports : w.Exports path d) (abi : d.abi ≠ hostAbi) :
      LoadsNatively w path [] (.error (.incompatible path d.abi "unknown"))
  | foreignCore {d : Declaration} (exports : w.Exports path d) (abi : d.abi = hostAbi)
      (core : d.core ≠ hostCore) :
      LoadsNatively w path [] (.error (.incompatible path d.abi d.core))
  | nameless {d : Declaration} (exports : w.Exports path d) (compatible : d.Compatible)
      (empty : d.create.value.identifier = "") :
      LoadsNatively w path (d.create.events ++ [.libraryLoaded path])
        (.error (.invalid path "plugin identifier is empty"))
  | loaded {d : Declaration} (exports : w.Exports path d) (compatible : d.Compatible)
      (named : d.create.value.identifier ≠ "") :
      LoadsNatively w path (d.create.events ++ [.libraryLoaded path])
        (.ok ⟨d.create.value.identifier, path, d.create.value⟩)

variable {w : World} {phase : Option ScanPhase} {path : String}

theorem run_native_of_compatible {d : Declaration} (exports : w.Exports path d)
    (compatible : d.Compatible) :
    (native.load w phase path).run =
      ⟨LoadedPlugin.ofPlugin path d.create.value, d.create.events ++ [.libraryLoaded path]⟩ := by
  obtain ⟨library, opens, declared⟩ := exports
  simp only [native, opens, Library.load, declared, Declaration.isCompatible_iff.2 compatible,
    if_true, Loading.run_logged_bind]
  rfl

theorem run_native_of_not_compatible {d : Declaration} (exports : w.Exports path d)
    (foreign : ¬ d.Compatible) :
    (native.load w phase path).run = ⟨.error (d.incompatibility path), []⟩ := by
  obtain ⟨library, opens, declared⟩ := exports
  simp only [native, opens, Library.load, declared, mt Declaration.isCompatible_iff.1 foreign]
  rfl

theorem loadsNatively (w : World) (phase : Option ScanPhase) (path : String) :
    LoadsNatively w path (native.load w phase path).run.events
      (native.load w phase path).run.value := by
  cases opens : w.openLibrary path with
  | error fault =>
    simp only [native, opens]
    exact .unopenable opens
  | ok library =>
    cases declared : library.declaration with
    | none =>
      simp only [native, opens, Library.load, declared]
      exact .noEntryPoint opens declared
    | some d =>
      have exports : w.Exports path d := ⟨library, opens, declared⟩
      by_cases compatible : d.Compatible
      · rw [run_native_of_compatible exports compatible]
        by_cases empty : d.create.value.identifier = ""
        · simpa [LoadedPlugin.ofPlugin, empty] using LoadsNatively.nameless exports compatible empty
        · simpa [LoadedPlugin.ofPlugin, empty] using LoadsNatively.loaded exports compatible empty
      · rw [run_native_of_not_compatible exports compatible]
        by_cases abi : d.abi = hostAbi
        · have core : d.core ≠ hostCore := fun core => compatible ⟨abi, core⟩
          simpa [Declaration.incompatibility, abi] using LoadsNatively.foreignCore exports abi core
        · simpa [Declaration.incompatibility, abi] using LoadsNatively.foreignAbi exports abi

theorem loadsNatively_iff {log : List Event} {result : Except LoadError LoadedPlugin} :
    LoadsNatively w path log result ↔ (native.load w phase path).run = ⟨result, log⟩ := by
  constructor
  · intro h
    cases h with
    | unopenable opens =>
      simp only [native, opens]
      rfl
    | noEntryPoint opens exports =>
      simp only [native, opens, Library.load, exports]
      rfl
    | foreignAbi exports abi =>
      rw [run_native_of_not_compatible exports fun compatible => abi compatible.abi,
        Declaration.incompatibility, if_neg abi]
    | foreignCore exports abi core =>
      rw [run_native_of_not_compatible exports fun compatible => core compatible.core,
        Declaration.incompatibility, if_pos abi]
    | nameless exports compatible empty =>
      rw [run_native_of_compatible exports compatible]
      simp [LoadedPlugin.ofPlugin, empty]
    | loaded exports compatible named =>
      rw [run_native_of_compatible exports compatible]
      simp [LoadedPlugin.ofPlugin, named]
  · intro h
    have way := loadsNatively w phase path
    rwa [h] at way

theorem native_load_eq_ok_iff {loaded : LoadedPlugin} :
    (native.load w phase path).run.value = .ok loaded ↔
      ∃ d, w.Exports path d ∧ d.Compatible ∧ d.create.value.identifier ≠ "" ∧
        loaded = ⟨d.create.value.identifier, path, d.create.value⟩ := by
  constructor
  · intro succeeds
    have way := loadsNatively w phase path
    rw [succeeds] at way
    generalize (native.load w phase path).run.events = log at way
    cases way with
    | loaded exports compatible named => exact ⟨_, exports, compatible, named, rfl⟩
  · rintro ⟨d, exports, compatible, named, rfl⟩
    rw [loadsNatively_iff.1 (.loaded exports compatible named)]

theorem events_native_eq_nil (foreign : ∀ d, w.Exports path d → ¬ d.Compatible) :
    (native.load w phase path).run.events = [] := by
  have way := loadsNatively w phase path
  generalize (native.load w phase path).run.events = log at way
  generalize (native.load w phase path).run.value = result at way
  cases way with
  | nameless exports compatible _ => exact absurd compatible (foreign _ exports)
  | loaded exports compatible _ => exact absurd compatible (foreign _ exports)
  | _ => rfl

theorem exists_compatible_of_mem_events {e : Event}
    (logged : e ∈ (native.load w phase path).run.events) (other : e ≠ .libraryLoaded path) :
    ∃ d, w.Exports path d ∧ d.Compatible ∧ e ∈ d.create.events := by
  have built : ∀ d : Declaration, e ∈ d.create.events ++ [.libraryLoaded path] →
      e ∈ d.create.events := fun d member => by simpa [other] using member
  have way := loadsNatively w phase path
  generalize (native.load w phase path).run.events = log at logged way
  generalize (native.load w phase path).run.value = result at way
  cases way with
  | nameless exports compatible _ => exact ⟨_, exports, compatible, built _ logged⟩
  | loaded exports compatible _ => exact ⟨_, exports, compatible, built _ logged⟩
  | _ => cases logged

end Loader

namespace Registry

variable {w : World} {phase : Option ScanPhase}

theorem note_of_visited {r after : Registry} {v : Visit} {log : List Event}
    (h : Visited w phase r v log after) {level : Level} {text : String}
    (logged : .note level text ∈ log) :
    ∃ path loader, v = .entry path ∧ Loader.IsFirst r.loaders w path loader ∧
      .note level text ∈ (loader.load w phase path).run.events := by
  cases h with
  | failed first _ | duplicate first _ _ | registered first _ _ =>
    exact ⟨_, _, rfl, first, by simpa [Loader.attempt] using logged⟩
  | _ => simp at logged

theorem note_of_scanned {r after : Registry} {visits : List Visit} {logs : List (List Event)}
    (h : Scanned w phase r visits logs after) {level : Level} {text : String}
    (logged : .note level text ∈ logs.flatten) :
    ∃ path loader, .entry path ∈ visits ∧ Loader.IsFirst r.loaders w path loader ∧
      .note level text ∈ (loader.load w phase path).run.events := by
  induction h with
  | nil => simp at logged
  | cons first others ih =>
    rw [List.flatten_cons, List.mem_append] at logged
    rcases logged with now | later
    · obtain ⟨path, loader, rfl, claims, noted⟩ := note_of_visited first now
      exact ⟨path, loader, List.mem_cons_self, claims, noted⟩
    · obtain ⟨path, loader, visited, claims, noted⟩ := ih later
      exact ⟨path, loader, List.mem_cons_of_mem _ visited, loaders_visited first ▸ claims, noted⟩

/-- The registries of a host that loads native libraries only, with the scans it
has made. -/
inductive Native : List (World × List String) → Registry → Prop
  | new : Native [] ⟨[.native], {}⟩
  | scan {scans : List (World × List String)} {r : Registry} (from_ : Native scans r) (w : World)
      (phase : Option ScanPhase) (paths : List String) :
      Native (scans ++ [(w, paths)]) (r.scan w phase paths).value
  | reset {scans : List (World × List String)} {r : Registry} (from_ : Native scans r) :
      Native scans r.reset

/-- Built by the compatible library in an entry of these directories, and held
under the name that it was given there. -/
structure Vetted (w : World) (paths : List String) (identifier : String)
    (loaded : LoadedPlugin) : Prop where
  entry : loaded.path ∈ w.entries paths
  isFile : w.isFile loaded.path = true
  built : ∃ d, w.Exports loaded.path d ∧ d.Compatible ∧ d.create.value = loaded.plugin
  ownName : loaded.plugin.identifier = identifier
  keyed : loaded.identifier = identifier
  named : identifier ≠ ""

theorem Native.loaders_eq {scans : List (World × List String)} {r : Registry}
    (h : Native scans r) : r.loaders = [.native] := by
  induction h with
  | new => rfl
  | scan from_ w phase paths ih =>
    exact (loaders_scan _ w phase paths).trans ih
  | reset from_ ih => exact ih

theorem vetted_of_yields {paths : List String} {path : String} {loaded : LoadedPlugin}
    (entry : path ∈ w.entries paths) (yields : Yields [.native] w phase path loaded) :
    Vetted w paths loaded.identifier loaded := by
  obtain ⟨loader, first, load⟩ := yields
  cases List.mem_singleton.1 first.mem
  obtain ⟨d, exports, compatible, named, rfl⟩ := Loader.native_load_eq_ok_iff.1 load
  obtain ⟨-, -, -, candidate, -⟩ := first
  have isFile := (Bool.and_eq_true_iff.1 candidate).1
  exact ⟨entry, isFile, ⟨d, exports, compatible, rfl⟩, rfl, rfl, named⟩

theorem Native.vetted {scans : List (World × List String)} {r : Registry} (h : Native scans r)
    {identifier : String} {loaded : LoadedPlugin}
    (registered : r.plugins.get? identifier = some loaded) :
    ∃ scan ∈ scans, Vetted scan.1 scan.2 identifier loaded := by
  induction h with
  | new => cases registered
  | scan from_ w phase paths ih =>
    rcases get?_scan_origin registered with kept | ⟨-, before, path, after, split, yields, rfl, -⟩
    · obtain ⟨scan, made, vetted⟩ := ih kept
      exact ⟨scan, List.mem_append_left _ made, vetted⟩
    · have entry : path ∈ w.entries paths := split ▸ List.mem_append_right _ List.mem_cons_self
      rw [from_.loaders_eq] at yields
      exact ⟨(w, paths), List.mem_append_right _ List.mem_cons_self,
        vetted_of_yields entry yields⟩
  | reset from_ _ => cases registered

theorem Native.note_of_scan {scans : List (World × List String)} {r : Registry}
    (h : Native scans r) {paths : List String} {level : Level} {text : String}
    (logged : .note level text ∈ (r.scan w phase paths).events) :
    ∃ path ∈ w.entries paths, ∃ d, w.Exports path d ∧ d.Compatible ∧
      .note level text ∈ d.create.events := by
  obtain ⟨logs, scanned, events⟩ := scanned_foldlM w phase r (w.visits paths)
  rw [Registry.scan, events] at logged
  obtain ⟨path, loader, visited, first, noted⟩ := note_of_scanned scanned logged
  have entry : path ∈ w.entries paths := by
    rw [← World.filterMap_entry?_visits]
    exact List.mem_filterMap.2 ⟨_, visited, rfl⟩
  rw [h.loaders_eq] at first
  cases List.mem_singleton.1 first.mem
  exact ⟨path, entry, Loader.exists_compatible_of_mem_events noted (by simp)⟩

/-- A library's code is run to build a plugin, and then once, exactly if the
library can be opened and was declared for this host; otherwise the first
obstacle is reported and nothing of the library is run. So is every plugin of a
host for native libraries built by compatible code, and registered under its own
name. -/
theorem compatible_libraries_build_plugins (w : World) (phase : Option ScanPhase) (path : String) :
    let load := (Loader.native.load w phase path).run
    (∀ log result, load = ⟨result, log⟩ ↔ Loader.LoadsNatively w path log result) ∧
    (∀ (d : Declaration) (mark : Event), w.Exports path (d.marked mark) → mark ≠ .libraryLoaded path →
      (mark ∈ load.events ↔ d.Compatible) ∧
      (d.Compatible → load.events.count mark = d.create.events.count mark + 1)) ∧
    ((∀ d, w.Exports path d → ¬ d.Compatible) → load.events = []) ∧
    (∀ loaded, load.value = .ok loaded ↔
      ∃ d, w.Exports path d ∧ d.Compatible ∧ d.create.value.identifier ≠ "" ∧
        loaded = ⟨d.create.value.identifier, path, d.create.value⟩) ∧
    ∀ scans r, Native scans r →
      (∀ identifier loaded, r.plugins.get? identifier = some loaded →
        ∃ scan ∈ scans, Vetted scan.1 scan.2 identifier loaded) ∧
      ∀ paths level text, .note level text ∈ (r.scan w phase paths).events →
        ∃ path ∈ w.entries paths, ∃ d, w.Exports path d ∧ d.Compatible ∧
          .note level text ∈ d.create.events := by
  intro load
  refine ⟨fun log result => Loader.loadsNatively_iff.symm, fun d mark exports other => ?_,
    Loader.events_native_eq_nil, fun loaded => Loader.native_load_eq_ok_iff, fun scans r h =>
      ⟨fun identifier loaded => h.vetted, fun paths level text => h.note_of_scan⟩⟩
  by_cases compatible : d.Compatible
  · have run : load = _ := Loader.run_native_of_compatible exports ⟨compatible.abi, compatible.core⟩
    simp [run, Declaration.marked, compatible, Ne.symm other]
  · have run : load = _ := Loader.run_native_of_not_compatible exports fun same =>
      compatible ⟨same.abi, same.core⟩
    simp [run, compatible]

def builtMark : Event :=
  .note .info "built"

def foreignDeclaration : Declaration :=
  ⟨hostAbi + 1, hostCore, pure { identifier := "n" }⟩

def ownDeclaration : Declaration :=
  ⟨hostAbi, hostCore, pure { identifier := "n" }⟩

/-- Two directories, each with a library that says so when it builds its plugin:
the first is foreign, the second was made for this host. -/
def foreignFirst : World where
  root := .directory [
    ("p", .directory [
      ("a.so", .file (.ofLibrary ⟨some (foreignDeclaration.marked builtMark)⟩))] [] none),
    ("q", .directory [
      ("b.so", .file (.ofLibrary ⟨some (ownDeclaration.marked builtMark)⟩))] [] none)] [] none

theorem exports_foreignFirst {path : String} {d : Declaration} (position : List String)
    (slash : '/' ∈ path.toList) (plain : '$' ∉ path.toList)
    (ending : path.toList.getLast? ≠ some '\x00')
    (leads : foreignFirst.position? path = some position)
    (there : foreignFirst.root.find? position = some (.file (.ofLibrary ⟨some d⟩))) :
    foreignFirst.Exports path d :=
  ⟨⟨some d⟩, World.openLibrary_of_find? slash plain ending rfl leads there, rfl⟩

theorem foreign_foreignFirst :
    foreignFirst.Exports "/p/a.so" (foreignDeclaration.marked builtMark) :=
  exports_foreignFirst ["p", "a.so"] (by decide +kernel) (by decide +kernel) (by decide +kernel)
    (by decide +kernel) rfl

theorem own_foreignFirst : foreignFirst.Exports "/q/b.so" (ownDeclaration.marked builtMark) :=
  exports_foreignFirst ["q", "b.so"] (by decide +kernel) (by decide +kernel) (by decide +kernel)
    (by decide +kernel) rfl

theorem entries_foreignFirst : foreignFirst.entries ["/p", "/q"] = ["/p/a.so", "/q/b.so"] := by
  have leadsP : foreignFirst.position? "/p" = some ["p"] := by decide +kernel
  have leadsQ : foreignFirst.position? "/q" = some ["q"] := by decide +kernel
  rw [World.entries, List.flatMap_cons, List.flatMap_singleton,
    World.entryNames_of_find? leadsP rfl, World.entryNames_of_find? leadsQ rfl,
    World.sortedNames, World.sortedNames]
  simp only [List.map_singleton, List.mergeSort_singleton]
  decide +kernel

theorem scan_foreignFirst :
    (Registry.scan ⟨[.native], {}⟩ foreignFirst none ["/p", "/q"]).value.plugins.get? "n" =
      some ⟨"n", "/q/b.so", { identifier := "n" }⟩ := by
  have own : Yields [.native] foreignFirst none "/q/b.so" ⟨"n", "/q/b.so", { identifier := "n" }⟩ :=
    ⟨.native, ⟨[], [], rfl, by decide +kernel, by simp⟩,
      Loader.native_load_eq_ok_iff.2 ⟨_, own_foreignFirst, ⟨rfl, rfl⟩, by decide, rfl⟩⟩
  have refused : (Loader.native.load foreignFirst none "/p/a.so").run = _ :=
    Loader.loadsNatively_iff.1 (.foreignAbi foreign_foreignFirst (by decide))
  rw [get?_scan]
  change Option.or none _ = _
  rw [Option.none_or, find?_found_eq_some_iff]
  refine ⟨["/p/a.so"], "/q/b.so", [], entries_foreignFirst, own, rfl,
    fun other before earlier => ?_⟩
  rintro ⟨loader, first, load⟩
  cases List.mem_singleton.1 first.mem
  cases List.mem_singleton.1 before
  rw [refused] at load
  cases load

theorem compatible_libraries_build_plugins_foreignFirst :
    let load := fun path => (Loader.native.load foreignFirst none path).run
    let scan := Registry.scan ⟨[.native], {}⟩ foreignFirst none ["/p", "/q"]
    (foreignFirst.Exports "/p/a.so" (foreignDeclaration.marked builtMark) ∧
      builtMark ≠ .libraryLoaded "/p/a.so" ∧ builtMark ∉ (load "/p/a.so").events ∧
      (load "/p/a.so").value = .error (.incompatible "/p/a.so" 2 "unknown")) ∧
    (foreignFirst.Exports "/q/b.so" (ownDeclaration.marked builtMark) ∧
      builtMark ≠ .libraryLoaded "/q/b.so" ∧ (load "/q/b.so").events.count builtMark = 1) ∧
    ∃ loaded, scan.value.plugins.get? "n" = some loaded ∧ loaded.path = "/q/b.so" ∧
      Vetted foreignFirst ["/p", "/q"] "n" loaded := by
  intro load scan
  obtain ⟨ways, marks, -⟩ := compatible_libraries_build_plugins foreignFirst none "/p/a.so"
  obtain ⟨-, ownMarks, -, -, scans⟩ :=
    compatible_libraries_build_plugins foreignFirst none "/q/b.so"
  have abi : foreignDeclaration.abi ≠ hostAbi := by decide
  have refused := (ways _ _).2 (.foreignAbi foreign_foreignFirst abi)
  have unmarked := (marks _ _ foreign_foreignFirst nofun).1
  have built := (ownMarks _ _ own_foreignFirst nofun).2 ⟨rfl, rfl⟩
  obtain ⟨made, listed, vetted⟩ :=
    (scans _ _ (.scan .new foreignFirst none ["/p", "/q"])).1 "n" _ scan_foreignFirst
  cases List.mem_singleton.1 listed
  exact ⟨⟨foreign_foreignFirst, nofun, mt unmarked.1 fun same => abi same.abi,
      congrArg Logged.value refused⟩, ⟨own_foreignFirst, nofun, built⟩,
    _, scan_foreignFirst, rfl, vetted⟩

end Registry

end AssetLink
