import AssetLink.Discovery.Scan
import AssetLink.Proofs.Text.ByteOrder
import Mathlib.Data.List.Find

/-!
What a scan comes upon. The entries that are offered to loaders are those of the
directories among the search paths, path by path, and of one directory in the
order of the bytes of their names. Each visit leaves one stretch of the log, and
a scan is what its visits are one after the other.
-/

namespace AssetLink

def Visit.entry? : Visit → Option String
  | entry path => some path
  | _ => none

namespace World

def entryNames (w : World) (directory : String) : List String :=
  if w.isDirectory directory then
    match w.contents directory with
    | .ok contents => sortedNames contents.names
    | .error _ => []
  else []

def entries (w : World) (paths : List String) : List String :=
  paths.flatMap fun directory => (w.entryNames directory).map (Path.join directory)

theorem entryNames_of_find? {w : World} {directory : String} {position : List String}
    {entries : List (String × Node)} {faults : List String}
    (leads : w.position? directory = some position)
    (there : w.root.find? position = some (.directory entries faults none)) :
    w.entryNames directory = sortedNames (entries.map (·.1)) := by
  have node : w.node? directory = some (.directory entries faults none) := by
    rw [node?, leads, Option.bind_some, there]
  simp [entryNames, isDirectory, contents, node, Node.isDirectory]

theorem visit_of_find? {w : World} {directory : String} {position : List String}
    {entries : List (String × Node)} {faults : List String}
    (leads : w.position? directory = some position)
    (there : w.root.find? position = some (.directory entries faults none)) :
    w.visit directory = faults.map (Visit.unreadableEntry directory) ++
      (sortedNames (entries.map (·.1))).map fun name => .entry (Path.join directory name) := by
  have node : w.node? directory = some (.directory entries faults none) := by
    rw [node?, leads, Option.bind_some, there]
  simp [visit, isDirectory, contents, node, Node.isDirectory]

theorem openLibrary_of_find? {w : World} {path : String} {position : List String} {content : File}
    (slash : '/' ∈ path.toList) (plain : '$' ∉ path.toList)
    (ending : path.toList.getLast? ≠ some '\x00') (fresh : w.resident.get? path = none)
    (leads : w.position? path = some position)
    (there : w.root.find? position = some (.file content)) :
    w.openLibrary path = content.library := by
  have closed : LibraryName.closed path = path := if_neg ending
  have expanded : LibraryName.path path = path := by
    rw [LibraryName.path, LibraryName.expandAfter_eq_self plain, String.ofList_toList]
  have foreign : ¬ (path.isEmpty = true ∨ path ∈ LibraryName.systemLibraries) := by
    have bare : ∀ name ∈ LibraryName.systemLibraries, '/' ∉ name.toList := by decide +kernel
    rintro (empty | system)
    · rw [String.isEmpty_iff.1 empty] at slash
      cases slash
    · exact bare path system slash
  have contains : path.contains '/' = true := by simpa using slash
  have node : w.node? path = some (.file content) := by
    rw [node?, leads, Option.bind_some, there]
  rw [openLibrary, closed, fresh, Option.elim_none, findLibrary, if_neg foreign, contains, if_pos rfl,
    expanded, node]

theorem filterMap_entry?_visit (w : World) (directory : String) :
    (w.visit directory).filterMap Visit.entry? =
      (w.entryNames directory).map (Path.join directory) := by
  unfold visit entryNames
  split
  · cases w.contents directory with
    | error fault => rfl
    | ok contents =>
      have faults : (contents.faults.map (Visit.unreadableEntry directory)).filterMap
          Visit.entry? = [] := by simp [Visit.entry?]
      have names : ((sortedNames contents.names).map fun name =>
          Visit.entry (Path.join directory name)).filterMap Visit.entry? =
            (sortedNames contents.names).map (Path.join directory) := by
        simp [List.filterMap_map, Function.comp_def, Visit.entry?]
      rw [List.filterMap_append, faults, names, List.nil_append]
  · rfl

theorem filterMap_entry?_visits (w : World) (paths : List String) :
    (w.visits paths).filterMap Visit.entry? = w.entries paths := by
  simp only [visits, entries, List.filterMap_flatMap, filterMap_entry?_visit]

theorem sortedNames_perm (names : List String) : (sortedNames names).Perm names :=
  List.mergeSort_perm names _

theorem sortedNames_pairwise (names : List String) : (sortedNames names).Pairwise (· ≤ ·) := by
  have transitive : ∀ a b c : String,
      decide (a ≤ b) = true → decide (b ≤ c) = true → decide (a ≤ c) = true := by
    intro a b c hab hbc
    exact decide_eq_true (String.le_trans (of_decide_eq_true hab) (of_decide_eq_true hbc))
  have total : ∀ a b : String, (decide (a ≤ b) || decide (b ≤ a)) = true := by
    intro a b
    simpa using String.le_total a b
  exact (List.pairwise_mergeSort transitive total names).imp fun h => of_decide_eq_true h

theorem sortedNames_sorted (names : List String) :
    (sortedNames names).Pairwise fun a b => Text.bytes a ≤ Text.bytes b := by
  refine (sortedNames_pairwise names).imp fun {a b} h => ?_
  have notLess : ¬ b < a := String.not_lt.2 h
  exact fun less => notLess (Text.bytes_lt_bytes_iff.1 less)

theorem sortedNames_eq_of_perm {names others : List String} (perm : names.Perm others) :
    sortedNames others = sortedNames names := by
  refine List.Perm.eq_of_pairwise (fun a b _ _ => String.le_antisymm)
    (sortedNames_pairwise others) (sortedNames_pairwise names) ?_
  exact (sortedNames_perm others).trans (perm.symm.trans (sortedNames_perm names).symm)

end World

def Loader.IsFirst (loaders : List Loader) (w : World) (path : String) (loader : Loader) : Prop :=
  ∃ before after, loaders = before ++ loader :: after ∧ loader.isCandidate w path = true ∧
    ∀ other ∈ before, other.isCandidate w path = false

theorem Loader.isFirst_iff {loaders : List Loader} {w : World} {path : String} {loader : Loader} :
    IsFirst loaders w path loader ↔ loaders.find? (·.isCandidate w path) = some loader := by
  rw [List.find?_eq_some_iff_append, IsFirst]
  simp only [Bool.not_eq_true']
  grind

theorem Loader.find?_eq_none_iff {loaders : List Loader} {w : World} {path : String} :
    loaders.find? (·.isCandidate w path) = none ↔
      ∀ loader ∈ loaders, loader.isCandidate w path = false := by
  simp

structure Loader.Agrees (loader : Loader) (w other : World) : Prop where
  isCandidate : ∀ path, loader.isCandidate other path = loader.isCandidate w path
  load : ∀ phase path, loader.load other phase path = loader.load w phase path

theorem Loader.find?_of_agrees {loaders : List Loader} {w other : World}
    (agree : ∀ loader ∈ loaders, loader.Agrees w other) (path : String) :
    loaders.find? (·.isCandidate other path) = loaders.find? (·.isCandidate w path) :=
  List.find?_congr fun loader member => (agree loader member).isCandidate path

def Loader.attempt (loader : Loader) (w : World) (phase : Option ScanPhase) (path : String) :
    List Event :=
  .loading path loader.name :: (loader.load w phase path).run.events

namespace Registry

variable (w : World) (phase : Option ScanPhase)

/-- One visit with what it logs and what it makes of the registry. An entry is
given to at most one loader, the first that understands it, and the last event
says what became of it. -/
inductive Visited (r : Registry) : Visit → List Event → Registry → Prop
  | notDirectory (path : String) : Visited r (.notDirectory path) [.notDirectory path] r
  | unreadableDirectory (path fault : String) :
      Visited r (.unreadableDirectory path fault) [.unreadableDirectory path fault] r
  | unreadableEntry (directory fault : String) :
      Visited r (.unreadableEntry directory fault) [.unreadableEntry directory fault] r
  | unclaimed {path : String}
      (none : ∀ loader ∈ r.loaders, loader.isCandidate w path = false) :
      Visited r (.entry path) [.unclaimed path] r
  | failed {path : String} {loader : Loader} {e : LoadError}
      (first : Loader.IsFirst r.loaders w path loader)
      (load : (loader.load w phase path).run.value = .error e) :
      Visited r (.entry path) (loader.attempt w phase path ++ [.ignored e]) r
  | duplicate {path : String} {loader : Loader} {loaded kept : LoadedPlugin}
      (first : Loader.IsFirst r.loaders w path loader)
      (load : (loader.load w phase path).run.value = .ok loaded)
      (taken : r.plugins.get? loaded.identifier = some kept) :
      Visited r (.entry path)
        (loader.attempt w phase path ++ [.duplicate loaded.identifier loaded.path kept.path]) r
  | registered {path : String} {loader : Loader} {loaded : LoadedPlugin}
      (first : Loader.IsFirst r.loaders w path loader)
      (load : (loader.load w phase path).run.value = .ok loaded)
      (free : r.plugins.get? loaded.identifier = none) :
      Visited r (.entry path)
        (loader.attempt w phase path ++ [.registered loaded.identifier loaded.path])
        { r with plugins := r.plugins.insert loaded.identifier loaded }

theorem visited (r : Registry) (v : Visit) :
    Visited w phase r v (r.visit w phase v).events (r.visit w phase v).value := by
  cases v with
  | notDirectory path => exact .notDirectory path
  | unreadableDirectory path fault => exact .unreadableDirectory path fault
  | unreadableEntry directory fault => exact .unreadableEntry directory fault
  | entry path =>
    rw [visit, visitEntry, offer]
    cases claim : r.loaders.find? (·.isCandidate w path) with
    | none => exact .unclaimed (Loader.find?_eq_none_iff.1 claim)
    | some loader =>
      have first := Loader.isFirst_iff.2 claim
      cases load : (loader.load w phase path).run.value with
      | error e => simpa [Loader.attempt, load] using Visited.failed first load
      | ok loaded =>
        cases taken : r.plugins.get? loaded.identifier with
        | none =>
          simpa [Loader.attempt, load, register, taken] using Visited.registered first load taken
        | some kept =>
          simpa [Loader.attempt, load, register, taken] using Visited.duplicate first load taken

/-- Visits one after the other, with the stretch of the log that each of them
leaves. -/
inductive Scanned : Registry → List Visit → List (List Event) → Registry → Prop
  | nil (r : Registry) : Scanned r [] [] r
  | cons {r middle after : Registry} {v : Visit} {rest : List Visit} {log : List Event}
      {logs : List (List Event)} (first : Visited w phase r v log middle)
      (others : Scanned middle rest logs after) : Scanned r (v :: rest) (log :: logs) after

theorem loaders_visited {w : World} {phase : Option ScanPhase} {r after : Registry} {v : Visit}
    {log : List Event} (h : Visited w phase r v log after) : after.loaders = r.loaders := by
  cases h <;> rfl

theorem visit_of_agrees {w other : World} {r : Registry}
    (agree : ∀ loader ∈ r.loaders, loader.Agrees w other) (v : Visit) :
    r.visit other phase v = r.visit w phase v := by
  cases v with
  | entry path =>
      rw [visit, visit, visitEntry, visitEntry, offer, offer, Loader.find?_of_agrees agree]
      cases first : r.loaders.find? (·.isCandidate w path) with
      | none => rfl
      | some loader =>
          dsimp only
          rw [(agree loader (List.mem_of_find?_eq_some first)).load]
  | _ => rfl

theorem foldlM_visit_of_agrees {w other : World} {r : Registry}
    (agree : ∀ loader ∈ r.loaders, loader.Agrees w other) (visits : List Visit) :
    visits.foldlM (visit other phase) r = visits.foldlM (visit w phase) r := by
  induction visits generalizing r with
  | nil => rfl
  | cons v rest ih =>
      have kept : (r.visit w phase v).value.loaders = r.loaders :=
        loaders_visited (visited w phase r v)
      have later := ih (r := (r.visit w phase v).value) (kept ▸ agree)
      rw [List.foldlM_cons, List.foldlM_cons, visit_of_agrees phase agree]
      exact congrArg (fun done : Logged Registry =>
        Logged.mk done.value ((r.visit w phase v).events ++ done.events)) later

theorem scanned_foldlM (r : Registry) (visits : List Visit) :
    ∃ logs, Scanned w phase r visits logs (visits.foldlM (visit w phase) r).value ∧
      (visits.foldlM (visit w phase) r).events = logs.flatten := by
  induction visits generalizing r with
  | nil => exact ⟨[], .nil r, rfl⟩
  | cons v rest ih =>
    obtain ⟨logs, others, events⟩ := ih (r.visit w phase v).value
    refine ⟨(r.visit w phase v).events :: logs, .cons (visited w phase r v) others, ?_⟩
    rw [List.foldlM_cons, Logged.events_bind, events, List.flatten_cons]

end Registry

end AssetLink
