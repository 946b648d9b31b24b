import AssetLink.Proofs.Change
import AssetLink.Proofs.Discovery.Rescanning
import AssetLink.Proofs.Files.Reordering
import Mathlib.Data.Set.Pairwise.Lattice
import Mathlib.Order.CompletePartialOrder

/-!
Orders that do not count. A scan goes by the names in a directory and not by the
order in which they are handed out; and directories whose plugins have no
identifier in common can be scanned in any order.
-/

namespace AssetLink

theorem findSome?_eq_of_perm {α β : Type} {f : α → Option β} {xs ys : List α}
    (perm : ys.Perm xs)
    (unique : ∀ x ∈ xs, ∀ y ∈ xs, ∀ b c, f x = some b → f y = some c → b = c) :
    ys.findSome? f = xs.findSome? f := by
  cases found : xs.findSome? f with
  | none =>
      rw [List.findSome?_eq_none_iff] at found ⊢
      exact fun x member => found x (perm.mem_iff.1 member)
  | some b =>
      obtain ⟨x, member, isFound⟩ := List.exists_of_findSome?_eq_some found
      have any : (ys.findSome? f).isSome = true :=
        List.findSome?_isSome_iff.2 ⟨x, perm.mem_iff.2 member, by rw [isFound]; rfl⟩
      obtain ⟨c, foundToo⟩ := Option.isSome_iff_exists.1 any
      obtain ⟨y, memberToo, isFoundToo⟩ := List.exists_of_findSome?_eq_some foundToo
      rw [foundToo, unique x member y (perm.mem_iff.1 memberToo) b c isFound isFoundToo]

namespace World

def AllReadable (w : World) (directory : String) : Prop :=
  ∀ contents, w.contents directory = .ok contents → contents.faults = []

theorem allReadable_of_find? {w : World} {directory : String} {position : List String}
    {entries : List (String × Node)} (leads : w.position? directory = some position)
    (there : w.root.find? position = some (.directory entries [] none)) :
    w.AllReadable directory := by
  intro seen read
  rw [contents, node?, leads, Option.bind_some, there] at read
  obtain rfl := Except.ok.inj read
  rfl

theorem Reordered.exists_visit {w other : World} (h : w.Reordered other) (directory : String) :
    ∃ faults otherFaults rest, faults.Perm otherFaults ∧
      (w.AllReadable directory → faults = []) ∧
      w.visit directory = faults.map (Visit.unreadableEntry directory) ++ rest ∧
      other.visit directory = otherFaults.map (Visit.unreadableEntry directory) ++ rest := by
  rw [visit, visit, h.isDirectory_eq]
  cases w.isDirectory directory with
  | false => exact ⟨[], [], _, .nil, fun _ => rfl, rfl, rfl⟩
  | true =>
      rcases h.contents_perm directory with ⟨fault, here, there⟩ | ⟨seen, again, here, there, perm⟩
      · rw [here, there]
        exact ⟨[], [], _, .nil, fun _ => rfl, rfl, rfl⟩
      · rw [here, there]
        refine ⟨seen.faults, again.faults, _, perm.2, fun readable => readable seen here, rfl, ?_⟩
        rw [← sortedNames_eq_of_perm perm.1]
        rfl

theorem Reordered.visits_eq {w other : World} (h : w.Reordered other) {paths : List String}
    (readable : ∀ directory ∈ paths, w.AllReadable directory) :
    other.visits paths = w.visits paths := by
  refine List.flatMap_congr fun directory member => ?_
  obtain ⟨faults, otherFaults, rest, perm, none, here, there⟩ := h.exists_visit directory
  obtain rfl := none (readable directory member)
  rw [here, there, List.nil_perm.1 perm]

end World

/-- A loader for which the order does not count in which directories hand out their
entries. -/
def Loader.Unordered (loader : Loader) : Prop :=
  ∀ w other : World, w.Reordered other → loader.Agrees w other

theorem Loader.unordered_native : native.Unordered := fun w other h =>
  ⟨fun path => by simp only [native, h.isFile_eq],
    fun phase path => by simp only [native, h.openLibrary_eq]⟩

theorem Loader.unordered_describing (name extension : String) (asking : Bool) :
    (describing name extension asking).Unordered := fun w other h =>
  ⟨fun path => rfl, fun phase path => by simp only [describing, h.readText_eq]⟩

namespace Registry

variable {w : World} {phase : Option ScanPhase}

section Enumeration

variable {other : World} {r : Registry}

theorem foldlM_visit_faults (w : World) (phase : Option ScanPhase) (r : Registry)
    (directory : String) (faults : List String) :
    (faults.map (Visit.unreadableEntry directory)).foldlM (visit w phase) r =
      ⟨r, faults.map (Event.unreadableEntry directory)⟩ := by
  induction faults with
  | nil => rfl
  | cons fault rest ih =>
      rw [List.map_cons, List.foldlM_cons]
      exact congrArg (fun done : Logged Registry =>
        Logged.mk done.value (.unreadableEntry directory fault :: done.events)) ih

theorem scan_singleton (w : World) (phase : Option ScanPhase) (r : Registry) (directory : String) :
    r.scan w phase [directory] = (w.visit directory).foldlM (visit w phase) r := by
  rw [scan, World.visits, List.flatMap_singleton]

theorem scan_reordered_singleton (h : w.Reordered other)
    (agree : ∀ loader ∈ r.loaders, loader.Agrees w other) (directory : String) :
    (r.scan other phase [directory]).value = (r.scan w phase [directory]).value ∧
      (r.scan other phase [directory]).events.Perm (r.scan w phase [directory]).events := by
  obtain ⟨faults, otherFaults, rest, perm, -, here, there⟩ := h.exists_visit directory
  rw [scan_singleton, scan_singleton, here, there, List.foldlM_append, List.foldlM_append,
    foldlM_visit_faults, foldlM_visit_faults, Logged.mk_bind, Logged.mk_bind,
    foldlM_visit_of_agrees phase agree]
  exact ⟨rfl, (perm.symm.map _).append_right _⟩

theorem scan_reordered (h : w.Reordered other)
    (agree : ∀ loader ∈ r.loaders, loader.Agrees w other) (paths : List String) :
    (r.scan other phase paths).value = (r.scan w phase paths).value ∧
      (r.scan other phase paths).events.Perm (r.scan w phase paths).events := by
  induction paths generalizing r with
  | nil => exact ⟨rfl, .nil⟩
  | cons directory rest ih =>
      obtain ⟨value, events⟩ := scan_reordered_singleton h agree directory
      have later := ih (r := (r.scan w phase [directory]).value) (by rwa [loaders_scan])
      rw [← List.singleton_append, scan_append, scan_append, Logged.value_bind, Logged.value_bind,
        Logged.events_bind, Logged.events_bind, value]
      exact ⟨later.1, events.append later.2⟩

theorem scan_of_agrees (agree : ∀ loader ∈ r.loaders, loader.Agrees w other) {paths : List String}
    (same : other.visits paths = w.visits paths) :
    r.scan other phase paths = r.scan w phase paths := by
  rw [scan, scan, same, foldlM_visit_of_agrees phase agree]

end Enumeration

section Directories

variable {r : Registry} {directory identifier : String}

def identifiersIn (loaders : List Loader) (w : World) (phase : Option ScanPhase)
    (directory : String) : Set String :=
  {identifier | ∃ name ∈ w.entryNames directory, ∃ loaded,
    Yields loaders w phase (Path.join directory name) loaded ∧ loaded.identifier = identifier}

theorem mem_identifiersIn_of_found {loaders : List Loader} {loaded : LoadedPlugin}
    (isFound : loaded ∈ found loaders w phase [directory]) :
    loaded.identifier ∈ identifiersIn loaders w phase directory := by
  obtain ⟨path, listed, yields⟩ := mem_found_iff.1 isFound
  rw [World.entries, List.flatMap_singleton] at listed
  obtain ⟨name, member, rfl⟩ := List.mem_map.1 listed
  exact ⟨name, member, loaded, yields, rfl⟩

theorem find?_found (loaders : List Loader) (w : World) (phase : Option ScanPhase)
    (paths : List String) (p : LoadedPlugin → Bool) :
    (found loaders w phase paths).find? p =
      paths.findSome? fun directory => (found loaders w phase [directory]).find? p := by
  have pieces : found loaders w phase paths =
      paths.flatMap fun directory => found loaders w phase [directory] := by
    simp only [found, World.entries, List.filterMap_flatMap, List.flatMap_singleton]
  rw [pieces, List.find?_flatMap]

theorem value_scan_of_perm {paths others : List String} (perm : others.Perm paths)
    (disjoint : {directory | directory ∈ paths}.PairwiseDisjoint
      (identifiersIn r.loaders w phase)) :
    (r.scan w phase others).value = (r.scan w phase paths).value := by
  refine eq_of_get? (by rw [loaders_scan, loaders_scan]) fun identifier => ?_
  rw [get?_scan, get?_scan, find?_found, find?_found]
  refine congrArg _ (findSome?_eq_of_perm perm fun first listed second listedToo loaded other
    isFirst isSecond => ?_)
  have member := mem_identifiersIn_of_found (List.mem_of_find?_eq_some isFirst)
  have memberToo := mem_identifiersIn_of_found (List.mem_of_find?_eq_some isSecond)
  have same : loaded.identifier = identifier := by simpa using List.find?_some isFirst
  have sameToo : other.identifier = identifier := by simpa using List.find?_some isSecond
  by_cases one : first = second
  · subst one
    exact Option.some.inj (isFirst.symm.trans isSecond)
  · rw [same] at member
    rw [sameToo] at memberToo
    exact absurd memberToo (Set.disjoint_left.1 (disjoint listed listedToo one) member)

theorem identifiersIn_subset {loaders : List Loader}
    (each : ∀ name ∈ w.entryNames directory, ∃ loaded,
      Yields loaders w phase (Path.join directory name) loaded ∧ loaded.identifier = identifier) :
    identifiersIn loaders w phase directory ⊆ {identifier} := by
  rintro _ ⟨name, member, loaded, yields, rfl⟩
  obtain ⟨same, yieldsToo, rfl⟩ := each name member
  rw [yields.unique yieldsToo]
  rfl

end Directories

/-- A scan does not depend on the order in which directories hand out their entries
and, where no two directories have plugins of one identifier, not on the order of
the directories. -/
theorem scan_ignores_accidental_order (r : Registry) (w : World) (phase : Option ScanPhase)
    (paths : List String) :
    (∀ other, w.Reordered other → (∀ loader ∈ r.loaders, loader.Agrees w other) →
      (r.scan other phase paths).value = (r.scan w phase paths).value ∧
      (r.scan other phase paths).events.Perm (r.scan w phase paths).events ∧
      ((∀ directory ∈ paths, w.AllReadable directory) →
        (r.scan other phase paths).events = (r.scan w phase paths).events)) ∧
    Loader.native.Unordered ∧
    (∀ name extension asking, (Loader.describing name extension asking).Unordered) ∧
    ∀ others : List String, others.Perm paths →
      {directory | directory ∈ paths}.PairwiseDisjoint (identifiersIn r.loaders w phase) →
      (r.scan w phase others).value = (r.scan w phase paths).value := by
  refine ⟨fun other h agree => ?_, Loader.unordered_native, Loader.unordered_describing,
    fun others perm disjoint => value_scan_of_perm perm disjoint⟩
  obtain ⟨value, events⟩ := scan_reordered h agree paths
  refine ⟨value, events, fun readable => ?_⟩
  rw [scan_of_agrees agree (h.visits_eq readable)]

def ofOneIdentifier : List (String × Node) :=
  [("y.plugin", .file (.ofText "kind=manager\nidentifier=p")),
    ("x.plugin", .file (.ofText "kind=ui\nidentifier=p"))]

/-- A directory that hands out these entries, and a directory with a plugin of its
own. -/
def mixedDirectories (entries : List (String × Node)) : World where
  root := .directory [
    ("a", .directory entries [] none),
    ("b", .directory [("z.plugin", .file (.ofText "kind=ui\nidentifier=q"))] [] none)] [] none

theorem position?_mixedDirectories :
    (mixedDirectories ofOneIdentifier).position? "/a" = some ["a"] ∧
      (mixedDirectories ofOneIdentifier).position? "/b" = some ["b"] := by
  decide +kernel

theorem identifiersIn_mixedDirectories :
    identifiersIn [.describing "stub" "plugin" false] (mixedDirectories ofOneIdentifier) none "/a" ⊆
        {"p"} ∧
      identifiersIn [.describing "stub" "plugin" false] (mixedDirectories ofOneIdentifier) none
        "/b" ⊆ {"q"} := by
  obtain ⟨leadsA, leadsB⟩ := position?_mixedDirectories
  constructor <;> refine identifiersIn_subset fun name h => ?_
  · rw [World.entryNames_of_find? leadsA rfl, (World.sortedNames_perm _).mem_iff] at h
    rcases List.mem_pair.1 h with rfl | rfl
    · have leads : (mixedDirectories ofOneIdentifier).position? (Path.join "/a" "y.plugin") =
          some ["a", "y.plugin"] := by decide +kernel
      exact ⟨_, yields_describing "manager" "p" (by decide +kernel) leads rfl (by decide +kernel)
        (by decide +kernel) rfl rfl, rfl⟩
    · have leads : (mixedDirectories ofOneIdentifier).position? (Path.join "/a" "x.plugin") =
          some ["a", "x.plugin"] := by decide +kernel
      exact ⟨_, yields_describing "ui" "p" (by decide +kernel) leads rfl (by decide +kernel)
        (by decide +kernel) rfl rfl, rfl⟩
  · rw [World.entryNames_of_find? leadsB rfl, (World.sortedNames_perm _).mem_iff] at h
    obtain rfl := List.mem_singleton.1 h
    have leads : (mixedDirectories ofOneIdentifier).position? (Path.join "/b" "z.plugin") =
        some ["b", "z.plugin"] := by decide +kernel
    exact ⟨_, yields_describing "ui" "q" (by decide +kernel) leads rfl (by decide +kernel)
      (by decide +kernel) rfl rfl, rfl⟩

theorem scan_mixedDirectories :
    let r : Registry := ⟨[.describing "stub" "plugin" false], {}⟩
    let w := mixedDirectories ofOneIdentifier
    let other := mixedDirectories ofOneIdentifier.reverse
    (r.scan other none ["/a", "/b"]).value = (r.scan w none ["/a", "/b"]).value ∧
      (r.scan other none ["/a", "/b"]).events = (r.scan w none ["/a", "/b"]).events ∧
      (r.scan w none ["/b", "/a"]).value = (r.scan w none ["/a", "/b"]).value := by
  intro r w other
  obtain ⟨leadsA, leadsB⟩ := position?_mixedDirectories
  obtain ⟨ofA, ofB⟩ := identifiersIn_mixedDirectories
  have apart : Disjoint (identifiersIn r.loaders w none "/a")
      (identifiersIn r.loaders w none "/b") := Set.disjoint_of_subset ofA ofB (by simp)
  have reordered : w.Reordered other :=
    ⟨_, .within [] _ "a" [] none (.directory (by decide) (List.reverse_perm _).symm .nil none), rfl⟩
  obtain ⟨enumerated, -, -, permuted⟩ := scan_ignores_accidental_order r w none ["/a", "/b"]
  obtain ⟨value, -, events⟩ := enumerated other reordered fun loader member => by
    obtain rfl := List.mem_singleton.1 member
    exact Loader.unordered_describing _ _ _ w other reordered
  refine ⟨value, events ?_, permuted ["/b", "/a"] (.swap _ _ _) ?_⟩
  · simpa using ⟨World.allReadable_of_find? leadsA rfl, World.allReadable_of_find? leadsB rfl⟩
  · have pair : {directory | directory ∈ ["/a", "/b"]} = ({"/a", "/b"} : Set String) := by
      ext directory
      simp
    rw [pair, Set.pairwiseDisjoint_insert_of_notMem (by simp)]
    simp [apart]

end Registry

end AssetLink
