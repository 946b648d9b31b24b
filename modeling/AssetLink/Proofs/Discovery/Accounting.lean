import AssetLink.Proofs.Discovery.FirstFound

/-!
What the log of a scan accounts for. Every entry that a scan comes upon is closed
by one event, which says what became of it; so the entries can be counted in the
log, and the registry grows by the entries that are registered.
-/

namespace AssetLink

inductive Fate
  | registered
  | duplicate
  | failed
  | unclaimed
deriving DecidableEq, Repr

def Fate.level : Fate → Level
  | registered | unclaimed => .debug
  | duplicate | failed => .warn

/-- Why a file is no plugin, in words. -/
inductive LoadError.Worded : LoadError → String → Prop
  | unopenable (path fault : String) :
      Worded (.unopenable path fault) s!"failed to open '{path}': {fault}"
  | noEntryPoint (path : String) :
      Worded (.noEntryPoint path)
        (s!"'{path}' does not export the '" ++ "ASSETIO_PLUGIN_DECLARATION" ++ "' entry point")
  | incompatible (path : String) (abi : UInt32) (core : String) :
      Worded (.incompatible path abi core)
        (s!"'{path}' was built for ABI {abi} (core {core}) but this host provides "
          ++ "ABI 1 (core 0.1.0)")
  | invalid (path reason : String) :
      Worded (.invalid path reason) s!"'{path}' is not a valid plugin: {reason}"

theorem LoadError.Worded.unique {error : LoadError} {text other : String}
    (one : error.Worded text) (two : error.Worded other) : text = other := by
  cases one <;> cases two <;> rfl

theorem LoadError.worded (error : LoadError) : error.Worded error.message := by
  cases error with
  | unopenable path fault => exact .unopenable path fault
  | noEntryPoint path => exact .noEntryPoint path
  | incompatible path abi core => exact .incompatible path abi core
  | invalid path reason => exact .invalid path reason

namespace Event

/-- The last words about an entry. -/
inductive Worded : Event → String → Prop
  | registered (identifier path : String) :
      Worded (.registered identifier path)
        s!"PluginSystem: Registered plug-in '{identifier}' from '{path}'"
  | duplicate (identifier path kept : String) :
      Worded (.duplicate identifier path kept)
        (s!"PluginSystem: Skipping '{identifier}' from '{path}' as the identifier is already "
          ++ s!"registered by '{kept}'")
  | failed {error : LoadError} {reason : String} (worded : error.Worded reason) :
      Worded (.ignored error) s!"PluginSystem: Ignoring plug-in: {reason}"
  | unclaimed (path : String) :
      Worded (.unclaimed path) s!"PluginSystem: Ignoring '{path}' as no loader handles it"

theorem Worded.unique {e : Event} {text other : String} (one : e.Worded text)
    (two : e.Worded other) : text = other := by
  cases one with
  | failed worded =>
      cases two with
      | failed same => rw [worded.unique same]
  | registered | duplicate | unclaimed => cases two; rfl

def fate? : Event → Option Fate
  | registered .. => some .registered
  | duplicate .. => some .duplicate
  | ignored _ => some .failed
  | unclaimed _ => some .unclaimed
  | _ => none

def offered? : Event → Option String
  | loading path _ => some path
  | _ => none

theorem level_of_fate? {e : Event} {fate : Fate} (closes : e.fate? = some fate) :
    e.level = fate.level := by
  cases e <;> cases closes <;> rfl

theorem worded_of_fate? {e : Event} {fate : Fate} (closes : e.fate? = some fate) :
    e.Worded e.message := by
  cases e with
  | registered identifier path => exact .registered identifier path
  | duplicate identifier path kept => exact .duplicate identifier path kept
  | ignored error => exact .failed (LoadError.worded error)
  | unclaimed path => exact .unclaimed path
  | _ => cases closes

end Event

theorem Fate.length_eq_count (fates : List Fate) :
    fates.length = fates.count registered + fates.count duplicate + fates.count failed
      + fates.count unclaimed := by
  induction fates with
  | nil => rfl
  | cons fate rest ih =>
      rw [List.length_cons, ih]
      cases fate <;> simp <;> omega

def closingFate? (log : List Event) : Option Fate :=
  log.getLast?.bind Event.fate?

theorem closingFate?_concat (log : List Event) (e : Event) :
    closingFate? (log ++ [e]) = e.fate? := by
  rw [closingFate?, List.getLast?_concat, Option.bind_some]

/-- A loader that logs nothing that could be taken for the log of a scan. -/
def Loader.Discreet (loader : Loader) (w : World) (phase : Option ScanPhase) : Prop :=
  ∀ path, ∀ e ∈ (loader.load w phase path).run.events, e.fate? = none ∧ e.offered? = none

def Loader.claims (loaders : List Loader) (w : World) (path : String) : Bool :=
  loaders.any (·.isCandidate w path)

theorem Loader.IsFirst.mem {loaders : List Loader} {w : World} {path : String} {loader : Loader}
    (first : IsFirst loaders w path loader) : loader ∈ loaders := by
  obtain ⟨before, after, rfl, -⟩ := first
  exact List.mem_append_right _ List.mem_cons_self

theorem Loader.IsFirst.claims {loaders : List Loader} {w : World} {path : String} {loader : Loader}
    (first : IsFirst loaders w path loader) : Loader.claims loaders w path = true := by
  have mem := first.mem
  obtain ⟨-, -, -, accepts, -⟩ := first
  exact List.any_eq_true.2 ⟨loader, mem, accepts⟩

theorem Event.offered?_of_fate? {e : Event} {fate : Fate} (closes : e.fate? = some fate) :
    e.offered? = none := by
  cases e <;> first | rfl | cases closes

theorem Loader.discreet_describing (name extension : String) (asking : Bool) (w : World)
    (phase : Option ScanPhase) : (describing name extension asking).Discreet w phase := by
  intro path e logged
  have told : ((describing name extension asking).load w phase path).run.events =
      if asking then phase.toList.map fun p => .note .info s!"state while loading: {p.name}"
      else [] := by
    cases read : w.readText path with
    | error fault =>
        cases asking <;> cases phase <;> simp only [describing, read] <;> rfl
    | ok text =>
        cases made : (DescriptionFile.ofText text).plugin? <;> cases asking <;> cases phase <;>
          simp only [describing, read, made] <;> rfl
  rw [told] at logged
  split at logged
  · obtain ⟨p, -, rfl⟩ := List.mem_map.1 logged
    exact ⟨rfl, rfl⟩
  · cases logged

namespace Registry

variable {w : World} {phase : Option ScanPhase}

/-- The log of a visit as an account. Of an entry it ends with the one event that
closes it; if a loader claims the entry, it starts with the one event that says
so, and what the loader logs stands between. -/
inductive Account (loaders : List Loader) (w : World) (phase : Option ScanPhase) :
    Visit → List Event → Prop
  | passed {v : Visit} {e : Event} (noEntry : v.entry? = none) (open_ : e.fate? = none)
      (notOffered : e.offered? = none) : Account loaders w phase v [e]
  | unclaimed {path : String} (unclaimed : Loader.claims loaders w path = false) :
      Account loaders w phase (.entry path) [.unclaimed path]
  | claimed {path : String} {loader : Loader} {closing : Event} {fate : Fate}
      (first : Loader.IsFirst loaders w path loader) (closes : closing.fate? = some fate)
      (claimed : fate ≠ .unclaimed) :
      Account loaders w phase (.entry path)
        (loader.attempt w phase path ++ [closing])

theorem account_of_visited {r after : Registry} {v : Visit} {log : List Event}
    (h : Visited w phase r v log after) : Account r.loaders w phase v log := by
  cases h with
  | notDirectory path => exact .passed rfl rfl rfl
  | unreadableDirectory path fault => exact .passed rfl rfl rfl
  | unreadableEntry directory fault => exact .passed rfl rfl rfl
  | unclaimed none =>
      refine .unclaimed (List.any_eq_false.2 fun loader member => ?_)
      rw [none loader member]
      exact Bool.false_ne_true
  | failed first load => exact .claimed first rfl nofun
  | duplicate first load taken => exact .claimed first rfl nofun
  | registered first load free => exact .claimed first rfl nofun

theorem accounts_of_scanned {r after : Registry} {visits : List Visit} {logs : List (List Event)}
    (h : Scanned w phase r visits logs after) :
    List.Forall₂ (Account r.loaders w phase) visits logs := by
  induction h with
  | nil => exact .nil
  | cons first others ih => exact .cons (account_of_visited first) (loaders_visited first ▸ ih)

section Counting

variable {loaders : List Loader} {v : Visit} {log : List Event} {visits : List Visit}
  {logs : List (List Event)}

theorem Account.isSome_closingFate? (h : Account loaders w phase v log) :
    (closingFate? log).isSome = v.entry?.isSome := by
  cases h with
  | passed noEntry open_ _ =>
      rw [noEntry, closingFate?, List.getLast?_singleton, Option.bind_some, open_]
      rfl
  | unclaimed _ => rfl
  | claimed _ closes _ =>
      rw [closingFate?_concat, closes]
      rfl

theorem length_fates (h : List.Forall₂ (Account loaders w phase) visits logs) :
    (logs.filterMap closingFate?).length = (visits.filterMap Visit.entry?).length := by
  induction h with
  | nil => rfl
  | @cons v log visits logs first others ih =>
      have same := first.isSome_closingFate?
      cases entry : v.entry? with
      | none =>
          rw [entry, Option.isSome_none, Option.isSome_eq_false_iff, Option.isNone_iff_eq_none] at same
          rw [List.filterMap_cons_none same, List.filterMap_cons_none entry, ih]
      | some path =>
          rw [entry, Option.isSome_some, Option.isSome_iff_exists] at same
          obtain ⟨fate, closes⟩ := same
          rw [List.filterMap_cons_some closes, List.filterMap_cons_some entry, List.length_cons,
            List.length_cons, ih]

theorem filterMap_attempt {loader : Loader} (discreet : loader.Discreet w phase) (path : String) :
    (loader.attempt w phase path).filterMap Event.fate? = [] ∧
      (loader.attempt w phase path).filterMap Event.offered? = [path] := by
  have closesNothing : (loader.load w phase path).run.events.filterMap Event.fate? = [] :=
    List.filterMap_eq_nil_iff.2 fun e logged => (discreet path e logged).1
  have offersNothing : (loader.load w phase path).run.events.filterMap Event.offered? = [] :=
    List.filterMap_eq_nil_iff.2 fun e logged => (discreet path e logged).2
  constructor
  · rw [Loader.attempt, List.filterMap_cons_none rfl, closesNothing]
  · have offered : (Event.loading path loader.name).offered? = some path := rfl
    rw [Loader.attempt, List.filterMap_cons_some offered, offersNothing]

theorem Account.filterMap_fate? (discreet : ∀ loader ∈ loaders, loader.Discreet w phase)
    (h : Account loaders w phase v log) :
    log.filterMap Event.fate? = (closingFate? log).toList := by
  cases h with
  | passed _ open_ _ => simp [closingFate?, open_]
  | unclaimed _ => rfl
  | @claimed path loader closing fate first closes _ =>
      have aside := (filterMap_attempt (discreet loader first.mem) path).1
      rw [List.filterMap_append, aside, List.nil_append, closingFate?_concat, closes]
      exact List.filterMap_cons_some closes

theorem Account.filterMap_offered? (discreet : ∀ loader ∈ loaders, loader.Discreet w phase)
    (h : Account loaders w phase v log) :
    log.filterMap Event.offered? = (v.entry?.filter (Loader.claims loaders w)).toList := by
  cases h with
  | passed noEntry _ notOffered => simp [noEntry, notOffered]
  | unclaimed unclaimed => simp [Visit.entry?, Event.offered?, Option.filter_some, unclaimed]
  | @claimed path loader closing fate first closes _ =>
      have offered := (filterMap_attempt (discreet loader first.mem) path).2
      simp [Visit.entry?, Option.filter_some, offered, first.claims,
        Event.offered?_of_fate? closes]

theorem filterMap_cons_toList {α β : Type} (f : α → Option β) (x : α) (xs : List α) :
    (x :: xs).filterMap f = (f x).toList ++ xs.filterMap f := by
  cases h : f x with
  | none => rw [List.filterMap_cons_none h, Option.toList_none, List.nil_append]
  | some y => rw [List.filterMap_cons_some h, Option.toList_some, List.singleton_append]

/-- The log as a whole closes each entry once, in order, and says of each that a
loader claims that it is given to one. -/
theorem filterMap_flatten (discreet : ∀ loader ∈ loaders, loader.Discreet w phase)
    (h : List.Forall₂ (Account loaders w phase) visits logs) :
    logs.flatten.filterMap Event.fate? = logs.filterMap closingFate? ∧
      logs.flatten.filterMap Event.offered? =
        (visits.filterMap Visit.entry?).filter (Loader.claims loaders w) := by
  induction h with
  | nil => exact ⟨rfl, rfl⟩
  | cons first others ih =>
      rw [List.flatten_cons, List.filterMap_append, List.filterMap_append, ih.1, ih.2,
        first.filterMap_fate? discreet, first.filterMap_offered? discreet]
      constructor
      · rw [filterMap_cons_toList]
      · rw [filterMap_cons_toList, List.filter_append, Option.toList_filter]

end Counting

section Growth

variable {r after : Registry}

theorem size_visited {v : Visit} {log : List Event} (h : Visited w phase r v log after) :
    after.plugins.size = r.plugins.size + (closingFate? log).toList.count .registered := by
  cases h with
  | registered first load free =>
      rw [closingFate?_concat, Dictionary.size_insert free]
      rfl
  | failed | duplicate => rw [closingFate?_concat]; rfl
  | _ => rfl

theorem size_scanned {visits : List Visit} {logs : List (List Event)}
    (h : Scanned w phase r visits logs after) :
    after.plugins.size = r.plugins.size + (logs.filterMap closingFate?).count .registered := by
  induction h with
  | nil => rfl
  | cons first others ih =>
      rw [ih, size_visited first, filterMap_cons_toList, List.count_append, Nat.add_assoc]

def Holds (r : Registry) (identifier path : String) : Prop :=
  ∃ loaded, r.plugins.get? identifier = some loaded ∧ loaded.path = path

theorem Holds.scanned {visits : List Visit} {logs : List (List Event)}
    (h : Scanned w phase r visits logs after) {identifier path : String}
    (held : r.Holds identifier path) : after.Holds identifier path := by
  obtain ⟨loaded, taken, from_⟩ := held
  exact ⟨loaded, by rw [get?_scanned h, taken, Option.some_or], from_⟩

theorem holds_of_visited {v : Visit} {log : List Event} (h : Visited w phase r v log after)
    (identifier path : String) :
    (log.getLast? = some (.registered identifier path) →
      r.plugins.get? identifier = none ∧ after.Holds identifier path) ∧
    ∀ kept, log.getLast? = some (.duplicate identifier path kept) → r.Holds identifier kept := by
  cases h with
  | registered first load free =>
      rw [List.getLast?_concat]
      refine ⟨fun last => ?_, nofun⟩
      cases last
      exact ⟨free, _, Dictionary.get?_insert_self _ _ _, rfl⟩
  | duplicate first load taken =>
      rw [List.getLast?_concat]
      refine ⟨nofun, fun kept last => ?_⟩
      cases last
      exact ⟨_, taken, rfl⟩
  | failed first load =>
      rw [List.getLast?_concat]
      exact ⟨nofun, nofun⟩
  | _ => exact ⟨nofun, nofun⟩

theorem holds_of_scanned {visits : List Visit} {logs : List (List Event)}
    (h : Scanned w phase r visits logs after) : ∀ log ∈ logs, ∀ identifier path,
      (log.getLast? = some (.registered identifier path) →
        r.plugins.get? identifier = none ∧ after.Holds identifier path) ∧
      ∀ kept, log.getLast? = some (.duplicate identifier path kept) →
        after.Holds identifier kept := by
  induction h with
  | nil => exact fun _ none => absurd none List.not_mem_nil
  | @cons r middle after v rest first logs visited others ih =>
      intro log member identifier path
      have whole := Scanned.cons visited others
      rcases List.mem_cons.1 member with rfl | later
      · obtain ⟨registered, duplicate⟩ := holds_of_visited visited identifier path
        refine ⟨fun last => ?_, fun kept last => (duplicate kept last).scanned whole⟩
        exact ⟨(registered last).1, (registered last).2.scanned others⟩
      · obtain ⟨registered, duplicate⟩ := ih log later identifier path
        refine ⟨fun last => ⟨?_, (registered last).2⟩, duplicate⟩
        -- What was registered before this visit would still be so after it.
        have free := (registered last).1
        rw [get?_visited visited, Option.or_eq_none_iff] at free
        exact free.1

end Growth

theorem scan_cons_of_not_directory (r : Registry) {path : String}
    (missing : w.isDirectory path = false) (paths : List String) :
    r.scan w phase (path :: paths) =
      Logged.log (.notDirectory path) >>= fun _ => r.scan w phase paths := by
  have visit_eq : w.visit path = [.notDirectory path] := by
    rw [World.visit, missing]
    rfl
  rw [scan, World.visits, List.flatMap_cons, visit_eq, List.singleton_append, List.foldlM_cons,
    visit, bind_assoc]
  rfl

/-- A scan closes every entry that it comes upon once, in the order of its visits;
what is counted so is counted in the registry. -/
theorem scan_accounts_for_entries (r : Registry) (w : World) (phase : Option ScanPhase)
    (paths : List String) :
    (∃ logs, (r.scan w phase paths).events = logs.flatten ∧
      List.Forall₂ (Account r.loaders w phase) (w.visits paths) logs ∧
      Scanned w phase r (w.visits paths) logs (r.scan w phase paths).value ∧
      (w.entries paths).length =
        (logs.filterMap closingFate?).count .registered
          + (logs.filterMap closingFate?).count .duplicate
          + (logs.filterMap closingFate?).count .failed
          + (logs.filterMap closingFate?).count .unclaimed ∧
      (r.scan w phase paths).value.plugins.size =
        r.plugins.size + (logs.filterMap closingFate?).count .registered ∧
      (∀ log ∈ logs, ∀ identifier path,
        (log.getLast? = some (.registered identifier path) →
          r.plugins.get? identifier = none ∧
            (r.scan w phase paths).value.Holds identifier path) ∧
        ∀ kept, log.getLast? = some (.duplicate identifier path kept) →
          (r.scan w phase paths).value.Holds identifier kept) ∧
      ((∀ loader ∈ r.loaders, loader.Discreet w phase) →
        (r.scan w phase paths).events.filterMap Event.fate? = logs.filterMap closingFate? ∧
        (r.scan w phase paths).events.filterMap Event.offered? =
          (w.entries paths).filter (Loader.claims r.loaders w))) ∧
    (∀ before path after, paths = before ++ path :: after → w.isDirectory path = false →
      r.scan w phase paths =
        r.scan w phase before >>= fun r =>
          Logged.log (.notDirectory path) >>= fun _ => r.scan w phase after) ∧
    (∀ path, (Event.notDirectory path).level = .debug) ∧
    ∀ (e : Event) (fate : Fate), e.fate? = some fate →
      e.level = fate.level ∧ e.Worded e.message := by
  obtain ⟨logs, scanned, events⟩ := scanned_foldlM w phase r (w.visits paths)
  have accounts := accounts_of_scanned scanned
  have entries := World.filterMap_entry?_visits w paths
  refine ⟨⟨logs, events, accounts, scanned, ?_, size_scanned scanned, holds_of_scanned scanned,
    fun discreet => ?_⟩, ?_, fun _ => rfl,
    fun e fate closes => ⟨Event.level_of_fate? closes, Event.worded_of_fate? closes⟩⟩
  · rw [← entries, ← length_fates accounts, Fate.length_eq_count]
  · rw [scan, events, ← entries]
    exact filterMap_flatten discreet accounts
  · rintro before path after rfl missing
    rw [scan_append]
    exact congrArg _ (funext fun r => scan_cons_of_not_directory r missing after)

theorem visits_twoDirectories : twoDirectories.visits ["/a", "/c", "/b"] =
    [.entry "/a/x.plugin", .notDirectory "/c", .entry "/b/x.plugin"] := by
  have leadsA : twoDirectories.position? "/a" = some ["a"] := by decide +kernel
  have leadsB : twoDirectories.position? "/b" = some ["b"] := by decide +kernel
  have c : twoDirectories.visit "/c" = [.notDirectory "/c"] := by decide +kernel
  rw [World.visits, List.flatMap_cons, List.flatMap_cons, List.flatMap_singleton, c,
    World.visit_of_find? leadsA rfl, World.visit_of_find? leadsB rfl, World.sortedNames,
    List.map_singleton, List.mergeSort_singleton]
  decide +kernel

theorem scan_accounts_twoDirectories :
    let r : Registry := ⟨[.describing "stub" "plugin" true], {}⟩
    let scan := r.scan twoDirectories (some .scanning) ["/a", "/c", "/b"]
    let state : Event := .note .info "state while loading: Scanning"
    let duplicate : Event := .duplicate "p" "/b/x.plugin" "/a/x.plugin"
    (∀ loader ∈ r.loaders, loader.Discreet twoDirectories (some .scanning)) ∧
    scan.events = [.loading "/a/x.plugin" "stub", state, .registered "p" "/a/x.plugin",
      .notDirectory "/c", .loading "/b/x.plugin" "stub", state, duplicate] ∧
    scan.events.filterMap Event.offered? = ["/a/x.plugin", "/b/x.plugin"] ∧
    (twoDirectories.entries ["/a", "/c", "/b"]).length = 1 + 1 + 0 + 0 ∧
    scan.value.plugins.size = 0 + 1 ∧
    (∃ identifier path, r.plugins.get? identifier = none ∧ scan.value.Holds identifier path) ∧
    (∃ identifier kept, scan.value.Holds identifier kept) ∧
    (twoDirectories.isDirectory "/c" = false ∧
      scan = r.scan twoDirectories (some .scanning) ["/a"] >>= fun r =>
        Logged.log (.notDirectory "/c") >>= fun _ =>
          r.scan twoDirectories (some .scanning) ["/b"]) ∧
    duplicate.level = .warn ∧
    duplicate.message = "PluginSystem: Skipping 'p' from '/b/x.plugin' as the "
      ++ "identifier is already registered by '/a/x.plugin'" := by
  intro r scan state duplicate
  have discreet : ∀ loader ∈ r.loaders, loader.Discreet twoDirectories (some .scanning) := by
    intro loader member
    rw [List.mem_singleton.1 member]
    exact Loader.discreet_describing "stub" "plugin" true twoDirectories (some .scanning)
  have missing : twoDirectories.isDirectory "/c" = false := by decide +kernel
  have events : scan.events = [.loading "/a/x.plugin" "stub", state,
      .registered "p" "/a/x.plugin", .notDirectory "/c", .loading "/b/x.plugin" "stub", state,
      duplicate] := by
    simp only [scan, Registry.scan, visits_twoDirectories]
    decide +kernel
  obtain ⟨⟨logs, -, -, -, numbers, size, holds, whole⟩, passed, -, told⟩ :=
    scan_accounts_for_entries r twoDirectories (some .scanning) ["/a", "/c", "/b"]
  have fates : logs.filterMap closingFate? = [.registered, .duplicate] :=
    (whole discreet).1.symm.trans (congrArg (·.filterMap Event.fate?) events)
  rw [fates] at numbers size
  have ending : ∀ fate ∈ [Fate.registered, .duplicate],
      ∃ log ∈ logs, ∃ e, log.getLast? = some e ∧ e.fate? = some fate := by
    intro fate member
    rw [← fates, List.mem_filterMap] at member
    obtain ⟨log, listed, closes⟩ := member
    exact ⟨log, listed, Option.bind_eq_some_iff.1 closes⟩
  obtain ⟨level, worded⟩ := told duplicate .duplicate rfl
  refine ⟨discreet, events, congrArg (·.filterMap Event.offered?) events, numbers, size, ?_, ?_,
    ⟨missing, passed ["/a"] "/c" ["/b"] rfl missing⟩, level,
    (worded.unique (.duplicate "p" "/b/x.plugin" "/a/x.plugin")).trans (by decide)⟩
  · obtain ⟨log, listed, e, last, closes⟩ := ending .registered (by decide)
    cases e <;> cases closes
    rename_i identifier path
    exact ⟨identifier, path, (holds log listed identifier path).1 last⟩
  · obtain ⟨log, listed, e, last, closes⟩ := ending .duplicate (by decide)
    cases e <;> cases closes
    rename_i identifier path kept
    exact ⟨identifier, kept, (holds log listed identifier path).2 kept last⟩

end Registry

end AssetLink
