import AssetLink.Proofs.Discovery.Reach
import AssetLink.Proofs.Host.Surveying

/-!
All details or none. A survey of a provider whose answers do not change learns what
everything that is listed tells of itself. The first that cannot be made, or has no
info, ends it with its own error, and nothing listed behind that is made.
-/

namespace AssetLink

variable {σ ι : Type} {c : Capability}

namespace Survey

/-- Something was made, and these are the details that it tells, each when it is asked
for it. -/
def Tells (made : Except AssetError (Implementation c)) (detail : Detail) : Prop :=
  ∃ implementation, made = .ok implementation ∧
    detail.identifier = implementation.identifier [] ∧
    detail.displayName = implementation.displayName [.identifier] ∧
    implementation.info [.identifier, .displayName] = .ok detail.info

/-- Making failed with the error, or what was made has that to tell in place of its
info. -/
def Withholds (made : Except AssetError (Implementation c)) (error : AssetError) : Prop :=
  made = .error error ∨ ∃ implementation, made = .ok implementation ∧
    implementation.info [.identifier, .displayName] = .error error

theorem bind_told_eq_ok_iff {made : Except AssetError (Implementation c)} {detail : Detail} :
    made >>= told = .ok detail ↔ Tells made detail := by
  rw [except_bind_eq_ok_iff, Tells]
  refine exists_congr fun implementation => and_congr_right fun _ => ?_
  rw [told, except_map_eq_ok_iff]
  constructor
  · rintro ⟨info, tells, rfl⟩
    exact ⟨rfl, rfl, tells⟩
  · rintro ⟨identifier, displayName, tells⟩
    exact ⟨detail.info, tells, by rw [← identifier, ← displayName]⟩

theorem bind_told_eq_error_iff {made : Except AssetError (Implementation c)}
    {error : AssetError} : made >>= told = .error error ↔ Withholds made error := by
  simp only [except_bind_eq_error_iff, Withholds, told, except_map_eq_error_iff]

theorem Tells.unique {made : Except AssetError (Implementation c)} {detail other : Detail}
    (tells : Tells made detail) (again : Tells made other) : detail = other :=
  Except.ok.inj ((bind_told_eq_ok_iff.2 tells).symm.trans (bind_told_eq_ok_iff.2 again))

theorem Withholds.unique {made : Except AssetError (Implementation c)} {error other : AssetError}
    (withholds : Withholds made error) (again : Withholds made other) : error = other :=
  Except.error.inj
    ((bind_told_eq_error_iff.2 withholds).symm.trans (bind_told_eq_error_iff.2 again))

theorem Tells.not_withholds {made : Except AssetError (Implementation c)} {detail : Detail}
    (tells : Tells made detail) (error : AssetError) : ¬ Withholds made error := fun fault => by
  cases (bind_told_eq_ok_iff.2 tells).symm.trans (bind_told_eq_error_iff.2 fault)

end Survey

namespace Offer

variable {offer : Offer (Implementation c)}

def entry (offer : Offer (Implementation c)) (identifier : String) :
    Except AssetError (String × Detail) :=
  (offer.make identifier >>= Survey.told).map fun detail => (identifier, detail)

def details (offer : Offer (Implementation c)) : Except AssetError (Dictionary Detail) :=
  (offer.listed.mapM offer.entry).map Dictionary.ofList

/-- The identifiers of a list up to the first one whose details cannot be had. -/
def tried (offer : Offer (Implementation c)) : List String → List String
  | [] => []
  | identifier :: rest =>
      match offer.entry identifier with
      | .ok _ => identifier :: tried offer rest
      | .error _ => [identifier]

theorem entry_eq_ok_iff {identifier : String} {entry : String × Detail} :
    offer.entry identifier = .ok entry ↔
      entry.1 = identifier ∧ Survey.Tells (offer.make identifier) entry.2 := by
  rw [Offer.entry, except_map_eq_ok_iff]
  simp only [Survey.bind_told_eq_ok_iff]
  constructor
  · rintro ⟨detail, tells, rfl⟩
    exact ⟨rfl, tells⟩
  · rintro ⟨rfl, tells⟩
    exact ⟨entry.2, tells, rfl⟩

theorem entry_eq_error_iff {identifier : String} {error : AssetError} :
    offer.entry identifier = .error error ↔ Survey.Withholds (offer.make identifier) error := by
  rw [Offer.entry, except_map_eq_error_iff, Survey.bind_told_eq_error_iff]

theorem exists_entry_iff {identifier : String} :
    (∃ entry, offer.entry identifier = .ok entry) ↔
      ∃ detail, Survey.Tells (offer.make identifier) detail := by
  simp only [entry_eq_ok_iff, Prod.exists, exists_and_left, exists_eq_left]

theorem exists_details_iff :
    (∃ details, offer.details = .ok details) ↔
      ∀ identifier ∈ offer.listed, ∃ detail, Survey.Tells (offer.make identifier) detail := by
  simp only [details, except_map_eq_ok_iff, mapM_eq_ok_iff, ← exists_entry_iff]
  constructor
  · rintro ⟨_, entries, each, _⟩ identifier listed
    obtain ⟨entry, -, tells⟩ := exists_of_forall₂_of_mem each listed
    exact ⟨entry, tells⟩
  · intro each
    obtain ⟨entries, related⟩ := exists_forall₂_of_forall_exists each
    exact ⟨_, entries, related, rfl⟩

theorem details_eq_error_iff {error : AssetError} :
    offer.details = .error error ↔
      ∃ before identifier after, offer.listed = before ++ identifier :: after ∧
        Survey.Withholds (offer.make identifier) error ∧
        ∀ earlier ∈ before, ∃ detail, Survey.Tells (offer.make earlier) detail := by
  simp only [details, except_map_eq_error_iff, mapM_eq_error_iff, entry_eq_error_iff,
    exists_entry_iff]

theorem exists_details_error {identifier : String} {error : AssetError}
    (listed : identifier ∈ offer.listed)
    (fault : Survey.Withholds (offer.make identifier) error) :
    ∃ failure, offer.details = .error failure := by
  cases outcome : offer.details with
  | error failure => exact ⟨failure, rfl⟩
  | ok details =>
      obtain ⟨detail, tells⟩ := exists_details_iff.1 ⟨details, outcome⟩ identifier listed
      exact absurd fault (tells.not_withholds error)

theorem details_of_sorted {identifier : String} {error : AssetError}
    (sorted : offer.listed.Pairwise (· < ·)) (listed : identifier ∈ offer.listed)
    (fault : Survey.Withholds (offer.make identifier) error)
    (fine : ∀ earlier ∈ offer.listed, earlier < identifier →
      ∃ detail, Survey.Tells (offer.make earlier) detail) :
    offer.details = .error error := by
  obtain ⟨before, after, split⟩ := List.append_of_mem listed
  refine details_eq_error_iff.2
    ⟨before, identifier, after, split, fault, fun earlier member => fine earlier ?_ ?_⟩
  · exact split ▸ List.mem_append_left _ member
  · rw [split, List.pairwise_append] at sorted
    exact sorted.2.2 earlier member _ List.mem_cons_self

theorem mem_keys_details_iff {details : Dictionary Detail} (learned : offer.details = .ok details)
    (identifier : String) : identifier ∈ details.keys ↔ identifier ∈ offer.listed := by
  obtain ⟨entries, each, rfl⟩ := except_map_eq_ok_iff.1 learned
  have named : List.Forall₂ (fun identifier (entry : String × Detail) => identifier = entry.1)
      offer.listed entries :=
    (mapM_eq_ok_iff.1 each).imp fun _ _ tells => (entry_eq_ok_iff.1 tells).1.symm
  have keys : offer.listed = entries.map (·.1) :=
    List.forall₂_eq_eq_eq ▸ List.forall₂_map_right_iff.2 named
  rw [Dictionary.mem_keys_ofList_iff, keys]

theorem tells_of_get?_details {details : Dictionary Detail}
    (learned : offer.details = .ok details) {identifier : String} {detail : Detail}
    (found : details.get? identifier = some detail) :
    Survey.Tells (offer.make identifier) detail := by
  obtain ⟨entries, each, rfl⟩ := except_map_eq_ok_iff.1 learned
  have member := Dictionary.mem_of_mem_ofList (Dictionary.mem_entries_iff.2 found)
  obtain ⟨_, -, tells⟩ := exists_of_forall₂_of_mem (mapM_eq_ok_iff.1 each).flip member
  obtain ⟨rfl, tells⟩ := entry_eq_ok_iff.1 tells
  exact tells

theorem tried_append {before : List String}
    (fine : ∀ earlier ∈ before, ∃ detail, Survey.Tells (offer.make earlier) detail)
    (rest : List String) : offer.tried (before ++ rest) = before ++ offer.tried rest := by
  induction before with
  | nil => rfl
  | cons identifier before ih =>
      obtain ⟨here, later⟩ := List.forall_mem_cons.1 fine
      obtain ⟨entry, tells⟩ := exists_entry_iff.2 here
      rw [List.cons_append, tried, tells, List.cons_append]
      exact congrArg _ (ih later)

theorem tried_eq_self {identifiers : List String}
    (fine : ∀ identifier ∈ identifiers, ∃ detail, Survey.Tells (offer.make identifier) detail) :
    offer.tried identifiers = identifiers := by
  have whole := tried_append fine []
  rwa [List.append_nil, tried, List.append_nil] at whole

theorem tried_of_first {before after : List String} {identifier : String} {error : AssetError}
    (fine : ∀ earlier ∈ before, ∃ detail, Survey.Tells (offer.make earlier) detail)
    (fault : Survey.Withholds (offer.make identifier) error) :
    offer.tried (before ++ identifier :: after) = before ++ [identifier] := by
  rw [tried_append fine, tried, entry_eq_error_iff.2 fault]

end Offer

/-- The provider answers as it offers, and its state goes along with the queries that
it was asked. -/
structure Provider.Follows (w : World) (along : List Query → σ → Prop)
    (provider : Provider σ ι) (offer : Offer ι) : Prop where
  identifiers : ∀ asked s, along asked s →
    ((provider.identifiers w).run s).value.1 = offer.listed ∧
      along (asked ++ [.identifiers]) ((provider.identifiers w).run s).value.2
  instantiate : ∀ identifier asked s, along asked s →
    ((provider.instantiate w identifier).run.run s).value.1 = offer.make identifier ∧
      along (asked ++ [.instantiate identifier])
        ((provider.instantiate w identifier).run.run s).value.2

namespace Provider

variable {provider : Provider σ ι} {offer : Offer ι} {w : World} {steady : σ → Prop}

theorem Answers.follows (answers : provider.Answers w steady offer) :
    provider.Follows w (fun _ => steady) offer where
  identifiers _ := answers.identifiers
  instantiate identifier _ := answers.instantiate identifier

theorem Answers.follows_recorded (answers : provider.Answers w steady offer) :
    provider.recorded.Follows w (fun asked s => steady s.1 ∧ s.2 = asked) offer where
  identifiers asked s h := by
    obtain ⟨lists, kept⟩ := answers.identifiers s.1 h.1
    exact ⟨lists, kept, congrArg (· ++ [Query.identifiers]) h.2⟩
  instantiate identifier asked s h := by
    obtain ⟨makes, kept⟩ := answers.instantiate identifier s.1 h.1
    exact ⟨makes, kept, congrArg (· ++ [Query.instantiate identifier]) h.2⟩

end Provider

namespace Survey

variable {provider : Provider σ (Implementation c)} {w : World} {steady : σ → Prop}
  {offer : Offer (Implementation c)} {along : List Query → σ → Prop}

section Noted

variable {made : Except AssetError (Implementation c) × σ} {identifier : String}

theorem noted_of_entry_ok {entry : String × Detail} (makes : made.1 = offer.make identifier)
    (learned : offer.entry identifier = .ok entry) (s : Survey σ c) :
    ∃ kept, s.noted identifier made =
      (.ok (), ⟨made.2, s.details.insert entry.1 entry.2, kept⟩) := by
  obtain ⟨detail, tells, rfl⟩ := except_map_eq_ok_iff.1 learned
  obtain ⟨implementation, given, tells⟩ := except_bind_eq_ok_iff.1 tells
  obtain ⟨_, provider⟩ := made
  obtain rfl := makes.trans given
  refine ⟨s.made ++ [looked implementation], ?_⟩
  dsimp only [noted]
  rw [tells]

theorem noted_of_entry_error {error : AssetError} (makes : made.1 = offer.make identifier)
    (fault : offer.entry identifier = .error error) (s : Survey σ c) :
    ∃ kept, s.noted identifier made = (.error error, ⟨made.2, s.details, kept⟩) := by
  obtain ⟨_, provider⟩ := made
  rcases except_bind_eq_error_iff.1 (except_map_eq_error_iff.1 fault) with
    unmade | ⟨implementation, given, withholds⟩
  · obtain rfl := makes.trans unmade
    exact ⟨s.made, rfl⟩
  · obtain rfl := makes.trans given
    refine ⟨s.made ++ [looked implementation], ?_⟩
    dsimp only [noted]
    rw [withholds]

end Noted

theorem value_forM_look (follows : provider.Follows w along offer) (identifiers : List String)
    {asked : List Query} {s : Survey σ c} (ready : along asked s.provider) :
    let done := ((identifiers.forM (look provider w)).run.run s).value
    done.1.map (fun () => done.2.details) =
        (identifiers.mapM offer.entry).map
          (·.foldl (fun d entry => d.insert entry.1 entry.2) s.details) ∧
      along (asked ++ (offer.tried identifiers).map .instantiate) done.2.provider := by
  -- what was learned and what was asked before stays in front of what is still to come
  induction identifiers generalizing asked s with
  | nil => exact ⟨rfl, (List.append_nil asked).symm ▸ ready⟩
  | cons identifier rest ih =>
      obtain ⟨makes, next⟩ := follows.instantiate identifier asked s.provider ready
      intro done
      have whole : done = _ :=
        congrArg Logged.value (run_forM_look_cons provider w identifier rest s)
      rw [whole, Logged.value_bind, Offer.tried, List.mapM_cons]
      cases outcome : offer.entry identifier with
      | error error =>
          obtain ⟨kept, left⟩ := noted_of_entry_error makes outcome s
          dsimp only
          rw [left]
          exact ⟨rfl, next⟩
      | ok entry =>
          obtain ⟨kept, left⟩ := noted_of_entry_ok makes outcome s
          dsimp only
          rw [left]
          obtain ⟨learned, goesAlong⟩ := ih (s := ⟨_, s.details.insert entry.1 entry.2, kept⟩) next
          rw [List.append_assoc] at goesAlong
          refine ⟨learned.trans ?_, goesAlong⟩
          cases rest.mapM offer.entry <;> rfl

theorem value_available (follows : provider.Follows w along offer) (asked : List Query) {s : σ}
    (ready : along asked s) :
    ((provider.available w).run.run s).value.1 = offer.details ∧
      along (asked ++ .identifiers :: (offer.tried offer.listed).map .instantiate)
        ((provider.available w).run.run s).value.2 := by
  obtain ⟨lists, next⟩ := follows.identifiers asked s ready
  obtain ⟨learned, kept⟩ := value_forM_look follows offer.listed
    (s := { provider := ((provider.identifiers w).run s).value.2 }) next
  have steps : ((provider.available w).run.run s).value = _ :=
    congrArg (fun done => (done.value.1.map fun () => done.value.2.details, done.value.2.provider))
      (run_run provider w { provider := s })
  rw [steps, Logged.value_bind, lists]
  rw [List.append_assoc] at kept
  exact ⟨learned, kept⟩

theorem gives_available (answers : provider.Answers w steady offer) :
    Act.Gives steady (provider.available w).run offer.details :=
  fun _ ready => value_available answers.follows [] ready

end Survey

namespace Catalogue

variable {k : Catalogue} {identifier : String} {loaded : LoadedPlugin} {error : AssetError}

theorem withholds_of_fails (faithful : k.Faithful c)
    (registered : k.registry.plugins.get? identifier = some loaded)
    (fails : loaded.plugin.provides c = some (.error error)) :
    identifier ∈ (k.offered c).listed ∧
      Survey.Withholds ((k.offered c).make identifier) error := by
  refine ⟨(mem_identifiers_iff faithful).2 ⟨loaded, registered, ?_⟩,
    .inl (instantiate_of_provides registered fails)⟩
  rw [Plugin.supports, fails]
  rfl

theorem details_of_fails (faithful : k.Faithful c)
    (registered : k.registry.plugins.get? identifier = some loaded)
    (fails : loaded.plugin.provides c = some (.error error))
    (fine : ∀ earlier < identifier, ∀ other, k.registry.plugins.get? earlier = some other →
      ∀ made, other.plugin.provides c = some made → ∃ detail, Survey.Tells made detail) :
    (k.offered c).details = .error error := by
  obtain ⟨listed, fault⟩ := withholds_of_fails faithful registered fails
  refine Offer.details_of_sorted (identifiers_sorted k) listed fault fun earlier there less => ?_
  obtain ⟨other, found, supports⟩ := (mem_identifiers_iff faithful).1 there
  obtain ⟨made, provides⟩ := Option.isSome_iff_exists.1 supports
  have make : (k.offered c).make earlier = made := instantiate_of_provides found provides
  rw [make]
  exact fine earlier less other found made provides

end Catalogue

namespace Survey

variable {provider : Provider σ (Implementation c)} {w : World} {steady : σ → Prop}
  {offer : Offer (Implementation c)}

/-- How a survey of an offer ends, and what it has tried to make by then. It has every
detail under the identifier that is listed, whatever the implementation calls itself,
or it fails as the first that fails in the order of the list. -/
structure AllOrNothing (offer : Offer (Implementation c))
    (outcome : Except AssetError (Dictionary Detail)) (tried : List String) : Prop where
  succeeds_iff : (∃ details, outcome = .ok details) ↔
    ∀ identifier ∈ offer.listed, ∃ detail, Tells (offer.make identifier) detail
  all : ∀ details, outcome = .ok details →
    tried = offer.listed ∧
    details.keys.Pairwise (· < ·) ∧
    (∀ identifier, identifier ∈ details.keys ↔ identifier ∈ offer.listed) ∧
    ∀ identifier detail, details.get? identifier = some detail →
      Tells (offer.make identifier) detail
  nothing : ∀ error, outcome = .error error → ∃ before identifier after,
    offer.listed = before ++ identifier :: after ∧
    tried = before ++ [identifier] ∧
    (∀ earlier ∈ before, ∃ detail, Tells (offer.make earlier) detail) ∧
    Withholds (offer.make identifier) error

theorem allOrNothing (offer : Offer (Implementation c)) :
    AllOrNothing offer offer.details (offer.tried offer.listed) where
  succeeds_iff := Offer.exists_details_iff
  all details learned :=
    ⟨Offer.tried_eq_self (Offer.exists_details_iff.1 ⟨details, learned⟩), details.keys_sorted,
      Offer.mem_keys_details_iff learned, fun _ _ => Offer.tells_of_get?_details learned⟩
  nothing error stopped := by
    obtain ⟨before, identifier, after, split, fault, fine⟩ := Offer.details_eq_error_iff.1 stopped
    exact ⟨before, identifier, after, split, split ▸ Offer.tried_of_first fine fault, fine, fault⟩

theorem eq_of_first {p : String → Prop} {before rest after after' : List String}
    {first other : String} (split : before ++ first :: after = rest ++ other :: after')
    (fine : ∀ name ∈ before, p name) (also : ∀ name ∈ rest, p name) (stop : ¬ p first)
    (stops : ¬ p other) : rest = before ∧ other = first := by
  induction before generalizing rest with
  | nil =>
      cases rest with
      | nil => exact ⟨rfl, (List.cons.inj split).1.symm⟩
      | cons name rest =>
          rw [List.forall_mem_cons, ← (List.cons.inj split).1] at also
          exact absurd also.1 stop
  | cons name before ih =>
      rw [List.forall_mem_cons] at fine
      cases rest with
      | nil =>
          obtain ⟨same, -⟩ := List.cons.inj split
          exact absurd (same ▸ fine.1) stops
      | cons again rest =>
          obtain ⟨rfl, more⟩ := List.cons.inj split
          obtain ⟨rfl, same⟩ := ih more fine.2 (List.forall_mem_cons.1 also).2
          exact ⟨rfl, same⟩

/-- What a survey comes to is known once its first fault is. -/
theorem AllOrNothing.stops_at {offer : Offer (Implementation c)}
    {outcome : Except AssetError (Dictionary Detail)} {tried : List String}
    (whole : AllOrNothing offer outcome tried) {before after : List String} {identifier : String}
    {error : AssetError} (split : offer.listed = before ++ identifier :: after)
    (fine : ∀ earlier ∈ before, ∃ detail, Tells (offer.make earlier) detail)
    (fault : Withholds (offer.make identifier) error) :
    outcome = .error error ∧ tried = before ++ [identifier] := by
  have silent : ∀ {name e}, Withholds (offer.make name) e →
      ¬ ∃ detail, Tells (offer.make name) detail :=
    fun withholds ⟨_, tells⟩ => tells.not_withholds _ withholds
  cases outcome with
  | ok details =>
      have told := whole.succeeds_iff.1 ⟨details, rfl⟩ identifier
        (split ▸ List.mem_append_right _ List.mem_cons_self)
      exact absurd told (silent fault)
  | error other =>
      obtain ⟨rest, name, _, same, rfl, also, withheld⟩ := whole.nothing other rfl
      obtain ⟨rfl, rfl⟩ :=
        eq_of_first (split.symm.trans same) fine also (silent fault) (silent withheld)
      exact ⟨congrArg _ (withheld.unique fault), rfl⟩

/-- A plugin among those found first that cannot make its implementation lets the whole
listing fail, with its own error unless one that is listed before fails. -/
def FailsWhole (c : Capability) (first : String → LoadedPlugin → Prop)
    (listing : Except AssetError (Dictionary Detail)) : Prop :=
  ∀ identifier loaded error, first identifier loaded →
    loaded.plugin.provides c = some (.error error) →
    (∃ failure, listing = .error failure) ∧
    ((∀ earlier < identifier, ∀ other, first earlier other → ∀ made,
      other.plugin.provides c = some made → ∃ detail, Tells made detail) →
      listing = .error error)

theorem failsWhole_plugins (source : PluginSource c) (w : World)
    (history : List (World × Request)) :
    let seen := (PluginSource.scannedIn history).getD w
    FailsWhole c
      (Registry.FirstYield source.loaders seen (some .scanning)
        (seen.entries (source.searchPaths seen)))
      (((Provider.plugins c).available w).run.run ((source.known none).after history)).value.1 := by
  intro seen identifier loaded error isFirst fails
  have faithful := PluginSource.faithful_survey source seen
  have given : (((Provider.plugins c).available w).run.run
      ((source.known none).after history)).value.1 =
        ((source.survey seen).value.offered c).details := by
    rw [← PluginSource.basis_after source w history]
    exact (gives_available (Provider.answers_queried _ w) _ (.inl rfl)).1
  have found := PluginSource.get?_survey_iff.2 isFirst
  rw [given]
  refine ⟨?_, fun fine => Catalogue.details_of_fails faithful found fails ?_⟩
  · obtain ⟨listed, fault⟩ := Catalogue.withholds_of_fails faithful found fails
    exact Offer.exists_details_error listed fault
  · exact fun earlier less other present =>
      fine earlier less other (PluginSource.get?_survey_iff.1 present)

/-- A provider whose answers do not change is surveyed as a whole or not at all, and
nothing is made after the first failure. -/
theorem available_is_all_or_nothing (answers : provider.Answers w steady offer) :
    ∃ (outcome : Except AssetError (Dictionary Detail)) (tried : List String),
      Act.Gives steady (provider.available w).run outcome ∧
      (∀ s asked, steady s →
        let done := ((provider.recorded.available w).run.run (s, asked)).value
        done.1 = outcome ∧ done.2.2 = asked ++ .identifiers :: tried.map .instantiate) ∧
      AllOrNothing offer outcome tried ∧
      ∀ (paths : List String) (environmentVariable : String) (loaders : List Loader)
        (history : List (World × Request)),
        let source := PluginSource.made c paths environmentVariable loaders
        let seen := (PluginSource.scannedIn history).getD w
        FailsWhole c
          (Registry.FirstYield loaders seen (some .scanning)
            (seen.entries (source.searchPaths seen)))
          (((Provider.plugins c).available w).run.run (source.after history)).value.1 := by
  refine ⟨offer.details, offer.tried offer.listed, gives_available answers, ?_,
    allOrNothing offer, fun paths environmentVariable loaders history =>
      failsWhole_plugins (.made c paths environmentVariable loaders) w history⟩
  intro s asked ready
  obtain ⟨same, -, noted⟩ :=
    value_available answers.follows_recorded asked (s := (s, asked)) ⟨ready, rfl⟩
  exact ⟨same, noted⟩

def panel (name : String) (info : Except AssetError InfoDictionary) :
    Except AssetError (Implementation .uiDelegate) :=
  .ok { identifier := fun _ => name, displayName := fun _ => "Panel", info := fun _ => info,
        work := {} }

theorem tells_panel (name : String) (info : InfoDictionary) :
    Tells (panel name (.ok info)) ⟨name, "Panel", info⟩ :=
  ⟨_, rfl, rfl, rfl, rfl⟩

def failingFirst : World where
  root := .directory [
    ("a", .directory [("x.plugin", .file (.ofText "kind=failing\nidentifier=q"))] [] none),
    ("b", .directory [("x.plugin", .file (.ofText "kind=manager\nidentifier=p"))] [] none)] [] none

theorem entries_failingFirst :
    failingFirst.entries ["/a", "/b"] = ["/a/x.plugin", "/b/x.plugin"] := by
  have leadsA : failingFirst.position? "/a" = some ["a"] := by decide +kernel
  have leadsB : failingFirst.position? "/b" = some ["b"] := by decide +kernel
  rw [World.entries, List.flatMap_cons, List.flatMap_singleton,
    World.entryNames_of_find? leadsA rfl, World.entryNames_of_find? leadsB rfl]
  simp only [World.sortedNames, List.map_cons, List.map_nil, List.mergeSort_singleton]
  decide +kernel

theorem yields_failingFirst :
    let yields := Registry.Yields [.describing "stub" "plugin" false] failingFirst (some .scanning)
    (∃ failing, yields "/a/x.plugin" failing ∧ failing.identifier = "q" ∧
      failing.plugin.provides .manager =
        some (.error (.configuration "q could not be constructed"))) ∧
    ∃ working implementation detail, yields "/b/x.plugin" working ∧
      working.plugin.provides .manager = some (.ok implementation) ∧
      Tells (.ok implementation) detail := by
  intro yields
  have leadsA : failingFirst.position? "/a/x.plugin" = some ["a", "x.plugin"] := by
    decide +kernel
  have leadsB : failingFirst.position? "/b/x.plugin" = some ["b", "x.plugin"] := by
    decide +kernel
  have failing : yields "/a/x.plugin" _ :=
    Registry.yields_describing "failing" "q" (by decide +kernel) leadsA rfl (by decide +kernel)
      (by decide +kernel) rfl rfl
  have working : yields "/b/x.plugin" _ :=
    Registry.yields_describing "manager" "p" (by decide +kernel) leadsB rfl (by decide +kernel)
      (by decide +kernel) rfl rfl
  exact ⟨⟨_, failing, rfl, rfl⟩, _, _, ⟨_, _, {}⟩, working, rfl, _, rfl, rfl, rfl, rfl⟩

/-- Of panels that are listed out of order, twice and under other names, the details
stand under the names in the list. One that has no info ends the survey before the one
behind it is made, and a plugin that fails ends it after the one that is listed before. -/
theorem available_is_all_or_nothing_failingFirst :
    let known := [("z", panel "b" (.ok {})), ("b", panel "z" (.ok {})), ("z", panel "y" (.ok {}))]
    let silent := [("z", panel "b" (.ok {})), ("a", panel "a" (.error (.configuration "silent"))),
      ("c", panel "c" (.ok {}))]
    let source := PluginSource.made .manager ["/a", "/b"] pluginPathVariable
      [.describing "stub" "plugin" false]
    (∃ details, (((Provider.table known).available {}).run.run ()).value.1 = .ok details ∧
      details.keys = ["b", "z"] ∧ details.get? "z" = some ⟨"b", "Panel", {}⟩) ∧
    (((Provider.table silent).recorded.available {}).run.run ((), [])).value =
      (.error (.configuration "silent"), (), [.identifiers, .instantiate "z", .instantiate "a"]) ∧
    (((Provider.plugins .manager).available failingFirst).run.run source).value.1 =
      .error (.configuration "q could not be constructed") := by
  intro known silent source
  refine ⟨?_, ?_, ?_⟩
  · have answers : (Provider.table known).Answers {} (fun _ : Unit => True) _ :=
      Provider.answers_table known
    obtain ⟨outcome, tried, gives, -, ⟨succeeds, learned, -⟩, -⟩ :=
      available_is_all_or_nothing answers
    obtain ⟨details, rfl⟩ := succeeds.2 (List.forall_mem_cons.2 ⟨⟨_, tells_panel "b" {}⟩,
      List.forall_mem_cons.2 ⟨⟨_, tells_panel "z" {}⟩,
        List.forall_mem_singleton.2 ⟨_, tells_panel "b" {}⟩⟩⟩)
    obtain ⟨-, sorted, keys, tells⟩ := learned details rfl
    refine ⟨details, (gives () trivial).1, ?_, ?_⟩
    · refine eq_of_sorted_of_mem_iff sorted (by decide) fun name => (keys name).trans ?_
      change name ∈ ["z", "b", "z"] ↔ name ∈ ["b", "z"]
      grind
    · obtain ⟨detail, found⟩ := Dictionary.mem_keys_iff.1 ((keys "z").2 List.mem_cons_self)
      rw [found, (tells "z" detail found).unique (tells_panel "b" {})]
  · have answers : (Provider.table silent).Answers {} (fun _ : Unit => True) _ :=
      Provider.answers_table silent
    obtain ⟨outcome, tried, -, noted, whole, -⟩ := available_is_all_or_nothing answers
    obtain ⟨same, asked⟩ := noted () [] trivial
    obtain ⟨rfl, rfl⟩ := whole.stops_at (rfl : _ = ["z"] ++ "a" :: ["c"])
      (List.forall_mem_singleton.2 ⟨_, tells_panel "b" {}⟩) (.inr ⟨_, rfl, rfl⟩)
    exact Prod.ext same (Prod.ext rfl asked)
  · obtain ⟨-, -, -, -, -, plugins⟩ :=
      available_is_all_or_nothing (Provider.answers_queried source failingFirst)
    obtain ⟨⟨failing, yields, named, fails⟩, working, implementation, detail, yieldsNext, works,
      tells⟩ := yields_failingFirst
    have paths : source.searchPaths failingFirst = ["/a", "/b"] := by decide +kernel
    have entries := entries_failingFirst
    rw [← paths] at entries
    refine (plugins ["/a", "/b"] pluginPathVariable _ [] "q" failing _
      ⟨[], "/a/x.plugin", ["/b/x.plugin"], entries, yields, named, by simp⟩ fails).2 ?_
    intro earlier less other first made provides
    obtain ⟨before, path, after, split, becomes, rfl, -⟩ := first
    have member : path ∈ failingFirst.entries (source.searchPaths failingFirst) :=
      split ▸ List.mem_append_right _ List.mem_cons_self
    rw [entries] at member
    rcases List.mem_pair.1 member with rfl | rfl
    · rw [becomes.unique yields, named] at less
      exact absurd less (String.lt_irrefl _)
    · rw [becomes.unique yieldsNext, works] at provides
      cases provides
      exact ⟨detail, tells⟩

end Survey

end AssetLink
