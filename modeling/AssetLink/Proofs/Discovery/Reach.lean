import AssetLink.Proofs.Discovery.Union

/-!
How far a query goes along the sources of a shelf. It asks them in turn and stops at
the first that is enough. Those it asked are queried by it, and scan if they had not;
those behind them are left alone.
-/

namespace AssetLink

variable {c : Capability}

namespace PluginSource

/-- What a query is answered from: what the source found when it scanned, or what
it finds now. -/
def basis (s : PluginSource c) (w : World) : Catalogue :=
  s.catalogue.getD (s.survey w).value

def queried (s : PluginSource c) (w : World) : PluginSource c :=
  if s.catalogue.isSome then s else s.known (some w)

def queryLog (s : PluginSource c) (w : World) : List Event :=
  if s.catalogue.isSome then [] else (s.survey w).events

variable (s : PluginSource c) (w v : World)

theorem queried_of_none {s : PluginSource c} (none : s.catalogue = none) :
    s.queried w = s.known (some w) := by
  rw [queried, none]
  rfl

theorem queried_of_some {s : PluginSource c} {k : Catalogue} (found : s.catalogue = some k) :
    s.queried w = s := by
  rw [queried, found]
  rfl

theorem queryLog_of_none {s : PluginSource c} (none : s.catalogue = none) :
    s.queryLog w = (s.survey w).events := by
  rw [queryLog, none]
  rfl

theorem queryLog_of_some {s : PluginSource c} {k : Catalogue} (found : s.catalogue = some k) :
    s.queryLog w = [] := by
  rw [queryLog, found]
  rfl

theorem run_obtain : (obtain w).run s = ⟨(s.basis w, s.queried w), s.queryLog w⟩ := by
  change obtain w s = _
  cases found : s.catalogue with
  | some k =>
      rw [obtain_of_some found, basis, queried_of_some w found, queryLog_of_some w found, found]
      rfl
  | none =>
      have scanning : ({ s with isScanning := true } : PluginSource c).scan w = s.survey w := by
        rw [survey, ← found]
      rw [obtain_of_none found, scanning, basis, queried_of_none w found,
        queryLog_of_none w found, found]
      exact congrArg (Logged.mk _) (List.append_nil _)

@[simp] theorem catalogue_queried : (s.queried w).catalogue = some (s.basis w) := by
  cases found : s.catalogue with
  | some k => rw [queried_of_some w found, basis, found, Option.getD_some]
  | none => rw [queried_of_none w found, basis, found, Option.getD_none]; rfl

@[simp] theorem basis_queried : (s.queried v).basis w = s.basis v := by
  rw [basis, catalogue_queried, Option.getD_some]

@[simp] theorem queried_queried : (s.queried v).queried w = s.queried v :=
  queried_of_some w (s.catalogue_queried v)

@[simp] theorem queryLog_queried : (s.queried v).queryLog w = [] :=
  queryLog_of_some w (s.catalogue_queried v)

theorem phase_queried : (s.queried w).phase = .scanned := by
  rw [phase, catalogue_queried]
  rfl

theorem catalogue_eq_none_of_phase {s : PluginSource c} (unscanned : s.phase ≠ .scanned) :
    s.catalogue = none := by
  cases found : s.catalogue with
  | none => rfl
  | some k => exact absurd (by rw [phase, found]; rfl) unscanned

theorem exists_catalogue_of_phase {s : PluginSource c} (scanned : s.phase = .scanned) :
    ∃ k, s.catalogue = some k := by
  cases found : s.catalogue with
  | some k => exact ⟨k, rfl⟩
  | none =>
      rw [phase, found] at scanned
      cases marked : s.isScanning <;> simp [marked] at scanned

theorem basis_congr {s : PluginSource c} {w v : World}
    (same : (s.survey v).value = (s.survey w).value) : s.basis v = s.basis w := by
  rw [basis, basis, same]

@[simp] theorem survey_queried : (s.queried v).survey w = s.survey w := by
  cases found : s.catalogue with
  | some k => rw [queried_of_some v found]
  | none => rw [queried_of_none v found]; rfl

theorem basis_after (history : List (World × Request)) :
    ((s.known none).after history).basis w =
      (s.survey ((scannedIn history).getD w)).value := by
  rw [after_known]
  cases scannedIn history <;> rfl

end PluginSource

def Catalogue.offered (k : Catalogue) (c : Capability) : Offer (Implementation c) :=
  ⟨k.identifiers, k.instantiate c⟩

def Offer.answer (offer : Offer (Implementation c)) : Query → Answer c
  | .identifiers => .identifiers offer.listed
  | .instantiate identifier => .instantiated (offer.make identifier)

namespace Provider

theorem run_within_at {α : Type} {act : Act (PluginSource c) α} {s t : PluginSource c} {a : α}
    {log : List Event} (run : act.run s = ⟨(a, t), log⟩) (before after : Shelf c) :
    (Act.within (fun shelf : Shelf c => shelf.getD before.length {})
      (fun source shelf => shelf.set before.length source) act).run (before ++ s :: after) =
      ⟨(a, before ++ t :: after), log⟩ := by
  have here : (before ++ s :: after).getD before.length {} = s := by simp
  have there : (before ++ s :: after).set before.length t = before ++ t :: after := by simp
  change (act.run ((before ++ s :: after).getD before.length {}) >>= fun done =>
    pure (done.1, (before ++ s :: after).set before.length done.2)) = _
  rw [here, run, ← there]
  exact congrArg (Logged.mk _) (List.append_nil log)

section Alone

variable (w : World) (identifier : String) (before after : Shelf c) (s : PluginSource c)

theorem run_identifiers_alone :
    ((plugins c).identifiers w).run s = ⟨((s.basis w).identifiers, s.queried w), s.queryLog w⟩ :=
  Act.run_map_of_run Catalogue.identifiers (PluginSource.run_obtain s w)

theorem run_instantiate_alone :
    ((plugins c).instantiate w identifier).run.run s =
      ⟨((s.basis w).instantiate c identifier, s.queried w), s.queryLog w⟩ := by
  have obtained : PluginSource.obtain w s = _ := PluginSource.run_obtain s w
  rw [PluginSource.run_instantiate_plugins, obtained]
  exact congrArg (Logged.mk _) (List.append_nil _)

theorem run_identifiers_shelved :
    ((shelved c before.length).identifiers w).run (before ++ s :: after) =
      ⟨((s.basis w).identifiers, before ++ s.queried w :: after), s.queryLog w⟩ :=
  run_within_at (run_identifiers_alone w s) before after

theorem run_instantiate_shelved :
    ((shelved c before.length).instantiate w identifier).run.run (before ++ s :: after) =
      ⟨((s.basis w).instantiate c identifier, before ++ s.queried w :: after), s.queryLog w⟩ :=
  run_within_at (run_instantiate_alone w identifier s) before after

end Alone

theorem answers_queried (s : PluginSource c) (w : World) :
    (plugins c).Answers w (fun now => now = s ∨ now = s.queried w) ((s.basis w).offered c) where
  identifiers := by
    rintro _ (rfl | rfl) <;> simp [run_identifiers_alone, Catalogue.offered]
  instantiate identifier := by
    rintro _ (rfl | rfl) <;> simp [run_instantiate_alone, Catalogue.offered]

def sources (c : Capability) (start count : Nat) : List (Provider (Shelf c) (Implementation c)) :=
  (List.range' start count).map (shelved c)

theorem sources_succ (c : Capability) (start count : Nat) :
    sources c start (count + 1) = shelved c start :: sources c (start + 1) count := rfl

theorem sources_append (c : Capability) (start count more : Nat) :
    sources c start (count + more) = sources c start count ++ sources c (start + count) more := by
  rw [sources, ← List.range'_append_1, List.map_append]
  rfl

theorem run_mapM_identifiers (w : World) (before rest : Shelf c) :
    ((sources c before.length rest.length).mapM
      fun source => (source.identifiers w : Act (Shelf c) (List String))).run (before ++ rest) =
      ⟨(rest.map fun s => (s.basis w).identifiers, before ++ rest.map (·.queried w)),
        rest.flatMap (·.queryLog w)⟩ := by
  -- a source that was asked joins those that lie before the rest
  induction rest generalizing before with
  | nil => rfl
  | cons s rest ih =>
      have later := ih (before ++ [s.queried w])
      rw [List.length_append, List.length_singleton, List.append_assoc, List.append_assoc,
        List.singleton_append, List.singleton_append] at later
      have first := Act.run_mapM_cons (f := fun source => source.identifiers w)
        (sources c (before.length + 1) rest.length) (run_identifiers_shelved w before rest s)
      rw [later] at first
      exact first

theorem run_firstListing_of_not_listed {w : World} {identifier : String} {asked : Shelf c}
    (unlisted : ∀ s ∈ asked, identifier ∉ (s.basis w).identifiers) (before rest : Shelf c)
    {others : List (Provider (Shelf c) (Implementation c))}
    {found : Option (Provider (Shelf c) (Implementation c))} {left : Shelf c} {log : List Event}
    (next : (firstListing w identifier others).run (before ++ asked.map (·.queried w) ++ rest) =
      ⟨(found, left), log⟩) :
    (firstListing w identifier (sources c before.length asked.length ++ others)).run
      (before ++ asked ++ rest) = ⟨(found, left), asked.flatMap (·.queryLog w) ++ log⟩ := by
  induction asked generalizing before with
  | nil => exact next
  | cons s asked ih =>
      rw [List.forall_mem_cons] at unlisted
      have other : (s.basis w).identifiers.contains identifier = false := by
        simpa using unlisted.1
      have later := ih unlisted.2 (before ++ [s.queried w]) (by simpa using next)
      rw [List.length_cons, sources_succ, List.flatMap_cons, List.append_assoc, List.append_assoc]
      refine Act.run_bind_of_run (run_identifiers_shelved w before (asked ++ rest) s) ?_
      rw [other]
      simpa using later

theorem run_firstListing_of_listed {w : World} {identifier : String} {s : PluginSource c}
    (listed : identifier ∈ (s.basis w).identifiers) (before after : Shelf c)
    (others : List (Provider (Shelf c) (Implementation c))) :
    (firstListing w identifier (shelved c before.length :: others)).run (before ++ s :: after) =
      ⟨(some (shelved c before.length), before ++ s.queried w :: after), s.queryLog w⟩ := by
  have here : (s.basis w).identifiers.contains identifier = true := by simpa using listed
  rw [← List.append_nil (s.queryLog w)]
  refine Act.run_bind_of_run (run_identifiers_shelved w before after s) ?_
  rw [here]
  rfl

/-- How far a query goes along a shelf: the sources that it asks, and those behind
them that it leaves alone. -/
inductive Reaches (w : World) : Query → Shelf c → Shelf c → Prop
  | all (shelf : Shelf c) : Reaches w .identifiers shelf []
  | first {identifier : String} {earlier : Shelf c} {s : PluginSource c} (after : Shelf c)
      (unlisted : ∀ other ∈ earlier, identifier ∉ (other.basis w).identifiers)
      (listed : identifier ∈ (s.basis w).identifiers) :
      Reaches w (.instantiate identifier) (earlier ++ [s]) after
  | unlisted {identifier : String} {shelf : Shelf c}
      (unlisted : ∀ s ∈ shelf, identifier ∉ (s.basis w).identifiers) :
      Reaches w (.instantiate identifier) shelf []

def offered (w : World) (shelf : Shelf c) : Offer (Implementation c) :=
  .combined (shelf.map fun s => ⟨(s.basis w).identifiers, (s.basis w).instantiate c⟩)

theorem exists_reaches (w : World) (q : Query) (shelf : Shelf c) :
    ∃ asked rest, shelf = asked ++ rest ∧ Reaches w q asked rest := by
  cases q with
  | identifiers => exact ⟨shelf, [], (List.append_nil shelf).symm, .all shelf⟩
  | instantiate identifier =>
      rcases exists_first_or_forall_not (p := fun s => identifier ∈ (s.basis w).identifiers) shelf
        with ⟨earlier, s, after, rfl, unlisted, listed⟩ | unlisted
      · exact ⟨earlier ++ [s], after, List.append_cons earlier s after,
          .first after unlisted listed⟩
      · exact ⟨shelf, [], (List.append_nil shelf).symm, .unlisted unlisted⟩

theorem run_identifiers_combined (w : World) (shelf : Shelf c) :
    ((combined (sources c 0 shelf.length)).identifiers w).run shelf =
      ⟨((offered w shelf).listed, shelf.map (·.queried w)), shelf.flatMap (·.queryLog w)⟩ := by
  have listed : (offered w shelf).listed =
      sortedUnion (shelf.map fun s => (s.basis w).identifiers) := by
    rw [offered, Offer.combined, List.map_map]
    rfl
  rw [listed]
  exact Act.run_map_of_run sortedUnion (run_mapM_identifiers w [] shelf)

theorem run_instantiate_of_first {w : World} {identifier : String} {earlier : Shelf c}
    {s : PluginSource c} (unlisted : ∀ other ∈ earlier, identifier ∉ (other.basis w).identifiers)
    (listed : identifier ∈ (s.basis w).identifiers) (after : Shelf c) :
    ((combined (sources c 0 (earlier ++ s :: after).length)).instantiate w identifier).run.run
        (earlier ++ s :: after) =
      ⟨((s.basis w).instantiate c identifier, earlier.map (·.queried w) ++ s.queried w :: after),
        earlier.flatMap (·.queryLog w) ++ s.queryLog w⟩ := by
  have children : sources c 0 (earlier ++ s :: after).length =
      sources c 0 earlier.length ++
        shelved c earlier.length :: sources c (earlier.length + 1) after.length := by
    rw [List.length_append, sources_append, Nat.zero_add, List.length_cons, sources_succ]
  have here := run_firstListing_of_listed listed (earlier.map (·.queried w)) after
    (sources c (earlier.length + 1) after.length)
  have found := run_firstListing_of_not_listed unlisted [] (s :: after) here
  -- by then the source has scanned, so that making logs nothing and changes nothing
  have made := run_instantiate_shelved w identifier (earlier.map (·.queried w)) after (s.queried w)
  rw [List.length_map] at found made
  rw [PluginSource.basis_queried, PluginSource.queried_queried,
    PluginSource.queryLog_queried] at made
  change StateT.run (ExceptT.run (ExceptT.lift (firstListing w identifier _) >>= _)) _ = _
  rw [ExceptT.run_bind_lift, children, ← List.append_nil (_ ++ s.queryLog w)]
  exact Act.run_bind_of_run found made

theorem run_instantiate_of_not_listed {w : World} {identifier : String} {shelf : Shelf c}
    (unlisted : ∀ s ∈ shelf, identifier ∉ (s.basis w).identifiers) :
    ((combined (sources c 0 shelf.length)).instantiate w identifier).run.run shelf =
      ⟨(.error (Provider.unlisted identifier), shelf.map (·.queried w)),
        shelf.flatMap (·.queryLog w)⟩ := by
  have nobody := run_firstListing_of_not_listed unlisted [] []
    (rfl : (firstListing w identifier []).run _ = ⟨(none, _), []⟩)
  simp only [List.append_nil, List.nil_append] at nobody
  change StateT.run (ExceptT.run (ExceptT.lift (firstListing w identifier _) >>= _)) _ = _
  rw [ExceptT.run_bind_lift, ← List.append_nil (shelf.flatMap _)]
  exact Act.run_bind_of_run nobody rfl

theorem run_answer_of_reaches {w : World} {q : Query} {asked rest : Shelf c}
    (reaches : Reaches w q asked rest) :
    ((combined (sources c 0 (asked ++ rest).length)).answer w q).run (asked ++ rest) =
      ⟨((offered w (asked ++ rest)).answer q, asked.map (·.queried w) ++ rest),
        asked.flatMap (·.queryLog w)⟩ := by
  cases reaches with
  | all =>
      rw [List.append_nil, List.append_nil]
      exact Act.run_map_of_run Answer.identifiers (run_identifiers_combined w asked)
  | @first identifier earlier s _ unlisted listed =>
      have make : (offered w (earlier ++ s :: rest)).make identifier =
          (s.basis w).instantiate c identifier := by
        rw [offered, List.map_append, List.map_cons]
        exact Offer.make_combined_of_first (by simpa using unlisted) listed
      rw [← List.append_cons, List.map_append, List.map_singleton, ← List.append_cons,
        List.flatMap_append, List.flatMap_singleton, Offer.answer, make]
      exact Act.run_map_of_run Answer.instantiated (run_instantiate_of_first unlisted listed rest)
  | @unlisted identifier _ unlisted =>
      have make : (offered w asked).make identifier = .error (Provider.unlisted identifier) :=
        Offer.make_combined_of_not_listed (by simpa using unlisted)
      rw [List.append_nil, List.append_nil, Offer.answer, make]
      exact Act.run_map_of_run Answer.instantiated (run_instantiate_of_not_listed unlisted)

theorem value_answer_combined (w : World) (q : Query) (shelf : Shelf c) :
    (((combined (sources c 0 shelf.length)).answer w q).run shelf).value.1 =
      (offered w shelf).answer q := by
  obtain ⟨asked, rest, rfl, reaches⟩ := exists_reaches w q shelf
  rw [run_answer_of_reaches reaches]

end Provider

end AssetLink
