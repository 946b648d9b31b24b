import AssetLink.Proofs.Discovery.Reach

/-!
Scanning as needed. Over a run of queries each source of a combination scans at most
once, namely for the first query that reaches it, and as long as the files stay as they
are no query changes the answer of a later one.
-/

namespace AssetLink

variable {c : Capability}

theorem PluginSource.value_survey_afterEvents (w : World) {s : PluginSource c}
    (steady : ∀ loader ∈ s.loaders, loader.Steady) (events : List Event) :
    (s.survey (w.afterEvents events)).value = (s.survey w).value := by
  have paths : s.searchPaths (w.afterEvents events) = s.searchPaths w :=
    World.afterEvents_eq_of_keepLibrary (f := s.searchPaths) (fun w library => by
      unfold World.keepLibrary
      cases w.openLibrary library <;> rfl) w events
  have registry : (s.registryIn (w.afterEvents events)).value = (s.registryIn w).value := by
    rw [registryIn, paths]
    exact Registry.value_scan_congr (Registry.found_afterEvents steady w events _)
  rw [survey_eq, survey_eq]
  simp only [Logged.value_bind, Logged.value_pure, registry]

namespace Provider

/-- Scans of sources of a shelf, each at its place and in its world, that lead from
one state of the shelf to a later one. No source scans twice, nor any that had
scanned before, and nothing else is logged. -/
structure Scans (shelf : Shelf c) (scans : List (Nat × World)) (left : Shelf c)
    (log : List Event) : Prop where
  once : (scans.map (·.1)).Nodup
  scanned : ∀ place w, (place, w) ∈ scans → ∃ s, shelf[place]? = some s ∧ s.catalogue = none ∧
    left[place]? = some (s.known (some w))
  kept : ∀ place ∉ scans.map (·.1), left[place]? = shelf[place]?
  log_eq : log = scans.flatMap fun scan =>
    (shelf[scan.1]?).elim [] fun s => (s.survey scan.2).events

namespace Scans

variable {shelf left last : Shelf c} {scans more : List (Nat × World)} {log later : List Event}

theorem refl (shelf : Shelf c) : Scans shelf [] shelf [] where
  once := List.nodup_nil
  scanned _ _ none := nomatch none
  kept _ _ := rfl
  log_eq := rfl

theorem single {s : PluginSource c} (unscanned : s.catalogue = none) (w : World)
    (before after : Shelf c) :
    Scans (before ++ s :: after) [(before.length, w)] (before ++ s.known (some w) :: after)
      (s.survey w).events where
  once := List.nodup_singleton _
  scanned place v member := by
    obtain ⟨rfl, rfl⟩ := Prod.mk.inj (List.mem_singleton.1 member)
    exact ⟨s, by simp, unscanned, by simp⟩
  kept place other := by
    have elsewhere : place ≠ before.length := by simpa using other
    have set : before ++ s.known (some w) :: after =
        (before ++ s :: after).set before.length (s.known (some w)) := by simp
    rw [set, List.getElem?_set_ne elsewhere.symm]
  log_eq := by simp

theorem not_mem_of_mem (first : Scans shelf scans left log) (next : Scans left more last later)
    {place : Nat} (again : place ∈ more.map (·.1)) : place ∉ scans.map (·.1) := by
  intro before
  obtain ⟨⟨_, w⟩, member, rfl⟩ := List.mem_map.1 before
  obtain ⟨⟨_, v⟩, memberAgain, rfl⟩ := List.mem_map.1 again
  obtain ⟨s, -, -, there⟩ := first.scanned _ w member
  obtain ⟨t, here, unscanned, -⟩ := next.scanned _ v memberAgain
  cases there.symm.trans here
  cases unscanned

theorem trans (first : Scans shelf scans left log) (next : Scans left more last later) :
    Scans shelf (scans ++ more) last (log ++ later) where
  once := by
    rw [List.map_append]
    exact first.once.append next.once fun _ before again =>
      not_mem_of_mem first next again before
  scanned place w member := by
    rcases List.mem_append.1 member with before | again
    · obtain ⟨s, here, unscanned, there⟩ := first.scanned place w before
      refine ⟨s, here, unscanned, (next.kept place fun again => ?_).trans there⟩
      exact not_mem_of_mem first next again (List.mem_map_of_mem before)
    · obtain ⟨s, here, unscanned, there⟩ := next.scanned place w again
      have same := first.kept place (not_mem_of_mem first next (List.mem_map_of_mem again))
      exact ⟨s, same.symm.trans here, unscanned, there⟩
  kept place other := by
    rw [List.map_append, List.mem_append, not_or] at other
    rw [next.kept place other.2, first.kept place other.1]
  log_eq := by
    rw [List.flatMap_append, ← first.log_eq, next.log_eq]
    refine congrArg (log ++ ·) (List.flatMap_congr fun scan member => ?_)
    rw [first.kept scan.1 (not_mem_of_mem first next (List.mem_map_of_mem member))]

end Scans

theorem exists_scans_queried (w : World) (before after : Shelf c) (s : PluginSource c) :
    ∃ scans, (∀ scan ∈ scans, scan.2 = w) ∧
      Scans (before ++ s :: after) scans (before ++ s.queried w :: after) (s.queryLog w) := by
  cases found : s.catalogue with
  | some k =>
      refine ⟨[], List.forall_mem_nil _, ?_⟩
      rw [PluginSource.queried_of_some w found, PluginSource.queryLog_of_some w found]
      exact .refl _
  | none =>
      refine ⟨[(before.length, w)], by simp, ?_⟩
      rw [PluginSource.queried_of_none w found, PluginSource.queryLog_of_none w found]
      exact .single found w before after

theorem exists_scans_asked (w : World) (before asked rest : Shelf c) :
    ∃ scans, (∀ scan ∈ scans, scan.2 = w) ∧
      Scans (before ++ asked ++ rest) scans (before ++ asked.map (·.queried w) ++ rest)
        (asked.flatMap (·.queryLog w)) := by
  induction asked generalizing before with
  | nil => exact ⟨[], List.forall_mem_nil _, .refl _⟩
  | cons s asked ih =>
      obtain ⟨scans, worlds, first⟩ := exists_scans_queried w before (asked ++ rest) s
      obtain ⟨more, worldsMore, next⟩ := ih (before ++ [s.queried w])
      refine ⟨scans ++ more, fun scan member => ?_, ?_⟩
      · exact (List.mem_append.1 member).elim (worlds scan) (worldsMore scan)
      · simp only [List.append_assoc, List.cons_append, List.nil_append] at first next ⊢
        exact first.trans next

theorem length_queried_append (w : World) (asked rest : Shelf c) :
    (asked.map (·.queried w) ++ rest).length = (asked ++ rest).length := by
  simp

theorem exists_scans_run (steps : List (World × Query)) (shelf : Shelf c) :
    let children := sources c 0 shelf.length
    let done := (steps.mapM fun step => (combined children).answer step.1 step.2).run shelf
    ∃ scans, (∀ scan ∈ scans, ∃ step ∈ steps, step.1 = scan.2) ∧
      Scans shelf scans done.value.2 done.events := by
  induction steps generalizing shelf with
  | nil => exact ⟨[], List.forall_mem_nil _, .refl _⟩
  | cons step steps ih =>
      obtain ⟨w, q⟩ := step
      obtain ⟨asked, rest, rfl, reaches⟩ := exists_reaches w q shelf
      obtain ⟨scans, worlds, first⟩ := exists_scans_asked w [] asked rest
      obtain ⟨more, worldsMore, next⟩ := ih (asked.map (·.queried w) ++ rest)
      rw [length_queried_append] at next
      refine ⟨scans ++ more, fun scan member => ?_, ?_⟩
      · rcases List.mem_append.1 member with here | there
        · exact ⟨(w, q), List.mem_cons_self, (worlds scan here).symm⟩
        · obtain ⟨step, among, same⟩ := worldsMore scan there
          exact ⟨step, List.mem_cons_of_mem _ among, same⟩
      · rw [Act.run_mapM_cons steps (run_answer_of_reaches reaches)]
        exact first.trans next

/-- A world with the files and the environment of another one. Libraries may have
been loaded since, if the loaders of the shelf do not heed them. -/
inductive Undisturbed (shelf : Shelf c) (w : World) : World → Prop
  | same : Undisturbed shelf w w
  | loaded (steady : ∀ s ∈ shelf, ∀ loader ∈ s.loaders, loader.Steady) (events : List Event) :
      Undisturbed shelf w (w.afterEvents events)

theorem Undisturbed.value_survey {shelf : Shelf c} {w v : World} (h : Undisturbed shelf w v) :
    ∀ s ∈ shelf, (s.survey v).value = (s.survey w).value := by
  cases h with
  | same => exact fun _ _ => rfl
  | loaded steady events =>
      exact fun s member => PluginSource.value_survey_afterEvents w (steady s member) events

section Unchanged

variable {w v : World}

theorem offered_congr {shelf : Shelf c}
    (same : ∀ s ∈ shelf, (s.survey v).value = (s.survey w).value) :
    offered v shelf = offered w shelf := by
  rw [offered, offered, List.map_congr_left fun s member => by
    rw [PluginSource.basis_congr (same s member)]]

theorem offered_left {asked rest : Shelf c}
    (same : ∀ s ∈ asked ++ rest, (s.survey v).value = (s.survey w).value) :
    offered w (asked.map (·.queried v) ++ rest) = offered w (asked ++ rest) := by
  rw [offered, offered, List.map_append, List.map_append, List.map_map,
    List.map_congr_left fun s member => ?_]
  have basis := PluginSource.basis_congr (same s (List.mem_append_left rest member))
  rw [Function.comp_apply, PluginSource.basis_queried, basis]

theorem value_run_of_same {steps : List (World × Query)} {shelf : Shelf c}
    (same : ∀ step ∈ steps, ∀ s ∈ shelf, (s.survey step.1).value = (s.survey w).value) :
    ((steps.mapM fun step => (combined (sources c 0 shelf.length)).answer step.1 step.2).run
      shelf).value.1 = steps.map fun step => (offered w shelf).answer step.2 := by
  induction steps generalizing shelf with
  | nil => rfl
  | cons step steps ih =>
      obtain ⟨v, q⟩ := step
      obtain ⟨asked, rest, rfl, reaches⟩ := exists_reaches v q shelf
      rw [List.forall_mem_cons] at same
      have left : ∀ step ∈ steps, ∀ s ∈ asked.map (·.queried v) ++ rest,
          (s.survey step.1).value = (s.survey w).value := by
        simp only [List.forall_mem_append, List.forall_mem_map, PluginSource.survey_queried]
        exact fun step member => List.forall_mem_append.1 (same.2 step member)
      -- what the first query leaves is asked the rest, and offers what there was before it
      have later := ih left
      rw [length_queried_append, offered_left same.1] at later
      rw [Act.run_mapM_cons steps (run_answer_of_reaches reaches), List.map_cons, ← later,
        ← offered_congr same.1]

end Unchanged

/-- What a listing does to a source by itself: it scans unless it has scanned. -/
structure Listed (w : World) (s : PluginSource c) : Prop where
  run : ((plugins c).identifiers w).run s =
    ⟨((s.basis w).identifiers, s.queried w), s.queryLog w⟩
  phase : (s.queried w).phase = .scanned
  again : s.phase = .scanned → s.queried w = s ∧ s.queryLog w = []
  first : s.phase ≠ .scanned →
    s.queried w = s.known (some w) ∧ s.queryLog w = (s.survey w).events

theorem listed (w : World) (s : PluginSource c) : Listed w s where
  run := run_identifiers_alone w s
  phase := s.phase_queried w
  again scanned := by
    obtain ⟨k, found⟩ := PluginSource.exists_catalogue_of_phase scanned
    exact ⟨PluginSource.queried_of_some w found, PluginSource.queryLog_of_some w found⟩
  first unscanned := by
    have empty := PluginSource.catalogue_eq_none_of_phase unscanned
    exact ⟨PluginSource.queried_of_none w empty, PluginSource.queryLog_of_none w empty⟩

/-- What a combination of the sources of a shelf does to them. A query goes along the
sources and stops at the first that lists what is asked for; a listing goes along all
of them. Those that it reaches and that had not scanned scan then, in their order, and
those behind stay as they are. -/
structure ScansAsNeeded (whole : Provider (Shelf c) (Implementation c)) (shelf : Shelf c) :
    Prop where
  query : ∀ w q, ∃ asked rest, shelf = asked ++ rest ∧ Reaches w q asked rest ∧
    (whole.answer w q).run shelf =
      ⟨((offered w shelf).answer q, asked.map (·.queried w) ++ rest),
        asked.flatMap (·.queryLog w)⟩
  listing : ∀ w, ∀ s ∈ ((whole.identifiers w).run shelf).value.2, s.phase = .scanned
  run : ∀ steps : List (World × Query),
    let done := (steps.mapM fun step => whole.answer step.1 step.2).run shelf
    ∃ scans, (∀ scan ∈ scans, ∃ step ∈ steps, step.1 = scan.2) ∧
      Scans shelf scans done.value.2 done.events
  unchanged : ∀ (w : World) (steps : List (World × Query)),
    (∀ step ∈ steps, Undisturbed shelf w step.1) →
    ((steps.mapM fun step => whole.answer step.1 step.2).run shelf).value.1 =
      steps.map fun step => ((whole.answer w step.2).run shelf).value.1

theorem scansAsNeeded (shelf : Shelf c) :
    ScansAsNeeded (combined (sources c 0 shelf.length)) shelf where
  query w q := by
    obtain ⟨asked, rest, rfl, reaches⟩ := exists_reaches w q shelf
    exact ⟨asked, rest, rfl, reaches, run_answer_of_reaches reaches⟩
  listing w := by
    rw [run_identifiers_combined]
    exact List.forall_mem_map.2 fun s _ => s.phase_queried w
  run steps := exists_scans_run steps shelf
  unchanged w steps undisturbed := by
    simp only [value_answer_combined]
    exact value_run_of_same fun step member => (undisturbed step member).value_survey

/-- A combination of sources of plugins scans no more than it needs to. Over a run of
queries no source scans twice, and while the files stay as they are each query of a run
is answered as if it had come first. The plugins' own answers are taken not to change. -/
theorem combination_scans_as_needed {shelf : Shelf c} (nonempty : shelf ≠ []) :
    ∃ whole : Provider (Shelf c) (Implementation c),
      combine ((List.range shelf.length).map (shelved c)) = .ok whole ∧
      (∀ (w : World) (s : PluginSource c), Listed w s) ∧ ScansAsNeeded whole shelf := by
  have children : (List.range shelf.length).map (shelved c) = sources c 0 shelf.length := by
    rw [sources, List.range_eq_range']
  have combines : combine (sources c 0 shelf.length) = .ok (combined (sources c 0 shelf.length)) :=
    combine_eq_ok (by simpa [sources] using nonempty)
  exact ⟨_, children ▸ combines, listed, scansAsNeeded shelf⟩

/-- The directory of the manager comes first. What is asked for is found there, and the
other directory is left alone until the identifiers are listed, by when a library
has been loaded. -/
theorem combination_scans_as_needed_managerFirst :
    let w := Registry.twoDirectories
    let later := w.afterEvents [.libraryLoaded "/c/y.so"]
    let panels := bothDirectories.getD 0 {}
    let managers := bothDirectories.getD 1 {}
    let shelf := [managers, panels]
    ∃ whole, combine [shelved .manager 0, shelved .manager 1] = .ok whole ∧
      (whole.answer w (.instantiate "p")).run shelf =
        ⟨((offered w shelf).answer (.instantiate "p"), [managers.known (some w), panels]),
          (managers.survey w).events⟩ ∧
      panels.phase = .unscanned ∧
      (∀ s ∈ ((whole.identifiers w).run shelf).value.2, s.phase = .scanned) ∧
      (([(w, .instantiate "p"), (later, .identifiers), (later, .instantiate "p")].mapM
          fun step => whole.answer step.1 step.2).run shelf).value.1 =
        [.instantiate "p", .identifiers, .instantiate "p"].map fun q =>
          ((whole.answer w q).run shelf).value.1 := by
  intro w later panels managers shelf
  obtain ⟨whole, combines, -, asks, lists, -, unchanged⟩ :=
    combination_scans_as_needed (List.cons_ne_nil managers [panels])
  refine ⟨whole, combines, ?_, rfl, lists w, ?_⟩
  · obtain ⟨asked, rest, split, reaches, run⟩ := asks w (.instantiate "p")
    cases reaches with
    | @first _ earlier s _ unlisted _ =>
        cases earlier with
        | nil =>
            cases split
            rw [List.nil_append, List.map_singleton, List.flatMap_singleton,
              PluginSource.queried_of_none w rfl, PluginSource.queryLog_of_none w rfl] at run
            exact run
        | cons other earlier =>
            obtain ⟨rfl, -⟩ := List.cons.inj split
            exact absurd listed_second (unlisted _ List.mem_cons_self)
    | unlisted unlisted =>
        rw [List.append_nil] at split
        subst split
        exact absurd listed_second (unlisted _ List.mem_cons_self)
  · have steady : ∀ s ∈ shelf, ∀ loader ∈ s.loaders, loader.Steady := by
      have describing := Loader.steady_describing "stub" "plugin" false
      have each : ∀ loader ∈ [Loader.describing "stub" "plugin" false], loader.Steady :=
        List.forall_mem_singleton.2 describing
      exact List.forall_mem_cons.2 ⟨each, List.forall_mem_singleton.2 each⟩
    have undisturbed : Undisturbed shelf w later := .loaded steady _
    refine unchanged w [(w, .instantiate "p"), (later, .identifiers), (later, .instantiate "p")] ?_
    simp only [List.forall_mem_cons]
    exact ⟨.same, undisturbed, undisturbed, List.forall_mem_nil _⟩

end Provider

end AssetLink
