import AssetLink.Discovery.PluginSource
import Mathlib.Logic.Function.Basic

/-!
The phases that are told of a source which queries and observers share. A query
and a call for the phase are taken apart into their steps, and any number of them
go on at once. Looked at from the scan, whatever an observer is told comes in
order; but between the end of a scan and the publication of what it found, the
source tells again what it told before the scan.
-/

namespace AssetLink

namespace PluginSource

variable {c : Capability}

def mark (s : PluginSource c) : PluginSource c :=
  { s with isScanning := true }

def unmark (s : PluginSource c) : PluginSource c :=
  { s with isScanning := false }

def publish (k : Catalogue) (s : PluginSource c) : PluginSource c :=
  { s with catalogue := some k }

def markedPhase (s : PluginSource c) : ScanPhase :=
  if s.isScanning then .scanning else .unscanned

/-- A query that nothing interrupts takes the four steps one after the other. -/
theorem obtain_eq_steps {s : PluginSource c} (empty : s.catalogue = none) (w : World) :
    obtain w s = do
      let k ← s.mark.scan w
      return (k, publish k s.mark.unmark) :=
  obtain_of_none empty w

theorem phase_eq_reads (s : PluginSource c) :
    s.phase = if s.catalogue.isSome then .scanned else s.markedPhase := rfl

theorem phase_eq_unscanned_iff (s : PluginSource c) :
    s.phase = .unscanned ↔ s.catalogue = none ∧ s.isScanning = false := by
  rw [phase]
  cases s.catalogue <;> cases s.isScanning <;> simp

end PluginSource

def ScanPhase.rank : ScanPhase → Nat
  | .unscanned => 0
  | .scanning => 1
  | .scanned => 2

inductive Progress
  | admitted
  | marked
  | found (k : Catalogue)
  | unmarked (k : Catalogue)

def Progress.stage : Progress → Nat
  | admitted => 0
  | marked => 1
  | found _ => 1
  | unmarked _ => 2

/-- What one call for the phase told, and whether the mark that it looked at had
been taken away by then. -/
structure Sighting where
  phase : ScanPhase
  late : Bool
deriving DecidableEq, Repr

/-- How far the scan must have come for this to be told. -/
def Sighting.stage (a : Sighting) : Nat :=
  match a.phase with
  | .unscanned => if a.late then 2 else 0
  | .scanning => 1
  | .scanned => 3

structure SharedSource (κ ι : Type) (c : Capability) where
  source : PluginSource c
  /-- The one query that is let in to scan. All others wait for the catalogue. -/
  scanner : Option (κ × Progress) := none
  looking : ι → Bool := fun _ => false
  told : ι → List Sighting := fun _ => []

namespace SharedSource

variable {κ ι : Type} {c : Capability}

def stage (s : SharedSource κ ι c) : Nat :=
  match s.scanner with
  | some (_, progress) => progress.stage
  | none => if s.source.catalogue.isSome then 3 else 0

def proceed (source : PluginSource c) (scanner : Option (κ × Progress))
    (s : SharedSource κ ι c) : SharedSource κ ι c :=
  { s with source, scanner }

structure Consistent (s : SharedSource κ ι c) : Prop where
  marked : s.source.isScanning = true ↔ s.stage = 1
  empty : s.scanner ≠ none → s.source.catalogue = none
  passed : ∀ t, ∀ a ∈ s.told t, a.stage ≤ s.stage
  missed : ∀ t, s.looking t = true → ∀ a ∈ s.told t, a.stage ≤ 2
  ordered : ∀ t, (s.told t).Pairwise fun a b => a.stage ≤ b.stage

theorem stage_of_scanner {s : SharedSource κ ι c} {q : κ} {progress : Progress}
    (here : s.scanner = some (q, progress)) : s.stage = progress.stage := by
  rw [stage, here]

theorem stage_of_published {s : SharedSource κ ι c} (free : s.scanner = none)
    (there : s.source.catalogue.isSome = true) : s.stage = 3 := by
  simp [stage, free, there]

theorem stage_le_two {s : SharedSource κ ι c} (empty : s.source.catalogue = none) :
    s.stage ≤ 2 := by
  rw [stage]
  split
  next progress _ => cases progress <;> simp [Progress.stage]
  next => simp [empty]

theorem Consistent.empty_of_scanner {s : SharedSource κ ι c} (h : s.Consistent) {q : κ}
    {progress : Progress} (here : s.scanner = some (q, progress)) : s.source.catalogue = none :=
  h.empty (by simp [here])

theorem consistent_start {source : PluginSource c} (fresh : source.phase = .unscanned) :
    Consistent ({ source } : SharedSource κ ι c) := by
  obtain ⟨empty, unmarked⟩ := source.phase_eq_unscanned_iff.1 fresh
  have stage : ({ source } : SharedSource κ ι c).stage = 0 := by simp [SharedSource.stage, empty]
  exact {
    marked := by simp [unmarked, stage]
    empty := fun none => absurd rfl none
    passed := fun _ _ none => nomatch none
    missed := fun _ _ _ none => nomatch none
    ordered := fun _ => .nil }

theorem Consistent.proceed {s : SharedSource κ ι c} (h : s.Consistent) {source : PluginSource c}
    {scanner : Option (κ × Progress)} (later : s.stage ≤ (s.proceed source scanner).stage)
    (marked : source.isScanning = true ↔ (s.proceed source scanner).stage = 1)
    (empty : scanner ≠ none → source.catalogue = none) :
    (s.proceed source scanner).Consistent where
  marked := marked
  empty := empty
  passed t a told := Nat.le_trans (h.passed t a told) later
  missed := h.missed
  ordered := h.ordered

theorem Consistent.stage_judged {s : SharedSource κ ι c} (h : s.Consistent) :
    (⟨s.source.markedPhase, decide (2 ≤ s.stage)⟩ : Sighting).stage = min s.stage 2 := by
  by_cases going : s.stage = 1
  · simp [Sighting.stage, PluginSource.markedPhase, h.marked.2 going, going]
  · have unmarked := mt h.marked.1 going
    simp only [Sighting.stage, PluginSource.markedPhase, if_neg unmarked, decide_eq_true_eq]
    split <;> omega

variable [DecidableEq ι]

def tell (t : ι) (sighting : Sighting) (s : SharedSource κ ι c) : SharedSource κ ι c :=
  { s with
    looking := Function.update s.looking t false
    told := Function.update s.told t (s.told t ++ [sighting]) }

section Tell

variable (s : SharedSource κ ι c) (sighting : Sighting)

@[simp] theorem looking_tell_self (t : ι) : (s.tell t sighting).looking t = false :=
  Function.update_self ..

@[simp] theorem told_tell_self (t : ι) : (s.tell t sighting).told t = s.told t ++ [sighting] :=
  Function.update_self ..

theorem looking_tell_of_ne {t u : ι} (other : u ≠ t) :
    (s.tell t sighting).looking u = s.looking u :=
  Function.update_of_ne other ..

theorem told_tell_of_ne {t u : ι} (other : u ≠ t) : (s.tell t sighting).told u = s.told u :=
  Function.update_of_ne other ..

theorem tell_looking (t : ι) (looking : Bool) :
    tell t sighting { s with looking := Function.update s.looking t looking } =
      s.tell t sighting := by
  simp only [tell, Function.update_idem]

end Tell

inductive Step : SharedSource κ ι c → SharedSource κ ι c → Prop
  | enter {s : SharedSource κ ι c} (q : κ) (empty : s.source.catalogue = none)
      (free : s.scanner = none) : Step s (s.proceed s.source (some (q, .admitted)))
  | mark {s : SharedSource κ ι c} {q : κ} (here : s.scanner = some (q, .admitted)) :
      Step s (s.proceed s.source.mark (some (q, .marked)))
  | scan {s : SharedSource κ ι c} {q : κ} (w : World) (here : s.scanner = some (q, .marked)) :
      Step s (s.proceed s.source (some (q, .found (s.source.scan w).value)))
  | unmark {s : SharedSource κ ι c} {q : κ} {k : Catalogue}
      (here : s.scanner = some (q, .found k)) :
      Step s (s.proceed s.source.unmark (some (q, .unmarked k)))
  | publish {s : SharedSource κ ι c} {q : κ} {k : Catalogue}
      (here : s.scanner = some (q, .unmarked k)) :
      Step s (s.proceed (s.source.publish k) none)
  | find {s : SharedSource κ ι c} (t : ι) (idle : s.looking t = false)
      (there : s.source.catalogue.isSome = true) : Step s (s.tell t ⟨.scanned, false⟩)
  | miss {s : SharedSource κ ι c} (t : ι) (idle : s.looking t = false)
      (empty : s.source.catalogue = none) :
      Step s { s with looking := Function.update s.looking t true }
  | judge {s : SharedSource κ ι c} (t : ι) (looking : s.looking t = true) :
      Step s (s.tell t ⟨s.source.markedPhase, decide (2 ≤ s.stage)⟩)

inductive Reachable : SharedSource κ ι c → Prop
  | start (source : PluginSource c) (fresh : source.phase = .unscanned) : Reachable { source }
  | step {s new : SharedSource κ ι c} (before : Reachable s) (step : Step s new) : Reachable new

theorem Consistent.tell {s : SharedSource κ ι c} (h : s.Consistent) (t : ι) {a : Sighting}
    (passed : a.stage ≤ s.stage) (last : ∀ b ∈ s.told t, b.stage ≤ a.stage) :
    (s.tell t a).Consistent where
  marked := h.marked
  empty := h.empty
  passed u b told := by
    by_cases same : u = t
    · subst same
      rw [told_tell_self, List.mem_append, List.mem_singleton] at told
      rcases told with earlier | rfl
      · exact h.passed u b earlier
      · exact passed
    · rw [told_tell_of_ne s a same] at told
      exact h.passed u b told
  missed u looking b told := by
    by_cases same : u = t
    · subst same
      rw [looking_tell_self] at looking
      cases looking
    · rw [looking_tell_of_ne s a same] at looking
      rw [told_tell_of_ne s a same] at told
      exact h.missed u looking b told
  ordered u := by
    by_cases same : u = t
    · subst same
      rw [told_tell_self]
      exact List.pairwise_append.2 ⟨h.ordered u, List.pairwise_singleton _ _, by simpa using last⟩
    · rw [told_tell_of_ne s a same]
      exact h.ordered u

/-- A query moves the scan on and a call tells the stage that it meets, so that no
step lets an answer fall behind those before it. -/
theorem Consistent.step {s new : SharedSource κ ι c} (h : s.Consistent) (step : Step s new) :
    new.Consistent := by
  cases step with
  | enter q empty free =>
      have before : s.stage = 0 := by simp [stage, free, empty]
      refine h.proceed (Nat.le_of_eq before) ?_ fun _ => empty
      rw [h.marked, before]
      rfl
  | @mark q here =>
      have before : s.stage = 0 := stage_of_scanner here
      have empty := h.empty_of_scanner here
      exact h.proceed (before ▸ Nat.zero_le _) (iff_of_true rfl rfl) fun _ => empty
  | @scan q w here =>
      have before : s.stage = 1 := stage_of_scanner here
      have empty := h.empty_of_scanner here
      refine h.proceed (Nat.le_of_eq before) ?_ fun _ => empty
      rw [h.marked, before]
      rfl
  | @unmark q k here =>
      have before : s.stage = 1 := stage_of_scanner here
      have after : (s.proceed s.source.unmark (some (q, .unmarked k))).stage = 2 := rfl
      have empty := h.empty_of_scanner here
      exact h.proceed (by omega) (iff_of_false (by simp [PluginSource.unmark]) (by omega))
        fun _ => empty
  | @publish q k here =>
      have before : s.stage = 2 := stage_of_scanner here
      have after : (s.proceed (s.source.publish k) none).stage = 3 := stage_of_published rfl rfl
      have unmarked : ¬ s.source.isScanning = true := by
        rw [h.marked]
        omega
      exact h.proceed (by omega) (iff_of_false unmarked (by omega)) fun none => absurd rfl none
  | find t idle there =>
      have free : s.scanner = none := by
        by_contra running
        simp [h.empty running] at there
      have published := stage_of_published free there
      refine h.tell t (Nat.le_of_eq published.symm) fun b told => ?_
      exact Nat.le_trans (h.passed t b told) (Nat.le_of_eq published)
  | miss t idle empty =>
      refine { h with missed := fun u looking a told => ?_ }
      exact Nat.le_trans (h.passed u a told) (stage_le_two empty)
  | judge t looking =>
      -- The scan may have gone far since this observer missed the catalogue, but
      -- nothing was told to it meanwhile.
      have judged := h.stage_judged
      refine h.tell t (by omega) fun b told => ?_
      have passed := h.passed t b told
      have missed := h.missed t looking b told
      omega

theorem Reachable.consistent {s : SharedSource κ ι c} (h : Reachable s) : s.Consistent := by
  induction h with
  | start source fresh => exact consistent_start fresh
  | step _ step ih => exact ih.step step

theorem Reachable.query {s : SharedSource κ ι c} (h : Reachable s) (q : κ)
    (empty : s.source.catalogue = none) (free : s.scanner = none) (w : World) :
    Reachable (s.proceed (PluginSource.obtain w s.source).value.2 none) := by
  rw [PluginSource.obtain_eq_steps empty]
  have marked := (h.step (.enter q empty free)).step (.mark rfl)
  have found := marked.step (.scan w rfl)
  exact (found.step (.unmark rfl)).step (.publish rfl)

theorem Reachable.call {s : SharedSource κ ι c} (h : Reachable s) (t : ι)
    (empty : s.source.catalogue = none) (idle : s.looking t = false) :
    Reachable (s.tell t ⟨s.source.phase, decide (2 ≤ s.stage)⟩) := by
  have judged := (h.step (.miss t idle empty)).step (.judge t (Function.update_self ..))
  rw [tell_looking] at judged
  rw [PluginSource.phase_eq_reads, empty]
  exact judged

def InOrder (sightings : List Sighting) : Prop :=
  sightings.Pairwise fun a b => a.phase.rank ≤ b.phase.rank

/-- Two answers in the order of the scan are in the order of their phases, unless
the later one looked at the mark after it was taken away. -/
theorem rank_le_of_stage_le {a b : Sighting} (h : a.stage ≤ b.stage) :
    a.phase.rank ≤ b.phase.rank ∨
      a.phase = .scanning ∧ b.phase = .unscanned ∧ b.late = true := by
  obtain ⟨first, _⟩ := a
  obtain ⟨second, late⟩ := b
  cases first <;> cases second <;> cases late <;>
    simp_all [Sighting.stage, ScanPhase.rank]

theorem inOrder_of_stage {sightings : List Sighting}
    (ordered : sightings.Pairwise fun a b => a.stage ≤ b.stage)
    (early : ∀ a ∈ sightings, a.phase = .unscanned → a.late = false) : InOrder sightings := by
  refine List.Pairwise.imp_of_mem (fun {a b} _ told le => ?_) ordered
  refine (rank_le_of_stage_le le).resolve_right ?_
  rintro ⟨-, unscanned, late⟩
  rw [early b told unscanned] at late
  cases late

/-- In any number of queries and calls for the phase, taken step by step in any
order, what one observer is told goes backwards only from scanning to unscanned,
and only in a call that looked at the mark when the scan was over. So it never
goes backwards before the end of the scan, nor in calls that did not meet it. -/
theorem told_in_order {s : SharedSource κ ι c} (h : Reachable s) (t : ι) :
    ((s.told t).Pairwise fun a b => a.phase.rank ≤ b.phase.rank ∨
      a.phase = .scanning ∧ b.phase = .unscanned ∧ b.late = true) ∧
    ((∀ a ∈ s.told t, a.late = false) → InOrder (s.told t)) ∧
    (s.stage ≤ 1 → InOrder (s.told t)) := by
  have ordered := h.consistent.ordered t
  refine ⟨ordered.imp rank_le_of_stage_le, fun early => ?_, fun going => ?_⟩
  · exact inOrder_of_stage ordered fun a told _ => early a told
  · refine inOrder_of_stage ordered fun a told unscanned => ?_
    have passed := h.consistent.passed t a told
    cases late : a.late with
    | false => rfl
    | true =>
        simp only [Sighting.stage, unscanned, late, if_true] at passed
        omega

def pair (source : PluginSource .manager) (scanner : Option Progress) (told : List Sighting) :
    SharedSource Unit Unit .manager where
  source
  scanner := scanner.map ((), ·)
  told _ := told

def nothing : Catalogue :=
  (PluginSource.scan (c := .manager) { isScanning := true } {}).value

theorem reachable_found :
    Reachable (pair { isScanning := true } (some (.found nothing))
      [⟨.unscanned, false⟩, ⟨.scanning, false⟩]) := by
  have fresh : Reachable (pair {} none []) := .start {} rfl
  have before : Reachable (pair {} none [⟨.unscanned, false⟩]) := fresh.call () rfl rfl
  have entered : Reachable (pair {} (some .admitted) [⟨.unscanned, false⟩]) :=
    before.step (.enter () rfl rfl)
  have marked : Reachable (pair { isScanning := true } (some .marked) [⟨.unscanned, false⟩]) :=
    entered.step (.mark rfl)
  have during : Reachable (pair { isScanning := true } (some .marked)
      [⟨.unscanned, false⟩, ⟨.scanning, false⟩]) := marked.call () rfl rfl
  exact during.step (.scan {} rfl)

theorem told_in_order_of_three :
    ∃ during s : SharedSource Unit Unit .manager,
      (Reachable during ∧ during.stage ≤ 1 ∧ InOrder (during.told ())) ∧
      Reachable s ∧ (s.told ()).map Sighting.phase = [.unscanned, .scanning, .scanned] ∧
      (∀ a ∈ s.told (), a.late = false) ∧ InOrder (s.told ()) := by
  have going : stage (pair { isScanning := true } (some (.found nothing))
      [⟨.unscanned, false⟩, ⟨.scanning, false⟩]) ≤ 1 := Nat.le_refl 1
  have ended : Reachable (pair {} (some (.unmarked nothing))
      [⟨.unscanned, false⟩, ⟨.scanning, false⟩]) := reachable_found.step (.unmark rfl)
  have published : Reachable (pair { catalogue := some nothing } none
      [⟨.unscanned, false⟩, ⟨.scanning, false⟩]) := ended.step (.publish rfl)
  have after : Reachable (pair { catalogue := some nothing } none
      [⟨.unscanned, false⟩, ⟨.scanning, false⟩, ⟨.scanned, false⟩]) :=
    published.step (.find () rfl rfl)
  have early : ∀ a ∈ [⟨.unscanned, false⟩, ⟨.scanning, false⟩, (⟨.scanned, false⟩ : Sighting)],
      a.late = false := by decide
  exact ⟨_, _, ⟨reachable_found, going, (told_in_order reachable_found ()).2.2 going⟩,
    after, rfl, early, (told_in_order after ()).2.1 early⟩

/-- The observer looks again when the mark is taken away and the catalogue not yet
published, and once more after that. -/
theorem unscanned_after_scanning :
    ∃ s : SharedSource Unit Unit .manager, Reachable s ∧
      (s.told ()).map Sighting.phase = [.unscanned, .scanning, .unscanned, .scanned] ∧
      ¬ InOrder (s.told ()) := by
  have ended : Reachable (pair {} (some (.unmarked nothing))
      [⟨.unscanned, false⟩, ⟨.scanning, false⟩]) := reachable_found.step (.unmark rfl)
  have between : Reachable (pair {} (some (.unmarked nothing))
      [⟨.unscanned, false⟩, ⟨.scanning, false⟩, ⟨.unscanned, true⟩]) := ended.call () rfl rfl
  have published : Reachable (pair { catalogue := some nothing } none
      [⟨.unscanned, false⟩, ⟨.scanning, false⟩, ⟨.unscanned, true⟩]) := between.step (.publish rfl)
  have after : Reachable (pair { catalogue := some nothing } none
      [⟨.unscanned, false⟩, ⟨.scanning, false⟩, ⟨.unscanned, true⟩, ⟨.scanned, false⟩]) :=
    published.step (.find () rfl rfl)
  refine ⟨_, after, rfl, fun ordered => ?_⟩
  have later := (List.pairwise_cons.1 ordered).2
  have backwards := (List.pairwise_cons.1 later).1 ⟨.unscanned, true⟩ (.head _)
  exact absurd backwards (by decide)

end SharedSource

end AssetLink
