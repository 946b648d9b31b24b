import AssetLink.Proofs.Discovery.Nesting
import AssetLink.Proofs.Discovery.Rescanning

/-!
A combination as the ordered union of its children. It lists what any of them
lists. To make something it asks the children in turn what they list, and the first
that lists the identifier makes it; what that child answers is the answer, and no
other child is asked to make anything.
-/

namespace AssetLink

variable {σ ι α β : Type}

theorem exists_first_or_forall_not {p : α → Prop} (xs : List α) :
    (∃ before x after, xs = before ++ x :: after ∧ (∀ y ∈ before, ¬ p y) ∧ p x) ∨
      ∀ x ∈ xs, ¬ p x := by
  induction xs with
  | nil => exact .inr (List.forall_mem_nil _)
  | cons x rest ih =>
      by_cases here : p x
      · exact .inl ⟨[], x, rest, rfl, List.forall_mem_nil _, here⟩
      · rcases ih with ⟨before, y, after, rfl, earlier, there⟩ | absent
        · exact .inl ⟨x :: before, y, after, rfl, List.forall_mem_cons.2 ⟨here, earlier⟩, there⟩
        · exact .inr (List.forall_mem_cons.2 ⟨here, absent⟩)

namespace Offer

theorem mem_combined_iff {offers : List (Offer ι)} {identifier : String} :
    identifier ∈ (combined offers).listed ↔ ∃ offer ∈ offers, identifier ∈ offer.listed := by
  simpa only [lists, List.contains_iff_mem] using lists_combined_iff

theorem make_combined_of_first {before after : List (Offer ι)} {offer : Offer ι}
    {identifier : String} (earlier : ∀ other ∈ before, identifier ∉ other.listed)
    (listed : identifier ∈ offer.listed) :
    (combined (before ++ offer :: after)).make identifier = offer.make identifier := by
  have notBefore : ¬ (combined before).lists identifier = true := by
    rw [lists, List.contains_iff_mem, mem_combined_iff]
    rintro ⟨other, member, there⟩
    exact earlier other member there
  have here : offer.lists identifier = true := List.contains_iff_mem.2 listed
  rw [make_combined_append, if_neg notBefore, make_combined_cons, if_pos here]

theorem make_combined_of_not_listed {offers : List (Offer ι)} {identifier : String}
    (absent : ∀ offer ∈ offers, identifier ∉ offer.listed) :
    (combined offers).make identifier = .error (Provider.unlisted identifier) := by
  have found : offers.find? (·.lists identifier) = none :=
    List.find?_eq_none.2 fun offer member => by simpa [lists] using absent offer member
  simp only [combined, found]

end Offer

/-- In every state of a kind that it keeps to, a step gives the same value and puts
the same queries, each noted with the place of the child that it goes to. -/
def Act.Asks (steady : σ → Prop) (act : Act (σ × List (Nat × Query)) α) (a : α)
    (queries : List (Nat × Query)) : Prop :=
  ∀ s asked, steady s →
    (act.run (s, asked)).value.1 = a ∧
    steady (act.run (s, asked)).value.2.1 ∧
    (act.run (s, asked)).value.2.2 = asked ++ queries

namespace Act

variable {steady : σ → Prop}

theorem asks_pure (a : α) : Asks steady (pure a) a [] :=
  fun _ asked h => ⟨rfl, h, (List.append_nil asked).symm⟩

theorem Asks.bind {x : Act (σ × List (Nat × Query)) α} {f : α → Act (σ × List (Nat × Query)) β}
    {a : α} {b : β} {queries more : List (Nat × Query)} (first : Asks steady x a queries)
    (next : Asks steady (f a) b more) : Asks steady (x >>= f) b (queries ++ more) := by
  intro s asked h
  obtain ⟨given, kept, noted⟩ := first s asked h
  obtain ⟨givenNext, keptNext, notedNext⟩ := next _ (asked ++ queries) kept
  rw [StateT.run_bind, Logged.value_bind, given]
  rw [← noted] at givenNext keptNext notedNext
  refine ⟨givenNext, keptNext, notedNext.trans ?_⟩
  rw [noted, List.append_assoc]

theorem Asks.bind_pure {x : Act (σ × List (Nat × Query)) α} {a : α} {queries : List (Nat × Query)}
    (asks : Asks steady x a queries) (f : α → β) :
    Asks steady (do return f (← x)) (f a) queries := by
  have done := asks.bind (f := fun a => pure (f a)) (asks_pure (f a))
  rwa [List.append_nil] at done

end Act

namespace Provider

def recordedAt (place : Nat) (provider : Provider σ ι) : Provider (σ × List (Nat × Query)) ι :=
  provider.recorded.within (fun t => (t.1, []))
    fun left t => (left.1, t.2 ++ left.2.map fun query => (place, query))

def recordedFrom (start : Nat) (children : List (Provider σ ι)) :
    List (Provider (σ × List (Nat × Query)) ι) :=
  (children.zipIdx start).map fun child => child.1.recordedAt child.2

def listingQueries (start count : Nat) : List (Nat × Query) :=
  (List.range' start count).map fun place => (place, .identifiers)

variable {w : World} {steady : σ → Prop}

theorem asks_identifiers_recordedAt {provider : Provider σ ι} {offer : Offer ι}
    (answers : provider.Answers w steady offer) (place : Nat) :
    Act.Asks steady ((provider.recordedAt place).identifiers w) offer.listed
      [(place, .identifiers)] := fun s _ h =>
  ⟨(answers.identifiers s h).1, (answers.identifiers s h).2, rfl⟩

theorem asks_instantiate_recordedAt {provider : Provider σ ι} {offer : Offer ι}
    (answers : provider.Answers w steady offer) (place : Nat) (identifier : String) :
    Act.Asks steady ((provider.recordedAt place).instantiate w identifier).run
      (offer.make identifier) [(place, .instantiate identifier)] := fun s _ h =>
  ⟨(answers.instantiate identifier s h).1, (answers.instantiate identifier s h).2, rfl⟩

theorem asks_mapM_identifiers {children : List (Provider σ ι)} {offers : List (Offer ι)}
    (each : List.Forall₂ (Answers w steady) children offers) (start : Nat) :
    Act.Asks steady ((recordedFrom start children).mapM (·.identifiers w))
      (offers.map (·.listed)) (listingQueries start children.length) := by
  induction each generalizing start with
  | nil => exact Act.asks_pure []
  | @cons child offer children offers first _ ih =>
      rw [recordedFrom, List.zipIdx_cons, List.map_cons, List.mapM_cons]
      exact (asks_identifiers_recordedAt first start).bind
        ((ih (start + 1)).bind_pure (offer.listed :: ·))

theorem asks_firstListing_of_not_listed {children : List (Provider σ ι)} {offers : List (Offer ι)}
    (each : List.Forall₂ (Answers w steady) children offers) {identifier : String}
    (unlisted : ∀ offer ∈ offers, identifier ∉ offer.listed) (start : Nat)
    {rest : List (Provider (σ × List (Nat × Query)) ι)}
    {found : Option (Provider (σ × List (Nat × Query)) ι)} {queries : List (Nat × Query)}
    (next : Act.Asks steady (firstListing w identifier rest) found queries) :
    Act.Asks steady (firstListing w identifier (recordedFrom start children ++ rest)) found
      (listingQueries start children.length ++ queries) := by
  induction each generalizing start with
  | nil => exact next
  | @cons child offer children offers first _ ih =>
      rw [List.forall_mem_cons] at unlisted
      have other : offer.listed.contains identifier = false := by simpa using unlisted.1
      have later := ih unlisted.2 (start + 1)
      refine (asks_identifiers_recordedAt first start).bind ?_
      rw [other]
      exact later

theorem asks_firstListing_of_listed {child : Provider σ ι} {offer : Offer ι}
    (answers : child.Answers w steady offer) {identifier : String}
    (listed : identifier ∈ offer.listed) (place : Nat)
    (rest : List (Provider (σ × List (Nat × Query)) ι)) :
    Act.Asks steady (firstListing w identifier (child.recordedAt place :: rest))
      (some (child.recordedAt place)) [(place, .identifiers)] := by
  have here : offer.listed.contains identifier = true := by simpa using listed
  have next : Act.Asks steady (if offer.listed.contains identifier then
      pure (some (child.recordedAt place)) else firstListing w identifier rest)
      (some (child.recordedAt place)) [] := by
    rw [here]
    exact Act.asks_pure _
  exact (asks_identifiers_recordedAt answers place).bind next

theorem asks_combined_of_first {before after : List (Provider σ ι)} {child : Provider σ ι}
    {offers : List (Offer ι)} {offer : Offer ι}
    (each : List.Forall₂ (Answers w steady) before offers) (answers : child.Answers w steady offer)
    {identifier : String} (earlier : ∀ other ∈ offers, identifier ∉ other.listed)
    (listed : identifier ∈ offer.listed) :
    Act.Asks steady
      ((combined (recordedFrom 0 (before ++ child :: after))).instantiate w identifier).run
      (offer.make identifier)
      (listingQueries 0 (before.length + 1) ++ [(before.length, .instantiate identifier)]) := by
  have children : recordedFrom 0 (before ++ child :: after) =
      recordedFrom 0 before ++
        child.recordedAt before.length :: recordedFrom (before.length + 1) after := by
    simp [recordedFrom, List.zipIdx_append]
  have queries : listingQueries 0 (before.length + 1) =
      listingQueries 0 before.length ++ [(before.length, .identifiers)] := by
    simp [listingQueries, List.range'_concat]
  change Act.Asks steady (ExceptT.run (ExceptT.lift (firstListing w identifier _) >>= _)) _ _
  rw [ExceptT.run_bind_lift, children, queries]
  refine Act.Asks.bind (asks_firstListing_of_not_listed each earlier 0
    (asks_firstListing_of_listed answers listed before.length _)) ?_
  exact asks_instantiate_recordedAt answers before.length identifier

theorem asks_combined_of_not_listed {children : List (Provider σ ι)} {offers : List (Offer ι)}
    (each : List.Forall₂ (Answers w steady) children offers) {identifier : String}
    (absent : ∀ offer ∈ offers, identifier ∉ offer.listed) :
    Act.Asks steady ((combined (recordedFrom 0 children)).instantiate w identifier).run
      (.error (unlisted identifier)) (listingQueries 0 children.length) := by
  have last : Act.Asks steady
      (firstListing w identifier ([] : List (Provider (σ × List (Nat × Query)) ι))) none [] :=
    Act.asks_pure none
  have nobody := asks_firstListing_of_not_listed each absent 0 last
  rw [List.append_nil, List.append_nil] at nobody
  change Act.Asks steady (ExceptT.run (ExceptT.lift (firstListing w identifier _) >>= _)) _ _
  rw [ExceptT.run_bind_lift, ← List.append_nil (listingQueries 0 children.length)]
  refine nobody.bind ?_
  exact Act.asks_pure _

theorem exists_child_of_append {children : List (Provider σ ι)} {before after : List (Offer ι)}
    {offer : Offer ι} (each : List.Forall₂ (Answers w steady) children (before ++ offer :: after)) :
    ∃ earlier child later, children = earlier ++ child :: later ∧
      List.Forall₂ (Answers w steady) earlier before ∧ child.Answers w steady offer := by
  have first := List.forall₂_take_append children before (offer :: after) each
  have rest := List.forall₂_drop_append children before (offer :: after) each
  obtain ⟨child, later, answers, -, here⟩ := List.forall₂_cons_right_iff.1 rest
  exact ⟨_, child, later, by rw [← here, List.take_append_drop], first, answers⟩

/-- A combination of children whose answers do not change lists, in order and once,
what any of them lists. What it makes is what the first child makes that lists it,
also if that is an error, and no other child is asked to make it; where no child
lists it, none is asked. -/
theorem combination_is_ordered_union {children : List (Provider σ ι)} (nonempty : children ≠ [])
    {offers : List (Offer ι)} (each : List.Forall₂ (Answers w steady) children offers) :
    ∃ (listed : List String) (make : String → Except AssetError ι) (whole : Provider σ ι)
      (recorded : Provider (σ × List (Nat × Query)) ι),
      combine children = .ok whole ∧
      whole.Answers w steady ⟨listed, make⟩ ∧
      listed.Pairwise (· < ·) ∧
      (∀ identifier, identifier ∈ listed ↔ ∃ offer ∈ offers, identifier ∈ offer.listed) ∧
      combine (recordedFrom 0 children) = .ok recorded ∧
      Act.Asks steady (recorded.identifiers w) listed (listingQueries 0 children.length) ∧
      ∀ identifier,
        (∃ place offer, offers[place]? = some offer ∧ identifier ∈ offer.listed ∧
          (∀ other ∈ offers.take place, identifier ∉ other.listed) ∧
          make identifier = offer.make identifier ∧
          Act.Asks steady (recorded.instantiate w identifier).run (make identifier)
            (listingQueries 0 (place + 1) ++ [(place, .instantiate identifier)])) ∨
        ((∀ offer ∈ offers, identifier ∉ offer.listed) ∧
          make identifier = .error (.inputValidation
            s!"HybridPluginSystem: No plug-in registered with the identifier '{identifier}'") ∧
          Act.Asks steady (recorded.instantiate w identifier).run (make identifier)
            (listingQueries 0 children.length)) := by
  have kept : recordedFrom 0 children ≠ [] := by simpa [recordedFrom] using nonempty
  refine ⟨(Offer.combined offers).listed, (Offer.combined offers).make, _, _,
    combine_eq_ok nonempty, answers_combined each, sortedUnion_sorted _,
    fun _ => Offer.mem_combined_iff, combine_eq_ok kept,
    (asks_mapM_identifiers each 0).bind_pure sortedUnion, fun identifier => ?_⟩
  rcases exists_first_or_forall_not (p := fun offer => identifier ∈ offer.listed) offers with
    ⟨before, offer, after, rfl, earlier, listed⟩ | absent
  · obtain ⟨ahead, child, later, rfl, eachAhead, answers⟩ := exists_child_of_append each
    have make : (Offer.combined (before ++ offer :: after)).make identifier =
        offer.make identifier := Offer.make_combined_of_first earlier listed
    refine .inl ⟨before.length, offer, by simp, listed, by simpa using earlier, make, ?_⟩
    rw [make, ← eachAhead.length_eq]
    exact asks_combined_of_first eachAhead answers earlier listed
  · have make := Offer.make_combined_of_not_listed absent
    refine .inr ⟨absent, make, ?_⟩
    rw [make]
    exact asks_combined_of_not_listed each absent

def bothDirectories : Shelf .manager :=
  [.made .manager ["/a"] pluginPathVariable [.describing "stub" "plugin" false],
    .made .manager ["/b"] pluginPathVariable [.describing "stub" "plugin" false]]

def catalogueAt (place : Nat) : Catalogue :=
  ((bothDirectories.getD place {}).survey Registry.twoDirectories).value

theorem not_listed_first : "p" ∉ (catalogueAt 0).identifiers := by
  have leads : Registry.twoDirectories.position? "/a" = some ["a"] := by decide +kernel
  have leadsThere : Registry.twoDirectories.position? "/a/x.plugin" = some ["a", "x.plugin"] := by
    decide +kernel
  have entries : Registry.twoDirectories.entries ["/a"] = ["/a/x.plugin"] := by
    rw [World.entries, List.flatMap_singleton, World.entryNames_of_find? leads rfl,
      World.sortedNames, List.map_singleton, List.mergeSort_singleton]
    decide +kernel
  have panel : Registry.Yields [.describing "stub" "plugin" false] Registry.twoDirectories
      (some .scanning) "/a/x.plugin" _ :=
    Registry.yields_describing "ui" "p" (by decide +kernel) leadsThere rfl (by decide +kernel)
      (by decide +kernel) rfl rfl
  have paths : (bothDirectories.getD 0 {}).searchPaths Registry.twoDirectories = ["/a"] := by
    decide +kernel
  refine Catalogue.not_mem_identifiers (PluginSource.faithful_survey _ _)
    (PluginSource.get?_survey_iff.2 ⟨[], "/a/x.plugin", [], ?_, panel, rfl, by simp⟩) rfl
  rw [paths, entries]
  rfl

theorem listed_second : "p" ∈ (catalogueAt 1).identifiers := by
  obtain ⟨loaded, registered, -, supports⟩ := Registry.survey_secondDirectory
  exact (Catalogue.mem_identifiers_iff (PluginSource.faithful_survey _ _)).2
    ⟨loaded, registered, supports⟩

/-- A table that repeats an identifier, and the two sources: the panel does not hide
the manager, and what fails is not tried elsewhere. -/
theorem combination_is_ordered_union_panel :
    let steady := OnShelf bothDirectories Registry.twoDirectories
    let first := table [Nesting.failingAt "z" "broken", Nesting.failingAt "a" "first",
      Nesting.failingAt "z" "hidden"]
    let children := [first, shelved .manager 0, shelved .manager 1]
    ∃ offers, List.Forall₂ (Answers Registry.twoDirectories steady) children offers ∧
      ∃ recorded, combine (recordedFrom 0 children) = .ok recorded ∧
        Act.Asks steady (recorded.instantiate Registry.twoDirectories "p").run
          ((catalogueAt 1).instantiate .manager "p")
          [(0, .identifiers), (1, .identifiers), (2, .identifiers), (2, .instantiate "p")] ∧
        Act.Asks steady (recorded.instantiate Registry.twoDirectories "z").run
          (.error (.configuration "broken")) [(0, .identifiers), (0, .instantiate "z")] := by
  intro steady first children
  have each : List.Forall₂ (Answers Registry.twoDirectories steady) children _ :=
    .cons (answers_table _) (.cons (answers_shelved _ _ 0) (.cons (answers_shelved _ _ 1) .nil))
  obtain ⟨listed, make, whole, recorded, -, -, -, -, kept, -, makes⟩ :=
    combination_is_ordered_union (List.cons_ne_nil _ _) each
  refine ⟨_, each, recorded, kept, ?_, ?_⟩
  · rcases makes "p" with ⟨place, offer, here, lists, -, made, asks⟩ | ⟨absent, -, -⟩
    · match place with
      | 0 => cases here; exact absurd lists (by decide)
      | 1 => cases here; exact absurd lists not_listed_first
      | 2 =>
          cases here
          rw [made] at asks
          exact asks
    · exact absurd listed_second
        (absent _ (List.mem_cons_of_mem _ (List.mem_cons_of_mem _ List.mem_cons_self)))
  · rcases makes "z" with ⟨place, offer, here, -, earlier, made, asks⟩ | ⟨absent, -, -⟩
    · match place with
      | 0 =>
          cases here
          rw [made] at asks
          exact asks
      | place + 1 => exact absurd (List.mem_cons_self) (earlier _ List.mem_cons_self)
    · exact absurd (List.mem_cons_self) (absent _ List.mem_cons_self)

end Provider

end AssetLink
