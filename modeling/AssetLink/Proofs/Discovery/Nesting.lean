import AssetLink.Proofs.Change
import AssetLink.Proofs.Discovery.Offers

/-!
Combinations of combinations. A tree of them answers as one combination of its
leaves in their order: sorted unions put together give the sorted union, and the
first child that lists an identifier is the one with the first such leaf in it.
-/

namespace AssetLink

variable {σ ι α β : Type}

/-- In every state of a kind that it keeps to, a step gives the same value. -/
def Act.Gives (steady : σ → Prop) (act : Act σ α) (a : α) : Prop :=
  ∀ s, steady s → (act.run s).value.1 = a ∧ steady (act.run s).value.2

namespace Act

variable {steady : σ → Prop}

theorem gives_pure (a : α) : Gives steady (pure a) a := fun _ h => ⟨rfl, h⟩

theorem Gives.bind {x : Act σ α} {f : α → Act σ β} {a : α} {b : β} (first : Gives steady x a)
    (next : Gives steady (f a) b) : Gives steady (x >>= f) b := by
  intro s h
  obtain ⟨given, kept⟩ := first s h
  rw [StateT.run_bind, Logged.value_bind, given]
  exact next _ kept

theorem gives_mapM {γ : Type} {f : γ → Act σ α} {xs : List γ} {as : List α}
    (each : List.Forall₂ (fun x a => Gives steady (f x) a) xs as) :
    Gives steady (xs.mapM f) as := by
  induction each with
  | nil => exact gives_pure []
  | @cons x a xs as first _ ih =>
      rw [List.mapM_cons]
      exact first.bind (ih.bind (gives_pure (a :: as)))

end Act

/-- What a provider has to offer: the identifiers that it lists, and what comes of
making any. -/
@[ext]
structure Offer (ι : Type) where
  listed : List String
  make : String → Except AssetError ι

/-- The provider answers as it offers, whenever it is asked. -/
structure Provider.Answers (w : World) (steady : σ → Prop) (provider : Provider σ ι)
    (offer : Offer ι) : Prop where
  identifiers : Act.Gives steady (provider.identifiers w) offer.listed
  instantiate : ∀ identifier,
    Act.Gives steady (provider.instantiate w identifier).run (offer.make identifier)

namespace Provider

theorem mem_sortedUnion_iff {lists : List (List String)} {identifier : String} :
    identifier ∈ sortedUnion lists ↔ ∃ list ∈ lists, identifier ∈ list := by
  rw [sortedUnion, Dictionary.mem_keys_ofList_iff, List.map_map, Function.comp_def, List.map_id',
    List.mem_flatten]

theorem sortedUnion_sorted (lists : List (List String)) :
    (sortedUnion lists).Pairwise (· < ·) :=
  Dictionary.keys_sorted _

theorem sortedUnion_ext {lists others : List (List String)}
    (same : ∀ identifier, identifier ∈ sortedUnion lists ↔ identifier ∈ sortedUnion others) :
    sortedUnion lists = sortedUnion others :=
  eq_of_sorted_of_mem_iff (sortedUnion_sorted lists) (sortedUnion_sorted others) same

def unlisted (identifier : String) : AssetError :=
  .inputValidation s!"HybridPluginSystem: No plug-in registered with the identifier '{identifier}'"

end Provider

namespace Offer

def lists (offer : Offer ι) (identifier : String) : Bool :=
  offer.listed.contains identifier

def combined (offers : List (Offer ι)) : Offer ι where
  listed := Provider.sortedUnion (offers.map (·.listed))
  make identifier :=
    match offers.find? (·.lists identifier) with
    | some offer => offer.make identifier
    | none => .error (Provider.unlisted identifier)

theorem lists_combined_iff {offers : List (Offer ι)} {identifier : String} :
    (combined offers).lists identifier = true ↔
      ∃ offer ∈ offers, offer.lists identifier = true := by
  simp only [lists, combined, List.contains_iff_mem, Provider.mem_sortedUnion_iff, List.mem_map,
    exists_exists_and_eq_and]

theorem lists_combined_cons_iff {offer : Offer ι} {offers : List (Offer ι)} {identifier : String} :
    (combined (offer :: offers)).lists identifier = true ↔
      offer.lists identifier = true ∨ (combined offers).lists identifier = true := by
  rw [lists_combined_iff, lists_combined_iff, List.exists_mem_cons_iff]

theorem lists_combined_append_iff {offers others : List (Offer ι)} {identifier : String} :
    (combined (offers ++ others)).lists identifier = true ↔
      (combined offers).lists identifier = true ∨ (combined others).lists identifier = true := by
  simp only [lists_combined_iff, List.mem_append, or_and_right, exists_or]

theorem make_combined_cons (offer : Offer ι) (offers : List (Offer ι)) (identifier : String) :
    (combined (offer :: offers)).make identifier =
      if offer.lists identifier then offer.make identifier
      else (combined offers).make identifier := by
  by_cases listed : offer.lists identifier = true
  · simp [combined, List.find?_cons, listed]
  · simp [combined, List.find?_cons, listed]

theorem make_combined_append (offers others : List (Offer ι)) (identifier : String) :
    (combined (offers ++ others)).make identifier =
      if (combined offers).lists identifier then (combined offers).make identifier
      else (combined others).make identifier := by
  induction offers with
  | nil => rfl
  | cons offer rest ih =>
      rw [List.cons_append, make_combined_cons, make_combined_cons, ih]
      by_cases listed : offer.lists identifier = true
      · rw [if_pos listed, if_pos listed, if_pos (lists_combined_cons_iff.2 (.inl listed))]
      · simp only [if_neg listed, lists_combined_cons_iff, or_iff_right listed]

/-- An offer that lists what some others list and makes it as the first of them. What
it makes of anything else is left open. -/
structure StandsFor (offer : Offer ι) (leaves : List (Offer ι)) : Prop where
  lists_iff : ∀ identifier,
    offer.lists identifier = true ↔ (combined leaves).lists identifier = true
  make : ∀ identifier, offer.lists identifier = true →
    offer.make identifier = (combined leaves).make identifier

theorem standsFor_singleton (offer : Offer ι) : offer.StandsFor [offer] where
  lists_iff identifier := by simp only [lists_combined_iff, List.mem_singleton, exists_eq_left]
  make identifier listed := by rw [make_combined_cons, if_pos listed]

theorem lists_combined_flatten_iff {offers : List (Offer ι)} {leaves : List (List (Offer ι))}
    (each : List.Forall₂ StandsFor offers leaves) (identifier : String) :
    (combined offers).lists identifier = true ↔
      (combined leaves.flatten).lists identifier = true := by
  induction each with
  | nil => rfl
  | cons first _ ih =>
      rw [lists_combined_cons_iff, List.flatten_cons, lists_combined_append_iff, ih,
        first.lists_iff]

theorem make_combined_flatten {offers : List (Offer ι)} {leaves : List (List (Offer ι))}
    (each : List.Forall₂ StandsFor offers leaves) (identifier : String) :
    (combined offers).make identifier = (combined leaves.flatten).make identifier := by
  induction each with
  | nil => rfl
  | @cons offer group _ _ first _ ih =>
      rw [make_combined_cons, List.flatten_cons, make_combined_append]
      by_cases here : offer.lists identifier = true
      · rw [if_pos here, if_pos ((first.lists_iff identifier).1 here), first.make identifier here]
      · rw [if_neg here, if_neg (mt (first.lists_iff identifier).2 here), ih]

theorem combined_eq {offers : List (Offer ι)} {leaves : List (List (Offer ι))}
    (each : List.Forall₂ StandsFor offers leaves) : combined offers = combined leaves.flatten := by
  ext1
  · refine Provider.sortedUnion_ext fun identifier => ?_
    have same := lists_combined_flatten_iff each identifier
    rwa [lists, lists, List.contains_iff_mem, List.contains_iff_mem] at same
  · exact funext (make_combined_flatten each)

end Offer

namespace Provider

variable {w : World} {steady : σ → Prop}

theorem firstListing_cons_gives {provider : Provider σ ι} {offer : Offer ι}
    (answers : provider.Answers w steady offer) {identifier : String}
    {rest : List (Provider σ ι)} {found : Option (Provider σ ι)}
    (next : Act.Gives steady (if offer.lists identifier then pure (some provider)
      else firstListing w identifier rest) found) :
    Act.Gives steady (firstListing w identifier (provider :: rest)) found :=
  answers.identifiers.bind next

theorem firstListing_gives {providers : List (Provider σ ι)} {offers : List (Offer ι)}
    (each : List.Forall₂ (Answers w steady) providers offers) (identifier : String) :
    (offers.find? (·.lists identifier) = none ∧
      Act.Gives steady (firstListing w identifier providers) none) ∨
    ∃ provider offer, offers.find? (·.lists identifier) = some offer ∧
      provider.Answers w steady offer ∧
      Act.Gives steady (firstListing w identifier providers) (some provider) := by
  induction each with
  | nil => exact .inl ⟨rfl, Act.gives_pure none⟩
  | @cons provider offer providers offers first _ ih =>
      rw [List.find?_cons]
      cases listed : offer.lists identifier with
      | true =>
          refine .inr ⟨provider, offer, rfl, first, firstListing_cons_gives first ?_⟩
          rw [if_pos listed]
          exact Act.gives_pure _
      | false =>
          rcases ih with ⟨none, gives⟩ | ⟨other, chosen, found, answers, gives⟩
          · refine .inl ⟨none, firstListing_cons_gives first ?_⟩
            rwa [if_neg (Bool.eq_false_iff.1 listed)]
          · refine .inr ⟨other, chosen, found, answers, firstListing_cons_gives first ?_⟩
            rwa [if_neg (Bool.eq_false_iff.1 listed)]

theorem answers_combined {providers : List (Provider σ ι)} {offers : List (Offer ι)}
    (each : List.Forall₂ (Answers w steady) providers offers) :
    (combined providers).Answers w steady (.combined offers) where
  identifiers := by
    have lists : List.Forall₂ (fun provider listed =>
        Act.Gives steady (provider.identifiers w) listed) providers (offers.map (·.listed)) := by
      rw [List.forall₂_map_right_iff]
      exact each.imp fun _ _ answers => answers.identifiers
    exact (Act.gives_mapM lists).bind (Act.gives_pure _)
  instantiate identifier := by
    change Act.Gives steady
      (ExceptT.run (ExceptT.lift (firstListing w identifier providers) >>= _)) _
    rw [ExceptT.run_bind_lift]
    rcases firstListing_gives each identifier with
      ⟨none, gives⟩ | ⟨provider, offer, found, answers, gives⟩
    · simp only [Offer.combined, none]
      exact gives.bind (Act.gives_pure _)
    · simp only [Offer.combined, found]
      exact gives.bind (answers.instantiate identifier)

theorem answers_table (entries : List (String × Except AssetError ι)) :
    (table entries).Answers w steady ⟨entries.map (·.1), fun identifier =>
      (entries.lookup identifier).getD (.error (.inputValidation s!"unknown '{identifier}'"))⟩ where
  identifiers := Act.gives_pure _
  instantiate _ := Act.gives_pure _

theorem answers_within {τ : Type} {provider : Provider σ ι} {offer : Offer ι}
    (answers : provider.Answers w steady offer) {read : τ → σ} {write : σ → τ → τ}
    {around : τ → Prop} (reads : ∀ t, around t → steady (read t))
    (writes : ∀ s t, steady s → around t → around (write s t)) :
    (provider.within read write).Answers w around offer where
  identifiers t h :=
    have inner := answers.identifiers (read t) (reads t h)
    ⟨inner.1, writes _ t inner.2 h⟩
  instantiate identifier t h :=
    have inner := answers.instantiate identifier (read t) (reads t h)
    ⟨inner.1, writes _ t inner.2 h⟩

theorem answers_plugins {c : Capability} (s : PluginSource c) (w : World) :
    (plugins c).Answers w (fun now => now = s.known none ∨ now = s.known (some w))
      ⟨(s.survey w).value.identifiers, (s.survey w).value.instantiate c⟩ := by
  have obtained : Act.Gives (fun now => now = s.known none ∨ now = s.known (some w))
      (PluginSource.obtain w) (s.survey w).value := by
    rintro now (rfl | rfl)
    · exact ⟨congrArg (·.value.1) (PluginSource.obtain_known_none s w),
        .inr (congrArg (·.value.2) (PluginSource.obtain_known_none s w))⟩
    · exact ⟨congrArg (·.value.1) (PluginSource.obtain_known_some s w w),
        .inr (congrArg (·.value.2) (PluginSource.obtain_known_some s w w))⟩
  constructor
  · exact obtained.bind (Act.gives_pure _)
  · intro identifier
    change Act.Gives _ (ExceptT.run (ExceptT.lift (PluginSource.obtain w) >>= _)) _
    rw [ExceptT.run_bind_lift]
    exact obtained.bind (Act.gives_pure _)

/-- The sources on a shelf, some of which have scanned this world. -/
def OnShelf {c : Capability} (sources : Shelf c) (w : World) (shelf : Shelf c) : Prop :=
  ∀ place, shelf.getD place {} = (sources.getD place {}).known none ∨
    shelf.getD place {} = (sources.getD place {}).known (some w)

theorem answers_shelved {c : Capability} (sources : Shelf c) (w : World) (place : Nat) :
    (shelved c place).Answers w (OnShelf sources w)
      ⟨((sources.getD place {}).survey w).value.identifiers,
        ((sources.getD place {}).survey w).value.instantiate c⟩ := by
  refine answers_within (answers_plugins (sources.getD place {}) w) (fun _ h => h place) ?_
  intro source shelf asked there other
  by_cases same : other = place
  · subst same
    by_cases within : other < shelf.length
    · rwa [List.getD_eq_getElem?_getD, List.getElem?_set_self within]
    · rw [List.set_eq_of_length_le (Nat.le_of_not_lt within)]
      exact there other
  · rw [List.getD_eq_getElem?_getD, List.getElem?_set_ne (Ne.symm same),
      ← List.getD_eq_getElem?_getD]
    exact there other

theorem combine_eq_ok {providers : List (Provider σ ι)} (some : providers ≠ []) :
    combine providers = .ok (combined providers) := by
  rw [combine, if_neg (by simpa using some)]

end Provider

/-- Combinations within each other, with providers at the leaves. Every one of them
combines at least one. -/
inductive Nesting (σ ι : Type)
  | leaf (provider : Provider σ ι)
  | node (first : Nesting σ ι) (rest : List (Nesting σ ι))

namespace Nesting

def provider : Nesting σ ι → Provider σ ι
  | leaf provider => provider
  | node first rest => .combined (first.provider :: providers rest)
where
  providers : List (Nesting σ ι) → List (Provider σ ι)
    | [] => []
    | tree :: rest => tree.provider :: providers rest

def leaves : Nesting σ ι → List (Provider σ ι)
  | leaf provider => [provider]
  | node first rest => first.leaves ++ leavesOfAll rest
where
  leavesOfAll : List (Nesting σ ι) → List (Provider σ ι)
    | [] => []
    | tree :: rest => tree.leaves ++ leavesOfAll rest

theorem provider_node (first : Nesting σ ι) (rest : List (Nesting σ ι)) :
    (node first rest).provider = .combined ((first :: rest).map provider) := by
  have all : provider.providers rest = rest.map provider := by
    induction rest with
    | nil => rfl
    | cons tree rest ih => rw [provider.providers, ih, List.map_cons]
  rw [provider, all, List.map_cons]

theorem leaves_node (first : Nesting σ ι) (rest : List (Nesting σ ι)) :
    (node first rest).leaves = (first :: rest).flatMap leaves := by
  have all : leaves.leavesOfAll rest = rest.flatMap leaves := by
    induction rest with
    | nil => rfl
    | cons tree rest ih => rw [leaves.leavesOfAll, ih, List.flatMap_cons]
  rw [leaves, all, List.flatMap_cons]

/-- By the trees of which a tree is made. -/
theorem induction {motive : Nesting σ ι → Prop} (leaf : ∀ provider, motive (.leaf provider))
    (node : ∀ first rest, (∀ child ∈ first :: rest, motive child) → motive (.node first rest))
    (tree : Nesting σ ι) : motive tree :=
  @Nesting.rec σ ι motive (fun trees => ∀ child ∈ trees, motive child) leaf
    (fun first rest ihFirst ihRest => node first rest (List.forall_mem_cons.2 ⟨ihFirst, ihRest⟩))
    (fun _ none => nomatch none)
    (fun _ _ ihFirst ihRest => List.forall_mem_cons.2 ⟨ihFirst, ihRest⟩) tree

theorem mem_leaves_node {first child : Nesting σ ι} {rest : List (Nesting σ ι)}
    (member : child ∈ first :: rest) {leaf : Provider σ ι} (among : leaf ∈ child.leaves) :
    leaf ∈ (node first rest).leaves := by
  rw [leaves_node]
  exact List.mem_flatMap_of_mem member among

theorem leaves_ne_nil (tree : Nesting σ ι) : tree.leaves ≠ [] := by
  induction tree using induction with
  | leaf provider => exact List.cons_ne_nil _ _
  | node first rest ih =>
      rw [leaves_node, List.flatMap_cons]
      exact List.append_ne_nil_of_left_ne_nil (ih first List.mem_cons_self) _

section Answers

variable {w : World} {steady : σ → Prop} {offer : Provider σ ι → Offer ι}

theorem answers_node_of_forall {first : Nesting σ ι} {rest : List (Nesting σ ι)}
    (each : ∀ child ∈ first :: rest, ∃ whole, child.provider.Answers w steady whole ∧
      whole.StandsFor (child.leaves.map offer)) :
    (node first rest).provider.Answers w steady
      (.combined ((node first rest).leaves.map offer)) := by
  obtain ⟨wholes, related⟩ := exists_forall₂_of_forall_exists each
  have answers : List.Forall₂ (Provider.Answers w steady)
      ((first :: rest).map provider) wholes :=
    List.forall₂_map_left_iff.2 (related.imp fun _ _ h => h.1)
  have standFor : List.Forall₂ Offer.StandsFor wholes
      ((first :: rest).map fun child => child.leaves.map offer) :=
    List.forall₂_map_right_iff.2 (related.flip.imp fun _ _ h => h.2)
  have flat : ((first :: rest).map fun child => child.leaves.map offer).flatten =
      (node first rest).leaves.map offer := by
    rw [leaves_node, List.map_flatMap, List.flatMap_def]
  rw [provider_node, ← flat, ← Offer.combined_eq standFor]
  exact Provider.answers_combined answers

theorem exists_standsFor (tree : Nesting σ ι)
    (answers : ∀ leaf ∈ tree.leaves, leaf.Answers w steady (offer leaf)) :
    ∃ whole, tree.provider.Answers w steady whole ∧ whole.StandsFor (tree.leaves.map offer) := by
  induction tree using induction with
  | leaf provider =>
      exact ⟨offer provider, answers provider List.mem_cons_self, Offer.standsFor_singleton _⟩
  | node first rest ih =>
      have each : ∀ child ∈ first :: rest, ∃ whole, child.provider.Answers w steady whole ∧
          whole.StandsFor (child.leaves.map offer) := fun child member =>
        ih child member fun leaf among => answers leaf (mem_leaves_node member among)
      exact ⟨_, answers_node_of_forall each, fun _ => Iff.rfl, fun _ _ => rfl⟩

end Answers

/-- A combination of combinations answers as the combination of its leaves, as long
as their answers do not change. -/
theorem nesting_changes_no_answer (first : Nesting σ ι) (rest : List (Nesting σ ι)) (w : World)
    (steady : σ → Prop)
    (answers : ∀ leaf ∈ (node first rest).leaves, ∃ offer, leaf.Answers w steady offer) :
    ∃ root flat,
      Provider.combine ((first :: rest).map provider) = .ok root ∧
      root = (node first rest).provider ∧
      Provider.combine (node first rest).leaves = .ok flat ∧
      (∀ s t, steady s → steady t →
        ((root.identifiers w).run s).value.1 = ((flat.identifiers w).run t).value.1 ∧
        ∀ identifier, ((root.instantiate w identifier).run.run s).value.1 =
          ((flat.instantiate w identifier).run.run t).value.1) ∧
      ∃ offers, List.Forall₂ (Provider.Answers w steady) (node first rest).leaves offers ∧
        root.Answers w steady (.combined offers) := by
  have total : ∀ leaf, ∃ offer, leaf ∈ (node first rest).leaves → leaf.Answers w steady offer := by
    intro leaf
    by_cases among : leaf ∈ (node first rest).leaves
    · obtain ⟨offer, given⟩ := answers leaf among
      exact ⟨offer, fun _ => given⟩
    · exact ⟨⟨[], fun _ => .error (Provider.unlisted "")⟩, fun h => absurd h among⟩
  choose offer given using total
  have each : List.Forall₂ (Provider.Answers w steady) (node first rest).leaves
      ((node first rest).leaves.map offer) :=
    List.forall₂_map_right_iff.2 (List.forall₂_same.2 given)
  have ofRoot : (node first rest).provider.Answers w steady
      (.combined ((node first rest).leaves.map offer)) :=
    answers_node_of_forall fun child member =>
      exists_standsFor child fun leaf among => given leaf (mem_leaves_node member among)
  have ofFlat := Provider.answers_combined each
  refine ⟨_, _, Provider.combine_eq_ok (by simp), (provider_node first rest).symm,
    Provider.combine_eq_ok (leaves_ne_nil _), fun s t hs ht => ⟨?_, fun identifier => ?_⟩,
    _, each, provider_node first rest ▸ ofRoot⟩
  · rw [← provider_node, (ofRoot.identifiers s hs).1, (ofFlat.identifiers t ht).1]
  · rw [← provider_node, (ofRoot.instantiate identifier s hs).1,
      (ofFlat.instantiate identifier t ht).1]

def failingAt (identifier text : String) : String × Except AssetError (Implementation .manager) :=
  (identifier, .error (.configuration text))

def leftPart : Nesting (Shelf .manager) (Implementation .manager) :=
  node (leaf (.table [failingAt "a" "first"])) []

def rightPart : Nesting (Shelf .manager) (Implementation .manager) :=
  node (leaf (.shelved .manager 0)) [leaf (.table [failingAt "b" "broken", failingAt "a" "hidden"])]

def bareShelf : Shelf .manager := [{}]

def scannedShelf : Shelf .manager := [({} : PluginSource .manager).known (some {})]

/-- The left part lists nothing of what is asked for, and the flat combination is
asked after the scan. -/
theorem nesting_around_source :
    (Provider.OnShelf bareShelf {} bareShelf ∧ Provider.OnShelf bareShelf {} scannedShelf) ∧
    ∃ root flat, Provider.combine [leftPart.provider, rightPart.provider] = .ok root ∧
      Provider.combine (node leftPart [rightPart]).leaves = .ok flat ∧
      ((root.identifiers {}).run bareShelf).value.1 = ["a", "b"] ∧
      ((flat.identifiers {}).run scannedShelf).value.1 = ["a", "b"] ∧
      ((root.instantiate {} "b").run.run bareShelf).value.1 =
        .error (.configuration "broken") ∧
      ((flat.instantiate {} "b").run.run scannedShelf).value.1 =
        .error (.configuration "broken") := by
  have unscanned : Provider.OnShelf bareShelf {} bareShelf := by
    intro place
    cases place <;> exact .inl rfl
  have afterScan : Provider.OnShelf bareShelf {} scannedShelf := by
    intro place
    cases place with
    | zero => exact .inr rfl
    | succ place => exact .inl rfl
  have answers : ∀ leaf ∈ (node leftPart [rightPart]).leaves,
      ∃ offer, leaf.Answers {} (Provider.OnShelf bareShelf {}) offer := by
    intro leaf member
    rcases List.mem_cons.1 member with rfl | member
    · exact ⟨_, Provider.answers_table _⟩
    rcases List.mem_cons.1 member with rfl | member
    · exact ⟨_, Provider.answers_shelved bareShelf {} 0⟩
    rw [List.mem_singleton.1 member]
    exact ⟨_, Provider.answers_table _⟩
  have listed : (((node leftPart [rightPart]).provider.identifiers {}).run bareShelf).value.1 =
      ["a", "b"] := by rfl
  have made : (((node leftPart [rightPart]).provider.instantiate {} "b").run.run
      bareShelf).value.1 = .error (.configuration "broken") := by rfl
  obtain ⟨root, flat, ofRoot, rfl, ofLeaves, same, -⟩ :=
    nesting_changes_no_answer leftPart [rightPart] {} (Provider.OnShelf bareShelf {}) answers
  obtain ⟨identifiers, instantiate⟩ := same bareShelf scannedShelf unscanned afterScan
  exact ⟨⟨unscanned, afterScan⟩, _, flat, ofRoot, ofLeaves, listed, identifiers.symm.trans listed,
    made, (instantiate "b").symm.trans made⟩

end Nesting

end AssetLink
