import AssetLink.Proofs.Traits.LastWrites
import Mathlib.Data.List.Perm.Subperm

/-!
Equal trait data. Data is compared by its contents: the same traits, the same keys
in each, and the same values, where a value is the same as another if it is that
value, other than NaN, or if both are zero. What writes leave is the same if they
put the same values last, unless one of these is NaN.
-/

namespace AssetLink

theorem option_rel_iff {α β : Type} {R : α → β → Prop} {x : Option α} {y : Option β} :
    Option.Rel R x y ↔ x.isSome = y.isSome ∧ ∀ a b, x = some a → y = some b → R a b := by
  cases x <;> cases y <;> simp

theorem sameEntries_iff {α : Type} {same : α → α → Bool} {entries others : List (String × α)} :
    sameEntries same entries others = true ↔
      Entrywise (fun a b => same a b = true) entries others := by
  induction entries generalizing others with
  | nil => cases others <;> simp [sameEntries]
  | cons entry rest ih => cases others <;> simp [sameEntries, ih]

namespace Dictionary

variable {α : Type} {same : α → α → Bool} {d e : Dictionary α}

/-- There are as many entries in both, and each of the one is found in the other. -/
def covered (same : α → α → Bool) (d e : Dictionary α) : Bool :=
  d.size == e.size && d.entries.all fun entry => (e.get? entry.1).any (same entry.2)

theorem covered_iff :
    covered same d e = true ↔
      d.size = e.size ∧ ∀ key value, d.get? key = some value →
        ∃ other, e.get? key = some other ∧ same value other = true := by
  simp only [covered, Bool.and_eq_true, beq_iff_eq, List.all_eq_true, Prod.forall,
    mem_entries_iff, Option.any_eq_true]

theorem size_eq_length_keys (d : Dictionary α) : d.size = d.keys.length := by
  simp [size, keys]

theorem mem_keys_iff_of_covered (h : covered same d e = true) {key : String} :
    key ∈ d.keys ↔ key ∈ e.keys := by
  obtain ⟨sizes, found⟩ := covered_iff.1 h
  have nodup : d.keys.Nodup := d.keys_sorted.imp String.ne_of_lt
  have subset : d.keys ⊆ e.keys := fun key listed => by
    obtain ⟨value, listed⟩ := mem_keys_iff.1 listed
    exact mem_keys_iff.2 ((found key value listed).imp fun _ h => h.1)
  rw [size_eq_length_keys, size_eq_length_keys] at sizes
  exact ((nodup.subperm subset).perm_of_length_le sizes.ge).mem_iff

theorem covered_iff_rel :
    covered same d e = true ↔
      ∀ key, Option.Rel (fun a b => same a b = true) (d.get? key) (e.get? key) := by
  constructor
  · intro h key
    refine option_rel_iff.2 ⟨?_, fun value other listed present => ?_⟩
    · rw [Bool.eq_iff_iff, Option.isSome_iff_exists, Option.isSome_iff_exists, ← mem_keys_iff,
        ← mem_keys_iff, mem_keys_iff_of_covered h]
    · obtain ⟨_, found, equal⟩ := (covered_iff.1 h).2 key value listed
      cases present.symm.trans found
      exact equal
  · intro related
    refine covered_iff.2 ⟨?_, fun key value listed => ?_⟩
    · rw [size_eq_length_keys, size_eq_length_keys, keys_eq_of_rel related]
    · obtain ⟨present, equal⟩ := option_rel_iff.1 (related key)
      rw [listed] at present
      obtain ⟨other, found⟩ := Option.isSome_iff_exists.1 present.symm
      exact ⟨other, found, equal value other listed found⟩

/-- Comparing the entries in their order is comparing one-sidedly. -/
theorem sameEntries_eq_covered (same : α → α → Bool) (d e : Dictionary α) :
    sameEntries same d.entries e.entries = covered same d e := by
  rw [Bool.eq_iff_iff, sameEntries_iff, entrywise_iff, covered_iff_rel]

end Dictionary

namespace Binary64

variable {x y : Binary64}

theorem isNaN_eq_false_of_isZero (zero : x.isZero = true) : x.isNaN = false := by
  have word : x.bits.toNat % 2 ^ 63 = 0 := beq_iff_eq.1 zero
  have exponent : x.biasedExponent = 0 := by
    rw [biasedExponent, Nat.shiftRight_eq_div_pow]
    omega
  simp [isNaN, exponent]

theorem isZero_iff : x.isZero = true ↔ x = zero ∨ x = zero.neg := by
  have range := x.bits.toNat_lt
  have word : x.isZero = true ↔ x.bits.toNat % 2 ^ 63 = 0 := beq_iff_eq
  have positive : x = zero ↔ x.bits.toNat = 0 := by
    cases x
    simp [zero, ← UInt64.toNat_inj]
  have negative : x = zero.neg ↔ x.bits.toNat = 2 ^ 63 := by
    cases x
    simp [zero, neg, ← UInt64.toNat_inj]
  rw [word, positive, negative]
  omega

theorem sameNumber_iff :
    x.sameNumber y = true ↔ x = y ∧ x.isNaN = false ∨ x.isZero = true ∧ y.isZero = true := by
  have fine (z : Binary64) := isNaN_eq_false_of_isZero (x := z)
  simp only [sameNumber, Bool.and_eq_true, Bool.or_eq_true, Bool.not_eq_true', beq_iff_eq]
  grind

end Binary64

namespace PropertyValue

variable {v w u : PropertyValue}

def isNaN : PropertyValue → Bool
  | float x => x.isNaN
  | _ => false

def IsZero (v : PropertyValue) : Prop :=
  v = float .zero ∨ v = float Binary64.zero.neg

theorem same_iff : v.same w = true ↔ v = w ∧ v.isNaN = false ∨ v.IsZero ∧ w.IsZero := by
  cases v <;> cases w <;> simp [same, isNaN, IsZero, Binary64.sameNumber_iff, Binary64.isZero_iff]

theorem isNaN_eq_false_of_isZero (zero : v.IsZero) : v.isNaN = false := by
  rcases zero with rfl | rfl <;> decide

theorem same_self_iff : v.same v = true ↔ v.isNaN = false := by
  rw [same_iff]
  exact ⟨fun h => h.elim (·.2) fun zero => isNaN_eq_false_of_isZero zero.1, fun h => .inl ⟨rfl, h⟩⟩

theorem same_comm : v.same w = w.same v := by
  rw [Bool.eq_iff_iff, same_iff, same_iff]
  grind

theorem same_trans (h : v.same w = true) (h' : w.same u = true) : v.same u = true := by
  rw [same_iff] at *
  grind

end PropertyValue

namespace TraitsData

variable {d e f : TraitsData} {traitId key : String}

/-- The same traits with the same keys, and values that are the same in pairs. -/
structure SameContents (d e : TraitsData) : Prop where
  traits : ∀ traitId, d.hasTrait traitId = e.hasTrait traitId
  keys : ∀ traitId key, d.hasProperty traitId key = e.hasProperty traitId key
  values : ∀ traitId key v w, d.get? traitId key = some v → e.get? traitId key = some w →
    v.same w = true

theorem same_iff_rel :
    d.same e = true ↔ ∀ traitId, Option.Rel
      (fun p q => ∀ key, Option.Rel (fun v w => PropertyValue.same v w = true) (p.get? key)
        (q.get? key))
      (d.properties? traitId) (e.properties? traitId) := by
  have properties (p q : TraitProperties) : p.same q = true ↔ ∀ key,
      Option.Rel (fun v w => PropertyValue.same v w = true) (p.get? key) (q.get? key) :=
    sameEntries_iff.trans Dictionary.entrywise_iff
  simp only [← properties]
  exact sameEntries_iff.trans Dictionary.entrywise_iff

theorem hasProperty_eq_isSome (d : TraitsData) (traitId key : String) :
    d.hasProperty traitId key = (d.get? traitId key).isSome := by
  rw [hasProperty, get?]
  cases d.properties? traitId <;> rfl

theorem same_iff_sameContents : d.same e = true ↔ d.SameContents e := by
  rw [same_iff_rel]
  constructor
  · intro related
    have values (traitId key : String) :
        Option.Rel (fun v w => PropertyValue.same v w = true) (d.get? traitId key)
          (e.get? traitId key) := by
      have here := related traitId
      rw [get?, get?]
      generalize d.properties? traitId = p at here
      generalize e.properties? traitId = q at here
      cases here with
      | none => exact .none
      | some properties => exact properties key
    refine ⟨fun traitId => (option_rel_iff.1 (related traitId)).1, fun traitId key => ?_,
      fun traitId key => (option_rel_iff.1 (values traitId key)).2⟩
    rw [hasProperty_eq_isSome, hasProperty_eq_isSome]
    exact (option_rel_iff.1 (values traitId key)).1
  · rintro ⟨traits, keys, values⟩ traitId
    refine option_rel_iff.2 ⟨traits traitId, fun p q found other key => option_rel_iff.2 ?_⟩
    have getD (key : String) : d.get? traitId key = p.get? key := by rw [get?, found]; rfl
    have getE (key : String) : e.get? traitId key = q.get? key := by rw [get?, other]; rfl
    rw [← getD, ← getE, ← hasProperty_eq_isSome, ← hasProperty_eq_isSome]
    exact ⟨keys traitId key, values traitId key⟩

theorem SameContents.symm (h : d.SameContents e) : e.SameContents d where
  traits traitId := (h.traits traitId).symm
  keys traitId key := (h.keys traitId key).symm
  values traitId key v w found other :=
    PropertyValue.same_comm.trans (h.values traitId key w v other found)

theorem SameContents.trans (h : d.SameContents e) (h' : e.SameContents f) : d.SameContents f where
  traits traitId := (h.traits traitId).trans (h'.traits traitId)
  keys traitId key := (h.keys traitId key).trans (h'.keys traitId key)
  values traitId key v u found other := by
    have present := h.keys traitId key
    rw [hasProperty_iff.2 ⟨v, found⟩] at present
    obtain ⟨w, between⟩ := hasProperty_iff.1 present.symm
    exact PropertyValue.same_trans (h.values traitId key v w found between)
      (h'.values traitId key w u between other)

theorem sameContents_self_iff :
    d.SameContents d ↔ ∀ traitId key v, d.get? traitId key = some v → v.isNaN = false := by
  constructor
  · intro h traitId key v found
    exact PropertyValue.same_self_iff.1 (h.values traitId key v v found found)
  · intro numbers
    refine ⟨fun _ => rfl, fun _ _ => rfl, fun traitId key v w found other => ?_⟩
    cases found.symm.trans other
    exact PropertyValue.same_self_iff.2 (numbers traitId key v found)

theorem ext_answers (traits : ∀ traitId, d.hasTrait traitId = e.hasTrait traitId)
    (values : ∀ traitId key, d.get? traitId key = e.get? traitId key) : d = e := by
  have properties (traitId : String) : d.properties? traitId = e.properties? traitId := by
    have present : (d.properties? traitId).isSome = (e.properties? traitId).isSome :=
      traits traitId
    have under := values traitId
    simp only [get?] at under
    generalize d.properties? traitId = p at present under ⊢
    generalize e.properties? traitId = q at present under ⊢
    cases p with
    | none =>
        cases q with
        | none => rfl
        | some q => cases present
    | some p =>
        cases q with
        | none => cases present
        | some q =>
            have values : p.values = q.values := Dictionary.ext_get? under
            exact congrArg (fun values => some (TraitProperties.mk values)) values
  exact congrArg mk (Dictionary.ext_get? properties)

end TraitsData

/-- Calls that mention the same traits and put the same values last. -/
structure DataWrite.Agree (writes others : List DataWrite) : Prop where
  names : ∀ traitId,
    (∃ write ∈ writes, write.Names traitId) ↔ ∃ write ∈ others, write.Names traitId
  values : ∀ place value, LastPut Puts writes place value ↔ LastPut Puts others place value

namespace TraitsData

variable {d e : TraitsData} {writes others : List DataWrite}

theorem MadeBy.eq_iff (made : d.MadeBy writes) (madeOther : e.MadeBy others) :
    d = e ↔ DataWrite.Agree writes others := by
  obtain ⟨traits, values⟩ := made.holds
  obtain ⟨otherTraits, otherValues⟩ := madeOther.holds
  constructor
  · rintro rfl
    exact ⟨fun traitId => (traits traitId).symm.trans (otherTraits traitId),
      fun place value => (values place value).symm.trans (otherValues place value)⟩
  · intro agree
    refine ext_answers (fun traitId => ?_) fun traitId key => Option.ext fun value => ?_
    · rw [Bool.eq_iff_iff, traits, otherTraits, agree.names]
    · have here := values (traitId, key) value
      have there := otherValues (traitId, key) value
      rw [here, there, agree.values]

/-- Made of calls that put the same values last, data is the same data, and compares
as the same unless one of these values is NaN. Any data is compared by its contents,
however one goes about it, so that comparing is symmetric and transitive, and fails
to be reflexive just on data with a NaN. -/
theorem equality_compares_contents (d e f : TraitsData) (writes others : List DataWrite) :
    (d.MadeBy writes → e.MadeBy others → DataWrite.Agree writes others →
      d = e ∧ (d.same e = true ↔
        ∀ place value, LastPut DataWrite.Puts writes place value → value.isNaN = false)) ∧
    (d.same e = true ↔ d.SameContents e) ∧
    (∀ v w, PropertyValue.same v w = true ↔
      v = w ∧ v.isNaN = false ∨ v.IsZero ∧ w.IsZero) ∧
    d.same e = Dictionary.covered
      (fun p q => Dictionary.covered PropertyValue.same p.values q.values) d.traits e.traits ∧
    d.same e = e.same d ∧
    (d.same e = true → e.same f = true → d.same f = true) ∧
    (d.same d = true ↔ ∀ traitId key v, d.get? traitId key = some v → v.isNaN = false) := by
  refine ⟨fun made madeOther agree => ?_, same_iff_sameContents,
    fun _ _ => PropertyValue.same_iff, ?_, ?_, ?_,
    same_iff_sameContents.trans sameContents_self_iff⟩
  · obtain rfl := (made.eq_iff madeOther).2 agree
    obtain ⟨-, values⟩ := made.holds
    refine ⟨rfl, same_iff_sameContents.trans (sameContents_self_iff.trans ?_)⟩
    simp only [← values]
    exact ⟨fun h place => h place.1 place.2, fun h traitId key => h (traitId, key)⟩
  · rw [same, Dictionary.sameEntries_eq_covered]
    congr
    funext p q
    rw [TraitProperties.same, Dictionary.sameEntries_eq_covered]
  · rw [Bool.eq_iff_iff, same_iff_sameContents, same_iff_sameContents]
    exact ⟨.symm, .symm⟩
  · simp only [same_iff_sameContents]
    exact .trans

/-- Zero written in two ways, which is the same as the other zero, and a NaN, which is
not the same as itself. -/
theorem equality_compares_contents_zero :
    let zero : TraitsData := ⟨.ofList [("a", ⟨.ofList [("k", .float .zero)]⟩), ("b", {})]⟩
    let minusZero : TraitsData :=
      ⟨.ofList [("a", ⟨.ofList [("k", .float Binary64.zero.neg)]⟩), ("b", {})]⟩
    let nan : TraitsData := ⟨.ofList [("a", ⟨.ofList [("k", .float .nan)]⟩)]⟩
    let writes : List DataWrite :=
      [.addTrait "b", .set "a" "k" (.int 1), .set "a" "k" (.float .zero)]
    let others : List DataWrite := [.set "a" "k" (.float .zero), .addTraits ["b", "a"]]
    let special : List DataWrite := [.set "a" "k" (.float .nan)]
    (zero.MadeBy writes ∧ zero.MadeBy others ∧ DataWrite.Agree writes others ∧
      ∀ place value, LastPut DataWrite.Puts writes place value → value.isNaN = false) ∧
    (zero.same minusZero = true ∧ minusZero.same zero = true ∧
      minusZero.same minusZero = true) ∧
    nan.MadeBy special ∧ DataWrite.Agree special special ∧ ¬ nan.same nan = true := by
  intro zero minusZero nan writes others special
  have made : zero.MadeBy writes := by cbv
  have madeOther : zero.MadeBy others := by cbv
  have madeNaN : nan.MadeBy special := by cbv
  have agree := (made.eq_iff madeOther).1 rfl
  have agreeNaN := (madeNaN.eq_iff madeNaN).1 rfl
  have equal : zero.same minusZero = true := by cbv
  obtain ⟨-, -, -, -, comm, -⟩ :=
    equality_compares_contents zero minusZero minusZero writes others
  obtain ⟨-, -, -, -, -, through, -⟩ :=
    equality_compares_contents minusZero zero minusZero writes others
  obtain ⟨again, -⟩ := equality_compares_contents zero zero zero writes others
  obtain ⟨fromNaN, -⟩ := equality_compares_contents nan nan nan special special
  have swapped : minusZero.same zero = true := comm ▸ equal
  refine ⟨⟨made, madeOther, agree, ?_⟩, ⟨equal, swapped, through swapped equal⟩, madeNaN,
    agreeNaN, ?_⟩
  · exact (again made madeOther agree).2.1 (by cbv)
  · intro reflexive
    have numbers := (fromNaN madeNaN madeNaN agreeNaN).2.1 reflexive
    have last : LastPut DataWrite.Puts special ("a", "k") (.float .nan) :=
      ⟨[], _, [], rfl, ⟨rfl, rfl⟩, List.forall_mem_nil _⟩
    cases numbers _ _ last

end TraitsData

end AssetLink
