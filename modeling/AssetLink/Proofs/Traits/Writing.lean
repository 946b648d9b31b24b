import AssetLink.Proofs.Change
import AssetLink.Proofs.Dictionary
import AssetLink.Traits.Data

/-!
What the writers of trait data do. Each of them is one decision on the names it
is given, followed by one step that cannot fail; the data is the same as before
where the decision is against the write.
-/

namespace AssetLink

namespace TraitProperties

theorem apply_set (key : String) (value : PropertyValue) (p : TraitProperties) :
    (set key value).apply p =
      if key = "" then (.error (.emptyArgument "property key"), p)
      else (.ok (), ⟨p.values.insert key value⟩) := by
  by_cases h : key = "" <;> simp [set, h]

def Named (p : TraitProperties) : Prop :=
  ∀ key, p.contains key = true → key ≠ ""

theorem named_iff {p : TraitProperties} :
    p.Named ↔ ∀ property ∈ p.values.entries, property.1 ≠ "" := by
  simp only [Named, contains, Dictionary.contains_iff, ← Dictionary.mem_entries_iff]
  exact ⟨fun named property stored => named property.1 ⟨property.2, stored⟩,
    fun named key ⟨value, stored⟩ => named (key, value) stored⟩

end TraitProperties

namespace TraitsData

theorem hasTrait_iff {d : TraitsData} {traitId : String} :
    d.hasTrait traitId = true ↔ ∃ p, (traitId, p) ∈ d.traits.entries := by
  simp only [hasTrait, Dictionary.contains_iff, Dictionary.mem_entries_iff]

theorem get?_eq_some_iff {d : TraitsData} {traitId key : String} {value : PropertyValue} :
    d.get? traitId key = some value ↔
      ∃ p, (traitId, p) ∈ d.traits.entries ∧ (key, value) ∈ p.values.entries := by
  simp only [get?, Option.bind_eq_some_iff, Dictionary.mem_entries_iff, properties?,
    TraitProperties.get?]

theorem hasProperty_iff {d : TraitsData} {traitId key : String} :
    d.hasProperty traitId key = true ↔ ∃ value, d.get? traitId key = some value := by
  simp only [hasProperty, get?, TraitProperties.contains, TraitProperties.get?]
  cases d.properties? traitId <;> simp [Dictionary.contains_iff]

structure Named (d : TraitsData) : Prop where
  traitIds : ∀ traitId, d.hasTrait traitId = true → traitId ≠ ""
  keys : ∀ traitId key, d.hasProperty traitId key = true → key ≠ ""

theorem named_iff {d : TraitsData} :
    d.Named ↔ ∀ entry ∈ d.traits.entries,
      entry.1 ≠ "" ∧ ∀ property ∈ entry.2.values.entries, property.1 ≠ "" := by
  constructor
  · rintro ⟨traitIds, keys⟩ ⟨traitId, p⟩ listed
    refine ⟨traitIds traitId (hasTrait_iff.2 ⟨p, listed⟩), ?_⟩
    rintro ⟨key, value⟩ stored
    exact keys traitId key (hasProperty_iff.2 ⟨value, get?_eq_some_iff.2 ⟨p, listed, stored⟩⟩)
  · intro h
    refine ⟨fun traitId present => ?_, fun traitId key present => ?_⟩
    · obtain ⟨p, listed⟩ := hasTrait_iff.1 present
      exact (h _ listed).1
    · obtain ⟨value, found⟩ := hasProperty_iff.1 present
      obtain ⟨p, listed, stored⟩ := get?_eq_some_iff.1 found
      exact (h _ listed).2 _ stored

instance (d : TraitsData) : Decidable d.Named :=
  decidable_of_iff _ named_iff.symm

/-- The data with a value under a trait and a key, whatever was there before. -/
def put (d : TraitsData) (traitId key : String) (value : PropertyValue) : TraitsData :=
  ⟨d.traits.alter traitId fun p => ⟨(p.getD {}).values.insert key value⟩⟩

theorem properties?_alter (d : TraitsData) (traitId other : String)
    (f : Option TraitProperties → TraitProperties) :
    properties? ⟨d.traits.alter traitId f⟩ other =
      if other = traitId then some (f (d.properties? traitId)) else d.properties? other :=
  d.traits.get?_insert traitId other _

theorem hasTrait_alter_iff {d : TraitsData} {traitId other : String}
    {f : Option TraitProperties → TraitProperties} :
    hasTrait ⟨d.traits.alter traitId f⟩ other = true ↔
      other = traitId ∨ d.hasTrait other = true := by
  change (properties? ⟨d.traits.alter traitId f⟩ other).isSome = true ↔
    _ ∨ (d.properties? other).isSome = true
  rw [properties?_alter]
  by_cases same : other = traitId <;> simp [same]

theorem get?_imbue (d : TraitsData) (traitId other key : String) :
    (d.imbue traitId).get? other key = d.get? other key := by
  rw [get?, imbue, properties?_alter, get?]
  by_cases same : other = traitId
  · rw [if_pos same, Option.bind_some, same]
    cases d.properties? traitId <;> rfl
  · rw [if_neg same]

theorem get?_foldl_imbue (traitIds : List String) (d : TraitsData) (other key : String) :
    (traitIds.foldl imbue d).get? other key = d.get? other key := by
  induction traitIds generalizing d with
  | nil => rfl
  | cons first rest ih => rw [List.foldl_cons, ih, get?_imbue]

theorem get?_put (d : TraitsData) (traitId key : String) (value : PropertyValue)
    (other otherKey : String) :
    (d.put traitId key value).get? other otherKey =
      if (other, otherKey) = (traitId, key) then some value else d.get? other otherKey := by
  rw [get?, put, properties?_alter, get?]
  by_cases same : other = traitId
  · subst same
    rw [if_pos rfl, Option.bind_some, TraitProperties.get?, Dictionary.get?_insert]
    by_cases sameKey : otherKey = key
    · simp [sameKey]
    · rw [if_neg sameKey, if_neg fun h => sameKey (Prod.ext_iff.1 h).2]
      cases d.properties? other <;> rfl
  · rw [if_neg same, if_neg fun h => same (Prod.ext_iff.1 h).1]

theorem apply_addTrait (traitId : String) (d : TraitsData) :
    (addTrait traitId).apply d =
      if traitId = "" then (.error (.emptyArgument "trait id"), d)
      else (.ok (), d.imbue traitId) := by
  by_cases h : traitId = "" <;> simp [addTrait, requireTraitId, h]

theorem apply_addTraits (traitIds : List String) (d : TraitsData) :
    (addTraits traitIds).apply d =
      if "" ∈ traitIds then (.error (.emptyArgument "trait id"), d)
      else (.ok (), traitIds.foldl imbue d) := by
  have refused : traitIds.any String.isEmpty = true ↔ "" ∈ traitIds := by
    simp [String.isEmpty_iff]
  by_cases empty : "" ∈ traitIds
  · simp [addTraits, refused.2 empty, empty]
  · simp [addTraits, mt refused.1 empty, empty, Change.apply_forM_modify]

theorem apply_set (traitId key : String) (value : PropertyValue) (d : TraitsData) :
    (set traitId key value).apply d =
      if traitId = "" then (.error (.emptyArgument "trait id"), d)
      else if key = "" then (.error (.emptyArgument "property key"), d)
      else (.ok (), d.put traitId key value) := by
  by_cases ht : traitId = ""
  · simp [set, requireTraitId, ht]
  by_cases hk : key = ""
  · simp [set, requireTraitId, ht, hk]
  -- The trait is added first, and its properties are then put back as one value.
  have written : (d.imbue traitId).traits.insert traitId
      ⟨(((d.imbue traitId).properties? traitId).getD {}).values.insert key value⟩ =
        (d.put traitId key value).traits := by
    simp [put, imbue, properties?, Dictionary.alter, Dictionary.insert_insert]
  simp [set, requireTraitId, ht, hk, Change.apply_bind, Change.apply_within,
    TraitProperties.apply_set, written]

theorem get?_addTrait (traitId : String) (d : TraitsData) (other key : String) :
    ((addTrait traitId).apply d).2.get? other key = d.get? other key := by
  rw [apply_addTrait]
  split
  · rfl
  · exact get?_imbue d traitId other key

theorem get?_set_of_ne {traitId other : String} (ne : traitId ≠ other) (key : String)
    (value : PropertyValue) (d : TraitsData) (otherKey : String) :
    ((set traitId key value).apply d).2.get? other otherKey = d.get? other otherKey := by
  rw [apply_set]
  split
  · rfl
  · split
    · rfl
    · rw [get?_put, if_neg fun same => ne (Prod.ext_iff.1 same).1.symm]

end TraitsData

end AssetLink
