import AssetLink.Proofs.Traits.Writing
import Mathlib.Data.Finmap

/-!
Trait data as a table: the set of the traits that are present, and the values by
trait and key. Every write is one step on the table, and a write that is refused
is none. So nothing but the table shows in what data answers, however it was
written.
-/

namespace AssetLink

/-- Traits, and values that belong to them. A trait may have no values. -/
structure TraitTable where
  traits : Finset String
  values : Finmap fun _ : String × String => PropertyValue
  owned : ∀ place ∈ values, place.1 ∈ traits

namespace TraitTable

instance : EmptyCollection TraitTable :=
  ⟨⟨∅, ∅, fun _ none => absurd none Finmap.notMem_empty⟩⟩

def add (table : TraitTable) (traitIds : List String) : TraitTable where
  traits := table.traits ∪ traitIds.toFinset
  values := table.values
  owned place listed := Finset.mem_union_left _ (table.owned place listed)

def set (table : TraitTable) (traitId key : String) (value : PropertyValue) : TraitTable where
  traits := insert traitId table.traits
  values := table.values.insert (traitId, key) value
  owned place listed := by
    rcases Finmap.mem_insert.1 listed with rfl | earlier
    · exact Finset.mem_insert_self _ _
    · exact Finset.mem_insert_of_mem (table.owned place earlier)

def keys (table : TraitTable) (traitId : String) : Finset String :=
  (table.values.keys.filter (·.1 = traitId)).image (·.2)

theorem mem_keys_iff {table : TraitTable} {traitId key : String} :
    key ∈ table.keys traitId ↔ (traitId, key) ∈ table.values := by
  simp [keys, Finmap.mem_keys]

theorem mem_add_iff {table : TraitTable} {traitIds : List String} {traitId : String} :
    traitId ∈ (table.add traitIds).traits ↔ traitId ∈ traitIds ∨ traitId ∈ table.traits := by
  rw [add, Finset.mem_union, List.mem_toFinset, or_comm]

theorem mem_set_iff {table : TraitTable} {traitId key : String} {value : PropertyValue}
    {other : String} :
    other ∈ (table.set traitId key value).traits ↔ other = traitId ∨ other ∈ table.traits :=
  Finset.mem_insert

end TraitTable

/-- The call of a writer of trait data, or of one that makes new data of traits,
which takes the place of the data there was. -/
inductive TraitsCall
  | addTrait (traitId : String)
  | addTraits (traitIds : List String)
  | set (traitId key : String) (value : PropertyValue)
  | ofTraits (traitIds : List String)

namespace TraitsCall

def change : TraitsCall → Change TraitsData Unit
  | addTrait traitId => TraitsData.addTrait traitId
  | addTraits traitIds => TraitsData.addTraits traitIds
  | set traitId key value => TraitsData.set traitId key value
  | ofTraits traitIds => do
      let new ← (liftM (TraitsData.ofTraits traitIds) : Change TraitsData TraitsData)
      modify fun _ => new

def run (calls : List TraitsCall) (d : TraitsData) : TraitsData :=
  calls.foldl (fun d call => (call.change.apply d).2) d

def fault? : TraitsCall → Option AssetError
  | addTrait traitId => if traitId = "" then some (.emptyArgument "trait id") else none
  | addTraits traitIds | ofTraits traitIds =>
      if "" ∈ traitIds then some (.emptyArgument "trait id") else none
  | set traitId key _ =>
      if traitId = "" then some (.emptyArgument "trait id")
      else if key = "" then some (.emptyArgument "property key")
      else none

end TraitsCall

namespace TraitTable

def write (table : TraitTable) : TraitsCall → TraitTable
  | .addTrait traitId => table.add [traitId]
  | .addTraits traitIds => table.add traitIds
  | .set traitId key value => table.set traitId key value
  | .ofTraits traitIds => (∅ : TraitTable).add traitIds

def step (table : TraitTable) (call : TraitsCall) : TraitTable :=
  call.fault?.elim (table.write call) fun _ => table

def run (calls : List TraitsCall) (table : TraitTable) : TraitTable :=
  calls.foldl step table

end TraitTable

def Lists (names : List String) (set : Finset String) : Prop :=
  names.Pairwise (· < ·) ∧ ∀ name, name ∈ names ↔ name ∈ set

theorem Lists.length_eq {names : List String} {set : Finset String} (h : Lists names set) :
    names.length = set.card := by
  have distinct : names.Nodup := h.1.imp String.ne_of_lt
  have same : names.toFinset = set := Finset.ext fun name => by rw [List.mem_toFinset, h.2]
  rw [← same, List.toFinset_card_of_nodup distinct]

namespace TraitsData

structure Represents (d : TraitsData) (table : TraitTable) : Prop where
  traits : ∀ traitId, d.hasTrait traitId = true ↔ traitId ∈ table.traits
  values : ∀ traitId key, d.get? traitId key = table.values.lookup (traitId, key)

structure AnswersFrom (d : TraitsData) (table : TraitTable) : Prop where
  get? : ∀ traitId key, d.get? traitId key = table.values.lookup (traitId, key)
  hasProperty : ∀ traitId key, d.hasProperty traitId key = true ↔ (traitId, key) ∈ table.values
  hasTrait : ∀ traitId, d.hasTrait traitId = true ↔ traitId ∈ table.traits
  keys : ∀ traitId, Lists (d.keys traitId) (table.keys traitId)
  keys_of_absent : ∀ traitId, traitId ∉ table.traits → d.keys traitId = []
  properties?_isSome : ∀ traitId, (d.properties? traitId).isSome = true ↔ traitId ∈ table.traits
  properties : ∀ traitId p, d.properties? traitId = some p → ∀ key value,
    (key, value) ∈ p.values.entries ↔ table.values.lookup (traitId, key) = some value
  traitIds : Lists d.traitIds.keys table.traits
  size : d.traits.size = table.traits.card
  isEmpty : d.traits.isEmpty = true ↔ table.traits = ∅

theorem keys_traitIds (d : TraitsData) : d.traitIds.keys = d.traits.keys := by
  simp [traitIds, Dictionary.map, Dictionary.keys]

theorem mem_keys_iff {d : TraitsData} {traitId key : String} :
    key ∈ d.keys traitId ↔ ∃ value, d.get? traitId key = some value := by
  rw [keys, get?]
  cases d.properties? traitId with
  | none => simp
  | some p => exact Dictionary.mem_keys_iff

theorem keys_sorted (d : TraitsData) (traitId : String) : (d.keys traitId).Pairwise (· < ·) := by
  rw [keys]
  cases d.properties? traitId with
  | none => exact List.Pairwise.nil
  | some p => exact p.values.keys_sorted

namespace Represents

variable {d : TraitsData} {table : TraitTable}

theorem empty : Represents {} ∅ where
  traits traitId := iff_of_false Bool.false_ne_true (Finset.notMem_empty traitId)
  values _ _ := rfl

theorem imbue (h : d.Represents table) (traitId : String) :
    (d.imbue traitId).Represents (table.add [traitId]) where
  traits other := by
    rw [TraitsData.imbue, hasTrait_alter_iff, TraitTable.mem_add_iff, List.mem_singleton, h.traits]
  values other key := by rw [get?_imbue, h.values, TraitTable.add]

theorem foldl_imbue (h : d.Represents table) (traitIds : List String) :
    (traitIds.foldl TraitsData.imbue d).Represents (table.add traitIds) := by
  induction traitIds generalizing d table with
  | nil => exact ⟨fun traitId => by simp [h.traits, TraitTable.mem_add_iff], h.values⟩
  | cons first rest ih =>
      have later := ih (h.imbue first)
      refine ⟨fun traitId => ?_, later.values⟩
      rw [List.foldl_cons, later.traits, TraitTable.mem_add_iff, TraitTable.mem_add_iff,
        TraitTable.mem_add_iff, List.mem_singleton, List.mem_cons]
      tauto

theorem put (h : d.Represents table) (traitId key : String) (value : PropertyValue) :
    (d.put traitId key value).Represents (table.set traitId key value) where
  traits other := by
    rw [TraitsData.put, hasTrait_alter_iff, TraitTable.mem_set_iff, h.traits]
  values other otherKey := by
    rw [get?_put, h.values, TraitTable.set]
    split
    · next same => rw [same, Finmap.lookup_insert]
    · next different => rw [Finmap.lookup_insert_of_ne _ different]

end Represents

end TraitsData

namespace TraitsCall

def written (d : TraitsData) : TraitsCall → TraitsData
  | addTrait traitId => d.imbue traitId
  | addTraits traitIds => traitIds.foldl TraitsData.imbue d
  | set traitId key value => d.put traitId key value
  | ofTraits traitIds => traitIds.foldl TraitsData.imbue {}

theorem ofTraits_eq (traitIds : List String) :
    TraitsData.ofTraits traitIds =
      if "" ∈ traitIds then .error (.emptyArgument "trait id")
      else .ok (traitIds.foldl TraitsData.imbue {}) := by
  rw [TraitsData.ofTraits, Change.build, TraitsData.apply_addTraits]
  split <;> rfl

/-- The names alone decide whether a call is refused, and one that is refused
leaves the data alone. -/
theorem apply_change (call : TraitsCall) (d : TraitsData) :
    call.change.apply d =
      call.fault?.elim (.ok (), call.written d) fun e => (.error e, d) := by
  cases call with
  | addTrait traitId =>
      rw [change, TraitsData.apply_addTrait, fault?]
      split <;> rfl
  | addTraits traitIds =>
      rw [change, TraitsData.apply_addTraits, fault?]
      split <;> rfl
  | set traitId key value =>
      rw [change, TraitsData.apply_set, fault?]
      split
      · rfl
      · split <;> rfl
  | ofTraits traitIds =>
      rw [change, Change.apply_bind, Change.apply_ofExcept, ofTraits_eq, fault?]
      by_cases unnamed : "" ∈ traitIds
      · rw [if_pos unnamed, if_pos unnamed]
        rfl
      · rw [if_neg unnamed, if_neg unnamed]
        rfl

end TraitsCall

namespace TraitsData

namespace Represents

variable {d : TraitsData} {table : TraitTable}

theorem written (h : d.Represents table) (call : TraitsCall) :
    (call.written d).Represents (table.write call) := by
  cases call with
  | addTrait traitId => exact h.imbue traitId
  | addTraits traitIds => exact h.foldl_imbue traitIds
  | set traitId key value => exact h.put traitId key value
  | ofTraits traitIds => exact empty.foldl_imbue traitIds

theorem step (h : d.Represents table) (call : TraitsCall) :
    (call.change.apply d).2.Represents (table.step call) := by
  rw [TraitsCall.apply_change, TraitTable.step]
  cases call.fault? with
  | none => exact h.written call
  | some e => exact h

theorem run (h : d.Represents table) (calls : List TraitsCall) :
    (TraitsCall.run calls d).Represents (TraitTable.run calls table) := by
  induction calls generalizing d table with
  | nil => exact h
  | cons call rest ih => exact ih (h.step call)

theorem answers (h : d.Represents table) : d.AnswersFrom table := by
  have mem_keys : ∀ traitId key,
      key ∈ d.keys traitId ↔ (traitId, key) ∈ table.values := fun traitId key => by
    rw [mem_keys_iff, h.values, Finmap.mem_iff]
  have mem_traits : ∀ traitId, traitId ∈ d.traits.keys ↔ traitId ∈ table.traits := fun traitId => by
    rw [← h.traits, hasTrait, Dictionary.contains_iff, Dictionary.mem_keys_iff]
  have listed : Lists d.traits.keys table.traits := ⟨d.traits.keys_sorted, mem_traits⟩
  have size : d.traits.size = table.traits.card := by
    rw [← listed.length_eq, Dictionary.keys, List.length_map, Dictionary.size]
  exact {
    get? := h.values
    hasProperty := fun traitId key => by
      rw [hasProperty_iff, ← mem_keys_iff, mem_keys]
    hasTrait := h.traits
    keys := fun traitId => ⟨d.keys_sorted traitId, fun key => by
      rw [mem_keys, TraitTable.mem_keys_iff]⟩
    keys_of_absent := fun traitId absent => List.eq_nil_iff_forall_not_mem.2 fun key member =>
      absent (table.owned _ ((mem_keys traitId key).1 member))
    properties?_isSome := h.traits
    properties := fun traitId p found key value => by
      rw [Dictionary.mem_entries_iff, ← h.values, get?, found]
      rfl
    traitIds := by rwa [keys_traitIds]
    size := size
    isEmpty := by
      rw [Dictionary.isEmpty, List.isEmpty_iff, ← List.length_eq_zero_iff, ← Finset.card_eq_zero,
        ← size, Dictionary.size] }

end Represents

/-- However data was written, with calls refused among the others, it answers as
the table does on which the same calls were made. -/
theorem run_answers_from_table (calls : List TraitsCall) :
    (TraitsCall.run calls {}).AnswersFrom (TraitTable.run calls ∅) ∧
    ∀ (d : TraitsData) (call : TraitsCall),
      (call.change.apply d).1 = call.fault?.elim (.ok ()) .error := by
  refine ⟨(Represents.empty.run calls).answers, fun d call => ?_⟩
  rw [TraitsCall.apply_change]
  cases call.fault? <;> rfl

end TraitsData

end AssetLink
