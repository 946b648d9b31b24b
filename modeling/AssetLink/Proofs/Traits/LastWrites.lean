import AssetLink.Proofs.Traits.Names
import Mathlib.Data.List.Induction

/-!
Trait data as the writes that made it. A trait is there if some call names it, and
under a trait and a key is the value of the last call that puts one there. Nothing
else of the calls is left: neither their order nor what was overwritten.
-/

namespace AssetLink

section LastPut

variable {ω π α : Type} {puts : ω → π → α → Prop} {writes : List ω} {last : ω} {place : π}
  {value : α}

/-- Of the writes that put something at a place the last one puts the value there. -/
def LastPut (puts : ω → π → α → Prop) (writes : List ω) (place : π) (value : α) : Prop :=
  ∃ before write after, writes = before ++ write :: after ∧ puts write place value ∧
    ∀ later ∈ after, ∀ other, ¬ puts later place other

theorem not_lastPut_nil : ¬ LastPut puts [] place value := by
  rintro ⟨before, write, after, split, -⟩
  simp at split

theorem lastPut_concat_iff :
    LastPut puts (writes ++ [last]) place value ↔
      puts last place value ∨
        LastPut puts writes place value ∧ ∀ other, ¬ puts last place other := by
  constructor
  · rintro ⟨before, write, after, split, put, later⟩
    rcases List.eq_nil_or_concat' after with rfl | ⟨after, final, rfl⟩
    · obtain ⟨-, same⟩ := List.append_inj' split rfl
      cases same
      exact .inl put
    · rw [← List.cons_append, ← List.append_assoc] at split
      obtain ⟨rfl, same⟩ := List.append_inj' split rfl
      cases same
      rw [List.forall_mem_append, List.forall_mem_singleton] at later
      exact .inr ⟨⟨before, write, after, rfl, put, later.1⟩, later.2⟩
  · rintro (put | ⟨⟨before, write, after, rfl, put, later⟩, silent⟩)
    · exact ⟨writes, last, [], rfl, put, by simp⟩
    · refine ⟨before, write, after ++ [last], by simp, put, ?_⟩
      rw [List.forall_mem_append, List.forall_mem_singleton]
      exact ⟨later, silent⟩

end LastPut

open Json

namespace DataWrite

def Names (write : DataWrite) (traitId : String) : Prop :=
  match write with
  | addTrait named => named = traitId
  | addTraits named => traitId ∈ named
  | set named _ _ => named = traitId
  | exchange named _ _ => named = .str traitId

def Puts (write : DataWrite) (place : String × String) (value : PropertyValue) : Prop :=
  match write with
  | addTrait _ | addTraits _ => False
  | set traitId key stored => (traitId, key) = place ∧ stored = value
  | exchange traitId key stored =>
      traitId = .str place.1 ∧ key = .str place.2 ∧ Exchange.toProperty stored = .ok value

structure Adds (write : DataWrite) (d e : TraitsData) : Prop where
  traits : ∀ traitId, e.hasTrait traitId = true ↔ write.Names traitId ∨ d.hasTrait traitId = true
  values : ∀ place value, e.get? place.1 place.2 = some value ↔
    write.Puts place value ∨
      d.get? place.1 place.2 = some value ∧ ∀ other, ¬ write.Puts place other

end DataWrite

namespace TraitsData

variable {d e : TraitsData}

theorem hasTrait_foldl_imbue_iff {traitIds : List String} {traitId : String} :
    (traitIds.foldl imbue d).hasTrait traitId = true ↔
      traitId ∈ traitIds ∨ d.hasTrait traitId = true := by
  induction traitIds generalizing d with
  | nil => simp
  | cons first rest ih =>
      rw [List.foldl_cons, ih, imbue, hasTrait_alter_iff, List.mem_cons]
      tauto

theorem build_set_eq_ok_iff {traitId key : String} {value : PropertyValue} :
    (set traitId key value).build d = .ok e ↔
      traitId ≠ "" ∧ key ≠ "" ∧ d.put traitId key value = e := by
  rw [Change.build, apply_set]
  by_cases unnamed : traitId = ""
  · simp [unnamed, Except.map]
  · by_cases keyless : key = "" <;> simp [unnamed, keyless, Except.map]

end TraitsData

namespace DataWrite

variable {write : DataWrite} {d e : TraitsData}

theorem adds_set (traitId key : String) (value : PropertyValue) (d : TraitsData) :
    (set traitId key value).Adds d (d.put traitId key value) where
  traits other := by
    rw [TraitsData.put, TraitsData.hasTrait_alter_iff, Names, eq_comm]
  values place stored := by
    rw [TraitsData.get?_put]
    by_cases here : place = (traitId, key)
    · rw [if_pos here, Option.some.injEq]
      simp only [Puts, here, true_and]
      exact ⟨.inl, fun h => h.elim id fun kept => absurd rfl (kept.2 value)⟩
    · rw [if_neg here]
      simp [Puts, Ne.symm here]

theorem adds_of_build (h : write.change.build d = .ok e) : write.Adds d e := by
  cases write with
  | addTrait traitId =>
      rw [change, Change.build, TraitsData.apply_addTrait] at h
      split at h
      · cases h
      · cases h
        refine ⟨fun other => ?_, fun place value => ?_⟩
        · rw [TraitsData.imbue, TraitsData.hasTrait_alter_iff, Names, eq_comm]
        · simp [Puts, TraitsData.get?_imbue]
  | addTraits traitIds =>
      rw [change, Change.build, TraitsData.apply_addTraits] at h
      split at h
      · cases h
      · cases h
        refine ⟨fun other => TraitsData.hasTrait_foldl_imbue_iff, fun place value => ?_⟩
        simp [Puts, TraitsData.get?_foldl_imbue]
  | set traitId key value =>
      obtain ⟨-, -, rfl⟩ := TraitsData.build_set_eq_ok_iff.1 h
      exact adds_set traitId key value d
  | exchange traitId key value =>
      rw [change, Exchange.build_set, except_bind_eq_ok_iff] at h
      obtain ⟨⟨traitText, keyText, property⟩, checked, h⟩ := h
      obtain ⟨-, -, rfl⟩ := TraitsData.build_set_eq_ok_iff.1 h
      obtain ⟨rfl, rfl, stored⟩ := Exchange.arguments_eq_ok_iff.1 checked
      have adds := adds_set traitText keyText property d
      refine ⟨fun other => ?_, fun place value => ?_⟩
      · rw [adds.traits]
        simp [Names]
      · rw [adds.values]
        simp [Puts, stored, Prod.ext_iff, and_assoc]

end DataWrite

/-- Calls that succeed one after the other, the first of them on empty data. -/
def TraitsData.MadeBy (d : TraitsData) (writes : List DataWrite) : Prop :=
  writes.foldlM (fun d write => write.change.build d) {} = .ok d

namespace TraitsData.MadeBy

variable {d : TraitsData} {writes : List DataWrite}

theorem holds (made : d.MadeBy writes) :
    (∀ traitId, d.hasTrait traitId = true ↔ ∃ write ∈ writes, write.Names traitId) ∧
    ∀ place value, d.get? place.1 place.2 = some value ↔
      LastPut DataWrite.Puts writes place value := by
  induction writes using List.reverseRecOn generalizing d with
  | nil =>
      cases made
      refine ⟨fun traitId => iff_of_false (fun present => nomatch present) (by simp), ?_⟩
      exact fun place value => iff_of_false (fun found => nomatch found) not_lastPut_nil
  | append_singleton writes last ih =>
      rw [MadeBy, List.foldlM_append, except_bind_eq_ok_iff] at made
      obtain ⟨before, made, added⟩ := made
      rw [List.foldlM_cons, except_bind_eq_ok_iff] at added
      obtain ⟨after, added, same⟩ := added
      cases same
      obtain ⟨traits, values⟩ := ih made
      have adds := DataWrite.adds_of_build added
      refine ⟨fun traitId => ?_, fun place value => ?_⟩
      · rw [adds.traits, traits]
        simp [or_and_right, exists_or, or_comm]
      · rw [adds.values, values, lastPut_concat_iff]

end TraitsData.MadeBy

end AssetLink
