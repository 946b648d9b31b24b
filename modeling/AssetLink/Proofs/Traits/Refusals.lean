import AssetLink.Proofs.Traits.Names
import AssetLink.Proofs.Traits.Table

/-!
Refused writes. Every writer comes to its decision before it touches the data, the
writer of many traits for all of them together. So a write that is refused has done
nothing, at whatever place of its arguments the fault is, and however many views
and references it went through.
-/

namespace AssetLink

open Json

namespace TraitsCall

theorem atomic (call : TraitsCall) : call.change.Atomic :=
  Change.atomic_of_apply_eq call.apply_change

theorem fails_iff (call : TraitsCall) (d : TraitsData) :
    call.change.Fails d ↔ call.fault?.isSome = true :=
  Change.fails_iff_of_apply_eq call.apply_change d

end TraitsCall

namespace TraitProperties

theorem apply_set_eq_elim (key : String) (value : PropertyValue) (p : TraitProperties) :
    (set key value).apply p =
      (if key = "" then some (.emptyArgument "property key") else none).elim
        (.ok (), ⟨p.values.insert key value⟩) fun e => (.error e, p) := by
  rw [apply_set]
  split <;> rfl

theorem atomic_set (key : String) (value : PropertyValue) : (set key value).Atomic :=
  Change.atomic_of_apply_eq (apply_set_eq_elim key value)

theorem fails_set_iff {key : String} {value : PropertyValue} {p : TraitProperties} :
    (set key value).Fails p ↔ key = "" := by
  rw [Change.fails_iff_of_apply_eq (apply_set_eq_elim key value)]
  split <;> simp [*]

end TraitProperties

namespace TraitsData

variable {d : TraitsData}

theorem fails_addTrait_iff {traitId : String} : (addTrait traitId).Fails d ↔ traitId = "" := by
  refine ((TraitsCall.addTrait traitId).fails_iff d).trans ?_
  rw [TraitsCall.fault?]
  split <;> simp [*]

theorem fails_addTraits_iff {traitIds : List String} :
    (addTraits traitIds).Fails d ↔ "" ∈ traitIds := by
  refine ((TraitsCall.addTraits traitIds).fails_iff d).trans ?_
  rw [TraitsCall.fault?]
  split <;> simp [*]

theorem fails_set_iff {traitId key : String} {value : PropertyValue} :
    (set traitId key value).Fails d ↔ traitId = "" ∨ key = "" := by
  refine ((TraitsCall.set traitId key value).fails_iff d).trans ?_
  rw [TraitsCall.fault?]
  split
  · simp [*]
  · split <;> simp [*]

end TraitsData

theorem DataWrite.atomic (write : DataWrite) : write.change.Atomic := by
  cases write with
  | addTrait traitId => exact (TraitsCall.addTrait traitId).atomic
  | addTraits traitIds => exact (TraitsCall.addTraits traitIds).atomic
  | set traitId key value => exact (TraitsCall.set traitId key value).atomic
  | exchange traitId key value =>
      intro d failed
      have applied := Exchange.apply_set traitId key value d
      cases checked : Exchange.arguments traitId key value with
      | error e =>
          rw [checked] at applied
          rw [change, applied]
      | ok text =>
          rw [checked] at applied
          exact (TraitsCall.set text.1 text.2.1 text.2.2).atomic.of_apply_eq applied failed

namespace TraitView

theorem atomic_onData {change : Change TraitsData Unit} (atomic : change.Atomic) :
    (onData change).Atomic := by
  intro view failed
  rw [Change.Fails, apply_onData] at failed
  rw [apply_onData]
  cases h : view.store.writable with
  | none => rfl
  | some d =>
      rw [h] at failed
      dsimp only
      rw [atomic d failed, Store.put_self h]

theorem atomic_imbue : imbue.Atomic := fun view =>
  (atomic_onData (TraitsCall.addTrait view.schema.id).atomic).of_apply_eq (apply_imbue view)

theorem atomic_set (key : String) (value : PropertyValue) : (set key value).Atomic := by
  intro view failed
  have unchanged := (atomic_onData (TraitsCall.set view.schema.id key value).atomic) view
  rw [Change.Fails, apply_set] at failed
  rw [apply_set]
  cases declared : view.declared key with
  | error e => rfl
  | ok property =>
      rw [declared] at failed
      dsimp only at failed ⊢
      split
      · next right =>
          rw [if_pos right] at failed
          exact unchanged failed
      · rfl

end TraitView

theorem ViewWrite.atomic (write : ViewWrite) : write.change.Atomic := by
  cases write with
  | imbue => exact TraitView.atomic_imbue
  | set key value => exact TraitView.atomic_set key value

namespace TraitsData

/-- A write that is refused changes nothing of the properties, the data or the view
that it was meant for. Writers of trait data refuse empty names and nothing else. -/
theorem refused_writes_change_nothing :
    (∀ key value, (TraitProperties.set key value).Atomic) ∧
    (∀ write : DataWrite, write.change.Atomic) ∧
    (∀ write : ViewWrite, write.change.Atomic) ∧
    (∀ key value p, (TraitProperties.set key value).Fails p ↔ key = "") ∧
    (∀ traitId d, (addTrait traitId).Fails d ↔ traitId = "") ∧
    (∀ traitIds d, (addTraits traitIds).Fails d ↔ "" ∈ traitIds) ∧
    ∀ traitId key value d, (set traitId key value).Fails d ↔ traitId = "" ∨ key = "" :=
  ⟨TraitProperties.atomic_set, DataWrite.atomic, ViewWrite.atomic,
    fun _ _ _ => TraitProperties.fails_set_iff, fun _ _ => fails_addTrait_iff,
    fun _ _ => fails_addTraits_iff, fun _ _ _ _ => fails_set_iff⟩

/-- Of several traits the second has no name; a dynamic write has no key; a view is
over a reference that only reads. -/
theorem refused_writes_change_nothing_smallData :
    ((addTraits ["a", "", "b"]).Fails smallData ∧
      ((addTraits ["a", "", "b"]).apply smallData).2 = smallData) ∧
    ((Exchange.set (.str "new") (.str "") (.int 1)).Fails smallData ∧
      ((Exchange.set (.str "new") (.str "") (.int 1)).apply smallData).2 = smallData) ∧
    ∃ view : TraitView, view.data = some smallData ∧
      (TraitView.set "url" (.str "x://y")).Fails view ∧
      ((TraitView.set "url" (.str "x://y")).apply view).2 = view := by
  obtain ⟨-, data, views, -, -, batch, -⟩ := refused_writes_change_nothing
  have unnamed : (addTraits ["a", "", "b"]).Fails smallData := (batch _ _).2 (by simp)
  have keyless : (Exchange.set (.str "new") (.str "") (.int 1)).Fails smallData := ⟨_, rfl⟩
  have readOnly : (TraitView.set "url" (.str "x://y")).Fails ⟨.blob, .shared (.data smallData)⟩ :=
    ⟨_, rfl⟩
  exact ⟨⟨unnamed, data (.addTraits _) _ unnamed⟩, ⟨keyless, data (.exchange _ _ _) _ keyless⟩,
    _, rfl, readOnly, views (.set _ _) _ readOnly⟩

end TraitsData

end AssetLink
