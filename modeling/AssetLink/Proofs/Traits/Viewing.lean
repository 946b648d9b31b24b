import AssetLink.Proofs.Traits.Writing
import AssetLink.Traits.View

/-!
What the writers of a view do to the store behind it. A view only ever puts data
into its store that a writer of trait data made of the data that was there. Its
readers and its writers go by the same definition of a key, the first.
-/

namespace AssetLink

namespace TraitSchema

variable {schema : TraitSchema} {key : String} {kind other : PropertyKind}

/-- The first definition of a key is of this kind. -/
def Declares (schema : TraitSchema) (key : String) (kind : PropertyKind) : Prop :=
  ∃ before property after, schema.properties = before ++ property :: after ∧
    property.key = key ∧ property.kind = kind ∧ ∀ earlier ∈ before, earlier.key ≠ key

theorem declares_iff :
    schema.Declares key kind ↔
      ∃ property, schema.property? key = some property ∧ property.kind = kind := by
  simp only [Declares, property?, List.find?_eq_some_iff_append, beq_iff_eq, Bool.not_eq_true',
    beq_eq_false_iff_ne]
  grind

theorem property?_eq_none_iff :
    schema.property? key = none ↔ ∀ property ∈ schema.properties, property.key ≠ key := by
  simp [property?, List.find?_eq_none]

theorem Declares.eq (h : schema.Declares key kind) (h' : schema.Declares key other) :
    kind = other := by
  obtain ⟨property, declared, rfl⟩ := declares_iff.1 h
  obtain ⟨_, again, rfl⟩ := declares_iff.1 h'
  cases declared.symm.trans again
  rfl

end TraitSchema

theorem Store.readable_put {store : Store} {d : TraitsData} (h : store.writable = some d)
    (new : TraitsData) : (store.put new).readable = some new :=
  readable_eq_writable (writable_put h new)

theorem Store.put_self {store : Store} {d : TraitsData} (h : store.writable = some d) :
    store.put d = store := by
  induction store with
  | data => cases h; rfl
  | specification => cases h; rfl
  | missing => rfl
  | shared => rfl
  | present inner ih | exclusive inner ih | boxed inner ih => exact congrArg _ (ih h)

namespace TraitView

theorem declared_eq_ok_iff {view : TraitView} {key : String} {property : PropertyDef} :
    view.declared key = .ok property ↔ view.schema.property? key = some property := by
  simp [declared, elim_eq_ok_iff]

theorem declared_of_undeclared {view : TraitView} {key : String}
    (undeclared : ∀ property ∈ view.schema.properties, property.key ≠ key) :
    view.declared key = .error (TraitView.undeclared view.schema key) := by
  rw [declared, TraitSchema.property?_eq_none_iff.2 undeclared, Option.elim_none]

theorem stored?_eq {view : TraitView} {d : TraitsData} (seen : view.data = some d) (key : String) :
    view.stored? key = d.get? view.schema.id key := by
  rw [stored?, seen, Option.bind_some]

theorem stored?_eq_some_iff {view : TraitView} {key : String} {value : PropertyValue} :
    view.stored? key = some value ↔
      ∃ d, view.data = some d ∧ d.get? view.schema.id key = some value :=
  Option.bind_eq_some_iff

theorem read_eq {view : TraitView} {key : String} {property : PropertyDef}
    (declared : view.schema.property? key = some property) :
    view.read key = .ok (view.stored? key) := by
  rw [read, declared_eq_ok_iff.2 declared]
  rfl

def unwritable (schema : TraitSchema) : AssetError :=
  .inputValidation s!"trait view '{schema.id}' is not backed by writable traits data"

theorem apply_onData (change : Change TraitsData Unit) (view : TraitView) :
    (onData change).apply view =
      match view.store.writable with
      | none => (.error (unwritable view.schema), view)
      | some d => ((change.apply d).1, ⟨view.schema, view.store.put (change.apply d).2⟩) := by
  rw [onData, Change.apply_get_bind]
  cases view.store.writable with
  | none => rw [Change.apply_throw, unwritable]
  | some d => rw [Change.apply_within]

theorem forall_data_onData {p : TraitsData → Prop} {change : Change TraitsData Unit}
    (kept : ∀ d, p d → p (change.apply d).2) {view : TraitView} (holds : ∀ d ∈ view.data, p d) :
    ∀ d ∈ ((onData change).apply view).2.data, p d := by
  rw [apply_onData]
  cases h : view.store.writable with
  | none => exact holds
  | some d =>
      have before : p d := holds d (Store.readable_eq_writable h)
      intro after isAfter
      cases (Store.readable_put h (change.apply d).2).symm.trans isAfter
      exact kept d before

theorem isValid_onData (change : Change TraitsData Unit) (view : TraitView) :
    ((onData change).apply view).2.isValid = view.isValid := by
  rw [apply_onData]
  cases h : view.store.writable with
  | none => rfl
  | some d => simp [isValid, data, Store.readable_put h, Store.readable_eq_writable h]

theorem apply_imbue (view : TraitView) :
    imbue.apply view = (onData (TraitsData.addTrait view.schema.id)).apply view := by
  rw [imbue, Change.apply_get_bind]

theorem apply_set (key : String) (value : PropertyValue) (view : TraitView) :
    (set key value).apply view =
      match view.declared key with
      | .error e => (.error e, view)
      | .ok property =>
          if value.kind = property.kind then
            (onData (TraitsData.set view.schema.id key value)).apply view
          else (.error (.kindMismatch key property.kind.name value.kind.name), view) := by
  rw [set, Change.apply_get_bind, Change.apply_bind, Change.apply_ofExcept]
  cases view.declared key with
  | error e => rfl
  | ok property =>
      by_cases right : value.kind = property.kind
      · simp [right]
      · simp [right]

theorem forall_data_imbue {p : TraitsData → Prop} {view : TraitView}
    (kept : ∀ d, p d → p ((TraitsData.addTrait view.schema.id).apply d).2)
    (holds : ∀ d ∈ view.data, p d) : ∀ d ∈ (imbue.apply view).2.data, p d := by
  rw [apply_imbue]
  exact forall_data_onData kept holds

theorem forall_data_set {p : TraitsData → Prop} {view : TraitView} {key : String}
    {value : PropertyValue}
    (kept : ∀ property, view.declared key = .ok property → value.kind = property.kind →
      ∀ d, p d → p ((TraitsData.set view.schema.id key value).apply d).2)
    (holds : ∀ d ∈ view.data, p d) : ∀ d ∈ ((set key value).apply view).2.data, p d := by
  rw [apply_set]
  cases declared : view.declared key with
  | error e => exact holds
  | ok property =>
      dsimp only
      split
      · next right => exact forall_data_onData (kept property declared right) holds
      · exact holds

end TraitView

end AssetLink
