import AssetLink.Proofs.Traits.Refusals
import AssetLink.Proofs.Traits.Setting

/-!
Stores taken apart. A store is what is innermost in it, with layers around that.
What is read through the layers is the innermost data, unless a value is missing,
and it is written to unless one of the layers is a shared reference. So a view over
a store that can be written to does just what a view over the data alone does.
-/

namespace AssetLink

inductive Innermost
  | data (d : TraitsData)
  | specification (s : Specification)
  | missing

inductive Layer
  | present
  | shared
  | exclusive
  | boxed
deriving DecidableEq

namespace Layer

def around : Layer → Store → Store
  | present, inner => .present inner
  | shared, inner => .shared inner
  | exclusive, inner => .exclusive inner
  | boxed, inner => .boxed inner

end Layer

namespace Innermost

def data? : Innermost → Option TraitsData
  | data d => some d
  | specification s => some s.data
  | missing => none

/-- With other data. The traits that a specification was made with stay. -/
def put (new : TraitsData) : Innermost → Innermost
  | data _ => data new
  | specification s => specification { s with data := new }
  | missing => missing

def alone : Innermost → Store
  | data d => .data d
  | specification s => .specification s
  | missing => .missing

def within (layers : List Layer) (innermost : Innermost) : Store :=
  layers.foldr Layer.around innermost.alone

theorem data?_eq_none_iff {innermost : Innermost} :
    innermost.data? = none ↔ innermost = missing := by
  cases innermost <;> simp [data?]

theorem data?_isSome_iff {innermost : Innermost} :
    innermost.data?.isSome = true ↔ innermost ≠ missing := by
  rw [Option.isSome_iff_ne_none, ne_eq, data?_eq_none_iff]

end Innermost

namespace Store

variable {store : Store} {d : TraitsData}

def layers : Store → List Layer
  | data _ | specification _ | missing => []
  | present inner => .present :: inner.layers
  | shared inner => .shared :: inner.layers
  | exclusive inner => .exclusive :: inner.layers
  | boxed inner => .boxed :: inner.layers

def innermost : Store → Innermost
  | data d => .data d
  | specification s => .specification s
  | missing => .missing
  | present inner | shared inner | exclusive inner | boxed inner => inner.innermost

theorem innermost_within_layers (store : Store) : store.innermost.within store.layers = store := by
  induction store with
  | data | specification | missing => rfl
  | present inner ih => exact congrArg present ih
  | shared inner ih => exact congrArg shared ih
  | exclusive inner ih => exact congrArg exclusive ih
  | boxed inner ih => exact congrArg boxed ih

theorem readable_eq (store : Store) : store.readable = store.innermost.data? := by
  induction store with
  | data | specification | missing => rfl
  | present inner ih | shared inner ih | exclusive inner ih | boxed inner ih => exact ih

theorem writable_eq (store : Store) :
    store.writable = if .shared ∈ store.layers then none else store.innermost.data? := by
  induction store with
  | data | specification | missing => rfl
  | shared inner => exact (if_pos List.mem_cons_self).symm
  | present inner ih | exclusive inner ih | boxed inner ih =>
      simpa [writable, layers, innermost] using ih

theorem writable_eq_some_iff :
    store.writable = some d ↔ store.innermost.data? = some d ∧ .shared ∉ store.layers := by
  rw [writable_eq]
  by_cases readOnly : Layer.shared ∈ store.layers <;> simp [readOnly]

theorem writable_eq_none_iff :
    store.writable = none ↔ store.innermost = .missing ∨ .shared ∈ store.layers := by
  rw [writable_eq, ← Innermost.data?_eq_none_iff]
  by_cases readOnly : Layer.shared ∈ store.layers <;> simp [readOnly]

theorem put_eq (h : store.writable = some d) (new : TraitsData) :
    store.put new = (store.innermost.put new).within store.layers := by
  induction store with
  | data | specification => rfl
  | missing | shared => cases h
  | present inner ih => exact congrArg present (ih h)
  | exclusive inner ih => exact congrArg exclusive (ih h)
  | boxed inner ih => exact congrArg boxed (ih h)

theorem put_put (store : Store) (first second : TraitsData) :
    (store.put first).put second = store.put second := by
  induction store with
  | data | specification | missing | shared => rfl
  | present inner ih | exclusive inner ih | boxed inner ih => simp only [put, ih]

theorem put_of_unwritable (h : store.writable = none) (new : TraitsData) :
    store.put new = store := by
  induction store with
  | data | specification => cases h
  | missing | shared => rfl
  | present inner ih | exclusive inner ih | boxed inner ih => simp only [put, ih h]

end Store

namespace ViewWrite

variable {view : TraitView} {d : TraitsData}

def written (schema : TraitSchema) (d : TraitsData) : ViewWrite → TraitsData
  | imbue => d.imbue schema.id
  | set key value => d.put schema.id key value

def run (writes : List ViewWrite) (view : TraitView) : TraitView :=
  writes.foldl (fun view write => (write.change.apply view).2) view

/-- Of the store only the data that is written to has a say in what a write
does. -/
theorem exists_apply (write : ViewWrite) (schema : TraitSchema) (d : TraitsData) :
    ∃ answer new, ∀ store : Store, store.writable = some d →
      write.change.apply ⟨schema, store⟩ = (answer, ⟨schema, store.put new⟩) := by
  have onData (change : Change TraitsData Unit) (store : Store) (h : store.writable = some d) :
      (TraitView.onData change).apply ⟨schema, store⟩ =
        ((change.apply d).1, ⟨schema, store.put (change.apply d).2⟩) := by
    rw [TraitView.apply_onData, h]
  cases write with
  | imbue =>
      simp only [change, TraitView.apply_imbue]
      exact ⟨_, _, onData (TraitsData.addTrait schema.id)⟩
  | set key value =>
      simp only [change, TraitView.apply_set, TraitView.declared]
      cases (schema.property? key).elim (.error (TraitView.undeclared schema key)) Except.ok with
      | error e => exact ⟨.error e, d, fun store h => by rw [store.put_self h]⟩
      | ok property =>
          dsimp only
          by_cases right : value.kind = property.kind
          · simp only [if_pos right]
            exact ⟨_, _, onData (TraitsData.set schema.id key value)⟩
          · simp only [if_neg right]
            exact ⟨_, d, fun store h => by rw [store.put_self h]⟩

theorem exists_run (writes : List ViewWrite) (schema : TraitSchema) (d : TraitsData) :
    ∃ new, ∀ store : Store, store.writable = some d →
      run writes ⟨schema, store⟩ = ⟨schema, store.put new⟩ := by
  induction writes generalizing d with
  | nil => exact ⟨d, fun store h => by rw [store.put_self h]; rfl⟩
  | cons write rest ih =>
      obtain ⟨_, next, first⟩ := write.exists_apply schema d
      obtain ⟨new, later⟩ := ih next
      refine ⟨new, fun store h => ?_⟩
      have done := later (store.put next) (Store.writable_put h next)
      rw [store.put_put] at done
      rw [run, List.foldl_cons, first store h]
      exact done

theorem apply_of_succeeds (write : ViewWrite)
    (succeeded : (write.change.apply view).1 = .ok ()) :
    ∃ d, view.store.writable = some d ∧
      (write.change.apply view).2 =
        ⟨view.schema, view.store.put (write.written view.schema d)⟩ := by
  cases write with
  | imbue =>
      rw [change, TraitView.apply_imbue, TraitView.apply_onData] at succeeded ⊢
      cases h : view.store.writable with
      | none =>
          rw [h] at succeeded
          cases succeeded
      | some d =>
          rw [h] at succeeded
          simp only [TraitsData.apply_addTrait] at succeeded ⊢
          split at succeeded
          · cases succeeded
          · next named =>
              rw [if_neg named]
              exact ⟨d, rfl, rfl⟩
  | set key value =>
      have accepts := TraitView.set_eq_ok_iff.1 succeeded
      obtain ⟨d, writable⟩ := Option.isSome_iff_exists.1 accepts.writable
      exact ⟨d, writable, congrArg Prod.snd (TraitView.apply_set_of_accepts accepts writable)⟩

theorem fails_of_unwritable (write : ViewWrite) (h : view.store.writable = none) :
    write.change.Fails view := by
  cases done : (write.change.apply view).1 with
  | error e => exact ⟨e, done⟩
  | ok _ =>
      obtain ⟨d, writable, -⟩ := write.apply_of_succeeds done
      cases h.symm.trans writable

theorem run_of_unwritable (writes : List ViewWrite) (h : view.store.writable = none) :
    run writes view = view := by
  induction writes with
  | nil => rfl
  | cons write rest ih =>
      rw [run, List.foldl_cons, write.atomic view (write.fails_of_unwritable h)]
      exact ih

end ViewWrite

namespace TraitView

theorem imbue_eq_ok_iff {view : TraitView} (named : view.schema.id ≠ "") :
    (imbue.apply view).1 = .ok () ↔ ∃ d, view.store.writable = some d := by
  constructor
  · intro succeeded
    obtain ⟨d, writable, -⟩ := ViewWrite.apply_of_succeeds .imbue succeeded
    exact ⟨d, writable⟩
  · rintro ⟨d, writable⟩
    rw [apply_imbue, apply_onData, writable]
    simp only [TraitsData.apply_addTrait, if_neg named]

/-- However a store is made of layers around data or a specification: it is read if
no value is missing, and written to if moreover no layer only reads. A write that
succeeds replaces the innermost data by what is written, which is then read and
written to in its place, and nothing else; many writes replace it by what they make
of the data alone. What cannot be written to stays as it is. -/
theorem layers_pass_writes (schema : TraitSchema) (store : Store) :
    let view : TraitView := ⟨schema, store⟩
    store.innermost.within store.layers = store ∧
    (∀ d, store.readable = some d ↔ store.innermost.data? = some d) ∧
    (∀ d, store.writable = some d ↔ store.innermost.data? = some d ∧ .shared ∉ store.layers) ∧
    (view.isValid = true ↔ store.innermost ≠ .missing) ∧
    (schema.id ≠ "" → ((imbue.apply view).1 = .ok () ↔
      store.innermost ≠ .missing ∧ .shared ∉ store.layers)) ∧
    (∀ write : ViewWrite, (write.change.apply view).1 = .ok () →
      ∃ d, store.writable = some d ∧
        (write.change.apply view).2 = ⟨schema, store.put (write.written schema d)⟩) ∧
    (∀ d, store.writable = some d →
      (∀ new, store.put new = (store.innermost.put new).within store.layers ∧
        (store.put new).readable = some new ∧ (store.put new).writable = some new) ∧
      ∀ writes, ∃ new, ViewWrite.run writes ⟨schema, .data d⟩ = ⟨schema, .data new⟩ ∧
        ViewWrite.run writes view = ⟨schema, store.put new⟩) ∧
    (store.innermost = .missing ∨ .shared ∈ store.layers →
      (∀ new, store.put new = store) ∧ (∀ write : ViewWrite, write.change.Fails view) ∧
        ∀ writes, ViewWrite.run writes view = view) := by
  intro view
  have reachable : (∃ d, store.writable = some d) ↔
      store.innermost ≠ .missing ∧ .shared ∉ store.layers := by
    simp only [Store.writable_eq_some_iff, exists_and_right, ← Option.isSome_iff_exists,
      Innermost.data?_isSome_iff]
  refine ⟨store.innermost_within_layers, fun d => by rw [store.readable_eq],
    fun d => Store.writable_eq_some_iff, ?_, fun named => (imbue_eq_ok_iff named).trans reachable,
    ViewWrite.apply_of_succeeds, fun d writable => ⟨fun new => ?_, fun writes => ?_⟩,
    fun unreachable => ?_⟩
  · change store.readable.isSome = true ↔ _
    rw [store.readable_eq, Innermost.data?_isSome_iff]
  · exact ⟨Store.put_eq writable new, Store.readable_put writable new,
      Store.writable_put writable new⟩
  · obtain ⟨new, same⟩ := ViewWrite.exists_run writes schema d
    exact ⟨new, same (.data d) rfl, same store writable⟩
  · have unwritable := Store.writable_eq_none_iff.2 unreachable
    exact ⟨Store.put_of_unwritable unwritable, fun write => write.fails_of_unwritable unwritable,
      fun writes => ViewWrite.run_of_unwritable writes unwritable⟩

/-- A location is set in a specification under three layers, and is not set where one
of them only reads. -/
theorem layers_pass_writes_boxed :
    let s : Specification := ⟨TraitsData.smallData.traitIds, TraitsData.smallData⟩
    let store : Store := .boxed (.present (.exclusive (.specification s)))
    let readOnly : Store := .boxed (.shared (.exclusive (.specification s)))
    let location : ViewWrite := .set "url" (.str "x://y")
    (TraitSchema.blob.id ≠ "" ∧ (location.change.apply ⟨.blob, store⟩).1 = .ok () ∧
      store.writable = some s.data ∧ .shared ∈ readOnly.layers) ∧
    (imbue.apply ⟨.blob, store⟩).1 = .ok () ∧
    (location.change.apply ⟨.blob, store⟩).2.store = .boxed (.present (.exclusive (.specification
      ⟨s.traitIds, s.data.put "blob" "url" (.str "x://y")⟩))) ∧
    location.change.Fails ⟨.blob, readOnly⟩ ∧
    ViewWrite.run [location, .imbue] ⟨.blob, readOnly⟩ = ⟨.blob, readOnly⟩ := by
  intro s store readOnly location
  have named : TraitSchema.blob.id ≠ "" := by decide
  have succeeded : (location.change.apply ⟨.blob, store⟩).1 = .ok () := rfl
  have member : .shared ∈ readOnly.layers := by decide
  obtain ⟨-, -, -, -, imbued, written, -, -⟩ := layers_pass_writes .blob store
  obtain ⟨-, -, -, -, -, -, -, unreachable⟩ := layers_pass_writes .blob readOnly
  obtain ⟨d, writable, done⟩ := written location succeeded
  obtain ⟨-, fails, unchanged⟩ := unreachable (.inr member)
  cases writable
  exact ⟨⟨named, succeeded, rfl, member⟩, (imbued named).2 ⟨nofun, by decide⟩,
    congrArg TraitView.store done, fails location, unchanged [location, .imbue]⟩

end TraitView

end AssetLink
