import AssetLink.Traits.Specification

/-!
What a view can be put over: trait data or a specification, wrapped any number
of times. A missing value hides the data, and a shared reference lets it be read
but not written.
-/

namespace AssetLink

inductive Store
  | data (d : TraitsData)
  | specification (s : Specification)
  | missing
  | present (inner : Store)
  | shared (inner : Store)
  | exclusive (inner : Store)
  | boxed (inner : Store)

namespace Store

def readable : Store → Option TraitsData
  | data d => some d
  | specification s => some s.data
  | missing => none
  | present inner => inner.readable
  | shared inner => inner.readable
  | exclusive inner => inner.readable
  | boxed inner => inner.readable

def writable : Store → Option TraitsData
  | data d => some d
  | specification s => some s.data
  | missing => none
  | present inner => inner.writable
  | shared _ => none
  | exclusive inner => inner.writable
  | boxed inner => inner.writable

/-- Put data in the place of the data that is written to, if there is any. -/
def put (new : TraitsData) : Store → Store
  | data _ => data new
  | specification s => specification { s with data := new }
  | missing => missing
  | present inner => present (inner.put new)
  | shared inner => shared inner
  | exclusive inner => exclusive (inner.put new)
  | boxed inner => boxed (inner.put new)

theorem readable_eq_writable {store : Store} {d : TraitsData} (h : store.writable = some d) :
    store.readable = some d := by
  induction store with
  | data => exact h
  | specification => exact h
  | missing => exact h
  | shared => simp [writable] at h
  | present inner ih | exclusive inner ih | boxed inner ih => exact ih h

theorem writable_put {store : Store} {d : TraitsData} (h : store.writable = some d)
    (new : TraitsData) : (store.put new).writable = some new := by
  induction store with
  | data => rfl
  | specification => rfl
  | missing => simp [writable] at h
  | shared => simp [writable] at h
  | present inner ih | exclusive inner ih | boxed inner ih => exact ih h

end Store

end AssetLink
