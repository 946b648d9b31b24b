import AssetLink.Traits.Schema
import AssetLink.Traits.Store

/-!
Typed views: one trait's declared properties, read from and written to a store.
A write is checked against the declaration; a read hands out whatever is stored.
-/

namespace AssetLink

inductive PropertyStatus
  | found
  | missing
  | invalidValue
deriving DecidableEq, Repr

structure TraitView where
  schema : TraitSchema
  store : Store

namespace TraitView

def data (view : TraitView) : Option TraitsData :=
  view.store.readable

/-- There is data to address. The trait need not be present in it. -/
def isValid (view : TraitView) : Bool :=
  view.data.isSome

def isImbued (view : TraitView) : Bool :=
  view.data.any (·.hasTrait view.schema.id)

def stored? (view : TraitView) (key : String) : Option PropertyValue :=
  view.data.bind (·.get? view.schema.id key)

def status (view : TraitView) (key : String) : PropertyStatus :=
  match view.stored? key, view.schema.property? key with
  | none, _ => .missing
  | some value, some property => if value.kind = property.kind then .found else .invalidValue
  | some _, none => .found

def undeclared (schema : TraitSchema) (key : String) : AssetError :=
  .inputValidation s!"'{key}' is not a property of trait '{schema.id}'"

def declared (view : TraitView) (key : String) : Except AssetError PropertyDef :=
  (view.schema.property? key).elim (.error (undeclared view.schema key)) .ok

/-- A declared property, whatever its value; nothing if it is not set. -/
def read (view : TraitView) (key : String) : Except AssetError (Option PropertyValue) := do
  discard (view.declared key)
  return view.stored? key

def readStr (view : TraitView) (key : String) : Except AssetError (Option String) := do
  match ← view.read key with
  | none => return none
  | some (.str text) => return some text
  | some other => throw (.kindMismatch key PropertyKind.str.name other.kind.name)

def onData (change : Change TraitsData Unit) : Change TraitView Unit := do
  let view ← get
  match view.store.writable with
  | none =>
      throw (.inputValidation
        s!"trait view '{view.schema.id}' is not backed by writable traits data")
  | some data =>
      Change.within (fun _ => data) (fun new view => { view with store := view.store.put new })
        change

def imbue : Change TraitView Unit := do
  onData (TraitsData.addTrait (← get).schema.id)

def set (key : String) (value : PropertyValue) : Change TraitView Unit := do
  let view ← get
  let property ← view.declared key
  if value.kind ≠ property.kind then
    throw (.kindMismatch key property.kind.name value.kind.name)
  onData (TraitsData.set view.schema.id key value)

end TraitView

end AssetLink
