import AssetLink.Change
import AssetLink.PropertyValue

/-!
Trait data: for one entity, the traits it has and the properties of each. A
trait may be present without properties. Every write checks its names before it
touches the data.
-/

namespace AssetLink

abbrev TraitSet := Dictionary Unit

def TraitSet.ofList (ids : List String) : TraitSet :=
  Dictionary.ofList (ids.map fun id => (id, ()))

def sameEntries {α : Type} (same : α → α → Bool) : List (String × α) → List (String × α) → Bool
  | [], [] => true
  | a :: as, b :: bs => a.1 == b.1 && same a.2 b.2 && sameEntries same as bs
  | _, _ => false

structure TraitProperties where
  values : Dictionary PropertyValue := {}
deriving DecidableEq

namespace TraitProperties

def get? (p : TraitProperties) (key : String) : Option PropertyValue :=
  p.values.get? key

def contains (p : TraitProperties) (key : String) : Bool :=
  p.values.contains key

def keys (p : TraitProperties) : List String :=
  p.values.keys

def same (p q : TraitProperties) : Bool :=
  sameEntries PropertyValue.same p.values.entries q.values.entries

def set (key : String) (value : PropertyValue) : Change TraitProperties Unit := do
  if key.isEmpty then throw (.emptyArgument "property key")
  modify fun p => ⟨p.values.insert key value⟩

end TraitProperties

structure TraitsData where
  traits : Dictionary TraitProperties := {}
deriving DecidableEq

namespace TraitsData

def traitIds (d : TraitsData) : TraitSet :=
  d.traits.map fun _ => ()

def properties? (d : TraitsData) (traitId : String) : Option TraitProperties :=
  d.traits.get? traitId

def hasTrait (d : TraitsData) (traitId : String) : Bool :=
  d.traits.contains traitId

def get? (d : TraitsData) (traitId key : String) : Option PropertyValue :=
  (d.properties? traitId).bind (·.get? key)

def hasProperty (d : TraitsData) (traitId key : String) : Bool :=
  (d.properties? traitId).any (·.contains key)

def keys (d : TraitsData) (traitId : String) : List String :=
  (d.properties? traitId).elim [] (·.keys)

def same (d e : TraitsData) : Bool :=
  sameEntries TraitProperties.same d.traits.entries e.traits.entries

/-- The trait is present afterwards, with the properties it had. -/
def imbue (d : TraitsData) (traitId : String) : TraitsData :=
  ⟨d.traits.alter traitId (·.getD {})⟩

def requireTraitId (traitId : String) : Change TraitsData Unit := do
  if traitId.isEmpty then throw (.emptyArgument "trait id")

def addTrait (traitId : String) : Change TraitsData Unit := do
  requireTraitId traitId
  modify (·.imbue traitId)

/-- All ids are checked before the first trait is added. -/
def addTraits (traitIds : List String) : Change TraitsData Unit := do
  if traitIds.any String.isEmpty then throw (.emptyArgument "trait id")
  traitIds.forM fun traitId => modify (·.imbue traitId)

def set (traitId key : String) (value : PropertyValue) : Change TraitsData Unit := do
  requireTraitId traitId
  if key.isEmpty then throw (.emptyArgument "property key")
  modify (·.imbue traitId)
  Change.within (fun d => (d.properties? traitId).getD {})
    (fun p d => ⟨d.traits.insert traitId p⟩)
    (TraitProperties.set key value)

def ofTraits (traitIds : List String) : Except AssetError TraitsData :=
  (addTraits traitIds).build {}

end TraitsData

end AssetLink
