import AssetLink.Traits.Data

/-!
Specifications: trait data made with a set of traits that is fixed from then on,
whatever is later written to the data.
-/

namespace AssetLink

structure Specification where
  traitIds : TraitSet
  data : TraitsData
deriving DecidableEq

namespace Specification

def ofTraits (traitIds : List String) : Except AssetError Specification :=
  (TraitsData.ofTraits traitIds).map fun data => ⟨data.traitIds, data⟩

def onData {α : Type} (change : Change TraitsData α) : Change Specification α :=
  Change.within (·.data) (fun data s => { s with data }) change

def same (s t : Specification) : Bool :=
  s.traitIds.keys == t.traitIds.keys && s.data.same t.data

end Specification

end AssetLink
