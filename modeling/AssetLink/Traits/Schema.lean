import AssetLink.PropertyValue

/-!
What a trait declares: its id and its properties, each with the kind of value
that it takes. Of two declarations of one key the first counts.
-/

namespace AssetLink

structure PropertyDef where
  key : String
  kind : PropertyKind
  description : String
deriving DecidableEq, Repr

structure TraitSchema where
  id : String
  properties : List PropertyDef
deriving DecidableEq, Repr

namespace TraitSchema

def property? (schema : TraitSchema) (key : String) : Option PropertyDef :=
  schema.properties.find? (·.key == key)

def blob : TraitSchema where
  id := "blob"
  properties := [
    ⟨"url", .str, "URL of the blob's data"⟩,
    ⟨"mimeType", .str, "MIME type of the blob's data"⟩]

end TraitSchema

end AssetLink
