import AssetLink.Json.Reading

/-!
Entity references: names, opaque to everyone but a manager, of what a manager
knows traits of.
-/

namespace AssetLink

structure EntityReference where
  text : String
deriving DecidableEq, Repr

namespace EntityReference

def ofDocument (document : Json.Document) : Json.Reading EntityReference := do
  return ⟨← document.text⟩

def sort (references : List EntityReference) : List EntityReference :=
  references.mergeSort fun a b => decide (a.text ≤ b.text)

def distinct (references : List EntityReference) : List EntityReference :=
  (Dictionary.ofList (references.map fun r => (r.text, ()))).keys.map mk

end EntityReference

end AssetLink
