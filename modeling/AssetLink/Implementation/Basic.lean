import AssetLink.Capability
import AssetLink.EntityReference
import AssetLink.Traits.Data

/-!
What managers and UI delegates answer when they are called. An answer may depend
on every call received before, so that any behaviour with a state of its own can
be described. Whatever an implementation does not define for itself either does
nothing or reports that it is not implemented.
-/

namespace AssetLink

inductive Call
  | identifier
  | displayName
  | info
  | settings
  | configure (settings : InfoDictionary)
  | flushCaches
  | resolve (references : List EntityReference) (traitIds : TraitSet)
  | isReference (candidate : String)
  | close
deriving DecidableEq

abbrev History := List Call

def unimplemented (method purpose : String) : AssetError :=
  .notImplemented (s!"The '{method}' method has not been implemented by the manager. "
    ++ s!"Check manager capability for {purpose}.")

structure ManagerWork where
  flushCaches : History → Except AssetError Unit := fun _ => .ok ()
  resolve : History → List EntityReference → TraitSet → Except AssetError (List TraitsData) :=
    fun _ _ _ => .error (unimplemented "resolve" "resolution")
  isReference : History → String → Except AssetError Bool :=
    fun _ _ => .error
      (unimplemented "is_entity_reference_string" "entity reference identification")

structure UIDelegateWork where
  close : History → Except AssetError Unit := fun _ => .ok ()

/-- What an implementation does beyond what all of them do. -/
abbrev Capability.Work : Capability → Type
  | manager => ManagerWork
  | uiDelegate => UIDelegateWork

inductive Origin
  | host
  | plugin
deriving DecidableEq, Repr

def refuseSettings (c : Capability) (settings : InfoDictionary) : Except AssetError Unit :=
  if settings.isEmpty then .ok ()
  else .error (.inputValidation ("Settings provided but are not supported. The initialize "
    ++ s!"method has not been implemented by the {c.name}."))

structure Implementation (c : Capability) where
  identifier : History → String
  displayName : History → String
  info : History → Except AssetError InfoDictionary := fun _ => .ok {}
  settings : History → Except AssetError InfoDictionary := fun _ => .ok {}
  configure : History → InfoDictionary → Except AssetError Unit := fun _ => refuseSettings c
  work : c.Work
  origin : Origin := .plugin

end AssetLink
