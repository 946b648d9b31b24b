import AssetLink.Implementation.Basic
import AssetLink.Traits.Schema

/-!
Implementations described by data: a name, fixed answers, and a choice among a
few ways of resolving. What a description leaves out is as it is for every
implementation.
-/

namespace AssetLink

inductive SettingsRule
  | refuse
  | keep
  | keepUnless (key : String)
deriving DecidableEq, Repr

namespace SettingsRule

def kept (rule : SettingsRule) (history : History) : InfoDictionary :=
  match rule with
  | refuse => {}
  | keep =>
      history.foldl (fun kept call => match call with
        | .configure settings => settings
        | _ => kept) {}
  | keepUnless key =>
      history.foldl (fun kept call => match call with
        | .configure settings => if settings.contains key then kept else settings
        | _ => kept) {}

def configure (rule : SettingsRule) (c : Capability) (settings : InfoDictionary) :
    Except AssetError Unit :=
  match rule with
  | refuse => refuseSettings c settings
  | keep => .ok ()
  | keepUnless key =>
      if settings.contains key then .error (.configuration "refusing to initialize") else .ok ()

end SettingsRule

inductive Resolution
  | none
  | all
  | short
  | long
  | empty
  | fail
deriving DecidableEq, Repr

namespace Resolution

/-- Data with the traits asked for; a blob is found under the reference. -/
def resolveOne (traitIds : TraitSet) (reference : EntityReference) :
    Except AssetError TraitsData := do
  let data ← TraitsData.ofTraits traitIds.keys
  if traitIds.contains TraitSchema.blob.id then
    (TraitsData.set TraitSchema.blob.id "url" (.str reference.text)).build data
  else return data

def resolve (resolution : Resolution) (references : List EntityReference) (traitIds : TraitSet) :
    Except AssetError (List TraitsData) := do
  match resolution with
  | none => throw (unimplemented "resolve" "resolution")
  | fail => throw (.wholeBatch "the whole batch failed")
  | all => references.mapM (resolveOne traitIds)
  | short => return (← references.mapM (resolveOne traitIds)).dropLast
  | long => return (← references.mapM (resolveOne traitIds)) ++ [⟨{}⟩]
  | empty =>
      discard (references.mapM (resolveOne traitIds))
      return []

end Resolution

structure Description where
  id : String
  /-- The identifier that it reports, if that is another one. -/
  reported : Option String := none
  displayName : Option String := none
  info : Except String InfoDictionary := .ok {}
  settings : SettingsRule := .refuse
  resolution : Resolution := .none
  /-- How the entity references of a manager begin. -/
  referenceStart : Option String := none
  flushFailure : Option String := none
  closeFailure : Option String := none
  constructionFailure : Option String := none

namespace Description

def identifier (d : Description) : String :=
  d.reported.getD d.id

/-- What stands before the identifier where no display name is given. -/
def title : Capability → String
  | .manager => "Manager"
  | .uiDelegate => "Panel"

def failing (failure : Option String) (error : String → AssetError) : Except AssetError Unit :=
  failure.elim (.ok ()) fun message => .error (error message)

def managerWork (d : Description) : ManagerWork :=
  let base : ManagerWork := {
    flushCaches := fun _ => failing d.flushFailure .inputValidation
    resolve := fun _ => d.resolution.resolve }
  match d.referenceStart with
  | none => base
  | some start => { base with isReference := fun _ candidate => .ok (candidate.startsWith start) }

def work (d : Description) : (c : Capability) → c.Work
  | .manager => d.managerWork
  | .uiDelegate => { close := fun _ => failing d.closeFailure .configuration }

def implementation (d : Description) (c : Capability) (origin : Origin) : Implementation c where
  identifier _ := d.identifier
  displayName _ := d.displayName.getD s!"{title c} {d.identifier}"
  info _ := d.info.mapError .configuration
  settings history := .ok (d.settings.kept history)
  configure _ := d.settings.configure c
  work := d.work c
  origin := origin

def construct (d : Description) (c : Capability) (origin : Origin) :
    Except AssetError (Implementation c) :=
  d.constructionFailure.elim (.ok (d.implementation c origin)) fun message =>
    .error (.configuration message)

end Description

end AssetLink
