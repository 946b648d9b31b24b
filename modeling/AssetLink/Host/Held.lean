import AssetLink.Implementation.Basic
import AssetLink.Logging.Logged
import AssetLink.Text.Quoted

/-!
An implementation as a host holds it. The host passes calls on and hands back
the answers unchanged, and every call that the implementation receives is kept.
-/

namespace AssetLink

structure Held (c : Capability) where
  implementation : Implementation c
  received : History := []

abbrev Manager := Held .manager

abbrev UIDelegate := Held .uiDelegate

namespace Held

variable {c : Capability} {α : Type}

def ask (call : Call) (answer : Implementation c → History → α) : Act (Held c) α :=
  fun held =>
    pure (answer held.implementation held.received,
      { held with received := held.received ++ [call] })

def request (call : Call) (answer : Implementation c → History → Except AssetError α) :
    Attempt (Held c) α :=
  ExceptT.mk (ask call answer)

def identifier : Act (Held c) String :=
  ask .identifier (·.identifier)

def displayName : Act (Held c) String :=
  ask .displayName (·.displayName)

def info : Attempt (Held c) InfoDictionary :=
  request .info (·.info)

def settings : Attempt (Held c) InfoDictionary :=
  request .settings (·.settings)

/-- The identifier is asked for to be logged. That assumes a subscriber who listens to
debug events; without one a host skips the question. -/
def configure (settings : InfoDictionary) : Attempt (Held c) Unit := do
  let identifier ← (identifier : Act (Held c) String)
  Logged.log (.configuring c identifier settings.size)
  request (.configure settings) fun implementation history =>
    implementation.configure history settings

def text : Act (Held c) String := do
  let identifier ← identifier
  return s!"{c.typeName} \x7b identifier: {Text.quoted identifier} \x7d"

end Held

namespace Manager

def flushCaches : Attempt Manager Unit :=
  Held.request .flushCaches (·.work.flushCaches)

def isReference (candidate : String) : Attempt Manager Bool :=
  Held.request (.isReference candidate) fun implementation history =>
    implementation.work.isReference history candidate

def createReference (candidate : String) : Attempt Manager EntityReference := do
  if ← isReference candidate then return ⟨candidate⟩
  else throw (.inputValidation s!"Invalid entity reference: {candidate}")

def resolve (references : List EntityReference) (traitIds : TraitSet) :
    Attempt Manager (List TraitsData) := do
  let results ← Held.request (.resolve references traitIds) fun implementation history =>
    implementation.work.resolve history references traitIds
  if results.length = references.length then return results
  else
    let identifier ← (Held.identifier : Act Manager String)
    throw (.inputValidation (s!"Manager '{identifier}' resolved {results.length} result(s) for "
      ++ s!"{references.length} entity reference(s)"))

def resolveOne (reference : EntityReference) (traitIds : TraitSet) : Attempt Manager TraitsData := do
  match (← resolve [reference] traitIds).getLast? with
  | some result => return result
  | none => throw (.inputValidation "Manager returned no result")

end Manager

namespace UIDelegate

def close : Attempt UIDelegate Unit :=
  Held.request .close (·.work.close)

def closes (delegate : UIDelegate) : Nat :=
  delegate.received.count .close

/-- Give a delegate up. It is closed once more; if that fails, the failure is
logged and not handed back. As for `configure`, the identifier is assumed to be wanted
for the log. -/
def release : Act UIDelegate Unit := do
  match ← close.run with
  | .ok () => return ()
  | .error e =>
      let identifier ← Held.identifier
      Logged.log (.closeFailed identifier e)

end UIDelegate

/-- Give up what is held. Only UI delegates need anything done. -/
def Held.release : (c : Capability) → Act (Held c) Unit
  | .manager => pure ()
  | .uiDelegate => UIDelegate.release

end AssetLink
