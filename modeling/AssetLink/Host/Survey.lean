import AssetLink.Discovery.Provider
import AssetLink.Host.Held

/-!
What a provider has to offer. To learn the details of an implementation it is
made and asked; the first failure ends the survey, and without all details there
are none.
-/

namespace AssetLink

structure Detail where
  identifier : String
  displayName : String
  info : InfoDictionary
deriving DecidableEq

def Held.detail {c : Capability} : Attempt (Held c) Detail := do
  let identifier ← (Held.identifier : Act (Held c) String)
  let displayName ← (Held.displayName : Act (Held c) String)
  return ⟨identifier, displayName, ← Held.info⟩

structure Survey (σ : Type) (c : Capability) where
  provider : σ
  details : Dictionary Detail := {}
  made : List (Held c) := []

namespace Survey

variable {σ : Type} {c : Capability}

def onProvider {α : Type} (act : Act σ α) : Act (Survey σ c) α :=
  Act.within (·.provider) (fun provider s => { s with provider }) act

def look (provider : Provider σ (Implementation c)) (w : World) (identifier : String) :
    Attempt (Survey σ c) Unit := do
  let implementation ← ExceptT.mk (onProvider (provider.instantiate w identifier).run)
  let (answer, held) ← (Held.detail.run ⟨implementation, []⟩ : Logged _)
  modify fun s => { s with made := s.made ++ [held] }
  let detail ← Attempt.ofExcept answer
  modify fun s => { s with details := s.details.insert identifier detail }

def run (provider : Provider σ (Implementation c)) (w : World) : Attempt (Survey σ c) Unit := do
  let identifiers ← (onProvider (provider.identifiers w) : Act (Survey σ c) _)
  identifiers.forM (look provider w)

end Survey

def Provider.available {σ : Type} {c : Capability} (provider : Provider σ (Implementation c))
    (w : World) : Attempt σ (Dictionary Detail) :=
  ExceptT.mk fun s => do
    let (outcome, survey) ← (Survey.run provider w).run { provider := s }
    return (outcome.map fun () => survey.details, survey.provider)

def Provider.create {σ : Type} {c : Capability} (provider : Provider σ (Implementation c))
    (w : World) (identifier : String) : Attempt σ (Held c) := do
  return ⟨← provider.instantiate w identifier, []⟩

end AssetLink
