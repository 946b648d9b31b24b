import AssetLink.Discovery.PluginSource
import AssetLink.Host.Default
import AssetLink.Host.Survey

/-!
A host's session: the world it runs in, and by name the registries, providers
and implementations that it has at hand. Each kind has names of its own: a manager
and a delegate of one name are held side by side. A delegate whose name another
delegate takes is given up.
-/

namespace AssetLink

/-- A provider over the plugin sources of a session. One that is such a source
itself has a place among them. -/
structure NamedProvider where
  capability : Capability
  provider : Provider (Shelf capability) (Implementation capability)
  place : Option Nat := none

structure Session where
  world : World
  managerSources : Shelf .manager := []
  delegateSources : Shelf .uiDelegate := []
  registries : Dictionary Registry := {}
  providers : Dictionary NamedProvider := {}
  managers : Dictionary Manager := {}
  delegates : Dictionary UIDelegate := {}
  released : List UIDelegate := []

namespace Session

def sources (s : Session) : (c : Capability) → Shelf c
  | .manager => s.managerSources
  | .uiDelegate => s.delegateSources

def setSources (s : Session) : (c : Capability) → Shelf c → Session
  | .manager, shelf => { s with managerSources := shelf }
  | .uiDelegate, shelf => { s with delegateSources := shelf }

def after (s : Session) (events : List Event) : Session :=
  { s with world := s.world.afterEvents events }

def onSources {α : Type} (c : Capability) (act : Act (Shelf c) α) : Act Session α :=
  Act.within (·.sources c) (fun shelf s => s.setSources c shelf) act

def addSource (s : Session) (name : String) {c : Capability} (source : PluginSource c) : Session :=
  let shelf := s.sources c
  let s := s.setSources c (shelf ++ [source])
  { s with providers := s.providers.insert name ⟨c, .shelved c shelf.length, some shelf.length⟩ }

def addProvider (s : Session) (name : String) {c : Capability}
    (provider : Provider (Shelf c) (Implementation c)) : Session :=
  { s with providers := s.providers.insert name ⟨c, provider, none⟩ }

def provider? (s : Session) (c : Capability) (name : String) :
    Option (Provider (Shelf c) (Implementation c)) := do
  let named ← s.providers.get? name
  if h : named.capability = c then return h ▸ named.provider else none

def resetSource (s : Session) (c : Capability) (place : Nat) : Session :=
  let shelf := s.sources c
  s.setSources c (shelf.set place (shelf.getD place {}).reset)

def release (delegate : UIDelegate) : Act Session Unit := do
  let ((), delegate) ← (UIDelegate.release delegate : Logged _)
  modify fun s => { s with released := delegate :: s.released }

def hold (name : String) : (c : Capability) → Held c → Act Session Unit
  | .manager, manager =>
      modify fun s => { s with managers := s.managers.insert name manager }
  | .uiDelegate, delegate => do
      let s ← get
      set { s with delegates := s.delegates.insert name delegate }
      if let some old := s.delegates.get? name then release old

def held (s : Session) : (c : Capability) → Dictionary (Held c)
  | .manager => s.managers
  | .uiDelegate => s.delegates

def setHeld (s : Session) : (c : Capability) → Dictionary (Held c) → Session
  | .manager, managers => { s with managers }
  | .uiDelegate, delegates => { s with delegates }

def ask {α : Type} (name : String) (c : Capability) (call : Act (Held c) α) :
    Act Session (Option α) := do
  match ((← get).held c).get? name with
  | none => return none
  | some held =>
      let (answer, held) ← (call held : Logged _)
      modify fun s => s.setHeld c ((s.held c).insert name held)
      return some answer

def drop (name : String) : Act Session Unit := do
  let s ← get
  set { s with delegates := s.delegates.erase name }
  if let some delegate := s.delegates.get? name then release delegate

/-- Keep count of what was given up before it could be held. -/
def recordFailure {c : Capability} (failure : DefaultFailure c) (s : Session) : Session :=
  match c, failure.abandoned with
  | .uiDelegate, some delegate => { s with released := delegate :: s.released }
  | _, _ => s

/-- How often delegates that the host supplied were closed. -/
def closes (s : Session) : Nat :=
  ((s.delegates.entries.map (·.2) ++ s.released).map fun delegate =>
    if delegate.implementation.origin = .host then delegate.closes else 0).foldr (· + ·) 0

end Session

end AssetLink
