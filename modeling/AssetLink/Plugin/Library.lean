import AssetLink.Logging.Logged
import AssetLink.Plugin.Basic

/-!
Native libraries as a host sees them. A library exports at most one declaration,
which says what it was built against and builds its plugin. Building the plugin
runs code of the library, which may log; the versions are read without running
any.
-/

namespace AssetLink

abbrev Loading (α : Type) := ExceptT LoadError Logged α

structure Declaration where
  abi : UInt32
  core : String
  create : Logged Plugin

namespace Declaration

def isCompatible (d : Declaration) : Bool :=
  d.abi == hostAbi && d.core == hostCore

/-- Of a library with another layout not even the version it was built against
can be read. -/
def incompatibility (d : Declaration) (path : String) : LoadError :=
  .incompatible path d.abi (if d.abi = hostAbi then d.core else "unknown")

end Declaration

structure Library where
  declaration : Option Declaration

namespace Library

def undeclared : Library where
  declaration := none

def load (library : Library) (path : String) : Loading LoadedPlugin := do
  match library.declaration with
  | none => throw (.noEntryPoint path)
  | some declaration =>
      if declaration.isCompatible then
        let plugin ← declaration.create
        Logged.log (.libraryLoaded path)
        ExceptT.mk (pure (LoadedPlugin.ofPlugin path plugin))
      else throw (declaration.incompatibility path)

end Library

end AssetLink
