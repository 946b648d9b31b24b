import AssetLink.Implementation.Basic
import AssetLink.Plugin.LoadError
import AssetLink.Text.Quoted

/-!
Plugins: units known by an identifier that make implementations. A plugin is
asked which capabilities it has, and may have any of them or none.
-/

namespace AssetLink

structure Plugin where
  identifier : String
  /-- For a capability that it has, the implementation it makes or the error
  with which making one fails. It is assumed not to change: a plugin is asked anew
  each time, and always gives the same answers. -/
  provides : (c : Capability) → Option (Except AssetError (Implementation c)) := fun _ => none

namespace Plugin

def query (plugin : Plugin) (c : Capability) :
    Except String (Except AssetError (Implementation c)) :=
  (plugin.provides c).elim (.error c.lack) .ok

def supports (plugin : Plugin) (c : Capability) : Bool :=
  (plugin.provides c).isSome

end Plugin

structure LoadedPlugin where
  identifier : String
  path : String
  plugin : Plugin

namespace LoadedPlugin

def ofPlugin (path : String) (plugin : Plugin) : Except LoadError LoadedPlugin :=
  if plugin.identifier.isEmpty then .error (.invalid path "plugin identifier is empty")
  else .ok ⟨plugin.identifier, path, plugin⟩

def text (loaded : LoadedPlugin) : String :=
  s!"LoadedPlugin \x7b identifier: {Text.quoted loaded.identifier}, "
    ++ s!"path: {Text.quoted loaded.path}, .. \x7d"

end LoadedPlugin

end AssetLink
