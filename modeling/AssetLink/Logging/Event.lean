import AssetLink.Capability
import AssetLink.AssetError
import AssetLink.Plugin.LoadError

/-!
What discovery and hosts log. An event is kept as what happened; its level, its
message and its further fields follow from that.
-/

namespace AssetLink

inductive Level
  | debug
  | info
  | warn
  | error
deriving DecidableEq, Repr

def Level.name : Level → String
  | debug => "DEBUG"
  | info => "INFO"
  | warn => "WARN"
  | error => "ERROR"

inductive Event
  | note (level : Level) (text : String)
  | notDirectory (path : String)
  | unreadableDirectory (path fault : String)
  | unreadableEntry (directory fault : String)
  | loading (path loader : String)
  | libraryLoaded (path : String)
  | ignored (error : LoadError)
  | unclaimed (path : String)
  | registered (identifier path : String)
  | duplicate (identifier path kept : String)
  | unsupported (c : Capability) (identifier path : String)
  | noSearchPaths (environmentVariable : String)
  | pathsOverridden (environmentVariable : String)
  | configUnset (c : Capability) (environmentVariable : String)
  | configFound (c : Capability) (environmentVariable : String)
  | loadingConfig (c : Capability) (path : String)
  | configuring (c : Capability) (identifier : String) (settings : Nat)
  | closeFailed (identifier : String) (error : AssetError)
deriving DecidableEq

namespace Event

def level : Event → Level
  | note level _ => level
  | unreadableDirectory .. | unreadableEntry .. | ignored .. | duplicate .. | unsupported ..
  | noSearchPaths .. | pathsOverridden .. => .warn
  | closeFailed .. => .error
  | _ => .debug

def message : Event → String
  | note _ text => text
  | notDirectory path => s!"PluginSystem: Skipping '{path}' as it is not a directory"
  | unreadableDirectory path fault => s!"PluginSystem: Unable to read '{path}': {fault}"
  | unreadableEntry directory fault =>
      s!"PluginSystem: Unable to read an entry of '{directory}': {fault}"
  | loading path loader => s!"PluginSystem: Loading '{path}' with the {loader} loader"
  | libraryLoaded _ => "loaded native plugin library"
  | ignored error => s!"PluginSystem: Ignoring plug-in: {error.message}"
  | unclaimed path => s!"PluginSystem: Ignoring '{path}' as no loader handles it"
  | registered identifier path =>
      s!"PluginSystem: Registered plug-in '{identifier}' from '{path}'"
  | duplicate identifier path kept =>
      s!"PluginSystem: Skipping '{identifier}' from '{path}' as the identifier is already "
        ++ s!"registered by '{kept}'"
  | unsupported c identifier path => c.refusal identifier path
  | noSearchPaths name =>
      s!"No search paths specified, no plugins will load - check ${name} is set"
  | pathsOverridden name =>
      s!"{name} environment variable overrides plugin paths in config file"
  | configUnset c name => s!"{name} not set, unable to instantiate default {c.name}."
  | configFound c name => s!"Retrieved default {c.name} config file path from '{name}'"
  | loadingConfig c path => s!"Loading default {c.name} config at '{path}'"
  | configuring _ _ settings => s!"initializing with {settings} setting(s)"
  | closeFailed identifier error =>
      s!"Error closing UI delegate '{identifier}': {error.message}"

def fields : Event → List (String × String)
  | libraryLoaded path => [("path", path)]
  | configuring c identifier _ => [(c.field, identifier)]
  | _ => []

end Event

end AssetLink
