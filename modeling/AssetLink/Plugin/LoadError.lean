/-!
Why a file does not become a plugin. Every message names the file.
-/

namespace AssetLink

def hostAbi : UInt32 := 1

def hostCore : String := "0.1.0"

def entryPoint : String := "ASSETIO_PLUGIN_DECLARATION"

inductive LoadError
  | unopenable (path fault : String)
  | noEntryPoint (path : String)
  | incompatible (path : String) (abi : UInt32) (core : String)
  | invalid (path reason : String)
deriving DecidableEq, Repr

namespace LoadError

def message : LoadError → String
  | unopenable path fault => s!"failed to open '{path}': {fault}"
  | noEntryPoint path => s!"'{path}' does not export the '{entryPoint}' entry point"
  | incompatible path abi core =>
      s!"'{path}' was built for ABI {abi} (core {core}) but this host provides "
        ++ s!"ABI {hostAbi} (core {hostCore})"
  | invalid path reason => s!"'{path}' is not a valid plugin: {reason}"

end LoadError

end AssetLink
