import AssetLink.Implementation.Description
import AssetLink.Plugin.Library

/-!
Libraries to try a host with: some that it accepts, and some that it must
refuse.
-/

namespace AssetLink.Library

def exporting (plugin : Plugin) : Library where
  declaration := some ⟨hostAbi, hostCore, pure plugin⟩

namespace Sample

def identifier : String := "org.example.native"

def manager : Implementation .manager where
  identifier _ := identifier
  displayName _ := "Native Fixture"
  info _ := .ok (.ofList [("entity_reference_prefix", .str "native://")])
  work := {}

def plugin : Plugin where
  identifier := identifier
  provides
    | .manager => some (.ok manager)
    | .uiDelegate => none

def compatible : Library :=
  exporting plugin

def noEntryPoint : Library :=
  undeclared

def foreignAbi : Library where
  declaration := some ⟨hostAbi + 1, hostCore, pure plugin⟩

def foreignCore : Library where
  declaration := some ⟨hostAbi, "9.9.9", pure plugin⟩

def nameless : Library :=
  exporting { plugin with identifier := "" }

def described (c : Capability) (d : Description) : Plugin where
  identifier := d.id
  provides c' := if h : c' = c then some (h ▸ d.construct c .plugin) else none

def delegateOnly : Library :=
  exporting (described .uiDelegate
    { id := "org.example.native.ui", displayName := some "Native UI" })

def failing : Library :=
  exporting (described .manager
    { id := "org.example.native.failing"
      constructionFailure := some "native construction failed" })

def storing : Library :=
  exporting (described .manager
    { id := "org.example.native.storing"
      displayName := some "Native Storing"
      settings := .keep })

def named? : String → Option Library
  | "compatible" => some compatible
  | "no-entry-point" => some noEntryPoint
  | "foreign-abi" => some foreignAbi
  | "foreign-core" => some foreignCore
  | "nameless" => some nameless
  | "ui" => some delegateOnly
  | "failing" => some failing
  | "storing" => some storing
  | _ => none

end Sample

end AssetLink.Library
