import AssetLink.Discovery.Loading
import AssetLink.Implementation.Description
import AssetLink.Text.Blank

/-!
Plugins described by text files. Each line of such a file gives a key and a
value; `kind` says what the plugin provides and `identifier` what it is called.
-/

namespace AssetLink

structure DescriptionFile where
  kind : String := "manager"
  identifier : String := ""

namespace DescriptionFile

def readLine (file : DescriptionFile) (line : String) : DescriptionFile :=
  match Text.splitFirst? '=' line with
  | some (key, value) =>
      if Text.trim key = "kind" then { file with kind := Text.trim value }
      else if Text.trim key = "identifier" then { file with identifier := Text.trim value }
      else file
  | none => file

/-- Of several lines with one key the last counts. -/
def ofText (text : String) : DescriptionFile :=
  (Text.pieces '\n' text).foldl readLine {}

def titled (file : DescriptionFile) : Description where
  id := file.identifier
  displayName := some s!"Stub {file.identifier}"

def failing (file : DescriptionFile) : Description where
  id := file.identifier
  constructionFailure := some s!"{file.identifier} could not be constructed"

def storing (file : DescriptionFile) : Description where
  id := file.identifier
  settings := .keepUnless "fail"
  resolution := .all
  referenceStart := some "stub://"

def provision? (file : DescriptionFile) : Option (Capability → Option Description) :=
  match file.kind with
  | "manager" => some fun c => if c = .manager then some file.titled else none
  | "failing" => some fun c => if c = .manager then some file.failing else none
  | "storing" => some fun c => if c = .manager then some file.storing else none
  | "ui" => some fun c => if c = .uiDelegate then some file.titled else none
  | "both" => some fun _ => some file.titled
  | "plain" => some fun _ => none
  | _ => none

def plugin? (file : DescriptionFile) : Option Plugin :=
  file.provision?.map fun provision => {
    identifier := file.identifier
    provides := fun c => (provision c).map (·.construct c .plugin) }

end DescriptionFile

namespace Loader

/-- Files with an extension that describe plugins. A loader that is `asking`
logs how far the scan has come before it reads a file. -/
def describing (name extension : String) (asking : Bool) : Loader where
  name := name
  isCandidate _ path := Path.extension? path == some extension
  load world phase path := do
    if asking then
      if let some phase := phase then
        Logged.log (.note .info s!"state while loading: {phase.name}")
    match world.readText path with
    | .error _ => throw (.invalid path "unreadable")
    | .ok text =>
        let file := DescriptionFile.ofText text
        match file.plugin? with
        | none => throw (.invalid path s!"unknown kind '{file.kind}'")
        | some plugin => ExceptT.mk (pure (LoadedPlugin.ofPlugin path plugin))

end Loader

end AssetLink
