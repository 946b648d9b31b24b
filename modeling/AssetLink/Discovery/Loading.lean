import AssetLink.Files.World

/-!
Loaders. A loader decides which files it understands and turns one of them into
a plugin. While it does so it can ask how far the scan has come that it works
for.
-/

namespace AssetLink

inductive ScanPhase
  | unscanned
  | scanning
  | scanned
deriving DecidableEq, Repr

def ScanPhase.name : ScanPhase → String
  | unscanned => "Unscanned"
  | scanning => "Scanning"
  | scanned => "Scanned"

structure Loader where
  name : String
  isCandidate : World → String → Bool
  /-- The phase is that of the source that scans, if one does. -/
  load : World → Option ScanPhase → String → Loading LoadedPlugin

/-- The world after what was logged in it: every library that was used stays
loaded. -/
def World.afterEvents (w : World) (events : List Event) : World :=
  events.foldl (fun w event =>
    match event with
    | .libraryLoaded path => w.keepLibrary path
    | _ => w) w

namespace Loader

def native : Loader where
  name := "native"
  isCandidate world path := world.isFile path && Path.extension? path == some "so"
  load world _ path :=
    match world.openLibrary path with
    | .ok library => library.load path
    | .error fault => throw (.unopenable path fault)

end Loader

end AssetLink
