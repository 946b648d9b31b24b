import AssetLink.Files.Path
import AssetLink.Files.Tree

/-!
Where a path leads. Names are taken one after the other; every name needs a
directory to be looked up in, also a name that says nothing. Links are followed,
but no more than a fixed number of them, so that every walk ends.
-/

namespace AssetLink

inductive Walk
  | found (position : List String)
  | missing (position rest : List String)
  | blocked
deriving DecidableEq, Repr

namespace Walk

def maxLinks : Nat := 40

def maxBytes : Nat := 4095

/-- Where names lead from a directory, when `follow` says where links lead. -/
def along (root : Node) (follow : List String → List String → Walk) :
    List String → List String → Walk
  | position, [] => found position
  | position, name :: rest =>
      if (root.find? position).any Node.isDirectory then
        if name = "" ∨ name = "." then along root follow position rest
        else if name = ".." then along root follow position.dropLast rest
        else match root.find? (position ++ [name]) with
          | none => missing position (name :: rest)
          | some (.link target) =>
              if target.isEmpty then blocked
              else follow (if Path.isAbsolute target then [] else position)
                (Path.names target ++ rest)
          | some _ => along root follow (position ++ [name]) rest
      else blocked

def through (root : Node) : Nat → List String → List String → Walk
  | 0 => along root fun _ _ => blocked
  | links + 1 => along root (through root links)

end Walk

end AssetLink
