import AssetLink.Text.Pieces

/-!
Paths as text. Slashes separate names; repeated slashes and the name `.` say
nothing, and `..` names the directory above.
-/

namespace AssetLink.Path

def names (path : String) : List String :=
  Text.pieces '/' path

def isAbsolute (path : String) : Bool :=
  path.startsWith "/"

/-- The name of the file itself. A path that ends above it has none. -/
def fileName? (path : String) : Option String :=
  match ((names path).filter fun name => name != "" && name != ".").getLast? with
  | some ".." => none
  | last => last

/-- What follows the last dot of a name, unless nothing stands before that
dot. -/
def extensionOf? (name : String) : Option String :=
  match name.toList.reverse.span (· != '.') with
  | (after, _ :: before) =>
      if before.isEmpty then none else some (.ofList after.reverse)
  | (_, []) => none

def extension? (path : String) : Option String :=
  (fileName? path).bind extensionOf?

def join (directory name : String) : String :=
  if directory.endsWith "/" then directory ++ name else directory ++ "/" ++ name

def ofNames (names : List String) : String :=
  "/" ++ "/".intercalate names

def ofSearchList (value : String) : List String :=
  Text.pieces ':' value

end AssetLink.Path
