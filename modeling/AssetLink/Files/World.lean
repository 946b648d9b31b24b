import AssetLink.Files.LibraryName
import AssetLink.Files.Walk

/-!
The world that discovery looks at: a directory tree, a working directory,
environment variables, and the libraries that stay loaded. A library that stays
is found under the path for which it was opened, whatever becomes of the file.
The TOML reader is foreign as well; a world says how it words its complaints.
-/

namespace AssetLink

structure World where
  root : Node := .emptyDirectory
  workingDirectory : List String := []
  environment : Dictionary String := {}
  resident : Dictionary Library := {}
  /-- What the TOML reader says of a text that it does not accept. -/
  tomlComplaint : String → String := fun _ => ""

structure Contents where
  names : List String
  faults : List String

namespace World

def walk (w : World) (path : String) : Walk :=
  if path.isEmpty ∨ Walk.maxBytes < path.utf8ByteSize then .blocked
  else Walk.through w.root Walk.maxLinks
    (if Path.isAbsolute path then [] else w.workingDirectory) (Path.names path)

def position? (w : World) (path : String) : Option (List String) :=
  match w.walk path with
  | .found position => some position
  | _ => none

def node? (w : World) (path : String) : Option Node :=
  (w.position? path).bind w.root.find?

def isPresent (w : World) (path : String) : Bool :=
  (w.node? path).isSome

def isDirectory (w : World) (path : String) : Bool :=
  (w.node? path).any Node.isDirectory

def isFile (w : World) (path : String) : Bool :=
  (w.node? path).any Node.isFile

def readText (w : World) (path : String) : Except String String :=
  match w.node? path with
  | some (.file content) => content.text
  | some (.directory ..) => .error "Is a directory (os error 21)"
  | _ => .error "No such file or directory (os error 2)"

/-- The library under a name that leads to no file that was opened before. The
empty name stands for the host itself. Neither the host nor a library of the
system is a plugin's library. -/
def findLibrary (w : World) (name : String) : Except String Library :=
  if name.isEmpty ∨ name ∈ LibraryName.systemLibraries then .ok .undeclared
  else
    let file := if name.contains '/' then w.node? (LibraryName.path name) else none
    match file with
    | some (.file content) => content.library
    | _ => .error "cannot open shared object file: No such file or directory"

def openLibrary (w : World) (name : String) : Except String Library :=
  let file := LibraryName.closed name
  (w.resident.get? file).elim (w.findLibrary file) .ok

def keepLibrary (w : World) (name : String) : World :=
  match w.openLibrary name with
  | .ok library => { w with resident := w.resident.insert (LibraryName.closed name) library }
  | .error _ => w

def contents (w : World) (path : String) : Except String Contents :=
  match w.node? path with
  | some (.directory entries faults fault) =>
      fault.elim (.ok ⟨entries.map (·.1), faults⟩) .error
  | _ => .error "Not a directory (os error 20)"

def directoryOf? (w : World) (path : String) : Option String :=
  (w.position? path).map fun position => Path.ofNames position.dropLast

def alterAt (w : World) (position : List String) (f : Option Node → Option Node) : World :=
  { w with root := (Node.alter f position (some w.root)).getD .emptyDirectory }

/-- Put a node where names lead from a directory, in at most as many steps as
given: each but the last makes a directory that is missing on the way. -/
def placeAlong (node : Node) : Nat → World → List String → List String → World
  | 0, w, _, _ => w
  | count + 1, w, start, names =>
      match Walk.through w.root Walk.maxLinks start names with
      | .found position =>
          w.alterAt position fun old =>
            if node.isFile && old.any Node.isFile then some node else old
      | .missing position (name :: rest) =>
          let here := position ++ [name]
          if rest.all fun name => name == "" || name == "." then w.alterAt here fun _ => some node
          else placeAlong node count (w.alterAt here fun _ => some .emptyDirectory) here rest
      | _ => w

/-- Put a node where a path leads, with the directories that lead there. A file
takes the place of a file; anything else that is there stays. -/
def place (w : World) (path : String) (node : Node) : World :=
  if path.isEmpty then w
  else
    let start := if Path.isAbsolute path then [] else w.workingDirectory
    let names := Path.names path
    placeAlong node (names.length + 1) w start names

def remove (w : World) (path : String) : World :=
  let names := (Path.names path).filter fun name => name != "" && name != "."
  let start := if Path.isAbsolute path then [] else w.workingDirectory
  match Walk.through w.root Walk.maxLinks start names.dropLast, names.getLast? with
  | .found position, some name => w.alterAt (position ++ [name]) fun _ => none
  | _, _ => w

/-- The value of a variable. A variable and its value are kept as one text with
an equals sign between them, so that a name with such a sign reaches into a
value. -/
def valueOf? (w : World) (name : String) : Option String :=
  match Text.splitFirst? '=' name with
  | none => w.environment.get? name
  | some (before, rest) => do
      let value := (← w.environment.get? before).toList
      let start := rest.toList ++ ['=']
      if start.isPrefixOf value then return .ofList (value.drop start.length) else none

def setVariable (w : World) (name : String) (value : Option String) : World :=
  { w with environment := match value with
      | some text => w.environment.insert name text
      | none => w.environment.erase name }

theorem openLibrary_keepLibrary (w : World) (name other : String) :
    (w.keepLibrary name).openLibrary other = w.openLibrary other := by
  unfold keepLibrary
  cases h : w.openLibrary name with
  | error fault => rfl
  | ok library =>
      by_cases heq : LibraryName.closed other = LibraryName.closed name
      · have hname : w.openLibrary other = .ok library := by
          rw [← h, openLibrary, openLibrary, heq]
        rw [hname]
        simp [openLibrary, heq]
      · simp only [openLibrary, Dictionary.get?_insert, if_neg heq]
        rfl

end World

end AssetLink
