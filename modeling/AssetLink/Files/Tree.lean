import AssetLink.Plugin.Library

/-!
Directory trees as values. A directory lists its entries in the order in which
the system hands them out, which need not be that of their names.
-/

namespace AssetLink

/-- What reading a file as text gives, and what opening it as a library gives. -/
structure File where
  text : Except String String
  library : Except String Library

namespace File

def notLibrary : Except String Library :=
  .error "invalid ELF header"

def ofText (text : String) : File where
  text := .ok text
  library := notLibrary

/-- Bytes that are not text in UTF-8 cannot be read as text. -/
def ofBytes (bytes : List UInt8) : File where
  text := (String.fromUTF8? ⟨bytes.toArray⟩).elim
    (.error "stream did not contain valid UTF-8") .ok
  library := notLibrary

def ofLibrary (library : Library) : File where
  text := .error "stream did not contain valid UTF-8"
  library := .ok library

end File

inductive Node
  | file (content : File)
  | link (target : String)
  /-- Some entries may be unreadable, with `faults`; with a `fault` all are. -/
  | directory (entries : List (String × Node)) (faults : List String) (fault : Option String)

namespace Node

def emptyDirectory : Node :=
  directory [] [] none

instance : Inhabited Node := ⟨emptyDirectory⟩

def isDirectory : Node → Bool
  | directory .. => true
  | _ => false

def isFile : Node → Bool
  | file _ => true
  | _ => false

def entry? : Node → String → Option Node
  | directory entries _ _, name => entries.lookup name
  | _, _ => none

def find? : Node → List String → Option Node
  | node, [] => some node
  | node, name :: rest => (node.entry? name).bind (·.find? rest)

def alterEntry (name : String) (f : Option Node → Option Node) :
    List (String × Node) → List (String × Node)
  | [] => (f none).elim [] fun node => [(name, node)]
  | entry :: rest =>
      if entry.1 = name then
        (f (some entry.2)).elim rest fun node => (name, node) :: rest
      else entry :: alterEntry name f rest

def alter (f : Option Node → Option Node) : List String → Option Node → Option Node
  | [], node => f node
  | name :: rest, some (directory entries faults fault) =>
      some (directory (alterEntry name (alter f rest) entries) faults fault)
  | name :: rest, none => some (directory (alterEntry name (alter f rest) []) [] none)
  | _ :: _, some node => some node

theorem find?_append (node : Node) (names more : List String) :
    node.find? (names ++ more) = (node.find? names).bind (·.find? more) := by
  induction names generalizing node with
  | nil => simp [find?]
  | cons name rest ih =>
      simp only [List.cons_append, find?]
      cases node.entry? name with
      | none => rfl
      | some entry => exact ih entry

end Node

end AssetLink
