import AssetLink.Files.Path

/-!
How the system takes the name under which a library is to be opened. A name
without a slash is looked up among the libraries of the system; in any other one
tokens after a dollar sign are replaced by places of the system.
-/

namespace AssetLink.LibraryName

def tokens : List (String × String) := [
  ("ORIGIN", "/usr/bin"),
  ("PLATFORM", "x86_64"),
  ("LIB", "lib/x86_64-linux-gnu")]

def systemLibraries : List String := [
  "ld-linux-x86-64.so.2", "libanl.so.1", "libc.so.6", "libdl.so.2", "libgcc_s.so.1", "libm.so.6",
  "libpthread.so.0", "libresolv.so.2", "librt.so.1", "libutil.so.1", "linux-vdso.so.1"]

def isTokenChar (c : Char) : Bool :=
  c.isAlphanum || c == '_'

/-- The token at the front, as how many characters it takes and what stands for
it. A token is in braces, or ends where no more of a name follows. -/
def tokenAt? (cs : List Char) : Option (Nat × String) :=
  tokens.findSome? fun (token, place) =>
    let name := token.toList
    if ('{' :: name ++ ['}']).isPrefixOf cs then some (name.length + 2, place)
    else if name.isPrefixOf cs && !(cs.drop name.length).head?.any isTokenChar then
      some (name.length, place)
    else none

def expandAfter : Nat → List Char → List Char
  | _, [] => []
  | skip + 1, _ :: rest => expandAfter skip rest
  | 0, c :: rest =>
      match if c = '$' then tokenAt? rest else none with
      | some (count, place) => place.toList ++ expandAfter count rest
      | none => c :: expandAfter 0 rest

/-- A name as the system reads it: up to a zero character that closes it. -/
def closed (name : String) : String :=
  if name.toList.getLast? = some '\x00' then .ofList name.toList.dropLast else name

def path (name : String) : String :=
  .ofList (expandAfter 0 name.toList)

theorem expandAfter_eq_self {cs : List Char} (h : '$' ∉ cs) : expandAfter 0 cs = cs := by
  induction cs with
  | nil => rfl
  | cons c rest ih =>
      rw [List.mem_cons, not_or] at h
      simp [expandAfter, Ne.symm h.1, ih h.2]

end AssetLink.LibraryName
