import AssetLink.Files.World
import Mathlib.Data.List.Perm.Basic
import Mathlib.Data.Option.Defs

/-!
The order in which directories hand out their entries. Everything that is looked up
by its path is the same in every such order; only the listing of a directory shows
it.
-/

namespace AssetLink

theorem lookup_eq_of_perm {α : Type} {entries others : List (String × α)}
    (perm : entries.Perm others) (once : (entries.map (·.1)).Nodup) (key : String) :
    entries.lookup key = others.lookup key := by
  induction perm with
  | nil => rfl
  | cons entry _ ih =>
      rcases entry with ⟨name, value⟩
      rw [List.map_cons, List.nodup_cons] at once
      simp only [List.lookup_cons, ih once.2]
  | swap entry other rest =>
      rcases entry with ⟨name, value⟩
      rcases other with ⟨otherName, otherValue⟩
      have ne : otherName ≠ name := by
        rw [List.map_cons, List.map_cons, List.nodup_cons, List.mem_cons, not_or] at once
        exact once.1.1
      by_cases first : key = otherName
      · subst first
        rw [lookup_cons_ne value ne, List.lookup_cons_self, List.lookup_cons_self]
      · rw [lookup_cons_ne otherValue first]
        simp only [List.lookup_cons, beq_false_of_ne first]
  | trans first _ ih ih' => rw [ih once, ih' ((first.map _).nodup_iff.1 once)]

namespace Node

/-- The same tree with the entries of its directories, no two of which have one
name, in another order. -/
inductive Reordered : Node → Node → Prop
  | refl (node : Node) : Reordered node node
  | directory {entries others : List (String × Node)} {faults otherFaults : List String}
      (once : (entries.map (·.1)).Nodup) (perm : entries.Perm others)
      (faultsPerm : faults.Perm otherFaults) (fault : Option String) :
      Reordered (directory entries faults fault) (directory others otherFaults fault)
  | within {node other : Node} (before after : List (String × Node)) (name : String)
      (faults : List String) (fault : Option String) (inner : Reordered node other) :
      Reordered (directory (before ++ (name, node) :: after) faults fault)
        (directory (before ++ (name, other) :: after) faults fault)
  | trans {first second third : Node} (left : Reordered first second)
      (right : Reordered second third) : Reordered first third

/-- What can be seen of two nodes without looking into the entries of either is the
same, but for the order in which directories list them. -/
inductive Alike : Node → Node → Prop
  | file (content : File) : Alike (file content) (file content)
  | link (target : String) : Alike (link target) (link target)
  | directory {entries others : List (String × Node)} {faults otherFaults : List String}
      (names : (entries.map (·.1)).Perm (others.map (·.1))) (faultsPerm : faults.Perm otherFaults)
      (fault : Option String) :
      Alike (directory entries faults fault) (directory others otherFaults fault)

theorem Alike.refl (node : Node) : Alike node node := by
  cases node with
  | file content => exact .file content
  | link target => exact .link target
  | directory entries faults fault => exact .directory (.refl _) (.refl _) fault

theorem Alike.trans {first second third : Node} (left : Alike first second)
    (right : Alike second third) : Alike first third := by
  cases left with
  | file | link => exact right
  | directory names faultsPerm fault =>
      cases right with
      | directory names' faultsPerm' =>
          exact .directory (names.trans names') (faultsPerm.trans faultsPerm') fault

theorem rel_alike_refl (node? : Option Node) : Option.Rel Alike node? node? := by
  cases node? with
  | none => exact .none
  | some node => exact .some (.refl node)

theorem rel_alike_trans {first second third : Option Node} (left : Option.Rel Alike first second)
    (right : Option.Rel Alike second third) : Option.Rel Alike first third := by
  cases left with
  | none => exact right
  | some left =>
      cases right with
      | some right => exact .some (left.trans right)

theorem find?_directory (entries : List (String × Node)) (faults : List String)
    (fault : Option String) (name : String) (rest : List String) :
    (directory entries faults fault).find? (name :: rest) =
      (entries.lookup name).bind (·.find? rest) := rfl

theorem Reordered.find? {node other : Node} (h : Reordered node other) (position : List String) :
    Option.Rel Alike (node.find? position) (other.find? position) := by
  induction h generalizing position with
  | refl node => exact rel_alike_refl _
  | directory once perm faultsPerm fault =>
      cases position with
      | nil => exact .some (.directory (perm.map _) faultsPerm fault)
      | cons name rest =>
          rw [find?_directory, find?_directory, lookup_eq_of_perm perm once]
          exact rel_alike_refl _
  | @within node other before after name faults fault _ ih =>
      cases position with
      | nil => exact .some (.directory (by simp) (.refl faults) fault)
      | cons first rest =>
          rw [find?_directory, find?_directory, List.lookup_append, List.lookup_append]
          cases before.lookup first with
          | some found => exact rel_alike_refl _
          | none =>
              simp only [Option.none_or, List.lookup_cons]
              cases first == name with
              | true => exact ih rest
              | false => exact rel_alike_refl _
  | trans _ _ ih ih' => exact rel_alike_trans (ih position) (ih' position)

theorem isDirectory_of_rel {first second : Option Node} (h : Option.Rel Alike first second) :
    second.any isDirectory = first.any isDirectory := by
  cases h with
  | none => rfl
  | some alike => cases alike <;> rfl

end Node

namespace Walk

variable {root other : Node}

theorem along_eq
    (alike : ∀ position, Option.Rel Node.Alike (root.find? position) (other.find? position))
    {follow again : List String → List String → Walk}
    (follows : ∀ start names, again start names = follow start names) (start names : List String) :
    along other again start names = along root follow start names := by
  induction names generalizing start with
  | nil => rfl
  | cons name rest ih =>
      have there := alike (start ++ [name])
      rw [along, along, Node.isDirectory_of_rel (alike start), ih, ih]
      generalize root.find? (start ++ [name]) = node? at there
      generalize other.find? (start ++ [name]) = otherNode? at there
      cases there with
      | none => rfl
      | some alike =>
          cases alike with
          | file | directory => simp only [ih]
          | link target => simp only [follows]

theorem through_eq
    (alike : ∀ position, Option.Rel Node.Alike (root.find? position) (other.find? position))
    (links : Nat) (start names : List String) :
    through other links start names = through root links start names := by
  induction links generalizing start names with
  | zero => exact along_eq alike (fun _ _ => rfl) start names
  | succ links ih => exact along_eq alike ih start names

end Walk

namespace World

def Reordered (w other : World) : Prop :=
  ∃ root, w.root.Reordered root ∧ other = { w with root }

namespace Reordered

variable {w other : World} (h : w.Reordered other)

include h

theorem position?_eq (path : String) : other.position? path = w.position? path := by
  obtain ⟨root, reordered, rfl⟩ := h
  have same : World.walk { w with root } path = w.walk path := by
    rw [walk, walk]
    dsimp only
    rw [Walk.through_eq reordered.find?]
  rw [position?, position?, same]

theorem node?_cases (path : String) :
    w.node? path = none ∧ other.node? path = none ∨
    ∃ here there, w.node? path = some here ∧ other.node? path = some there ∧
      here.Alike there := by
  have leads := h.position?_eq path
  obtain ⟨root, reordered, rfl⟩ := h
  rw [node?, node?, leads]
  cases w.position? path with
  | none => exact .inl ⟨rfl, rfl⟩
  | some position =>
      have same := reordered.find? position
      rw [Option.bind_some, Option.bind_some]
      generalize w.root.find? position = here? at same
      generalize root.find? position = there? at same
      cases same with
      | none => exact .inl ⟨rfl, rfl⟩
      | some alike => exact .inr ⟨_, _, rfl, rfl, alike⟩

theorem isDirectory_eq (path : String) : other.isDirectory path = w.isDirectory path := by
  rw [isDirectory, isDirectory]
  rcases h.node?_cases path with ⟨here, there⟩ | ⟨_, _, here, there, alike⟩
  · rw [here, there]
  · rw [here, there]
    cases alike <;> rfl

theorem isFile_eq (path : String) : other.isFile path = w.isFile path := by
  rw [isFile, isFile]
  rcases h.node?_cases path with ⟨here, there⟩ | ⟨_, _, here, there, alike⟩
  · rw [here, there]
  · rw [here, there]
    cases alike <;> rfl

theorem readText_eq (path : String) : other.readText path = w.readText path := by
  rw [readText, readText]
  rcases h.node?_cases path with ⟨here, there⟩ | ⟨_, _, here, there, alike⟩
  · rw [here, there]
  · rw [here, there]
    cases alike <;> rfl

theorem findLibrary_eq (name : String) : other.findLibrary name = w.findLibrary name := by
  rw [findLibrary, findLibrary]
  rcases h.node?_cases (LibraryName.path name) with ⟨here, there⟩ | ⟨_, _, here, there, alike⟩
  · rw [here, there]
  · rw [here, there]
    cases alike with
    | file => rfl
    | link | directory => cases name.contains '/' <;> rfl

theorem openLibrary_eq (name : String) : other.openLibrary name = w.openLibrary name := by
  have resident : other.resident = w.resident := by
    obtain ⟨root, -, rfl⟩ := h
    rfl
  rw [openLibrary, openLibrary, resident, h.findLibrary_eq]

theorem contents_perm (path : String) :
    (∃ fault, w.contents path = .error fault ∧ other.contents path = .error fault) ∨
    ∃ here there, w.contents path = .ok here ∧ other.contents path = .ok there ∧
      here.names.Perm there.names ∧ here.faults.Perm there.faults := by
  rw [contents, contents]
  rcases h.node?_cases path with ⟨here, there⟩ | ⟨_, _, here, there, alike⟩
  · rw [here, there]
    exact .inl ⟨_, rfl, rfl⟩
  rw [here, there]
  cases alike with
  | file | link => exact .inl ⟨_, rfl, rfl⟩
  | directory names faults fault =>
      cases fault with
      | none => exact .inr ⟨_, _, rfl, rfl, names, faults⟩
      | some fault => exact .inl ⟨fault, rfl, rfl⟩

end Reordered

end World

end AssetLink
