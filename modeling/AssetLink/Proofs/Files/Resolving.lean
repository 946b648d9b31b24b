import AssetLink.Files.World

/-!
Where a path finally leads, whatever links and detours it takes. What it leads to
has one path from the root on which there is neither a link nor a detour, and that
path leads there too.
-/

namespace AssetLink

namespace Path

structure IsName (name : String) : Prop where
  proper : name ∉ ["", ".", ".."]
  single : '/' ∉ name.toList

theorem isAbsolute_ofNames (position : List String) : isAbsolute (ofNames position) := by
  rw [isAbsolute, String.startsWith_string_iff, ofNames, String.toList_append]
  exact List.prefix_append ..

theorem names_ne_nil (path : String) : names path ≠ [] := by
  rw [names, Text.pieces, Ne, List.map_eq_nil_iff]
  exact Text.cut_ne_nil '/' path.toList

theorem single_of_mem_names {path name : String} (h : name ∈ names path) : '/' ∉ name.toList :=
  Text.not_mem_of_mem_pieces h

theorem names_ofNames {position : List String} (nonempty : position ≠ [])
    (h : ∀ name ∈ position, '/' ∉ name.toList) : names (ofNames position) = "" :: position := by
  have joined : ofNames position = (String.singleton '/').intercalate ("" :: position) := by
    rw [String.intercalate_cons_of_ne_nil nonempty]
    rfl
  rw [names, joined, Text.pieces_intercalate (List.cons_ne_nil "" position)]
  exact List.forall_mem_cons.2 ⟨List.not_mem_nil, h⟩

end Path

namespace Node

theorem isDirectory_of_find?_cons {node found : Node} {name : String} {rest : List String}
    (h : node.find? (name :: rest) = some found) : node.isDirectory := by
  cases node with
  | directory => rfl
  | _ => cases h

theorem isDirectory_of_any_find? {root : Node} {position : List String}
    (directory : (root.find? position).any isDirectory) : root.isDirectory := by
  obtain ⟨found, there, isDirectory⟩ := (Option.any_eq_true _ _).1 directory
  cases position with
  | nil => exact Option.some.inj there ▸ isDirectory
  | cons => exact isDirectory_of_find?_cons there

end Node

namespace Walk

variable {root : Node} {links limit : Nat} {start names target position : List String}

/-- Where names lead from a directory, and through how many links. -/
inductive Leads (root : Node) : Nat → List String → List String → List String → Prop
  | arrived (position : List String) : Leads root 0 position [] position
  | staying {links : Nat} {position rest target : List String} {name : String}
      (directory : (root.find? position).any Node.isDirectory) (here : name ∈ ["", "."])
      (on : Leads root links position rest target) :
      Leads root links position (name :: rest) target
  | rising {links : Nat} {position rest target : List String}
      (directory : (root.find? position).any Node.isDirectory)
      (on : Leads root links position.dropLast rest target) :
      Leads root links position (".." :: rest) target
  | entering {links : Nat} {position rest target : List String} {name : String} {node : Node}
      (directory : (root.find? position).any Node.isDirectory) (proper : name ∉ ["", ".", ".."])
      (there : root.find? (position ++ [name]) = some node) (plain : ∀ path, node ≠ .link path)
      (on : Leads root links (position ++ [name]) rest target) :
      Leads root links position (name :: rest) target
  | following {links : Nat} {position rest target : List String} {name path : String}
      (directory : (root.find? position).any Node.isDirectory) (proper : name ∉ ["", ".", ".."])
      (there : root.find? (position ++ [name]) = some (.link path)) (nonempty : path ≠ "")
      (on : Leads root links (if Path.isAbsolute path then [] else position)
        (Path.names path ++ rest) target) :
      Leads root (links + 1) position (name :: rest) target

theorem leads_of_along {follow : List String → List String → Walk}
    (follows : ∀ start names, follow start names = .found target →
      ∃ links < limit, Leads root links start names target)
    (found : along root follow start names = .found target) :
    ∃ links ≤ limit, Leads root links start names target := by
  induction names generalizing start with
  | nil =>
    cases found
    exact ⟨0, Nat.zero_le limit, .arrived target⟩
  | cons name rest ih =>
    rw [along] at found
    by_cases directory : (root.find? start).any Node.isDirectory
    case neg => rw [if_neg directory] at found; cases found
    rw [if_pos directory] at found
    by_cases here : name = "" ∨ name = "."
    case pos =>
      rw [if_pos here] at found
      obtain ⟨links, few, on⟩ := ih found
      exact ⟨links, few, .staying directory (by simpa using here) on⟩
    rw [if_neg here] at found
    by_cases above : name = ".."
    case pos =>
      rw [if_pos above] at found
      obtain ⟨links, few, on⟩ := ih found
      exact ⟨links, few, above ▸ .rising directory on⟩
    rw [if_neg above] at found
    have proper : name ∉ ["", ".", ".."] := by simp_all
    cases there : root.find? (start ++ [name]) with
    | none => rw [there] at found; cases found
    | some node =>
      rw [there] at found
      cases node with
      | link path =>
        change (if path.isEmpty then blocked else _) = _ at found
        by_cases nonempty : path.isEmpty
        case pos => rw [if_pos nonempty] at found; cases found
        rw [if_neg nonempty] at found
        obtain ⟨links, few, on⟩ := follows _ _ found
        exact ⟨links + 1, few, .following directory proper there (by simpa using nonempty) on⟩
      | _ =>
        obtain ⟨links, few, on⟩ := ih found
        exact ⟨links, few, .entering directory proper there nofun on⟩

theorem leads_of_through (found : through root limit start names = .found target) :
    ∃ links ≤ limit, Leads root links start names target := by
  induction limit generalizing start names with
  | zero =>
    have stuck : along root (fun _ _ => blocked) start names = .found target := found
    exact leads_of_along (fun _ _ found => by cases found) stuck
  | succ limit ih =>
    refine leads_of_along (fun start names found => ?_) found
    obtain ⟨links, few, on⟩ := ih found
    exact ⟨links, Nat.lt_succ_of_le few, on⟩

theorem through_of_leads (leads : Leads root links start names target) (few : links ≤ limit) :
    through root limit start names = .found target := by
  induction leads generalizing limit with
  | arrived position => cases limit <;> rfl
  | staying directory here on ih =>
    simp only [List.mem_cons, List.not_mem_nil, or_false] at here
    cases limit <;> simpa [through, along, directory, here] using ih few
  | rising directory on ih =>
    cases limit <;> simpa [through, along, directory] using ih few
  | @entering _ _ _ _ _ node directory proper there plain on ih =>
    simp only [List.mem_cons, List.not_mem_nil, or_false, not_or] at proper
    cases node with
    | link path => exact absurd rfl (plain path)
    | _ => cases limit <;> simpa [through, along, directory, there, proper] using ih few
  | following directory proper there nonempty on ih =>
    simp only [List.mem_cons, List.not_mem_nil, or_false, not_or] at proper
    obtain ⟨limit, rfl⟩ := Nat.exists_eq_add_of_le' (Nat.one_le_of_lt few)
    simpa [through, along, directory, there, proper, nonempty]
      using ih (Nat.le_of_succ_le_succ few)

theorem through_eq_found_iff :
    through root limit start names = .found target ↔
      ∃ links ≤ limit, Leads root links start names target :=
  ⟨leads_of_through, fun ⟨_, few, leads⟩ => through_of_leads leads few⟩

theorem Leads.isDirectory_root (leads : Leads root links start names target)
    (nonempty : names ≠ []) : root.isDirectory := by
  cases leads with
  | arrived => exact absurd rfl nonempty
  | staying directory | rising directory | entering directory | following directory =>
    exact Node.isDirectory_of_any_find? directory

theorem Leads.isName (leads : Leads root links start names target)
    (above : ∀ name ∈ start, Path.IsName name) (single : ∀ name ∈ names, '/' ∉ name.toList) :
    ∀ name ∈ target, Path.IsName name := by
  induction leads with
  | arrived => exact above
  | staying _ _ _ ih => exact ih above (List.forall_mem_cons.1 single).2
  | rising _ _ ih =>
    exact ih (fun name member => above name (List.dropLast_subset _ member))
      (List.forall_mem_cons.1 single).2
  | entering _ proper _ _ _ ih =>
    have ⟨first, others⟩ := List.forall_mem_cons.1 single
    exact ih (List.forall_mem_append.2 ⟨above, List.forall_mem_singleton.2 ⟨proper, first⟩⟩) others
  | following _ _ _ _ _ ih =>
    refine ih (fun name member => ?_) (List.forall_mem_append.2
      ⟨fun name => Path.single_of_mem_names, (List.forall_mem_cons.1 single).2⟩)
    split at member
    · cases member
    · exact above name member

/-- Names from the root on whose way there is neither a link nor a detour. -/
structure Plain (root : Node) (position : List String) : Prop where
  isName : ∀ name ∈ position, Path.IsName name
  leads : Leads root 0 [] position position

theorem leads_append {node : Node} (there : root.find? (start ++ names) = some node)
    (plain : ∀ path, node ≠ .link path) (isName : ∀ name ∈ names, Path.IsName name) :
    Leads root 0 start names (start ++ names) := by
  induction names generalizing start with
  | nil =>
    rw [List.append_nil]
    exact .arrived start
  | cons name rest ih =>
    have ⟨first, others⟩ := List.forall_mem_cons.1 isName
    have ⟨above, foundAbove, below⟩ := Option.bind_eq_some_iff.1 (Node.find?_append .. ▸ there)
    have directory : (root.find? start).any Node.isDirectory := by
      rw [foundAbove, Option.any_some, Node.isDirectory_of_find?_cons below]
    rw [List.append_cons] at there ⊢
    have ⟨entry, foundEntry, onward⟩ := Option.bind_eq_some_iff.1 (Node.find?_append .. ▸ there)
    refine .entering directory first.proper foundEntry (fun path isLink => ?_) (ih there others)
    -- A link holds nothing, so that it can only be the last on the way.
    subst isLink
    cases rest with
    | nil => exact plain path (Option.some.inj onward).symm
    | cons => cases Node.isDirectory_of_find?_cons onward

theorem plain_of_find? {node : Node} (there : root.find? position = some node)
    (plain : ∀ path, node ≠ .link path) (isName : ∀ name ∈ position, Path.IsName name) :
    Plain root position :=
  ⟨isName, leads_append there plain isName⟩

end Walk

namespace World

variable {w : World} {path : String} {position : List String}

def startOf (w : World) (path : String) : List String :=
  if Path.isAbsolute path then [] else w.workingDirectory

/-- A path leads somewhere, through any links, and not through too many. -/
structure Resolves (w : World) (path : String) (position : List String) : Prop where
  nonempty : path ≠ ""
  short : path.utf8ByteSize ≤ Walk.maxBytes
  leads : ∃ links ≤ Walk.maxLinks,
    Walk.Leads w.root links (w.startOf path) (Path.names path) position

theorem position?_eq_some_iff : w.position? path = some position ↔ w.Resolves path position := by
  constructor
  · intro found
    rw [position?, walk] at found
    split at found
    next stands =>
      rw [← startOf] at stands
      split at stands
      case isTrue => cases stands
      case isFalse proper =>
        rw [not_or, Nat.not_lt] at proper
        cases found
        exact ⟨by simpa using proper.1, proper.2, Walk.through_eq_found_iff.1 stands⟩
    next => cases found
  · rintro ⟨nonempty, short, leads⟩
    rw [position?, walk, if_neg (by simp [nonempty, Nat.not_lt.2 short]), ← startOf,
      Walk.through_eq_found_iff.2 leads]

theorem Resolves.isName (resolves : w.Resolves path position)
    (proper : ∀ name ∈ w.workingDirectory, Path.IsName name) :
    ∀ name ∈ position, Path.IsName name := by
  obtain ⟨links, -, leads⟩ := resolves.leads
  refine leads.isName (fun name member => ?_) fun name => Path.single_of_mem_names
  rw [startOf] at member
  split at member
  · cases member
  · exact proper name member

theorem Resolves.ne_nil_of_isFile {file : File} (resolves : w.Resolves path position)
    (there : w.root.find? position = some (.file file)) : position ≠ [] := by
  rintro rfl
  obtain ⟨links, -, leads⟩ := resolves.leads
  have directory := leads.isDirectory_root (Path.names_ne_nil path)
  rw [Option.some.inj there] at directory
  cases directory

theorem resolves_ofNames (plain : Walk.Plain w.root position) (nonempty : position ≠ [])
    (short : (Path.ofNames position).utf8ByteSize ≤ Walk.maxBytes) :
    w.Resolves (Path.ofNames position) position := by
  have directory := plain.leads.isDirectory_root nonempty
  refine ⟨by simp [Path.ofNames], short, 0, Nat.zero_le _, ?_⟩
  rw [startOf, if_pos (Path.isAbsolute_ofNames position),
    Path.names_ofNames nonempty fun name member => (plain.isName name member).single]
  exact .staying directory List.mem_cons_self plain.leads

end World

end AssetLink
