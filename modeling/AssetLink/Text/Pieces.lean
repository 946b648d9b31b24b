/-!
Text cut into pieces at a separator, and put together again. Text without the
separator is one piece; there is always at least one.
-/

namespace AssetLink.Text

def cut (separator : Char) : List Char → List (List Char)
  | [] => [[]]
  | c :: rest =>
      if c = separator then [] :: cut separator rest
      else match cut separator rest with
        | piece :: more => (c :: piece) :: more
        | [] => [[c]]

def pieces (separator : Char) (text : String) : List String :=
  (cut separator text.toList).map String.ofList

def splitFirst? (separator : Char) (text : String) : Option (String × String) :=
  match text.toList.span (· != separator) with
  | (before, _ :: after) => some (.ofList before, .ofList after)
  | (_, []) => none

theorem cut_ne_nil (separator : Char) (cs : List Char) : cut separator cs ≠ [] := by
  cases cs with
  | nil => simp [cut]
  | cons c rest =>
      simp only [cut]
      split
      · simp
      · split <;> simp

theorem cut_eq_singleton {separator : Char} {cs : List Char} (h : separator ∉ cs) :
    cut separator cs = [cs] := by
  induction cs with
  | nil => rfl
  | cons c rest ih =>
      rw [List.mem_cons, not_or] at h
      simp [cut, ih h.2, Ne.symm h.1]

theorem cut_append_cons {separator : Char} {cs : List Char} (h : separator ∉ cs)
    (rest : List Char) : cut separator (cs ++ separator :: rest) = cs :: cut separator rest := by
  induction cs with
  | nil => simp [cut]
  | cons c more ih =>
      rw [List.mem_cons, not_or] at h
      simp [cut, ih h.2, Ne.symm h.1]

theorem intercalate_cut (separator : Char) (cs : List Char) :
    [separator].intercalate (cut separator cs) = cs := by
  induction cs with
  | nil => rfl
  | cons c rest ih =>
      rw [cut]
      split
      next heq => simp [List.intercalate_cons_of_ne_nil (cut_ne_nil separator rest), ih, heq]
      next =>
        cases h : cut separator rest with
        | nil => exact absurd h (cut_ne_nil separator rest)
        | cons piece more =>
            rw [← ih, h]
            cases more <;> rfl

theorem cut_intercalate {separator : Char} {piece : List Char} {more : List (List Char)}
    (h : ∀ cs ∈ piece :: more, separator ∉ cs) :
    cut separator ([separator].intercalate (piece :: more)) = piece :: more := by
  induction more generalizing piece with
  | nil => simpa using cut_eq_singleton (h piece List.mem_cons_self)
  | cons next more ih =>
      rw [List.intercalate_cons_of_ne_nil (List.cons_ne_nil next more), List.append_assoc,
        List.singleton_append, cut_append_cons (h piece List.mem_cons_self),
        ih fun cs member => h cs (List.mem_cons_of_mem piece member)]

theorem not_mem_of_mem_cut {separator : Char} {cs piece : List Char}
    (h : piece ∈ cut separator cs) : separator ∉ piece := by
  induction cs generalizing piece with
  | nil => simp_all [cut]
  | cons c rest ih =>
      rw [cut] at h
      split at h
      next => grind
      next =>
        cases hcut : cut separator rest with
        | nil => exact absurd hcut (cut_ne_nil separator rest)
        | cons first more => grind

theorem intercalate_pieces (separator : Char) (text : String) :
    (String.singleton separator).intercalate (pieces separator text) = text := by
  rw [← String.toList_inj, String.toList_intercalate, pieces, List.map_map]
  simp [Function.comp_def, intercalate_cut]

example : pieces ':' ":a::b" = ["", "a", "", "b"] := by decide +kernel

theorem pieces_intercalate {separator : Char} {texts : List String} (nonempty : texts ≠ [])
    (h : ∀ text ∈ texts, separator ∉ text.toList) :
    pieces separator ((String.singleton separator).intercalate texts) = texts := by
  obtain ⟨text, more, rfl⟩ := List.exists_cons_of_ne_nil nonempty
  rw [pieces, String.toList_intercalate, String.toList_singleton, List.map_cons,
    cut_intercalate fun cs member => ?_, ← List.map_cons, List.map_map]
  · simp [Function.comp_def]
  · rw [← List.map_cons] at member
    obtain ⟨part, among, rfl⟩ := List.mem_map.1 member
    exact h part among

theorem not_mem_of_mem_pieces {separator : Char} {text piece : String}
    (h : piece ∈ pieces separator text) : separator ∉ piece.toList := by
  obtain ⟨cs, member, rfl⟩ := List.mem_map.1 h
  rw [String.toList_ofList]
  exact not_mem_of_mem_cut member

end AssetLink.Text
