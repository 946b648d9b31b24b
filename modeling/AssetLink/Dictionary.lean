/-!
Dictionaries with text keys, kept in the order of their keys. Two dictionaries
that answer every lookup alike are equal, so the order in which entries were
written leaves no trace.
-/

namespace AssetLink

def insertEntry {α : Type} (key : String) (value : α) : List (String × α) → List (String × α)
  | [] => [(key, value)]
  | entry :: rest =>
      if key < entry.1 then (key, value) :: entry :: rest
      else if key = entry.1 then (key, value) :: rest
      else entry :: insertEntry key value rest

theorem mem_insertEntry {α : Type} {key : String} {value : α} {entries : List (String × α)}
    {x : String × α} (h : x ∈ insertEntry key value entries) :
    x = (key, value) ∨ x ∈ entries := by
  induction entries with
  | nil => simpa [insertEntry] using h
  | cons entry rest ih =>
      simp only [insertEntry] at h
      split at h
      · simpa using h
      · split at h
        · rcases List.mem_cons.1 h with h | h
          · exact .inl h
          · exact .inr (List.mem_cons_of_mem _ h)
        · rcases List.mem_cons.1 h with h | h
          · exact .inr (h ▸ List.mem_cons_self)
          · rcases ih h with h | h
            · exact .inl h
            · exact .inr (List.mem_cons_of_mem _ h)

theorem lt_of_not_lt_of_ne {a b : String} (h : ¬ a < b) (hne : a ≠ b) : b < a := by
  have hle : b ≤ a := String.not_lt.1 h
  have hne' : ¬ a ≤ b := fun hab => hne (String.le_antisymm hab hle)
  exact String.not_le.1 hne'

theorem pairwise_insertEntry {α : Type} (key : String) (value : α)
    {entries : List (String × α)} (h : entries.Pairwise (fun a b => a.1 < b.1)) :
    (insertEntry key value entries).Pairwise (fun a b => a.1 < b.1) := by
  induction entries with
  | nil => simp [insertEntry]
  | cons entry rest ih =>
      rw [List.pairwise_cons] at h
      simp only [insertEntry]
      split
      next hlt =>
        refine List.Pairwise.cons ?_ (List.Pairwise.cons h.1 h.2)
        intro x hx
        rcases List.mem_cons.1 hx with hx | hx
        · exact hx ▸ hlt
        · exact String.lt_trans hlt (h.1 x hx)
      next hlt =>
        split
        next heq =>
          subst heq
          exact List.Pairwise.cons h.1 h.2
        next hne =>
          refine List.Pairwise.cons ?_ (ih h.2)
          intro x hx
          rcases mem_insertEntry hx with hx | hx
          · exact hx ▸ lt_of_not_lt_of_ne hlt hne
          · exact h.1 x hx

/-- Entries in strictly increasing order of their keys. -/
structure Dictionary (α : Type) where
  entries : List (String × α)
  sorted : entries.Pairwise (fun a b => a.1 < b.1)
deriving DecidableEq

namespace Dictionary

variable {α β : Type}

def empty : Dictionary α := ⟨[], List.Pairwise.nil⟩

instance : EmptyCollection (Dictionary α) := ⟨empty⟩

instance : Inhabited (Dictionary α) := ⟨empty⟩

def insert (d : Dictionary α) (key : String) (value : α) : Dictionary α :=
  ⟨insertEntry key value d.entries, pairwise_insertEntry key value d.sorted⟩

def get? (d : Dictionary α) (key : String) : Option α :=
  d.entries.lookup key

def contains (d : Dictionary α) (key : String) : Bool :=
  (d.get? key).isSome

def keys (d : Dictionary α) : List String :=
  d.entries.map (·.1)

def size (d : Dictionary α) : Nat :=
  d.entries.length

def isEmpty (d : Dictionary α) : Bool :=
  d.entries.isEmpty

/-- Later entries take the place of earlier ones with the same key. -/
def ofList (entries : List (String × α)) : Dictionary α :=
  entries.foldl (fun d entry => d.insert entry.1 entry.2) empty

def map (f : α → β) (d : Dictionary α) : Dictionary β :=
  ⟨d.entries.map fun entry => (entry.1, f entry.2),
    d.sorted.map _ fun _ _ h => h⟩

def filter (p : String → Bool) (d : Dictionary α) : Dictionary α :=
  ⟨d.entries.filter fun entry => p entry.1, d.sorted.filter _⟩

def erase (d : Dictionary α) (key : String) : Dictionary α :=
  d.filter (· != key)

def alter (d : Dictionary α) (key : String) (f : Option α → α) : Dictionary α :=
  d.insert key (f (d.get? key))

end Dictionary

theorem lookup_cons_ne {α : Type} {key other : String} (value : α)
    (h : other ≠ key) (rest : List (String × α)) :
    ((key, value) :: rest).lookup other = rest.lookup other := by
  simp [List.lookup_cons, beq_false_of_ne h]

theorem lookup_insertEntry_self {α : Type} (key : String) (value : α)
    (entries : List (String × α)) :
    (insertEntry key value entries).lookup key = some value := by
  induction entries with
  | nil => simp [insertEntry]
  | cons entry rest ih =>
      simp only [insertEntry]
      split
      · simp
      · split
        · simp
        next hne => rw [lookup_cons_ne entry.2 hne]; exact ih

theorem lookup_insertEntry_ne {α : Type} {key other : String} (value : α)
    (h : other ≠ key) (entries : List (String × α)) :
    (insertEntry key value entries).lookup other = entries.lookup other := by
  induction entries with
  | nil => exact lookup_cons_ne value h []
  | cons entry rest ih =>
      simp only [insertEntry]
      split
      · exact lookup_cons_ne value h _
      · split
        next heq =>
          rw [lookup_cons_ne value h]
          exact (lookup_cons_ne entry.2 (heq ▸ h) rest).symm
        · cases entry with
          | mk first stored => simp [List.lookup_cons, ih]

namespace Dictionary

variable {α β : Type}

@[simp] theorem get?_insert_self (d : Dictionary α) (key : String) (value : α) :
    (d.insert key value).get? key = some value :=
  lookup_insertEntry_self key value d.entries

theorem get?_insert_ne (d : Dictionary α) {key other : String} (value : α)
    (h : other ≠ key) : (d.insert key value).get? other = d.get? other :=
  lookup_insertEntry_ne value h d.entries

theorem get?_insert (d : Dictionary α) (key other : String) (value : α) :
    (d.insert key value).get? other = if other = key then some value else d.get? other := by
  split
  next h => subst h; simp
  next h => exact d.get?_insert_ne value h

end Dictionary

end AssetLink
