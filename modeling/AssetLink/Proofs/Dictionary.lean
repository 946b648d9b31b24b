import AssetLink.Dictionary
import AssetLink.Proofs.Change
import Mathlib.Algebra.Ring.Nat
import Mathlib.Data.List.Forall2
import Mathlib.Data.List.Induction
import Mathlib.Data.List.Sort

/-!
Dictionaries seen through their lookups. An entry is listed exactly if its key
is looked up to its value, so a dictionary is known by its lookups alone, and a
list that is in key order already is the list of entries of its dictionary.
-/

namespace AssetLink

theorem lookup_eq_some_iff_mem {α : Type} {entries : List (String × α)}
    (sorted : entries.Pairwise (fun a b => a.1 < b.1)) {key : String} {value : α} :
    entries.lookup key = some value ↔ (key, value) ∈ entries := by
  induction entries with
  | nil => simp
  | cons entry rest ih =>
      rw [List.pairwise_cons] at sorted
      by_cases h : key = entry.1
      · subst h
        have absent : (entry.1, value) ∉ rest := fun hmem =>
          String.lt_irrefl entry.1 (sorted.1 (entry.1, value) hmem)
        have found : (entry :: rest).lookup entry.1 = some entry.2 := List.lookup_cons_self
        simp [found, absent, Prod.ext_iff, eq_comm]
      · rw [List.mem_cons, lookup_cons_ne entry.2 h, ih sorted.2]
        simp [Prod.ext_iff, h]

theorem insertEntry_of_forall_lt {α : Type} {key : String} (value : α)
    {entries : List (String × α)} (h : ∀ x ∈ entries, x.1 < key) :
    insertEntry key value entries = entries ++ [(key, value)] := by
  induction entries with
  | nil => rfl
  | cons entry rest ih =>
      have first := h entry List.mem_cons_self
      have above : ¬ key < entry.1 := String.lt_asymm first
      have other : key ≠ entry.1 := (String.ne_of_lt first).symm
      rw [insertEntry, if_neg above, if_neg other,
        ih fun x hx => h x (List.mem_cons_of_mem _ hx), List.cons_append]

theorem length_insertEntry {α : Type} {key : String} (value : α) {entries : List (String × α)}
    (new : entries.lookup key = none) :
    (insertEntry key value entries).length = entries.length + 1 := by
  induction entries with
  | nil => rfl
  | cons entry rest ih =>
      by_cases same : key = entry.1
      · subst same
        cases new.symm.trans List.lookup_cons_self
      · rw [lookup_cons_ne entry.2 same] at new
        rw [insertEntry, if_neg same]
        split
        · rfl
        · rw [List.length_cons, ih new, List.length_cons]

theorem eq_of_sorted_of_mem_iff {names others : List String} (sorted : names.Pairwise (· < ·))
    (sortedToo : others.Pairwise (· < ·)) (same : ∀ name, name ∈ names ↔ name ∈ others) :
    names = others := by
  have irrefl : Std.Irrefl (fun a b : String => a < b) := ⟨String.lt_irrefl⟩
  exact sorted.eq_of_mem_iff sortedToo same

/-- Entries with the same keys in the same order, and with related values. -/
abbrev Entrywise {α β : Type} (R : α → β → Prop) : List (String × α) → List (String × β) → Prop :=
  List.Forall₂ fun a b => a.1 = b.1 ∧ R a.2 b.2

namespace Entrywise

variable {α β : Type} {R : α → β → Prop} {entries : List (String × α)}
  {others : List (String × β)}

theorem keys_eq (h : Entrywise R entries others) : entries.map (·.1) = others.map (·.1) := by
  induction h with
  | nil => rfl
  | cons first _ ih => rw [List.map_cons, List.map_cons, first.1, ih]

theorem sorted_iff (h : Entrywise R entries others) :
    entries.Pairwise (fun a b => a.1 < b.1) ↔ others.Pairwise (fun a b => a.1 < b.1) := by
  simpa only [List.pairwise_map] using iff_of_eq (congrArg (List.Pairwise (· < ·)) h.keys_eq)

theorem lookup (h : Entrywise R entries others) (key : String) :
    Option.Rel R (entries.lookup key) (others.lookup key) := by
  induction h with
  | nil => exact .none
  | @cons entry other _ _ first _ ih =>
      rcases entry with ⟨name, value⟩
      rcases other with ⟨_, image⟩
      obtain ⟨rfl, related⟩ := first
      simp only [List.lookup_cons]
      cases key == name with
      | true => exact .some related
      | false => exact ih

theorem of_keys_eq (keys : entries.map (·.1) = others.map (·.1))
    (related : ∀ entry ∈ entries, ∀ other ∈ others, entry.1 = other.1 → R entry.2 other.2) :
    Entrywise R entries others := by
  induction entries generalizing others with
  | nil =>
      rw [List.map_nil, eq_comm, List.map_eq_nil_iff] at keys
      rw [keys]
      exact .nil
  | cons entry rest ih =>
      cases others with
      | nil => cases keys
      | cons other others =>
          obtain ⟨first, later⟩ := List.cons.inj keys
          refine .cons ⟨first, related _ List.mem_cons_self _ List.mem_cons_self first⟩ ?_
          exact ih later fun entry member other present =>
            related entry (List.mem_cons_of_mem _ member) other (List.mem_cons_of_mem _ present)

end Entrywise

namespace Dictionary

variable {α β : Type}

theorem mem_entries_iff {d : Dictionary α} {key : String} {value : α} :
    (key, value) ∈ d.entries ↔ d.get? key = some value :=
  (lookup_eq_some_iff_mem d.sorted).symm

theorem contains_iff {d : Dictionary α} {key : String} :
    d.contains key = true ↔ ∃ value, d.get? key = some value := by
  rw [contains, Option.isSome_iff_exists]

theorem mem_keys_iff {d : Dictionary α} {key : String} :
    key ∈ d.keys ↔ ∃ value, d.get? key = some value := by
  simp [keys, ← mem_entries_iff]

theorem keys_sorted (d : Dictionary α) : d.keys.Pairwise (· < ·) :=
  d.sorted.map _ fun _ _ h => h

/-- What stands before an entry in the list are the entries of smaller keys. -/
theorem exists_split_iff {d : Dictionary α} {p : String × α → Prop} {key : String} {value : α} :
    (∃ before after, d.entries = before ++ (key, value) :: after ∧ ∀ entry ∈ before, p entry) ↔
      d.get? key = some value ∧
        ∀ earlier other, earlier < key → d.get? earlier = some other → p (earlier, other) := by
  constructor
  · rintro ⟨before, after, split, first⟩
    have sorted := d.sorted
    rw [split] at sorted
    have behind := (List.pairwise_cons.1 (List.pairwise_append.1 sorted).2.1).1
    refine ⟨mem_entries_iff.1 (split ▸ List.mem_append_right _ List.mem_cons_self),
      fun earlier other less under => ?_⟩
    have member := mem_entries_iff.2 under
    rw [split, List.mem_append, List.mem_cons] at member
    rcases member with inFront | same | later
    · exact first _ inFront
    · cases same
      exact absurd less (String.lt_irrefl _)
    · exact absurd less (String.lt_asymm (behind _ later))
  · rintro ⟨under, first⟩
    obtain ⟨before, after, split⟩ := List.append_of_mem (mem_entries_iff.2 under)
    refine ⟨before, after, split, fun entry member => ?_⟩
    have sorted := d.sorted
    rw [split, List.pairwise_append] at sorted
    have less : entry.1 < key := sorted.2.2 entry member _ List.mem_cons_self
    exact first entry.1 entry.2 less (mem_entries_iff.1 (split ▸ List.mem_append_left _ member))

section Except

variable {ε : Type} {f : String × α → Except ε β} {d : Dictionary α}

theorem exists_mapM_entries_iff :
    (∃ results, d.entries.mapM f = .ok results) ↔
      ∀ key value, d.get? key = some value → ∃ result, f (key, value) = .ok result := by
  simp only [mapM_eq_ok_iff]
  constructor
  · rintro ⟨results, each⟩ key value under
    obtain ⟨result, -, done⟩ := exists_of_forall₂_of_mem each (mem_entries_iff.2 under)
    exact ⟨result, done⟩
  · intro each
    exact exists_forall₂_of_forall_exists fun entry member =>
      each entry.1 entry.2 (mem_entries_iff.1 member)

theorem mapM_entries_eq_error_iff {e : ε} :
    d.entries.mapM f = .error e ↔
      ∃ key value, d.get? key = some value ∧ f (key, value) = .error e ∧
        ∀ earlier other, earlier < key → d.get? earlier = some other →
          ∃ result, f (earlier, other) = .ok result := by
  have ordered (key : String) (value : α) :
      (∃ before after, d.entries = before ++ (key, value) :: after ∧
        ∀ entry ∈ before, ∃ result, f entry = .ok result) ↔ _ :=
    exists_split_iff
  rw [mapM_eq_error_iff]
  constructor
  · rintro ⟨before, ⟨key, value⟩, after, split, fault, first⟩
    obtain ⟨under, first⟩ := (ordered key value).1 ⟨before, after, split, first⟩
    exact ⟨key, value, under, fault, first⟩
  · rintro ⟨key, value, under, fault, first⟩
    obtain ⟨before, after, split, first⟩ := (ordered key value).2 ⟨under, first⟩
    exact ⟨before, (key, value), after, split, fault, first⟩

end Except

theorem ext_get? {d e : Dictionary α} (h : ∀ key, d.get? key = e.get? key) : d = e := by
  have irrefl : Std.Irrefl (fun a b : String × α => a.1 < b.1) :=
    ⟨fun a => String.lt_irrefl a.1⟩
  have same : d.entries = e.entries :=
    d.sorted.eq_of_mem_iff e.sorted fun x => by
      rw [mem_entries_iff, mem_entries_iff, h]
  cases d
  cases e
  cases same
  rfl

theorem keys_eq_of_rel {R : α → β → Prop} {d : Dictionary α} {e : Dictionary β}
    (h : ∀ key, Option.Rel R (d.get? key) (e.get? key)) : d.keys = e.keys := by
  refine eq_of_sorted_of_mem_iff d.keys_sorted e.keys_sorted fun key => ?_
  rw [mem_keys_iff, mem_keys_iff]
  have related := h key
  generalize d.get? key = value at related
  generalize e.get? key = other at related
  cases related <;> simp

theorem entrywise_iff {R : α → β → Prop} {d : Dictionary α} {e : Dictionary β} :
    Entrywise R d.entries e.entries ↔ ∀ key, Option.Rel R (d.get? key) (e.get? key) := by
  refine ⟨fun related => related.lookup, fun related => ?_⟩
  refine .of_keys_eq (keys_eq_of_rel related) ?_
  rintro ⟨key, value⟩ member ⟨_, other⟩ present rfl
  have here := related key
  rw [mem_entries_iff.1 member, mem_entries_iff.1 present] at here
  cases here with
  | some h => exact h

theorem size_insert {d : Dictionary α} {key : String} (new : d.get? key = none) (value : α) :
    (d.insert key value).size = d.size + 1 :=
  length_insertEntry value new

theorem insert_insert (d : Dictionary α) (key : String) (first second : α) :
    (d.insert key first).insert key second = d.insert key second := by
  apply ext_get?
  intro other
  simp only [get?_insert]
  split <;> rfl

theorem entries_foldl_insert {entries : List (String × α)} {d : Dictionary α}
    (h : (d.entries ++ entries).Pairwise (fun a b => a.1 < b.1)) :
    (entries.foldl (fun d entry => d.insert entry.1 entry.2) d).entries =
      d.entries ++ entries := by
  induction entries generalizing d with
  | nil => simp
  | cons entry rest ih =>
      have past : ∀ x ∈ d.entries, x.1 < entry.1 := fun x hx =>
        (List.pairwise_append.1 h).2.2 x hx entry List.mem_cons_self
      have step : (d.insert entry.1 entry.2).entries = d.entries ++ [entry] :=
        insertEntry_of_forall_lt entry.2 past
      rw [List.foldl_cons, ih, step, List.append_assoc, List.singleton_append]
      rwa [step, List.append_assoc, List.singleton_append]

theorem entries_ofList {entries : List (String × α)}
    (h : entries.Pairwise (fun a b => a.1 < b.1)) : (ofList entries).entries = entries :=
  entries_foldl_insert (d := empty) h

theorem rel_get?_ofList {R : α → β → Prop} {d : Dictionary α} {entries : List (String × β)}
    (h : Entrywise R d.entries entries) (key : String) :
    Option.Rel R (d.get? key) ((ofList entries).get? key) := by
  have answers := h.lookup key
  rwa [← entries_ofList (h.sorted_iff.1 d.sorted)] at answers

theorem ofList_entries (d : Dictionary α) : ofList d.entries = d :=
  ext_get? fun _ => congrArg (List.lookup _) (entries_ofList d.sorted)

theorem ofList_concat (entries : List (String × α)) (last : String × α) :
    ofList (entries ++ [last]) = (ofList entries).insert last.1 last.2 := by
  rw [ofList, List.foldl_append]
  rfl

theorem mem_of_mem_ofList {entries : List (String × α)} {x : String × α}
    (h : x ∈ (ofList entries).entries) : x ∈ entries := by
  induction entries using List.reverseRecOn with
  | nil => exact h
  | append_singleton entries last ih =>
      rw [ofList_concat] at h
      rcases mem_insertEntry h with rfl | earlier
      · exact List.mem_append_right _ List.mem_cons_self
      · exact List.mem_append_left _ (ih earlier)

theorem mem_keys_insert_iff {d : Dictionary α} {key other : String} {value : α} :
    other ∈ (d.insert key value).keys ↔ other = key ∨ other ∈ d.keys := by
  rw [mem_keys_iff, mem_keys_iff, get?_insert]
  by_cases same : other = key <;> simp [same]

theorem mem_keys_ofList_iff {entries : List (String × α)} {key : String} :
    key ∈ (ofList entries).keys ↔ key ∈ entries.map (·.1) := by
  induction entries using List.reverseRecOn with
  | nil => rfl
  | append_singleton entries last ih =>
      rw [ofList_concat, mem_keys_insert_iff, ih, List.map_append, List.mem_append,
        List.map_singleton, List.mem_singleton, or_comm]

theorem get?_ofList_last {key : String} (value : α) (before : List (String × α))
    {after : List (String × α)} (last : ∀ x ∈ after, x.1 ≠ key) :
    (ofList (before ++ (key, value) :: after)).get? key = some value := by
  induction after using List.reverseRecOn with
  | nil => rw [ofList_concat, get?_insert_self]
  | append_singleton after other ih =>
      have different : key ≠ other.1 :=
        (last other (List.mem_append_right _ List.mem_cons_self)).symm
      rw [← List.cons_append, ← List.append_assoc, ofList_concat, get?_insert_ne _ _ different]
      exact ih fun x member => last x (List.mem_append_left _ member)

theorem mem_ofList_iff {entries : List (String × α)}
    (distinct : entries.Pairwise fun a b => a.1 ≠ b.1) {x : String × α} :
    x ∈ (ofList entries).entries ↔ x ∈ entries := by
  refine ⟨mem_of_mem_ofList, fun member => ?_⟩
  obtain ⟨before, after, rfl⟩ := List.append_of_mem member
  have later : ∀ y ∈ after, y.1 ≠ x.1 := fun y present =>
    ((List.pairwise_cons.1 (List.pairwise_append.1 distinct).2.1).1 y present).symm
  exact mem_entries_iff.2 (get?_ofList_last x.2 before later)

theorem entries_nodup (d : Dictionary α) : d.entries.Nodup :=
  d.sorted.imp fun less same => absurd (same ▸ less) (String.lt_irrefl _)

theorem mem_erase_iff {d : Dictionary α} {key : String} {x : String × α} :
    x ∈ (d.erase key).entries ↔ x ∈ d.entries ∧ x.1 ≠ key := by
  simp [erase, filter]

theorem entries_erase_of_none {d : Dictionary α} {key : String} (absent : d.get? key = none) :
    (d.erase key).entries = d.entries := by
  refine List.filter_eq_self.2 fun x member => ?_
  have there : d.get? x.1 = some x.2 := mem_entries_iff.1 member
  have other : x.1 ≠ key := by
    rintro rfl
    cases there.symm.trans absent
  simpa using other

theorem insert_of_some {d : Dictionary α} {key : String} {value : α}
    (there : d.get? key = some value) : d.insert key value = d := by
  refine ext_get? fun other => ?_
  rw [get?_insert]
  split
  next same => rw [same, there]
  next => rfl

theorem insert_perm (d : Dictionary α) (key : String) (value : α) :
    (d.insert key value).entries.Perm ((key, value) :: (d.erase key).entries) := by
  have fresh : (key, value) ∉ (d.erase key).entries := fun member =>
    (mem_erase_iff.1 member).2 rfl
  refine (List.perm_ext_iff_of_nodup (entries_nodup _)
    (List.nodup_cons.2 ⟨fresh, entries_nodup _⟩)).2 fun ⟨other, stored⟩ => ?_
  rw [mem_entries_iff, get?_insert, List.mem_cons, mem_erase_iff, mem_entries_iff, Prod.mk.injEq]
  by_cases same : other = key <;> simp [same, eq_comm]

/-- The values of a dictionary, weighed one by one. -/
def total (weight : α → Nat) (d : Dictionary α) : Nat :=
  (d.entries.map fun entry => weight entry.2).sum

theorem total_insert (weight : α → Nat) (d : Dictionary α) (key : String) (value : α) :
    total weight (d.insert key value) = weight value + total weight (d.erase key) := by
  rw [total, ((insert_perm d key value).map _).sum_nat, List.map_cons, List.sum_cons, total]

theorem total_erase (weight : α → Nat) (d : Dictionary α) (key : String) :
    (d.get? key).elim 0 weight + total weight (d.erase key) = total weight d := by
  cases there : d.get? key with
  | none => rw [Option.elim_none, Nat.zero_add, total, total, entries_erase_of_none there]
  | some value =>
      have weighed := total_insert weight d key value
      rw [insert_of_some there] at weighed
      exact weighed.symm

end Dictionary

end AssetLink
