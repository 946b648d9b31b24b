import AssetLink.Json.Direct
import AssetLink.Proofs.Traits.Writing

/-!
What a successful reading says about a document. An object is read member by
member, and every name and every value in it is read, whichever of them stay.
-/

namespace AssetLink

namespace Json

variable {α : Type}

theorem readText_eq_ok_iff {reader : Document → Reading α} {text : String} {a : α} :
    readText reader text = .ok a ↔ (read text).2 = false ∧ reader (read text).1 = .ok a := by
  rw [readText, except_bind_eq_ok_iff]
  cases (read text).2 <;> simp [malformed, pure, Except.pure]

namespace Document

theorem refuse_ne_ok (document : Document) (expected : String) (a : α) :
    document.refuse expected ≠ .ok a := by
  intro h
  obtain ⟨_, _, fault⟩ := except_bind_eq_ok_iff.1 h
  cases fault

def members : Document → List (Document × Document)
  | object members => members
  | _ => []

def NoEmptyName (document : Document) : Prop :=
  ∀ member ∈ document.members, member.1.name ≠ .ok ""

/-- No trait id and no key of a property is empty where the document is read as
trait data. -/
structure NamesTraits (document : Document) : Prop where
  traitIds : document.NoEmptyName
  keys : ∀ member ∈ document.members, member.2.NoEmptyName

def ReadAs (read : Document → Reading α) (member : Document × Document) (entry : String × α) :
    Prop :=
  member.1.name = .ok entry.1 ∧ read member.2 = .ok entry.2

def readMember (read : Document → Reading α) (member : Document × Document) :
    Reading (String × α) := do
  return (← member.1.name, ← read member.2)

theorem readMember_eq_ok_iff {read : Document → Reading α} {member : Document × Document}
    {entry : String × α} : readMember read member = .ok entry ↔ ReadAs read member entry := by
  rw [readMember, ReadAs, except_bind_eq_ok_iff]
  simp only [except_bind_eq_ok_iff, pure, Except.pure, Except.ok.injEq]
  grind

theorem dictionaryOf_object (read : Document → Reading α) (members : List (Document × Document)) :
    (object members).dictionaryOf read = (members.mapM (readMember read)).map .ofList := by
  change members.mapM (readMember read) >>= (fun entries => pure (Dictionary.ofList entries)) = _
  cases members.mapM (readMember read) <;> rfl

theorem dictionaryOf_object_eq_ok_iff {read : Document → Reading α}
    {members : List (Document × Document)} {d : Dictionary α} :
    (object members).dictionaryOf read = .ok d ↔
      ∃ entries, List.Forall₂ (ReadAs read) members entries ∧ .ofList entries = d := by
  rw [dictionaryOf_object, except_map_eq_ok_iff]
  simp only [mapM_eq_ok_iff, readMember_eq_ok_iff]

theorem exists_members_of_dictionaryOf {read : Document → Reading α} {document : Document}
    {d : Dictionary α} (h : document.dictionaryOf read = .ok d) :
    ∃ members, document = object members := by
  cases document with
  | object members => exact ⟨members, rfl⟩
  | _ => exact absurd h (refuse_ne_ok _ _ _)

theorem exists_member_of_dictionaryOf {read : Document → Reading α} {document : Document}
    {d : Dictionary α} (h : document.dictionaryOf read = .ok d) {entry : String × α}
    (listed : entry ∈ d.entries) : ∃ member ∈ document.members, ReadAs read member entry := by
  obtain ⟨members, rfl⟩ := exists_members_of_dictionaryOf h
  obtain ⟨entries, each, rfl⟩ := dictionaryOf_object_eq_ok_iff.1 h
  exact exists_of_forall₂_of_mem (R := flip (ReadAs read)) each.flip
    (Dictionary.mem_of_mem_ofList listed)

theorem exists_entry_of_dictionaryOf {read : Document → Reading α} {document : Document}
    {d : Dictionary α} (h : document.dictionaryOf read = .ok d) {member : Document × Document}
    (present : member ∈ document.members) : ∃ entry, ReadAs read member entry := by
  obtain ⟨members, rfl⟩ := exists_members_of_dictionaryOf h
  obtain ⟨entries, each, -⟩ := dictionaryOf_object_eq_ok_iff.1 h
  obtain ⟨entry, -, readAs⟩ := exists_of_forall₂_of_mem each present
  exact ⟨entry, readAs⟩

end Document

end Json

namespace TraitProperties

theorem ofDocument_eq_ok_iff {document : Json.Document} {p : TraitProperties} :
    ofDocument document = .ok p ↔ document.dictionaryOf PropertyValue.ofDocument = .ok p.values := by
  rw [ofDocument, except_bind_eq_ok_iff]
  simp only [pure, Except.pure, Except.ok.injEq]
  grind [TraitProperties]

theorem named_of_ofDocument {document : Json.Document} (names : document.NoEmptyName)
    {p : TraitProperties} (h : ofDocument document = .ok p) : p.Named := by
  rw [named_iff]
  intro property stored
  obtain ⟨member, present, name, _⟩ :=
    Json.Document.exists_member_of_dictionaryOf (ofDocument_eq_ok_iff.1 h) stored
  exact fun empty => names member present (empty ▸ name)

end TraitProperties

namespace TraitsData

theorem ofDocument_eq_ok_iff {document : Json.Document} {d : TraitsData} :
    ofDocument document = .ok d ↔ document.dictionaryOf TraitProperties.ofDocument = .ok d.traits := by
  rw [ofDocument, except_bind_eq_ok_iff]
  simp only [pure, Except.pure, Except.ok.injEq]
  grind [TraitsData]

theorem named_of_ofDocument {document : Json.Document} (names : document.NamesTraits)
    {d : TraitsData} (h : ofDocument document = .ok d) : d.Named := by
  rw [named_iff]
  intro entry listed
  obtain ⟨member, present, name, readAs⟩ :=
    Json.Document.exists_member_of_dictionaryOf (ofDocument_eq_ok_iff.1 h) listed
  have keys := TraitProperties.named_of_ofDocument (names.keys member present) readAs
  exact ⟨fun empty => names.traitIds member present (empty ▸ name),
    TraitProperties.named_iff.1 keys⟩

end TraitsData

end AssetLink
