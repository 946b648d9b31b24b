import Mathlib
import AssetLink.Proofs.Json.Reading
import AssetLink.Proofs.Json.RoundTrip

/-!
Two ways from a document to trait data: read directly, or read as a value that
is then exchanged. Where no object repeats a name the two accept the same
documents as the same data, and both ways back give the same value.
-/

namespace AssetLink

namespace Json

namespace Document

inductive DistinctNames : Document → Prop
  | null : DistinctNames null
  | bool (value : Bool) : DistinctNames (bool value)
  | number (n : Numeral) : DistinctNames (number n)
  | string (pieces : List Piece) : DistinctNames (string pieces)
  | array {items : List Document} (each : ∀ item ∈ items, DistinctNames item) :
      DistinctNames (array items)
  | object {members : List (Document × Document)}
      (once : members.Pairwise fun a b => ∀ name, a.1.name = .ok name → b.1.name ≠ .ok name)
      (each : ∀ member ∈ members, DistinctNames member.2) : DistinctNames (object members)
  | broken : DistinctNames broken

theorem DistinctNames.once {document : Document} (h : document.DistinctNames) :
    document.members.Pairwise fun a b => ∀ name, a.1.name = .ok name → b.1.name ≠ .ok name := by
  cases h with
  | object once _ => exact once
  | _ => exact .nil

theorem DistinctNames.each {document : Document} (h : document.DistinctNames) :
    ∀ member ∈ document.members, member.2.DistinctNames := by
  cases h with
  | object _ each => exact each
  | _ => exact fun _ none => nomatch none

theorem valueMembers_eq_mapM (room : Nat) (members : List (Document × Document)) :
    valueMembers room members = members.mapM (readMember (value room)) := by
  induction members with
  | nil => rfl
  | cons member rest ih =>
      rw [valueMembers, ih, List.mapM_cons, readMember]
      cases member.1.name <;> cases member.2.value room <;> rfl

theorem valueItems_eq_mapM (room : Nat) (items : List Document) :
    valueItems room items = items.mapM (value room) := by
  induction items with
  | nil => rfl
  | cons item rest ih => rw [valueItems, ih, List.mapM_cons]

theorem value_object (room : Nat) (members : List (Document × Document)) :
    (object members).value (room + 1) =
      ((object members).dictionaryOf (value room)).map Value.ofDictionary := by
  rw [value, valueMembers_eq_mapM, dictionaryOf_object]
  cases members.mapM (readMember (value room)) <;> rfl

theorem value_object_eq_ok_iff {room : Nat} {members : List (Document × Document)} {v : Value} :
    (object members).value (room + 1) = .ok v ↔
      ∃ pairs, List.Forall₂ (ReadAs (value room)) members pairs ∧
        .object (Dictionary.ofList pairs).entries = v := by
  rw [value_object, except_map_eq_ok_iff]
  simp only [dictionaryOf_object_eq_ok_iff, Value.ofDictionary]
  grind

theorem exists_members_of_value {room : Nat} {document : Document}
    {members : List (String × Value)} (h : document.value room = .ok (.object members)) :
    ∃ written, document = object written := by
  cases document with
  | object written => exact ⟨written, rfl⟩
  | null | bool => cases h
  | broken => cases h
  | number n =>
      obtain ⟨number, -, same⟩ := except_bind_eq_ok_iff.1 h
      cases number <;> cases same
  | string pieces =>
      obtain ⟨text, -, same⟩ := except_bind_eq_ok_iff.1 h
      cases same
  | array items =>
      cases room with
      | zero => cases h
      | succ room =>
        obtain ⟨values, -, same⟩ := except_bind_eq_ok_iff.1 h
        cases same

end Document

end Json

section Represents

variable {α : Type} {convert : α → Except AssetError Json.Value}

theorem Represents.insertEntry {entries : List (String × α)} {members : List (String × Json.Value)}
    (h : Represents convert entries members) (key : String) {a : α} {v : Json.Value}
    (converted : convert a = .ok v) :
    Represents convert (insertEntry key a entries) (insertEntry key v members) := by
  induction h with
  | nil => exact .cons ⟨rfl, converted⟩ .nil
  | @cons entry member entries members first rest ih =>
      rw [AssetLink.insertEntry, AssetLink.insertEntry, ← first.1]
      split
      · exact .cons ⟨rfl, converted⟩ (.cons first rest)
      · split
        · exact .cons ⟨rfl, converted⟩ rest
        · exact .cons first ih

theorem Represents.ofList {entries : List (String × α)} {members : List (String × Json.Value)}
    (h : Represents convert entries members) :
    Represents convert (Dictionary.ofList entries).entries (Dictionary.ofList members).entries := by
  have step : ∀ (d : Dictionary α) (e : Dictionary Json.Value),
      Represents convert d.entries e.entries →
        Represents convert (entries.foldl (fun d entry => d.insert entry.1 entry.2) d).entries
          (members.foldl (fun e member => e.insert member.1 member.2) e).entries := by
    induction h with
    | nil => exact fun _ _ related => related
    | @cons entry member entries members first _ ih =>
        intro d e related
        refine ih _ _ ?_
        change Represents convert (AssetLink.insertEntry entry.1 entry.2 d.entries)
          (AssetLink.insertEntry member.1 member.2 e.entries)
        rw [← first.1]
        exact related.insertEntry entry.1 first.2
  exact step {} {} .nil

theorem Represents.eq_of_injective
    (injective : ∀ a b v, convert a = .ok v → convert b = .ok v → a = b)
    {entries others : List (String × α)} {members : List (String × Json.Value)}
    (h : Represents convert entries members) (h' : Represents convert others members) :
    entries = others :=
  List.left_unique_forall₂'
    (fun _ _ _ first other =>
      Prod.ext (first.1.trans other.1.symm) (injective _ _ _ first.2 other.2)) h h'

theorem Represents.eq_map {f : α → Json.Value} (same : ∀ a v, convert a = .ok v → f a = v)
    {entries : List (String × α)} {members : List (String × Json.Value)}
    (h : Represents convert entries members) :
    entries.map (fun entry => (entry.1, f entry.2)) = members := by
  induction h with
  | nil => rfl
  | cons first _ ih => rw [List.map_cons, ih, first.1, same _ _ first.2]

end Represents

namespace Json

namespace Exchange

variable {α : Type} {convert : α → Except AssetError Value}

theorem ofEntries_injective
    (injective : ∀ a b v, convert a = .ok v → convert b = .ok v → a = b)
    {d e : Dictionary α} {v : Value} (hd : ofEntries convert d = .ok v)
    (he : ofEntries convert e = .ok v) : d = e := by
  obtain ⟨members, rfl, represents⟩ := ofEntries_eq_ok_iff.1 hd
  obtain ⟨_, same, represents'⟩ := ofEntries_eq_ok_iff.1 he
  cases same
  rw [← Dictionary.ofList_entries d, represents.eq_of_injective injective represents',
    Dictionary.ofList_entries]

theorem ofDictionary_map_of_ofEntries {f : α → Value}
    (same : ∀ a v, convert a = .ok v → f a = v) {d : Dictionary α} {v : Value}
    (h : ofEntries convert d = .ok v) : .ofDictionary (d.map f) = v := by
  obtain ⟨members, rfl, represents⟩ := ofEntries_eq_ok_iff.1 h
  rw [← represents.eq_map same]
  rfl

theorem ofProperty_injective {p q : PropertyValue} {v : Value} (hp : ofProperty p = .ok v)
    (hq : ofProperty q = .ok v) : p = q := by
  have read : (.ok p : Except AssetError PropertyValue) = .ok q :=
    (toProperty_eq_ok_iff.2 hp).symm.trans (toProperty_eq_ok_iff.2 hq)
  cases read
  rfl

end Exchange

namespace Document

variable {α : Type} {read : Document → Reading α} {convert : α → Except AssetError Value}
  {room : Nat}

section Agreement

/-- A reader takes a document as `a` exactly if the document is read as a value
that `a` is rendered as. -/
def Agrees (read : Document → Reading α) (convert : α → Except AssetError Value) (room : Nat)
    (document : Document) : Prop :=
  ∀ a, read document = .ok a ↔ ∃ v, document.value room = .ok v ∧ convert a = .ok v

theorem exists_represents {members : List (Document × Document)} {entries : List (String × α)}
    (agree : ∀ member ∈ members, Agrees read convert room member.2)
    (h : List.Forall₂ (ReadAs read) members entries) :
    ∃ pairs, List.Forall₂ (ReadAs (value room)) members pairs ∧
      Represents convert entries pairs := by
  induction h with
  | nil => exact ⟨[], .nil, .nil⟩
  | @cons member entry members entries first _ ih =>
      rw [List.forall_mem_cons] at agree
      obtain ⟨pairs, each, represents⟩ := ih agree.2
      obtain ⟨v, isValue, converted⟩ := (agree.1 entry.2).1 first.2
      exact ⟨(entry.1, v) :: pairs, .cons ⟨first.1, isValue⟩ each,
        .cons ⟨rfl, converted⟩ represents⟩

theorem value_of_dictionaryOf {members : List (Document × Document)}
    (agree : ∀ member ∈ members, Agrees read convert room member.2) {d : Dictionary α}
    (h : (object members).dictionaryOf read = .ok d) :
    ∃ v, (object members).value (room + 1) = .ok v ∧ Exchange.ofEntries convert d = .ok v := by
  obtain ⟨entries, each, rfl⟩ := dictionaryOf_object_eq_ok_iff.1 h
  obtain ⟨pairs, values, represents⟩ := exists_represents agree each
  exact ⟨_, value_object_eq_ok_iff.2 ⟨pairs, values, rfl⟩,
    Exchange.ofEntries_eq_ok_iff.2 ⟨_, rfl, represents.ofList⟩⟩

theorem distinct_of_readAs {members : List (Document × Document)} {entries : List (String × α)}
    (once : members.Pairwise fun a b => ∀ name, a.1.name = .ok name → b.1.name ≠ .ok name)
    (h : List.Forall₂ (ReadAs read) members entries) :
    entries.Pairwise fun a b => a.1 ≠ b.1 := by
  induction h with
  | nil => exact .nil
  | @cons member entry members entries first rest ih =>
      rw [List.pairwise_cons] at once
      refine .cons (fun other listed same => ?_) (ih once.2)
      obtain ⟨written, present, readAs⟩ :=
        exists_of_forall₂_of_mem (R := flip (ReadAs read)) rest.flip listed
      exact once.1 written present entry.1 first.1 (same ▸ readAs.1)

/-- If the values of an object's members are rendered from what the reader takes
them as, so is the object; members of one name would hide one another as values,
but are all read directly. -/
theorem agrees_dictionaryOf
    (injective : ∀ a b v, convert a = .ok v → convert b = .ok v → a = b)
    {document : Document}
    (once : document.members.Pairwise fun a b =>
      ∀ name, a.1.name = .ok name → b.1.name ≠ .ok name)
    (agree : ∀ member ∈ document.members, Agrees read convert room member.2) :
    Agrees (dictionaryOf read) (Exchange.ofEntries convert) (room + 1) document := by
  intro d
  constructor
  · intro h
    obtain ⟨members, rfl⟩ := exists_members_of_dictionaryOf h
    exact value_of_dictionaryOf agree h
  · rintro ⟨v, isValue, rendered⟩
    obtain ⟨_, rfl, represents⟩ := Exchange.ofEntries_eq_ok_iff.1 rendered
    obtain ⟨members, rfl⟩ := exists_members_of_value isValue
    obtain ⟨pairs, values, same⟩ := value_object_eq_ok_iff.1 isValue
    cases same
    have kept := distinct_of_readAs once values
    have readable : ∀ member ∈ members, ∃ entry, ReadAs read member entry := by
      intro member present
      obtain ⟨pair, listed, name, isPair⟩ := exists_of_forall₂_of_mem values present
      obtain ⟨entry, _, _, converted⟩ := exists_of_forall₂_of_mem (R := flip _) represents.flip
        ((Dictionary.mem_ofList_iff kept).2 listed)
      exact ⟨(pair.1, entry.2), name, (agree member present entry.2).2 ⟨pair.2, isPair, converted⟩⟩
    obtain ⟨entries, each⟩ := exists_forall₂_of_forall_exists readable
    have read' := dictionaryOf_object_eq_ok_iff.2 ⟨entries, each, rfl⟩
    obtain ⟨v, isValue', rendered'⟩ := value_of_dictionaryOf agree read'
    cases isValue.symm.trans isValue'
    rw [read', Exchange.ofEntries_injective injective rendered rendered']

end Agreement

theorem property_eq_ok_iff_toProperty {room : Nat} {document : Document} {p : PropertyValue} :
    PropertyValue.ofDocument document = .ok p ↔
      ∃ v, document.value room = .ok v ∧ Exchange.toProperty v = .ok p := by
  have refused : ∀ expected, document.refuse expected ≠ .ok p := fun expected =>
    refuse_ne_ok document expected p
  cases document with
  | null => simp [PropertyValue.ofDocument, refused, Document.value, Exchange.toProperty]
  | bool value => simp [PropertyValue.ofDocument, Document.value, Exchange.toProperty]
  | broken => simp [PropertyValue.ofDocument, refused, Document.value, malformed]
  | number n =>
    rw [PropertyValue.ofDocument, Document.value]
    cases numeral n with
    | error fault => simp [bind, Except.bind]
    | ok number =>
      cases number with
      | float x => simp [bind, Except.bind, pure, Except.pure, Value.ofNumber, Exchange.toProperty]
      | int k =>
        cases h : Exchange.int64? k <;>
          simp [bind, Except.bind, pure, Except.pure, Value.ofNumber, Exchange.toProperty, h,
            mismatch]
  | string pieces =>
    rw [PropertyValue.ofDocument, Document.value]
    cases literal pieces <;> simp [bind, Except.bind, pure, Except.pure, Exchange.toProperty]
  | array items =>
    refine ⟨fun h => absurd h (refused _), ?_⟩
    rintro ⟨v, isValue, exchanged⟩
    cases room with
    | zero => cases isValue
    | succ room =>
      obtain ⟨values, -, same⟩ := except_bind_eq_ok_iff.1 isValue
      cases same
      cases exchanged
  | object members =>
    refine ⟨fun h => absurd h (refused _), ?_⟩
    rintro ⟨v, isValue, exchanged⟩
    cases room with
    | zero => cases isValue
    | succ room =>
      obtain ⟨pairs, -, same⟩ := value_object_eq_ok_iff.1 isValue
      cases same
      cases exchanged

theorem agrees_property (room : Nat) (document : Document) :
    Agrees PropertyValue.ofDocument Exchange.ofProperty room document := fun _ =>
  property_eq_ok_iff_toProperty.trans
    (exists_congr fun _ => and_congr_right fun _ => Exchange.toProperty_eq_ok_iff)

theorem agrees_properties {room : Nat} {document : Document} (distinct : document.DistinctNames) :
    Agrees TraitProperties.ofDocument (fun p => Exchange.ofEntries Exchange.ofProperty p.values)
      (room + 1) document := by
  intro p
  rw [TraitProperties.ofDocument_eq_ok_iff]
  exact agrees_dictionaryOf (fun _ _ _ => Exchange.ofProperty_injective) distinct.once
    (fun member _ => agrees_property room member.2) p.values

theorem agrees_data {room : Nat} {document : Document} (distinct : document.DistinctNames) :
    Agrees TraitsData.ofDocument Exchange.toJson (room + 2) document := by
  intro d
  have injective : ∀ (p q : TraitProperties) v, Exchange.ofEntries Exchange.ofProperty p.values = .ok v →
      Exchange.ofEntries Exchange.ofProperty q.values = .ok v → p = q := by
    intro p q v hp hq
    have same := Exchange.ofEntries_injective (fun _ _ _ => Exchange.ofProperty_injective) hp hq
    cases p
    cases q
    cases same
    rfl
  rw [TraitsData.ofDocument_eq_ok_iff]
  exact agrees_dictionaryOf injective distinct.once
    (fun member present => agrees_properties (distinct.each member present)) d.traits

theorem canonical_value {room : Nat} {document : Document} {v : Value}
    (h : document.value room = .ok v) : v.Canonical := by
  induction room using Nat.strong_induction_on generalizing document v with
  | h room ih =>
    cases document with
    | null =>
      cases h
      exact .null
    | bool value =>
      cases h
      exact .bool value
    | number n =>
      obtain ⟨number, -, same⟩ := except_bind_eq_ok_iff.1 h
      cases same
      cases number with
      | int value => exact .int value
      | float value => exact .float value
    | string pieces =>
      obtain ⟨text, -, same⟩ := except_bind_eq_ok_iff.1 h
      cases same
      exact .str text
    | array items =>
      cases room with
      | zero => cases h
      | succ room =>
        obtain ⟨values, each, same⟩ := except_bind_eq_ok_iff.1 h
        cases same
        rw [valueItems_eq_mapM, mapM_eq_ok_iff] at each
        refine .array fun value listed => ?_
        obtain ⟨item, _, isValue⟩ := exists_of_forall₂_of_mem (R := flip _) each.flip listed
        exact ih room (Nat.lt_succ_self room) isValue
    | object members =>
      cases room with
      | zero => cases h
      | succ room =>
        rw [value_object, except_map_eq_ok_iff] at h
        obtain ⟨d, isDictionary, rfl⟩ := h
        refine .object d.sorted fun pair listed => ?_
        obtain ⟨_, _, _, isValue⟩ := exists_member_of_dictionaryOf isDictionary listed
        exact ih room (Nat.lt_succ_self room) isValue
    | broken => cases h

end Document

namespace Exchange

theorem serialize_of_ofProperty {p : PropertyValue} {v : Value} (h : ofProperty p = .ok v) :
    p.serialize = v := by
  cases p with
  | float x =>
    obtain ⟨y, finite, same⟩ := elim_eq_ok_iff.1 h
    cases same
    rw [PropertyValue.serialize, finite]
    rfl
  | _ =>
    cases h
    rfl

theorem serialize_of_toJson {d : TraitsData} {v : Value} (h : toJson d = .ok v) :
    d.serialize = v :=
  ofDictionary_map_of_ofEntries
    (fun _ _ => ofDictionary_map_of_ofEntries fun _ _ => serialize_of_ofProperty) h

/-- A document is read directly exactly as the value that it stands for is
exchanged: a property in every case, trait data where no object repeats a name
and no name is empty. What exchange renders is what is written directly. -/
theorem codecs_agree :
    (∀ (document : Document) p, PropertyValue.ofDocument document = .ok p ↔
      ∃ v, document.value Document.maxDepth = .ok v ∧ toProperty v = .ok p) ∧
    (∀ document : Document, document.DistinctNames → document.NamesTraits →
      ∀ d, TraitsData.ofDocument document = .ok d ↔
        ∃ v, document.value Document.maxDepth = .ok v ∧ ofJson v = .ok d) ∧
    ∀ (d : TraitsData) v, toJson d = .ok v → d.serialize = v := by
  refine ⟨fun document p => Document.property_eq_ok_iff_toProperty,
    fun document distinct names d => ?_, fun d v => serialize_of_toJson⟩
  have agree : Document.Agrees TraitsData.ofDocument toJson Document.maxDepth document :=
    Document.agrees_data distinct
  constructor
  · intro read
    obtain ⟨v, isValue, rendered⟩ := (agree d).1 read
    have named := TraitsData.named_of_ofDocument names read
    exact ⟨v, isValue, (ofJson_eq_ok_iff (Document.canonical_value isValue)).2 ⟨named, rendered⟩⟩
  · rintro ⟨v, isValue, exchanged⟩
    have rendered := ((ofJson_eq_ok_iff (Document.canonical_value isValue)).1 exchanged).2
    exact (agree d).2 ⟨v, isValue, rendered⟩

/-- A trait with a zero that has a sign and the highest integer, one of the keys
written by its bits, and behind it a trait without properties. -/
def sampleDocument : Document :=
  .object [
    (.string [.char 'b'], .object [
      (.string [.unit 0x7A], .number ⟨true, [0], none, none⟩),
      (.string [.char 'k'],
        .number ⟨false, [9, 2, 2, 3, 3, 7, 2, 0, 3, 6, 8, 5, 4, 7, 7, 5, 8, 0, 7], none, none⟩)]),
    (.string [.char 'a'], .object [])]

def sampleData : TraitsData :=
  ⟨.ofList [
    ("a", {}),
    ("b", ⟨.ofList [("k", .int 9223372036854775807), ("z", .float Binary64.zero.neg)]⟩)]⟩

theorem codecs_agree_sample :
    sampleDocument.DistinctNames ∧ sampleDocument.NamesTraits ∧
      TraitsData.ofDocument sampleDocument = .ok sampleData ∧
      ∃ v, sampleDocument.value Document.maxDepth = .ok v ∧ ofJson v = .ok sampleData := by
  have read : TraitsData.ofDocument sampleDocument = .ok sampleData := by cbv
  have distinct : sampleDocument.DistinctNames := by
    refine .object ?_ ?_
    · simp [Document.name, literal, Piece.text?]
    · rw [List.forall_mem_cons, List.forall_mem_singleton]
      refine ⟨.object ?_ ?_, .object .nil (by simp)⟩
      · simp [Document.name, literal, Piece.text?]
      · rw [List.forall_mem_cons, List.forall_mem_singleton]
        exact ⟨.number _, .number _⟩
  have names : sampleDocument.NamesTraits := by
    constructor
    · simp [sampleDocument, Document.NoEmptyName, Document.members, Document.name, literal,
        Piece.text?]
    · rw [sampleDocument, Document.members, List.forall_mem_cons, List.forall_mem_singleton]
      constructor
      · rw [Document.NoEmptyName, Document.members, List.forall_mem_cons,
          List.forall_mem_singleton]
        simp [Document.name, literal, Piece.text?]
      · exact fun _ none => absurd none List.not_mem_nil
  exact ⟨distinct, names, read, (codecs_agree.2.1 sampleDocument distinct names sampleData).1 read⟩

end Exchange

end Json

end AssetLink
