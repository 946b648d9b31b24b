import AssetLink.Proofs.Json.Codecs
import AssetLink.Proofs.Traits.Viewing

/-!
The names in trait data. Every writer refuses empty names, also where it is
called with dynamic values or through a view of a trait without a name, so data
has only the names it was made with. A reader of documents refuses none: data
that was read has the names that stand in the document.
-/

namespace AssetLink

open Json

namespace TraitProperties

theorem named_empty : Named {} :=
  named_iff.2 fun _ none => nomatch none

theorem Named.insert {p : TraitProperties} (named : p.Named) {key : String} (nonempty : key ≠ "")
    (value : PropertyValue) : Named ⟨p.values.insert key value⟩ := by
  rw [named_iff] at named ⊢
  intro property stored
  rcases mem_insertEntry stored with rfl | earlier
  · exact nonempty
  · exact named property earlier

theorem named_getD {found : Option TraitProperties} (named : ∀ p ∈ found, p.Named) :
    (found.getD {}).Named := by
  cases found with
  | none => exact named_empty
  | some p => exact named p rfl

theorem Named.set {p : TraitProperties} (named : p.Named) (key : String) (value : PropertyValue) :
    ((set key value).apply p).2.Named := by
  rw [apply_set]
  split
  · exact named
  · next nonempty => exact named.insert nonempty value

end TraitProperties

namespace TraitsData

theorem named_empty : Named {} :=
  named_iff.2 fun _ none => nomatch none

theorem Named.properties {d : TraitsData} (named : d.Named) {traitId : String}
    {p : TraitProperties} (found : d.properties? traitId = some p) : p.Named := by
  have listed := Dictionary.mem_entries_iff.2 found
  exact TraitProperties.named_iff.2 (named_iff.1 named _ listed).2

theorem Named.alter {d : TraitsData} (named : d.Named) {traitId : String} (nonempty : traitId ≠ "")
    {f : Option TraitProperties → TraitProperties}
    (kept : ∀ found, (∀ p ∈ found, p.Named) → (f found).Named) :
    Named ⟨d.traits.alter traitId f⟩ := by
  rw [named_iff]
  intro entry listed
  rcases mem_insertEntry listed with rfl | earlier
  · have written := kept (d.properties? traitId) fun p found => named.properties found
    exact ⟨nonempty, TraitProperties.named_iff.1 written⟩
  · exact named_iff.1 named entry earlier

theorem Named.imbue {d : TraitsData} (named : d.Named) {traitId : String}
    (nonempty : traitId ≠ "") : (d.imbue traitId).Named :=
  named.alter nonempty fun _ => TraitProperties.named_getD

theorem Named.put {d : TraitsData} (named : d.Named) {traitId key : String}
    (nonempty : traitId ≠ "") (nonemptyKey : key ≠ "") (value : PropertyValue) :
    (d.put traitId key value).Named :=
  named.alter nonempty fun _ before => (TraitProperties.named_getD before).insert nonemptyKey value

theorem Named.addTrait {d : TraitsData} (named : d.Named) (traitId : String) :
    ((addTrait traitId).apply d).2.Named := by
  rw [apply_addTrait]
  split
  · exact named
  · next nonempty => exact named.imbue nonempty

theorem Named.addTraits {d : TraitsData} (named : d.Named) (traitIds : List String) :
    ((addTraits traitIds).apply d).2.Named := by
  rw [apply_addTraits]
  split
  · exact named
  · next nonempty =>
      induction traitIds generalizing d with
      | nil => exact named
      | cons first rest ih =>
          rw [List.mem_cons, not_or] at nonempty
          exact ih (named.imbue (Ne.symm nonempty.1)) nonempty.2

theorem Named.set {d : TraitsData} (named : d.Named) (traitId key : String)
    (value : PropertyValue) : ((set traitId key value).apply d).2.Named := by
  rw [apply_set]
  split
  · exact named
  · next nonempty =>
      split
      · exact named
      · next nonemptyKey => exact named.put nonempty nonemptyKey value

end TraitsData

namespace Json.Exchange

theorem named_of_set (traitId key value : Value) {d : TraitsData} (named : d.Named) :
    ((set traitId key value).apply d).2.Named := by
  rw [apply_set]
  split
  · exact named
  · exact named.set _ _ _

theorem exists_member_of_readMembers {α : Type} {fault : String → AssetError}
    {read : String × Value → Except AssetError (String × α)} {value : Value} {d : Dictionary α}
    (h : readMembers fault read value = .ok d) {entry : String × α} (listed : entry ∈ d.entries) :
    ∃ member, read member = .ok entry := by
  obtain ⟨members, -, h⟩ := except_bind_eq_ok_iff.1 h
  obtain ⟨entries, each, built⟩ := except_bind_eq_ok_iff.1 h
  cases built
  obtain ⟨member, -, readAs⟩ := exists_of_forall₂_of_mem (R := flip _)
    (mapM_eq_ok_iff.1 each).flip (Dictionary.mem_of_mem_ofList listed)
  exact ⟨member, readAs⟩

theorem named_of_ofJson {value : Value} {d : TraitsData} (h : ofJson value = .ok d) : d.Named := by
  rw [ofJson_eq_map, except_map_eq_ok_iff] at h
  obtain ⟨traits, read, rfl⟩ := h
  rw [TraitsData.named_iff]
  intro entry listed
  obtain ⟨member, readTrait⟩ := exists_member_of_readMembers read listed
  obtain ⟨-, nonempty, properties⟩ := traitOf_eq_ok_iff.1 readTrait
  refine ⟨nonempty, fun property stored => ?_⟩
  obtain ⟨other, readEntry⟩ := exists_member_of_readMembers properties stored
  exact (entryOf_eq_ok_iff.1 readEntry).2.1

end Json.Exchange

inductive DataWrite
  | addTrait (traitId : String)
  | addTraits (traitIds : List String)
  | set (traitId key : String) (value : PropertyValue)
  | exchange (traitId key value : Value)

def DataWrite.change : DataWrite → Change TraitsData Unit
  | addTrait traitId => TraitsData.addTrait traitId
  | addTraits traitIds => TraitsData.addTraits traitIds
  | set traitId key value => TraitsData.set traitId key value
  | exchange traitId key value => Exchange.set traitId key value

theorem DataWrite.named (write : DataWrite) {d : TraitsData} (named : d.Named) :
    (write.change.apply d).2.Named := by
  cases write with
  | addTrait traitId => exact named.addTrait traitId
  | addTraits traitIds => exact named.addTraits traitIds
  | set traitId key value => exact named.set traitId key value
  | exchange traitId key value => exact Exchange.named_of_set traitId key value named

inductive ViewWrite
  | imbue
  | set (key : String) (value : PropertyValue)

def ViewWrite.change : ViewWrite → Change TraitView Unit
  | imbue => TraitView.imbue
  | set key value => TraitView.set key value

theorem ViewWrite.named (write : ViewWrite) {view : TraitView} {d new : TraitsData}
    (seen : view.data = some d) (named : d.Named)
    (left : (write.change.apply view).2.data = some new) : new.Named := by
  have before : ∀ d ∈ view.data, d.Named := by
    intro other isSeen
    cases seen.symm.trans isSeen
    exact named
  cases write with
  | imbue => exact TraitView.forall_data_imbue (fun _ named => named.addTrait _) before new left
  | set key value =>
      exact TraitView.forall_data_set (fun _ _ _ _ named => named.set _ key value) before new left

/-- The trait data that callers can make where they read no documents as data but
those that are `readable`. Calls may fail; what they leave counts as well. -/
inductive TraitsData.Obtainable (readable : Document → Prop) : TraitsData → Prop
  | empty : Obtainable readable {}
  | ofTraits {traitIds : List String} {d : TraitsData} (made : ofTraits traitIds = .ok d) :
      Obtainable readable d
  | ofJson {value : Value} {d : TraitsData} (made : Exchange.ofJson value = .ok d) :
      Obtainable readable d
  | read {document : Document} {d : TraitsData} (allowed : readable document)
      (made : ofDocument document = .ok d) : Obtainable readable d
  | write {d : TraitsData} (before : Obtainable readable d) (write : DataWrite) :
      Obtainable readable (write.change.apply d).2
  | view {view : TraitView} {d new : TraitsData} (before : Obtainable readable d)
      (seen : view.data = some d) (write : ViewWrite)
      (left : (write.change.apply view).2.data = some new) : Obtainable readable new

/-- The properties that callers can make alone, or take out of trait data. -/
inductive TraitProperties.Obtainable (readableData readable : Document → Prop) :
    TraitProperties → Prop
  | empty : Obtainable readableData readable {}
  | read {document : Document} {p : TraitProperties} (allowed : readable document)
      (made : ofDocument document = .ok p) : Obtainable readableData readable p
  | ofData {d : TraitsData} {traitId : String} {p : TraitProperties}
      (data : d.Obtainable readableData) (found : d.properties? traitId = some p) :
      Obtainable readableData readable p
  | set {p : TraitProperties} (before : Obtainable readableData readable p) (key : String)
      (value : PropertyValue) : Obtainable readableData readable ((set key value).apply p).2

namespace Json.Document

theorem exists_kept_of_dictionaryOf {α : Type} {read : Document → Reading α} {document : Document}
    (distinct : document.DistinctNames) {d : Dictionary α} (h : document.dictionaryOf read = .ok d)
    {member : Document × Document} (present : member ∈ document.members) :
    ∃ entry ∈ d.entries, ReadAs read member entry := by
  obtain ⟨members, rfl⟩ := exists_members_of_dictionaryOf h
  obtain ⟨entries, each, rfl⟩ := dictionaryOf_object_eq_ok_iff.1 h
  obtain ⟨entry, listed, readAs⟩ := exists_of_forall₂_of_mem each present
  exact ⟨entry, (Dictionary.mem_ofList_iff (distinct_of_readAs distinct.once each)).2 listed, readAs⟩

end Json.Document

namespace TraitProperties

theorem named_iff_of_ofDocument {document : Document} (distinct : document.DistinctNames)
    {p : TraitProperties} (h : ofDocument document = .ok p) : p.Named ↔ document.NoEmptyName := by
  refine ⟨fun named member present unnamed => ?_, fun names => named_of_ofDocument names h⟩
  obtain ⟨property, stored, name, -⟩ :=
    Document.exists_kept_of_dictionaryOf distinct (ofDocument_eq_ok_iff.1 h) present
  exact named_iff.1 named property stored (Except.ok.inj (name.symm.trans unnamed))

end TraitProperties

namespace TraitsData

theorem named_iff_of_ofDocument {document : Document} (distinct : document.DistinctNames)
    {d : TraitsData} (h : ofDocument document = .ok d) : d.Named ↔ document.NamesTraits := by
  refine ⟨fun named => ⟨fun member present unnamed => ?_, fun member present => ?_⟩,
    fun names => named_of_ofDocument names h⟩
  · obtain ⟨entry, listed, name, -⟩ :=
      Document.exists_kept_of_dictionaryOf distinct (ofDocument_eq_ok_iff.1 h) present
    exact (named_iff.1 named entry listed).1 (Except.ok.inj (name.symm.trans unnamed))
  · obtain ⟨entry, listed, -, properties⟩ :=
      Document.exists_kept_of_dictionaryOf distinct (ofDocument_eq_ok_iff.1 h) present
    have keys := TraitProperties.named_iff.2 (named_iff.1 named entry listed).2
    exact (TraitProperties.named_iff_of_ofDocument (distinct.each member present) properties).1 keys

theorem Obtainable.named {d : TraitsData} (h : d.Obtainable Document.NamesTraits) : d.Named := by
  induction h with
  | empty => exact named_empty
  | @ofTraits traitIds d made =>
      obtain ⟨_, _, rfl⟩ := except_map_eq_ok_iff.1 made
      exact named_empty.addTraits traitIds
  | ofJson made => exact Exchange.named_of_ofJson made
  | read names made => exact named_of_ofDocument names made
  | write _ write ih => exact write.named ih
  | view _ seen write left ih => exact write.named seen ih left

end TraitsData

theorem TraitProperties.Obtainable.named {p : TraitProperties}
    (h : p.Obtainable Document.NamesTraits Document.NoEmptyName) : p.Named := by
  induction h with
  | empty => exact named_empty
  | read names made => exact named_of_ofDocument names made
  | ofData data found => exact data.named.properties found
  | set _ key value ih => exact ih.set key value

namespace TraitsData

/-- Data is obtainable with empty names only by reading a document that has such a
name, and a document that repeats no name always gives them. Without one, what is
made of the data as JSON is read back as the same data. -/
theorem obtainable_named (d : TraitsData) (p : TraitProperties) (document : Document) :
    (d.Obtainable Document.NamesTraits → d.Named ∧ (d.FiniteFloats →
      ∃ value, Exchange.toJson d = .ok value ∧ Exchange.ofJson value = .ok d)) ∧
    (p.Obtainable Document.NamesTraits Document.NoEmptyName → p.Named) ∧
    (document.DistinctNames →
      (ofDocument document = .ok d → (d.Named ↔ document.NamesTraits)) ∧
      (TraitProperties.ofDocument document = .ok p → (p.Named ↔ document.NoEmptyName))) := by
  refine ⟨fun obtainable => ⟨obtainable.named, fun finite => ?_⟩,
    fun obtainable => obtainable.named, fun distinct =>
      ⟨named_iff_of_ofDocument distinct, TraitProperties.named_iff_of_ofDocument distinct⟩⟩
  obtain ⟨value, written⟩ := Exchange.exists_toJson finite
  have canonical := Exchange.canonical_toJson written
  exact ⟨value, written, (Exchange.ofJson_eq_ok_iff canonical).2 ⟨obtainable.named, written⟩⟩

/-- A trait without an id, which declares a property without a key. -/
def nameless : TraitSchema where
  id := ""
  properties := [⟨"", .str, ""⟩]

def smallProperties : Document :=
  .object [(.string [.char 'k'], .bool true)]

def smallDocument : Document :=
  .object [(.string [.char 't'], smallProperties)]

def smallData : TraitsData :=
  ⟨.ofList [("t", ⟨.ofList [("k", .bool true)]⟩)]⟩

def grownData : TraitsData :=
  ⟨.ofList [("t", ⟨.ofList [("k", .bool true), ("x", .int 1)]⟩)]⟩

theorem distinctNames_smallProperties : smallProperties.DistinctNames := by
  refine .object (List.pairwise_singleton _ _) ?_
  rw [List.forall_mem_singleton]
  exact .bool true

theorem distinctNames_smallDocument : smallDocument.DistinctNames := by
  refine .object (List.pairwise_singleton _ _) ?_
  rw [List.forall_mem_singleton]
  exact distinctNames_smallProperties

theorem namesTraits_smallDocument : smallDocument.NamesTraits := by
  have keys : smallProperties.NoEmptyName := by
    simp [smallProperties, Document.NoEmptyName, Document.members, Document.name, literal,
      Piece.text?]
  refine ⟨?_, ?_⟩
  · simp [smallDocument, Document.NoEmptyName, Document.members, Document.name, literal,
      Piece.text?]
  · rw [smallDocument, Document.members, List.forall_mem_singleton]
    exact keys

theorem ofDocument_smallDocument : ofDocument smallDocument = .ok smallData := by
  cbv

theorem obtainable_grownData : grownData.Obtainable Document.NamesTraits := by
  have read : smallData.Obtainable Document.NamesTraits :=
    .read namesTraits_smallDocument ofDocument_smallDocument
  have seen : TraitView.data ⟨nameless, .data smallData⟩ = some smallData := rfl
  have viewed : smallData.Obtainable Document.NamesTraits :=
    .view read seen (.set "" (.str "")) (by cbv)
  have refused := viewed.write (.exchange (.str "t") (.str "") (.int 1))
  exact refused.write (.exchange (.str "t") (.str "x") (.int 1))

theorem obtainable_named_grownData :
    (grownData.Obtainable Document.NamesTraits ∧ grownData.Named ∧ grownData.FiniteFloats ∧
      ∃ value, Exchange.toJson grownData = .ok value ∧ Exchange.ofJson value = .ok grownData) ∧
    (∃ p, grownData.properties? "t" = some p ∧
      p.Obtainable Document.NamesTraits Document.NoEmptyName ∧ p.Named) ∧
    (smallDocument.DistinctNames ∧ ofDocument smallDocument = .ok smallData ∧
      (smallData.Named ↔ smallDocument.NamesTraits)) ∧
    smallProperties.DistinctNames ∧ ∃ p, TraitProperties.ofDocument smallProperties = .ok p ∧
      (p.Named ↔ smallProperties.NoEmptyName) := by
  have finite : grownData.FiniteFloats := by decide
  obtain ⟨p, found⟩ : ∃ p, grownData.properties? "t" = some p := ⟨_, rfl⟩
  obtain ⟨q, read⟩ : ∃ q, TraitProperties.ofDocument smallProperties = .ok q := ⟨_, rfl⟩
  have obtainable : p.Obtainable Document.NamesTraits Document.NoEmptyName :=
    .ofData obtainable_grownData found
  obtain ⟨data, properties, -⟩ := obtainable_named grownData p smallDocument
  obtain ⟨-, -, small⟩ := obtainable_named smallData q smallDocument
  obtain ⟨-, -, alone⟩ := obtainable_named smallData q smallProperties
  obtain ⟨named, readBack⟩ := data obtainable_grownData
  exact ⟨⟨obtainable_grownData, named, finite, readBack finite⟩,
    ⟨p, found, obtainable, properties obtainable⟩,
    ⟨distinctNames_smallDocument, ofDocument_smallDocument,
      (small distinctNames_smallDocument).1 ofDocument_smallDocument⟩,
    distinctNames_smallProperties, q, read, (alone distinctNames_smallProperties).2 read⟩

/-- A document may name a trait and a property with the empty text. What is made
of the data that is read from it is not read back. -/
theorem emptyNames_are_read :
    ∃ d : TraitsData, readText ofDocument "\x7b\"\":\x7b\"\":true\x7d\x7d" = .ok d ∧
      d.Obtainable (fun _ => True) ∧ d.hasProperty "" "" = true ∧ ¬ d.Named ∧ d.FiniteFloats ∧
      ∃ value, Exchange.toJson d = .ok value ∧
        Exchange.ofJson value = .error (.emptyArgument "trait id") := by
  have read : readText ofDocument "\x7b\"\":\x7b\"\":true\x7d\x7d" =
      .ok ⟨.ofList [("", ⟨.ofList [("", .bool true)]⟩)]⟩ := by cbv
  exact ⟨_, read, .read trivial (readText_eq_ok_iff.1 read).2, by decide, by decide, by decide,
    _, rfl, by cbv⟩

end TraitsData

end AssetLink
