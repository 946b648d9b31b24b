import AssetLink.Proofs.Json.Exchange

/-!
Whole trait data written to JSON and read back. Data whose names are not empty
and whose floats are finite corresponds one to one to the values that are read
as data, and only floats that are not finite stand in the way of writing.
-/

namespace AssetLink

namespace Binary64

theorem neg_infinity : infinity.neg = ⟨0xFFF0000000000000⟩ := by decide

theorem isFinite_eq_false_iff {x : Binary64} :
    x.isFinite = false ↔ x.isNaN = true ∨ x = infinity ∨ x = infinity.neg := by
  have word : ∀ y : Binary64, x = y ↔ x.bits.toNat = y.bits.toNat := fun y => by
    rw [UInt64.toNat_inj, ← Binary64.mk.injEq]
  have bound := x.bits.toNat_lt
  rw [word, word, neg_infinity]
  simp [isFinite, isNaN, biasedExponent, fraction, infinity]
  omega

end Binary64

def TraitsData.FiniteFloats (d : TraitsData) : Prop :=
  ∀ traitId key x, d.get? traitId key = some (.float x) → x.isFinite = true

theorem TraitsData.finiteFloats_iff {d : TraitsData} :
    d.FiniteFloats ↔ ∀ entry ∈ d.traits.entries, ∀ property ∈ entry.2.values.entries,
      ∀ x ∈ property.2.asFloat?, x.isFinite = true := by
  constructor
  · rintro finite ⟨traitId, p⟩ listed ⟨key, value⟩ stored x isFloat
    have same : value = .float x := by
      cases value <;> simp_all [PropertyValue.asFloat?]
    exact finite traitId key x (get?_eq_some_iff.2 ⟨p, listed, same ▸ stored⟩)
  · intro h traitId key x found
    obtain ⟨p, listed, stored⟩ := get?_eq_some_iff.1 found
    exact h _ listed _ stored x rfl

instance (d : TraitsData) : Decidable d.FiniteFloats :=
  decidable_of_iff _ TraitsData.finiteFloats_iff.symm

/-- A member of an object for each entry of a dictionary, with the same name. -/
abbrev Represents {α : Type} (convert : α → Except AssetError Json.Value) :
    List (String × α) → List (String × Json.Value) → Prop :=
  Entrywise fun a v => convert a = .ok v

namespace Json.Exchange

variable {α : Type} {convert : α → Except AssetError Value}

theorem renderEntry_eq_ok_iff {entry : String × α} {member : String × Value} :
    (do return (entry.1, ← convert entry.2) : Except AssetError (String × Value)) = .ok member ↔
      entry.1 = member.1 ∧ convert entry.2 = .ok member.2 := by
  rw [except_bind_eq_ok_iff]
  simp only [pure, Except.pure, Except.ok.injEq]
  grind

theorem ofEntries_eq_ok_iff {d : Dictionary α} {value : Value} :
    ofEntries convert d = .ok value ↔
      ∃ members, value = .object members ∧ Represents convert d.entries members := by
  rw [ofEntries, except_bind_eq_ok_iff]
  refine exists_congr fun members => ?_
  rw [mapM_eq_ok_iff]
  simp only [renderEntry_eq_ok_iff]
  simp only [pure, Except.pure, Except.ok.injEq]
  rw [and_comm, eq_comm]

theorem exists_of_ofEntries_eq_error {d : Dictionary α} {e : AssetError}
    (h : ofEntries convert d = .error e) : ∃ entry ∈ d.entries, convert entry.2 = .error e := by
  rw [ofEntries, except_bind_eq_error_iff] at h
  rcases h with h | ⟨members, _, h⟩
  · obtain ⟨entry, listed, fault⟩ := exists_of_mapM_eq_error h
    refine ⟨entry, listed, ?_⟩
    rcases except_bind_eq_error_iff.1 fault with fault | ⟨value, _, fault⟩
    · exact fault
    · cases fault
  · cases h

section Inverse

variable (convert) {read : String × Value → Except AssetError (String × α)}
  (good : String × α → Prop)
  (inverse : ∀ member entry, member.2.Canonical →
    (read member = .ok entry ↔
      entry.1 = member.1 ∧ good entry ∧ convert entry.2 = .ok member.2))

include inverse

theorem mapM_read_eq_ok_iff {members : List (String × Value)} {entries : List (String × α)}
    (each : ∀ member ∈ members, member.2.Canonical) :
    members.mapM read = .ok entries ↔
      (∀ entry ∈ entries, good entry) ∧ Represents convert entries members := by
  rw [mapM_eq_ok_iff]
  induction members generalizing entries with
  | nil => cases entries <;> simp [Represents]
  | cons member rest ih =>
    cases entries with
    | nil => simp [Represents]
    | cons entry entries =>
      have first := inverse member entry (each member List.mem_cons_self)
      have others := @ih entries fun other present =>
        each other (List.mem_cons_of_mem _ present)
      simp only [Represents, List.forall₂_cons, List.forall_mem_cons] at others ⊢
      rw [first, others]
      tauto

theorem readMembers_eq_ok_iff (fault : String → AssetError) {value : Value}
    (canonical : value.Canonical) {d : Dictionary α} :
    readMembers fault read value = .ok d ↔
      (∀ entry ∈ d.entries, good entry) ∧ ofEntries convert d = .ok value := by
  rw [readMembers, except_bind_eq_ok_iff, ofEntries_eq_ok_iff]
  constructor
  · rintro ⟨opened, isObject, h⟩
    cases canonical with
    | object sorted each =>
      cases isObject
      rw [Dictionary.entries_ofList sorted, except_bind_eq_ok_iff] at h
      obtain ⟨entries, h, built⟩ := h
      cases built
      obtain ⟨all, represents⟩ := (mapM_read_eq_ok_iff convert good inverse each).1 h
      rw [Dictionary.entries_ofList (represents.sorted_iff.2 sorted)]
      exact ⟨all, _, rfl, represents⟩
    | _ => cases isObject
  · rintro ⟨all, members, rfl, represents⟩
    cases canonical with
    | object sorted each =>
      refine ⟨.ofList members, rfl, ?_⟩
      rw [except_bind_eq_ok_iff, Dictionary.entries_ofList sorted]
      refine ⟨d.entries, ?_, congrArg _ (Dictionary.ofList_entries d)⟩
      exact (mapM_read_eq_ok_iff convert good inverse each).2 ⟨all, represents⟩

end Inverse

def NamedEntry (entry : String × TraitProperties) : Prop :=
  entry.1 ≠ "" ∧ ∀ property ∈ entry.2.values.entries, property.1 ≠ ""

theorem traitOf_eq_ok_iff_toJson {member : String × Value} (canonical : member.2.Canonical)
    {entry : String × TraitProperties} :
    traitOf member = .ok entry ↔
      entry.1 = member.1 ∧ NamedEntry entry ∧
        ofEntries ofProperty entry.2.values = .ok member.2 := by
  have properties := readMembers_eq_ok_iff ofProperty (fun property => property.1 ≠ "")
    (fun _ _ _ => entryOf_eq_ok_iff) (propertiesNotAnObject member.1) canonical
    (d := entry.2.values)
  rw [traitOf_eq_ok_iff, properties, NamedEntry, and_assoc]

theorem ofJson_eq_ok_iff {value : Value} (canonical : value.Canonical) {d : TraitsData} :
    ofJson value = .ok d ↔ d.Named ∧ toJson d = .ok value := by
  have traits := readMembers_eq_ok_iff (fun p => ofEntries ofProperty p.values) NamedEntry
    (fun _ _ each => traitOf_eq_ok_iff_toJson each) notAnObject canonical (d := d.traits)
  rw [ofJson_eq_map, except_map_eq_ok_iff, TraitsData.named_iff]
  constructor
  · rintro ⟨_, read, rfl⟩
    exact traits.1 read
  · exact fun h => ⟨d.traits, traits.2 h, rfl⟩

theorem ofProperty_eq_error_iff {p : PropertyValue} {e : AssetError} :
    ofProperty p = .error e ↔
      ∃ x, p = .float x ∧ x.isFinite = false ∧ e = notRepresentable x := by
  cases p with
  | float x =>
    by_cases finite : x.isFinite = true
    · simp [ofProperty, finite?, finite]
    · have none : finite? x = none := dif_neg finite
      simp [ofProperty, none, finite]
      exact eq_comm
  | _ => simp [ofProperty]

theorem toJson_eq_error {d : TraitsData} {e : AssetError} (h : toJson d = .error e) :
    ∃ traitId key x, d.get? traitId key = some (.float x) ∧ x.isFinite = false ∧
      e = notRepresentable x := by
  obtain ⟨⟨traitId, p⟩, listed, fault⟩ := exists_of_ofEntries_eq_error h
  obtain ⟨⟨key, value⟩, stored, fault⟩ := exists_of_ofEntries_eq_error fault
  obtain ⟨x, rfl, infinite, rfl⟩ := ofProperty_eq_error_iff.1 fault
  exact ⟨traitId, key, x, TraitsData.get?_eq_some_iff.2 ⟨p, listed, stored⟩, infinite, rfl⟩

theorem finiteFloats_of_toJson {d : TraitsData} {value : Value} (h : toJson d = .ok value) :
    d.FiniteFloats := by
  intro traitId key x found
  obtain ⟨p, listed, stored⟩ := TraitsData.get?_eq_some_iff.1 found
  obtain ⟨members, rfl, represents⟩ := ofEntries_eq_ok_iff.1 h
  obtain ⟨member, _, _, converted⟩ := exists_of_forall₂_of_mem represents listed
  obtain ⟨members, _, represents⟩ := ofEntries_eq_ok_iff.1 converted
  obtain ⟨property, _, _, converted⟩ := exists_of_forall₂_of_mem represents stored
  by_contra infinite
  have fault := ofProperty_eq_error_iff.2 ⟨x, rfl, Bool.eq_false_iff.2 infinite, rfl⟩
  rw [converted] at fault
  cases fault

theorem toJson_eq_error_iff {d : TraitsData} :
    (∃ e, toJson d = .error e) ↔
      ∃ traitId key x, d.get? traitId key = some (.float x) ∧ x.isFinite = false := by
  constructor
  · rintro ⟨e, h⟩
    obtain ⟨traitId, key, x, found, infinite, _⟩ := toJson_eq_error h
    exact ⟨traitId, key, x, found, infinite⟩
  · rintro ⟨traitId, key, x, found, infinite⟩
    cases h : toJson d with
    | error e => exact ⟨e, rfl⟩
    | ok value =>
      have finite := finiteFloats_of_toJson h traitId key x found
      rw [infinite] at finite
      cases finite

theorem exists_toJson {d : TraitsData} (finite : d.FiniteFloats) :
    ∃ value, toJson d = .ok value := by
  cases h : toJson d with
  | ok value => exact ⟨value, rfl⟩
  | error e =>
    obtain ⟨traitId, key, x, found, infinite, _⟩ := toJson_eq_error h
    have isFinite := finite traitId key x found
    rw [infinite] at isFinite
    cases isFinite

theorem canonical_ofEntries (each : ∀ a value, convert a = .ok value → value.Canonical)
    {d : Dictionary α} {value : Value} (h : ofEntries convert d = .ok value) :
    value.Canonical := by
  obtain ⟨members, rfl, represents⟩ := ofEntries_eq_ok_iff.1 h
  refine .object (represents.sorted_iff.1 d.sorted) fun member present => ?_
  obtain ⟨entry, _, _, converted⟩ :=
    exists_of_forall₂_of_mem (R := flip _) (List.Forall₂.flip represents) present
  exact each _ _ converted

theorem canonical_toJson {d : TraitsData} {value : Value} (h : toJson d = .ok value) :
    value.Canonical := by
  refine canonical_ofEntries (fun p value rendered => ?_) h
  refine canonical_ofEntries (fun property value rendered => ?_) rendered
  have back := toProperty_eq_ok_iff.2 rendered
  cases value with
  | array items => cases back
  | object members => cases back
  | _ => constructor

/-- Data with names and finite floats is written to a value from which it is read
back, a value that is read as data is what that data is written to, and only a
float that is not finite makes writing fail. -/
theorem exchange_one_to_one :
    (∀ d : TraitsData, d.Named → d.FiniteFloats →
      ∃ value : Value, toJson d = .ok value ∧ value.Canonical ∧ ofJson value = .ok d) ∧
    (∀ value : Value, value.Canonical → ∀ d, ofJson value = .ok d →
      toJson d = .ok value ∧ d.Named ∧ d.FiniteFloats) ∧
    (∀ d : TraitsData, (∃ e, toJson d = .error e) ↔
      ∃ traitId key x, d.get? traitId key = some (.float x) ∧
        (x.isNaN = true ∨ x = .infinity ∨ x = Binary64.infinity.neg)) ∧
    ∀ (d : TraitsData) (e : AssetError), toJson d = .error e → e.kind = .type := by
  refine ⟨fun d named finite => ?_, fun value canonical d read => ?_, fun d => ?_,
    fun d e h => ?_⟩
  · cases h : toJson d with
    | error e =>
      obtain ⟨traitId, key, x, found, infinite, _⟩ := toJson_eq_error h
      have isFinite := finite traitId key x found
      rw [infinite] at isFinite
      cases isFinite
    | ok value =>
      have canonical := canonical_toJson h
      exact ⟨value, rfl, canonical, (ofJson_eq_ok_iff canonical).2 ⟨named, h⟩⟩
  · obtain ⟨named, written⟩ := (ofJson_eq_ok_iff canonical).1 read
    exact ⟨written, named, finiteFloats_of_toJson written⟩
  · simp only [toJson_eq_error_iff, Binary64.isFinite_eq_false_iff]
  · obtain ⟨_, _, x, _, _, rfl⟩ := toJson_eq_error h
    rfl

/-- One trait with a property of each kind and at each end of the range, and one
trait without properties. -/
def edgeData : TraitsData :=
  ⟨.ofList [
    ("bare", {}),
    ("edge", ⟨.ofList [
      ("flag", .bool false),
      ("highest", .int 9223372036854775807),
      ("lowest", .int (-9223372036854775808)),
      ("minus zero", .float Binary64.zero.neg),
      ("one", .int 1),
      ("one as float", .float ⟨0x3FF0000000000000⟩),
      ("past floats", .int 9007199254740993),
      ("text", .str "")]⟩)]⟩

theorem exchange_edgeData :
    edgeData.Named ∧ edgeData.FiniteFloats ∧
      ∃ value : Value, toJson edgeData = .ok value ∧ value.Canonical ∧
        ofJson value = .ok edgeData ∧ edgeData.hasTrait "bare" = true := by
  have named : edgeData.Named := by decide +kernel
  have finite : edgeData.FiniteFloats := by decide +kernel
  obtain ⟨value, written, canonical, read⟩ := exchange_one_to_one.1 edgeData named finite
  have again := (exchange_one_to_one.2.1 value canonical edgeData read).1
  exact ⟨named, finite, value, again, canonical, read, by decide +kernel⟩

end Json.Exchange

end AssetLink
