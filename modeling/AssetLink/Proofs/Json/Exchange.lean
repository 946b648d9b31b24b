import AssetLink.Json.Exchange
import AssetLink.Proofs.Traits.Writing

/-!
Trait data as JSON and back. Reading an object of objects is one map over its
members, first of the traits and then of the entries of each; rendering is such
a map as well, and the two maps are inverse member by member.
-/

namespace AssetLink

namespace Json.Exchange

theorem int64?_eq_some_iff {n : Int} {i : Int64} : int64? n = some i ↔ n = i.toInt := by
  constructor
  · intro h
    unfold int64? at h
    split at h
    next range =>
      cases h
      exact (Int64.toInt_ofInt_of_le range.1 range.2).symm
    next => cases h
  · rintro rfl
    have range : -0x8000000000000000 ≤ i.toInt ∧ i.toInt < 0x8000000000000000 :=
      ⟨i.le_toInt, i.toInt_lt⟩
    rw [int64?, if_pos range, Int64.ofInt_toInt]

theorem finite?_eq_some_iff {x : Binary64} {y : FiniteBinary64} :
    finite? x = some y ↔ x = y.val := by
  constructor
  · intro h
    unfold finite? at h
    split at h
    next => cases h; rfl
    next => cases h
  · rintro rfl
    rw [finite?, dif_pos y.property]

theorem toProperty_eq_ok_iff {v : Value} {p : PropertyValue} :
    toProperty v = .ok p ↔ ofProperty p = .ok v := by
  cases v <;> cases p <;>
    simp [toProperty, ofProperty, elim_eq_ok_iff, int64?_eq_some_iff, finite?_eq_some_iff]
  all_goals exact eq_comm

def arguments (traitId key value : Value) : Except AssetError (String × String × PropertyValue) := do
  return (← expectText "trait id" traitId, ← expectText "property key" key, ← toProperty value)

theorem apply_set (traitId key value : Value) (d : TraitsData) :
    (set traitId key value).apply d =
      match arguments traitId key value with
      | .error e => (.error e, d)
      | .ok (traitId, key, value) => (TraitsData.set traitId key value).apply d := by
  simp only [set, arguments, Change.apply_bind, Change.apply_ofExcept]
  cases expectText "trait id" traitId with
  | error e => rfl
  | ok traitId =>
      cases expectText "property key" key with
      | error e => rfl
      | ok key => cases toProperty value <;> rfl

theorem build_set (traitId key value : Value) (d : TraitsData) :
    (set traitId key value).build d = (do
      let text ← arguments traitId key value
      (TraitsData.set text.1 text.2.1 text.2.2).build d) := by
  rw [Change.build, apply_set]
  cases arguments traitId key value <;> rfl

theorem text?_eq_some_iff {value : Value} {text : String} :
    value.text? = some text ↔ value = .str text := by
  cases value <;> simp [Value.text?]

theorem expectText_eq_ok_iff {argument text : String} {value : Value} :
    expectText argument value = .ok text ↔ value = .str text := by
  simp [expectText, elim_eq_ok_iff, text?_eq_some_iff]

theorem arguments_eq_ok_iff {traitId key value : Value} {text : String × String × PropertyValue} :
    arguments traitId key value = .ok text ↔
      traitId = .str text.1 ∧ key = .str text.2.1 ∧ toProperty value = .ok text.2.2 := by
  obtain ⟨traitText, keyText, property⟩ := text
  simp only [arguments, except_bind_eq_ok_iff, expectText_eq_ok_iff, pure, Except.pure,
    Except.ok.injEq, Prod.mk.injEq]
  constructor
  · rintro ⟨_, isTrait, _, isKey, _, stored, rfl, rfl, rfl⟩
    exact ⟨isTrait, isKey, stored⟩
  · rintro ⟨isTrait, isKey, stored⟩
    exact ⟨traitText, isTrait, keyText, isKey, property, stored, rfl, rfl, rfl⟩

theorem text?_of_arguments {traitId key value : Value} {text : String × String × PropertyValue}
    (h : Exchange.arguments traitId key value = .ok text) : traitId.text? = some text.1 :=
  text?_eq_some_iff.2 (arguments_eq_ok_iff.1 h).1

def readMembers {α : Type} (fault : String → AssetError)
    (read : String × Value → Except AssetError (String × α)) (value : Value) :
    Except AssetError (Dictionary α) := do
  let members ← expectMembers fault value
  return .ofList (← members.entries.mapM read)

/-- Read one member of a trait's object. Its value is looked at before its name. -/
def entryOf (member : String × Value) : Except AssetError (String × PropertyValue) := do
  let value ← toProperty member.2
  if member.1 = "" then .error (.emptyArgument "property key") else .ok (member.1, value)

def traitOf (member : String × Value) : Except AssetError (String × TraitProperties) := do
  let members ← expectMembers (propertiesNotAnObject member.1) member.2
  if member.1 = "" then .error (.emptyArgument "trait id")
  else return (member.1, ⟨.ofList (← members.entries.mapM entryOf)⟩)

theorem entryOf_eq_ok_iff {member : String × Value} {entry : String × PropertyValue} :
    entryOf member = .ok entry ↔
      entry.1 = member.1 ∧ entry.1 ≠ "" ∧ ofProperty entry.2 = .ok member.2 := by
  rw [entryOf, except_bind_eq_ok_iff, ← toProperty_eq_ok_iff]
  by_cases unnamed : member.1 = "" <;> grind

theorem traitOf_eq_ok_iff {member : String × Value} {entry : String × TraitProperties} :
    traitOf member = .ok entry ↔
      entry.1 = member.1 ∧ entry.1 ≠ "" ∧
        readMembers (propertiesNotAnObject member.1) entryOf member.2 = .ok entry.2.values := by
  obtain ⟨name, p⟩ := entry
  rw [traitOf, readMembers, except_bind_eq_ok_iff, except_bind_eq_ok_iff]
  by_cases unnamed : member.1 = ""
  · simp [unnamed]
    grind
  · simp only [if_neg unnamed, except_bind_eq_ok_iff, pure, Except.pure, Except.ok.injEq]
    grind [TraitProperties]

def withTrait (d : TraitsData) (traitId : String) (p : Dictionary PropertyValue) : TraitsData :=
  ⟨d.traits.insert traitId ⟨p⟩⟩

theorem put_withTrait (d : TraitsData) (traitId key : String) (p : Dictionary PropertyValue)
    (value : PropertyValue) :
    (withTrait d traitId p).put traitId key value = withTrait d traitId (p.insert key value) := by
  simp [withTrait, TraitsData.put, Dictionary.alter, Dictionary.insert_insert]

theorem build_writeEntry {traitId : String} (named : traitId ≠ "") (member : String × Value)
    (d : TraitsData) (p : Dictionary PropertyValue) :
    Change.build (do TraitsData.set traitId member.1 (← toProperty member.2))
        (withTrait d traitId p) =
      (entryOf member).map fun entry => withTrait d traitId (p.insert entry.1 entry.2) := by
  rw [Change.build, Change.apply_bind, Change.apply_ofExcept, entryOf]
  cases toProperty member.2 with
  | error e => rfl
  | ok value =>
      by_cases unnamed : member.1 = ""
      · simp [TraitsData.apply_set, named, unnamed, Except.map, bind, Except.bind]
      · simp [TraitsData.apply_set, named, unnamed, put_withTrait, Except.map, bind, Except.bind]

theorem foldlM_writeEntry {traitId : String} (named : traitId ≠ "")
    (members : List (String × Value)) (d : TraitsData) (p : Dictionary PropertyValue) :
    members.foldlM (fun d member =>
        Change.build (do TraitsData.set traitId member.1 (← toProperty member.2)) d)
        (withTrait d traitId p) =
      (members.mapM entryOf).map fun entries =>
        withTrait d traitId (entries.foldl (fun p entry => p.insert entry.1 entry.2) p) := by
  induction members generalizing p with
  | nil => rfl
  | cons member rest ih =>
      rw [List.foldlM_cons, build_writeEntry named, List.mapM_cons]
      cases entryOf member with
      | error e => rfl
      | ok entry =>
          change List.foldlM _ _ _ = _
          rw [ih]
          cases rest.mapM entryOf <;> rfl

theorem build_addTrait {d : TraitsData} {traitId : String} (fresh : d.properties? traitId = none)
    (properties : Value) :
    (addTrait traitId properties).build d =
      (traitOf (traitId, properties)).map fun entry => ⟨d.traits.insert entry.1 entry.2⟩ := by
  rw [Change.build, addTrait, Change.apply_bind, Change.apply_ofExcept, traitOf]
  cases expectMembers (propertiesNotAnObject traitId) properties with
  | error e => rfl
  | ok members =>
      change Change.build (TraitsData.addTrait traitId >>= fun _ => members.entries.forM _) d = _
      rw [Change.build_bind, Change.build, TraitsData.apply_addTrait]
      by_cases unnamed : traitId = ""
      · subst unnamed
        rfl
      · have added : d.imbue traitId = withTrait d traitId {} := by
          rw [TraitsData.properties?] at fresh
          rw [TraitsData.imbue, Dictionary.alter, fresh]
          rfl
        rw [if_neg unnamed, added]
        change Change.build (members.entries.forM _) _ = _
        rw [Change.build_forM]
        refine (foldlM_writeEntry unnamed members.entries d {}).trans ?_
        simp only [bind, Except.bind, if_neg unnamed]
        cases members.entries.mapM entryOf <;> rfl

/-- Reading members in key order into data that has none of them is one map over
them. -/
theorem foldlM_addTrait {members : List (String × Value)} {d : TraitsData}
    (sorted : members.Pairwise (fun a b => a.1 < b.1))
    (fresh : ∀ member ∈ members, d.properties? member.1 = none) :
    members.foldlM (fun d member => (addTrait member.1 member.2).build d) d =
      (members.mapM traitOf).map fun entries =>
        ⟨entries.foldl (fun traits entry => traits.insert entry.1 entry.2) d.traits⟩ := by
  induction members generalizing d with
  | nil => rfl
  | cons member rest ih =>
      rw [List.pairwise_cons] at sorted
      rw [List.foldlM_cons, List.mapM_cons, build_addTrait (fresh member List.mem_cons_self)]
      cases h : traitOf member with
      | error e => rfl
      | ok entry =>
          have name : entry.1 = member.1 := (traitOf_eq_ok_iff.1 h).1
          have later : ∀ other ∈ rest,
              (⟨d.traits.insert entry.1 entry.2⟩ : TraitsData).properties? other.1 = none := by
            intro other present
            have above := sorted.1 other present
            have different : other.1 ≠ entry.1 := name ▸ (String.ne_of_lt above).symm
            rw [TraitsData.properties?, Dictionary.get?_insert_ne _ _ different]
            exact fresh other (List.mem_cons_of_mem _ present)
          change List.foldlM _ _ _ = _
          rw [ih sorted.2 later]
          cases rest.mapM traitOf <;> rfl

/-- Reading trait data is one map over the members of an object. -/
theorem ofJson_eq_map (value : Value) :
    ofJson value = (readMembers notAnObject traitOf value).map TraitsData.mk := by
  rw [ofJson, readMembers]
  cases expectMembers notAnObject value with
  | error e => rfl
  | ok members =>
      change Change.build (members.entries.forM fun member => addTrait member.1 member.2) {} = _
      rw [Change.build_forM, foldlM_addTrait members.sorted fun _ _ => rfl]
      simp only [bind, Except.bind]
      cases members.entries.mapM traitOf <;> rfl

end Json.Exchange

end AssetLink
