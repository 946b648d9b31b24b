import AssetLink.Proofs.Json.Exchange
import Mathlib.Data.Prod.Lex
import Mathlib.Data.String.Basic
import Mathlib.Order.Minimal

/-!
Which values are trait data. A value is read as trait data if nothing speaks against
it, and otherwise the first of what does is reported: traits are looked at in the
order of their ids, the properties of each in the order of their keys, and of one
property the value before the key.
-/

namespace AssetLink

section FirstFault

variable {φ ι ε α : Type} [LinearOrder ι] {applies : φ → Prop} {place : φ → ι}
  (apart : Set.InjOn place {fault | applies fault})

include apart

theorem eq_of_minimalFor {fault other : φ} (h : MinimalFor applies place fault)
    (h' : MinimalFor applies place other) : fault = other := by
  refine apart h.prop h'.prop (le_antisymm ?_ ?_)
  · exact le_of_not_gt fun less => h.not_prop_of_lt less h'.prop
  · exact le_of_not_gt fun less => h'.not_prop_of_lt less h.prop

/-- What succeeds only without faults and fails only with the first one fails with
the first one whenever there is one. -/
theorem eq_error_iff_minimalFor {x : Except ε α} {error : φ → ε}
    (fine : ∀ a, x = .ok a → ∀ fault, ¬ applies fault)
    (faulty : ∀ e, x = .error e → ∃ fault, MinimalFor applies place fault ∧ error fault = e)
    (e : ε) : x = .error e ↔ ∃ fault, MinimalFor applies place fault ∧ error fault = e := by
  refine ⟨faulty e, ?_⟩
  rintro ⟨fault, first, rfl⟩
  cases outcome : x with
  | ok a => exact absurd first.prop (fine a outcome fault)
  | error reported =>
      obtain ⟨other, otherFirst, rfl⟩ := faulty reported outcome
      rw [eq_of_minimalFor apart first otherFirst]

end FirstFault

namespace Json

namespace Value

/-- Of a kind that a property can have, and in range. -/
def Storable : Value → Prop
  | str _ | bool _ | float _ => True
  | int n => -0x8000000000000000 ≤ n ∧ n < 0x8000000000000000
  | null | array _ | object _ => False

def Member (value : Value) (name : String) (member : Value) : Prop :=
  ∃ members, value.members? = some members ∧ members.get? name = some member

theorem Member.unique {value member other : Value} {name : String}
    (h : value.Member name member) (h' : value.Member name other) : member = other := by
  obtain ⟨members, opened, found⟩ := h
  obtain ⟨_, again, otherFound⟩ := h'
  cases opened.symm.trans again
  exact Option.some.inj (found.symm.trans otherFound)

theorem member_iff {value member : Value} {members : Dictionary Value} {name : String}
    (opened : value.members? = some members) :
    value.Member name member ↔ members.get? name = some member := by
  simp [Member, opened]

end Value

namespace Exchange

def refusal : Value → AssetError
  | .int n => .type s!"integer {n} is out of range for a 64-bit signed property"
  | other => .type s!"type '{other.kindName}' is not supported"

theorem toProperty_cases (value : Value) :
    value.Storable ∧ (∃ p, toProperty value = .ok p) ∨
      ¬ value.Storable ∧ toProperty value = .error (refusal value) := by
  cases value with
  | str | bool | float => exact .inl ⟨trivial, _, rfl⟩
  | null | array | object => exact .inr ⟨not_false, rfl⟩
  | int n =>
      by_cases range : -0x8000000000000000 ≤ n ∧ n < 0x8000000000000000
      · refine .inl ⟨range, .int (.ofInt n), ?_⟩
        rw [toProperty, int64?, if_pos range]
        rfl
      · refine .inr ⟨range, ?_⟩
        rw [toProperty, int64?, if_neg range]
        rfl

theorem exists_toProperty_iff {value : Value} :
    (∃ p, toProperty value = .ok p) ↔ value.Storable := by
  rcases toProperty_cases value with ⟨storable, done⟩ | ⟨refused, done⟩
  · exact iff_of_true done storable
  · simp [done, refused]

theorem toProperty_eq_error_iff {value : Value} {e : AssetError} :
    toProperty value = .error e ↔ ¬ value.Storable ∧ e = refusal value := by
  rcases toProperty_cases value with ⟨storable, p, done⟩ | ⟨refused, done⟩
  · simp [done, storable]
  · simp [done, refused, eq_comm]

/-- What can speak against reading a value as trait data. -/
inductive ReadFault
  | notAnObject
  | properties (traitId : String) (found : Value)
  | namelessTrait
  | value (traitId key : String) (found : Value)
  | namelessKey (traitId : String)

namespace ReadFault

def Applies (document : Value) : ReadFault → Prop
  | notAnObject => document.members? = none
  | properties traitId found => document.Member traitId found ∧ found.members? = none
  | namelessTrait => ∃ found, document.Member "" found
  | value traitId key found =>
      ∃ properties, document.Member traitId properties ∧ properties.Member key found ∧
        ¬ found.Storable
  | namelessKey traitId =>
      ∃ properties found, document.Member traitId properties ∧ properties.Member "" found

def traitId : ReadFault → String
  | notAnObject | namelessTrait => ""
  | properties traitId _ | value traitId _ _ | namelessKey traitId => traitId

/-- The check on the trait, the key of a property, and the check on that. -/
def check : ReadFault → Nat ×ₗ String ×ₗ Nat
  | notAnObject | properties _ _ => toLex (0, toLex ("", 0))
  | namelessTrait => toLex (1, toLex ("", 0))
  | value _ key _ => toLex (2, toLex (key, 0))
  | namelessKey _ => toLex (2, toLex ("", 1))

def place (fault : ReadFault) : String ×ₗ Nat ×ₗ String ×ₗ Nat :=
  toLex (fault.traitId, fault.check)

def error (document : Value) : ReadFault → AssetError
  | notAnObject => .type s!"traits data must be an object, got '{document.kindName}'"
  | properties traitId found =>
      .type s!"properties of trait '{traitId}' must be an object, got '{found.kindName}'"
  | namelessTrait => .inputValidation "trait id must not be empty"
  | value _ _ found => refusal found
  | namelessKey _ => .inputValidation "property key must not be empty"

end ReadFault

section Levels

variable {key traitId : String} {value properties : Value} {e : AssetError}

theorem exists_entryOf_iff :
    (∃ entry, entryOf (key, value) = .ok entry) ↔ key ≠ "" ∧ value.Storable := by
  rw [entryOf]
  rcases toProperty_cases value with ⟨storable, p, done⟩ | ⟨refused, done⟩
  · by_cases unnamed : key = "" <;> simp [done, storable, unnamed, bind, Except.bind]
  · simp [done, refused, bind, Except.bind]

theorem entryOf_eq_error_iff :
    entryOf (key, value) = .error e ↔
      ¬ value.Storable ∧ e = refusal value ∨
        value.Storable ∧ key = "" ∧ e = .emptyArgument "property key" := by
  rw [entryOf]
  rcases toProperty_cases value with ⟨storable, p, done⟩ | ⟨refused, done⟩
  · by_cases unnamed : key = "" <;> simp [done, storable, unnamed, bind, Except.bind, eq_comm]
  · simp [done, refused, bind, Except.bind, eq_comm]

theorem exists_traitOf_iff :
    (∃ entry, traitOf (traitId, properties) = .ok entry) ↔
      traitId ≠ "" ∧ ∃ members, properties.members? = some members ∧
        ∀ key value, members.get? key = some value → key ≠ "" ∧ value.Storable := by
  rw [traitOf, expectMembers]
  cases properties.members? with
  | none => simp [bind, Except.bind]
  | some members =>
      by_cases unnamed : traitId = ""
      · simp [unnamed, bind, Except.bind]
      · have each := Dictionary.exists_mapM_entries_iff (f := entryOf) (d := members)
        simp only [exists_entryOf_iff] at each
        simp only [Option.elim_some, bind, Except.bind, ne_eq, not_false_eq_true,
          Option.some.injEq, exists_eq_left', true_and, unnamed, ← each]
        cases members.entries.mapM entryOf <;> simp [pure, Except.pure]

theorem traitOf_eq_error_iff :
    traitOf (traitId, properties) = .error e ↔
      properties.members? = none ∧ e = propertiesNotAnObject traitId properties.kindName ∨
      ∃ members, properties.members? = some members ∧
        (traitId = "" ∧ e = .emptyArgument "trait id" ∨
          traitId ≠ "" ∧ members.entries.mapM entryOf = .error e) := by
  rw [traitOf, expectMembers]
  cases properties.members? with
  | none => simp [bind, Except.bind, eq_comm]
  | some members =>
      by_cases unnamed : traitId = ""
      · simp [unnamed, bind, Except.bind, eq_comm]
      · simp only [Option.elim_some, bind, Except.bind, reduceCtorEq, false_and,
          Option.some.injEq, exists_eq_left', ne_eq, unnamed, not_false_eq_true, true_and,
          false_or]
        cases members.entries.mapM entryOf <;> simp [pure, Except.pure]

end Levels

namespace ReadFault

variable {document : Value} {traits : Dictionary Value} {traitId : String} {properties : Value}
  {fault other : ReadFault} {e : AssetError}

theorem exists_trait (opened : document.members? = some traits)
    (applies : fault.Applies document) :
    ∃ properties, traits.get? fault.traitId = some properties := by
  have listed : ∃ found, document.Member fault.traitId found := by
    cases fault with
    | notAnObject => cases opened.symm.trans applies
    | properties traitId found => exact ⟨found, applies.1⟩
    | namelessTrait => exact applies
    | value traitId key found => exact applies.imp fun _ h => h.1
    | namelessKey traitId => exact applies.imp fun _ h => h.choose_spec.1
  exact listed.imp fun _ member => (Value.member_iff opened).1 member

theorem eq_notAnObject (closed : document.members? = none) (applies : fault.Applies document) :
    fault = .notAnObject := by
  have memberless : ∀ name found, ¬ document.Member name found := by
    rintro name found ⟨members, opened, -⟩
    cases closed.symm.trans opened
  cases fault with
  | notAnObject => rfl
  | properties traitId found => exact absurd applies.1 (memberless _ _)
  | namelessTrait => exact absurd applies.choose_spec (memberless _ _)
  | value traitId key found => exact absurd applies.choose_spec.1 (memberless _ _)
  | namelessKey traitId => exact absurd applies.choose_spec.choose_spec.1 (memberless _ _)

theorem Applies.cases (opened : document.members? = some traits)
    (trait : traits.get? traitId = some properties) (applies : fault.Applies document)
    (here : fault.traitId = traitId) :
    fault = .properties traitId properties ∧ properties.members? = none ∨
      fault = .namelessTrait ∧ traitId = "" ∨
      ∃ members key found, properties.members? = some members ∧ members.get? key = some found ∧
        (fault = .value traitId key found ∧ ¬ found.Storable ∨
          fault = .namelessKey traitId ∧ key = "") := by
  have same : ∀ other, document.Member traitId other → other = properties := fun other member =>
    Option.some.inj (((Value.member_iff opened).1 member).symm.trans trait)
  subst here
  cases fault with
  | notAnObject => cases opened.symm.trans applies
  | properties traitId found =>
      cases same found applies.1
      exact .inl ⟨rfl, applies.2⟩
  | namelessTrait => exact .inr (.inl ⟨rfl, rfl⟩)
  | value traitId key found =>
      obtain ⟨other, member, ⟨members, opened, under⟩, refused⟩ := applies
      cases same other member
      exact .inr (.inr ⟨members, key, found, opened, under, .inl ⟨rfl, refused⟩⟩)
  | namelessKey traitId =>
      obtain ⟨other, found, member, members, opened, under⟩ := applies
      cases same other member
      exact .inr (.inr ⟨members, "", found, opened, under, .inr ⟨rfl, rfl⟩⟩)

theorem not_applies_of_traitOf (opened : document.members? = some traits)
    (trait : traits.get? traitId = some properties)
    (read : ∃ entry, traitOf (traitId, properties) = .ok entry)
    (here : fault.traitId = traitId) : ¬ fault.Applies document := by
  intro applies
  obtain ⟨named, members, isObject, fine⟩ := exists_traitOf_iff.1 read
  rcases applies.cases opened trait here with
    ⟨-, faulty⟩ | ⟨-, unnamed⟩ | ⟨others, key, found, again, under, faulty⟩
  · cases isObject.symm.trans faulty
  · exact named unnamed
  · cases isObject.symm.trans again
    rcases faulty with ⟨-, refused⟩ | ⟨-, unnamed⟩
    · exact refused (fine key found under).2
    · exact (fine key found under).1 unnamed

theorem injOn_place : Set.InjOn place {fault | fault.Applies document} := by
  intro fault applies other otherApplies same
  cases fault with
  | notAnObject =>
      cases other with
      | notAnObject => rfl
      | properties traitId found =>
          obtain ⟨members, opened, -⟩ := otherApplies.1
          cases applies.symm.trans opened
      | _ => simp [place, check] at same
  | properties traitId found =>
      cases other with
      | notAnObject =>
          obtain ⟨members, opened, -⟩ := applies.1
          cases otherApplies.symm.trans opened
      | properties =>
          simp only [place, ReadFault.traitId, check, toLex_inj, Prod.mk.injEq, and_true] at same
          subst same
          rw [applies.1.unique otherApplies.1]
      | _ => simp [place, check] at same
  | namelessTrait => cases other <;> first | rfl | simp [place, check] at same
  | value traitId key found =>
      cases other with
      | value =>
          simp only [place, ReadFault.traitId, check, toLex_inj, Prod.mk.injEq, true_and,
            and_true] at same
          obtain ⟨rfl, rfl⟩ := same
          obtain ⟨properties, trait, property, -⟩ := applies
          obtain ⟨others, otherTrait, otherProperty, -⟩ := otherApplies
          cases trait.unique otherTrait
          rw [property.unique otherProperty]
      | _ => simp [place, check] at same
  | namelessKey traitId =>
      cases other with
      | namelessKey =>
          simp only [place, ReadFault.traitId, check, toLex_inj, Prod.mk.injEq, and_true] at same
          rw [same]
      | _ => simp [place, check] at same

section Entries

variable {members : Dictionary Value} {key : String} {found : Value}
  (opened : document.members? = some traits) (trait : traits.get? traitId = some properties)
  (isObject : properties.members? = some members) (named : traitId ≠ "")

include opened trait isObject named

theorem Applies.cases_of_named (applies : fault.Applies document)
    (here : fault.traitId = traitId) :
    ∃ key found, members.get? key = some found ∧
      (fault = .value traitId key found ∧ ¬ found.Storable ∨
        fault = .namelessKey traitId ∧ key = "") := by
  rcases applies.cases opened trait here with
    ⟨-, closed⟩ | ⟨-, unnamed⟩ | ⟨others, key, found, again, under, fault⟩
  · cases closed.symm.trans isObject
  · exact absurd unnamed named
  · cases isObject.symm.trans again
    exact ⟨key, found, under, fault⟩

theorem exists_first_of_entryOf (under : members.get? key = some found)
    (refused : entryOf (key, found) = .error e)
    (earlier : ∀ other value, other < key → members.get? other = some value →
      other ≠ "" ∧ value.Storable) :
    ∃ fault : ReadFault, fault.Applies document ∧ fault.traitId = traitId ∧
      fault.error document = e ∧
      ∀ other : ReadFault, other.Applies document → other.traitId = traitId →
        ¬ other.check < fault.check := by
  have member : document.Member traitId properties := (Value.member_iff opened).2 trait
  have property : properties.Member key found := (Value.member_iff isObject).2 under
  rcases entryOf_eq_error_iff.1 refused with ⟨unstorable, rfl⟩ | ⟨storable, rfl, rfl⟩
  · refine ⟨.value traitId key found, ⟨properties, member, property, unstorable⟩, rfl, rfl,
      fun other applies here less => ?_⟩
    obtain ⟨otherKey, otherFound, otherUnder, fault⟩ :=
      applies.cases_of_named opened trait isObject named here
    rcases fault with ⟨rfl, otherUnstorable⟩ | ⟨rfl, rfl⟩
    · simp only [check, Prod.Lex.toLex_lt_toLex, lt_irrefl, false_or, true_and, and_false,
        or_false] at less
      exact otherUnstorable (earlier _ _ less otherUnder).2
    · simp only [check, Prod.Lex.toLex_lt_toLex, lt_irrefl, false_or, true_and, Nat.not_lt_zero,
        and_false, or_false] at less
      exact (earlier _ _ less otherUnder).1 rfl
  · refine ⟨.namelessKey traitId, ⟨properties, found, member, property⟩, rfl, rfl,
      fun other applies here less => ?_⟩
    obtain ⟨otherKey, otherFound, otherUnder, fault⟩ :=
      applies.cases_of_named opened trait isObject named here
    rcases fault with ⟨rfl, otherUnstorable⟩ | ⟨rfl, -⟩
    · simp only [check, Prod.Lex.toLex_lt_toLex, lt_irrefl, false_or, true_and] at less
      rcases less with less | ⟨rfl, -⟩
      · exact otherUnstorable (earlier _ _ less otherUnder).2
      · cases under.symm.trans otherUnder
        exact otherUnstorable storable
    · exact lt_irrefl _ less

end Entries

theorem exists_first_of_traitOf (opened : document.members? = some traits)
    (trait : traits.get? traitId = some properties)
    (refused : traitOf (traitId, properties) = .error e) :
    ∃ fault : ReadFault, fault.Applies document ∧ fault.traitId = traitId ∧
      fault.error document = e ∧
      ∀ other : ReadFault, other.Applies document → other.traitId = traitId →
        ¬ other.check < fault.check := by
  have member : document.Member traitId properties := (Value.member_iff opened).2 trait
  rcases traitOf_eq_error_iff.1 refused with
    ⟨closed, rfl⟩ | ⟨members, isObject, ⟨rfl, rfl⟩ | ⟨named, refused⟩⟩
  · refine ⟨.properties traitId properties, ⟨member, closed⟩, rfl, rfl,
      fun other applies here => ?_⟩
    rcases applies.cases opened trait here with
      ⟨rfl, -⟩ | ⟨rfl, -⟩ | ⟨members, _, _, isObject, -⟩
    · exact lt_irrefl _
    · simp [check, Prod.Lex.toLex_lt_toLex]
    · cases closed.symm.trans isObject
  · refine ⟨.namelessTrait, ⟨properties, member⟩, rfl, rfl, fun other applies here => ?_⟩
    rcases applies.cases opened trait here with
      ⟨-, closed⟩ | ⟨rfl, -⟩ | ⟨_, _, _, -, -, ⟨rfl, -⟩ | ⟨rfl, -⟩⟩
    · cases closed.symm.trans isObject
    · exact lt_irrefl _
    · simp [check, Prod.Lex.toLex_lt_toLex]
    · simp [check, Prod.Lex.toLex_lt_toLex]
  · obtain ⟨key, found, under, refused, earlier⟩ := Dictionary.mapM_entries_eq_error_iff.1 refused
    simp only [exists_entryOf_iff] at earlier
    exact exists_first_of_entryOf opened trait isObject named under refused earlier

end ReadFault

section Documents

variable {document : Value} {e : AssetError}

theorem exists_ofJson_iff :
    (∃ d, ofJson document = .ok d) ↔
      ∃ traits, document.members? = some traits ∧
        ∀ traitId properties, traits.get? traitId = some properties →
          ∃ entry, traitOf (traitId, properties) = .ok entry := by
  rw [ofJson_eq_map, readMembers, expectMembers]
  simp only [← Dictionary.exists_mapM_entries_iff]
  cases document.members? with
  | none => simp [bind, Except.bind, Except.map]
  | some traits =>
      simp only [Option.elim_some, bind, Except.bind, Option.some.injEq, exists_eq_left']
      cases traits.entries.mapM traitOf <;> simp [pure, Except.pure, Except.map]

theorem ofJson_eq_error_iff :
    ofJson document = .error e ↔
      document.members? = none ∧ e = notAnObject document.kindName ∨
      ∃ traits, document.members? = some traits ∧ traits.entries.mapM traitOf = .error e := by
  rw [ofJson_eq_map, except_map_eq_error_iff, readMembers, expectMembers]
  cases document.members? with
  | none => simp [bind, Except.bind, eq_comm]
  | some traits =>
      simp only [Option.elim_some, bind, Except.bind, reduceCtorEq, false_and, Option.some.injEq,
        exists_eq_left', false_or]
      cases traits.entries.mapM traitOf <;> simp [pure, Except.pure]

theorem exists_minimalFor_of_ofJson (refused : ofJson document = .error e) :
    ∃ fault : ReadFault, MinimalFor (ReadFault.Applies document) ReadFault.place fault ∧
      fault.error document = e := by
  simp only [minimalFor_iff_forall_lt]
  rcases ofJson_eq_error_iff.1 refused with ⟨closed, rfl⟩ | ⟨traits, opened, refused⟩
  · refine ⟨.notAnObject, ⟨closed, fun other less applies => ?_⟩, rfl⟩
    have here := ReadFault.eq_notAnObject closed applies
    subst here
    exact lt_irrefl _ less
  · obtain ⟨traitId, properties, trait, refused, earlier⟩ :=
      Dictionary.mapM_entries_eq_error_iff.1 refused
    obtain ⟨fault, applies, rfl, isReported, first⟩ :=
      ReadFault.exists_first_of_traitOf opened trait refused
    refine ⟨fault, ⟨applies, fun other less otherApplies => ?_⟩, isReported⟩
    rcases Prod.Lex.toLex_lt_toLex.1 less with before | ⟨here, less⟩
    · obtain ⟨found, listed⟩ := ReadFault.exists_trait opened otherApplies
      exact ReadFault.not_applies_of_traitOf opened listed (earlier _ _ before listed) rfl
        otherApplies
    · exact first other otherApplies here less

theorem not_applies_of_ofJson {d : TraitsData} (read : ofJson document = .ok d)
    (fault : ReadFault) : ¬ fault.Applies document := by
  intro applies
  obtain ⟨traits, opened, each⟩ := exists_ofJson_iff.1 ⟨d, read⟩
  obtain ⟨properties, trait⟩ := ReadFault.exists_trait opened applies
  exact ReadFault.not_applies_of_traitOf opened trait (each _ _ trait) rfl applies

end Documents

/-- A value is trait data if it is an object of objects with names and values that can
be stored. Of any other value the first fault is reported. -/
theorem ofJson_reports_first_fault (document : Value) :
    ((∃ d, ofJson document = .ok d) ↔
      (∃ traits, document.members? = some traits) ∧
      ∀ traitId found, document.Member traitId found →
        (∃ properties, found.members? = some properties) ∧ traitId ≠ "" ∧
        ∀ key value, found.Member key value → value.Storable ∧ key ≠ "") ∧
    ∀ e, ofJson document = .error e ↔
      ∃ fault, MinimalFor (ReadFault.Applies document) ReadFault.place fault ∧
        fault.error document = e := by
  constructor
  · simp only [exists_ofJson_iff, exists_traitOf_iff]
    constructor
    · rintro ⟨traits, opened, each⟩
      refine ⟨⟨traits, opened⟩, fun traitId found member => ?_⟩
      obtain ⟨named, properties, isObject, fine⟩ :=
        each traitId found ((Value.member_iff opened).1 member)
      refine ⟨⟨properties, isObject⟩, named, fun key value property => ?_⟩
      exact (fine key value ((Value.member_iff isObject).1 property)).symm
    · rintro ⟨⟨traits, opened⟩, each⟩
      refine ⟨traits, opened, fun traitId found trait => ?_⟩
      obtain ⟨⟨properties, isObject⟩, named, fine⟩ :=
        each traitId found ((Value.member_iff opened).2 trait)
      refine ⟨named, properties, isObject, fun key value property => ?_⟩
      exact (fine key value ((Value.member_iff isObject).2 property)).symm
  · exact eq_error_iff_minimalFor ReadFault.injOn_place (fun _ => not_applies_of_ofJson)
      (fun _ => exists_minimalFor_of_ofJson)

/-- Of the four faults the null is reported: its trait is in front of "c", its key of
"k". Without them the names are those of traits. -/
theorem ofJson_reports_first_fault_between_others :
    let faulty : Value := .object
      [("c", .null), ("b", .object [("k", .int 0x8000000000000000), ("", .null)]),
        ("a", .object [])]
    let fine : Value := .object
      [("b", .object [("k", .int 0x7FFFFFFFFFFFFFFF)]), ("a", .object [])]
    (∃ fault, MinimalFor (ReadFault.Applies faulty) ReadFault.place fault ∧
      fault.error faulty = .type "type 'null' is not supported") ∧
    ∀ traitId found, fine.Member traitId found → traitId ≠ "" := by
  intro faulty fine
  obtain ⟨-, reports⟩ := ofJson_reports_first_fault faulty
  obtain ⟨accepts, -⟩ := ofJson_reports_first_fault fine
  refine ⟨(reports _).1 rfl, fun traitId found member => ?_⟩
  exact ((accepts.1 ⟨_, rfl⟩).2 traitId found member).2.1

end Exchange
end Json
end AssetLink
