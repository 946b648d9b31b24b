import AssetLink.Proofs.Traits.Viewing
import Mathlib.Order.Minimal

/-!
Setting a property through a view. Five things can speak against it, and of those
that do the first is reported. What is set is read back, and nothing else is
changed.
-/

namespace AssetLink

inductive SetFault
  | undeclared
  | wrongKind (declared : PropertyKind)
  | unwritable
  | namelessTrait
  | namelessKey
deriving DecidableEq

namespace SetFault

def rank : SetFault → Nat
  | undeclared => 0
  | wrongKind _ => 1
  | unwritable => 2
  | namelessTrait => 3
  | namelessKey => 4

def Applies (view : TraitView) (key : String) (value : PropertyValue) : SetFault → Prop
  | undeclared => ∀ property ∈ view.schema.properties, property.key ≠ key
  | wrongKind declared => view.schema.Declares key declared ∧ value.kind ≠ declared
  | unwritable => view.store.writable = none
  | namelessTrait => view.schema.id = ""
  | namelessKey => key = ""

def error (view : TraitView) (key : String) (value : PropertyValue) : SetFault → AssetError
  | undeclared => .inputValidation s!"'{key}' is not a property of trait '{view.schema.id}'"
  | wrongKind declared =>
      .type s!"property '{key}' expects a value of type '{declared.name}', got '{value.kind.name}'"
  | unwritable =>
      .inputValidation s!"trait view '{view.schema.id}' is not backed by writable traits data"
  | namelessTrait => .inputValidation "trait id must not be empty"
  | namelessKey => .inputValidation "property key must not be empty"

variable {view : TraitView} {key : String} {value : PropertyValue} {fault : SetFault}

/-- Of all that speaks against setting a property this is checked first. -/
structure IsFirst (view : TraitView) (key : String) (value : PropertyValue) (fault : SetFault) :
    Prop where
  applies : fault.Applies view key value
  first : ∀ other : SetFault, other.rank < fault.rank → ¬ other.Applies view key value

theorem isFirst_iff :
    fault.IsFirst view key value ↔ MinimalFor (Applies view key value) rank fault := by
  rw [minimalFor_iff_forall_lt]
  exact ⟨fun ⟨applies, first⟩ => ⟨applies, first⟩, fun ⟨applies, first⟩ => ⟨applies, first⟩⟩

theorem exists_isFirst (applies : fault.Applies view key value) :
    ∃ first : SetFault, first.IsFirst view key value := by
  simp only [isFirst_iff]
  exact exists_minimalFor_of_wellFoundedLT _ _ ⟨fault, applies⟩

end SetFault

namespace TraitView

variable {view : TraitView} {key : String} {value : PropertyValue} {d : TraitsData}

structure Accepts (view : TraitView) (key : String) (value : PropertyValue) : Prop where
  declared : view.schema.Declares key value.kind
  writable : view.store.writable.isSome = true
  traitId : view.schema.id ≠ ""
  key : key ≠ ""

theorem declares_of_not_applies (declared : ¬ SetFault.undeclared.Applies view key value)
    (right : ∀ kind, ¬ (SetFault.wrongKind kind).Applies view key value) :
    view.schema.Declares key value.kind := by
  cases found : view.schema.property? key with
  | none => exact absurd (TraitSchema.property?_eq_none_iff.1 found) declared
  | some property =>
      have declares := TraitSchema.declares_iff.2 ⟨property, found, rfl⟩
      by_contra wrong
      exact right property.kind ⟨declares, fun same => wrong (same ▸ declares)⟩

theorem accepts_iff :
    view.Accepts key value ↔ ∀ fault : SetFault, ¬ fault.Applies view key value := by
  constructor
  · rintro ⟨declared, writable, traitId, named⟩ (_ | kind | _ | _ | _) applies
    · obtain ⟨before, property, after, split, isKey, -⟩ := declared
      exact applies property (split ▸ List.mem_append_right _ List.mem_cons_self) isKey
    · exact applies.2 (declared.eq applies.1)
    · exact Option.isSome_iff_ne_none.1 writable applies
    · exact traitId applies
    · exact named applies
  · intro nothing
    exact ⟨declares_of_not_applies (nothing .undeclared) fun kind => nothing (.wrongKind kind),
      Option.isSome_iff_ne_none.2 (nothing .unwritable), nothing .namelessTrait,
      nothing .namelessKey⟩

theorem apply_set_of_declares (declares : view.schema.Declares key value.kind) :
    (set key value).apply view =
      (onData (TraitsData.set view.schema.id key value)).apply view := by
  obtain ⟨property, declared, right⟩ := TraitSchema.declares_iff.1 declares
  rw [apply_set, declared_eq_ok_iff.2 declared]
  exact if_pos right.symm

theorem apply_set_of_writable (declares : view.schema.Declares key value.kind)
    (writable : view.store.writable = some d) :
    (set key value).apply view =
      let done := (TraitsData.set view.schema.id key value).apply d
      (done.1, ⟨view.schema, view.store.put done.2⟩) := by
  rw [apply_set_of_declares declares, apply_onData, writable]

theorem apply_set_of_accepts (accepts : view.Accepts key value)
    (writable : view.store.writable = some d) :
    (set key value).apply view =
      (.ok (), ⟨view.schema, view.store.put (d.put view.schema.id key value)⟩) := by
  rw [apply_set_of_writable accepts.declared writable, TraitsData.apply_set,
    if_neg accepts.traitId, if_neg accepts.key]

theorem apply_set_of_isFirst {fault : SetFault} (h : fault.IsFirst view key value) :
    ((set key value).apply view).1 = .error (fault.error view key value) := by
  have declares (late : 1 < fault.rank) : view.schema.Declares key value.kind :=
    declares_of_not_applies (h.first .undeclared (Nat.zero_lt_of_lt late))
      fun kind => h.first (.wrongKind kind) late
  have writable (late : 2 < fault.rank) : ∃ d, view.store.writable = some d :=
    Option.ne_none_iff_exists'.1 (h.first .unwritable late)
  cases fault with
  | undeclared =>
      rw [apply_set, declared_of_undeclared h.applies]
      rfl
  | wrongKind kind =>
      obtain ⟨property, declared, rfl⟩ := TraitSchema.declares_iff.1 h.applies.1
      rw [apply_set, declared_eq_ok_iff.2 declared]
      dsimp only
      rw [if_neg h.applies.2]
      rfl
  | unwritable =>
      have none : view.store.writable = none := h.applies
      rw [apply_set_of_declares (declares (by decide)), apply_onData, none]
      rfl
  | namelessTrait =>
      have nameless : view.schema.id = "" := h.applies
      obtain ⟨d, writable⟩ := writable (by decide)
      rw [apply_set_of_writable (declares (by decide)) writable, TraitsData.apply_set,
        if_pos nameless]
      rfl
  | namelessKey =>
      have nameless : key = "" := h.applies
      obtain ⟨d, writable⟩ := writable (by decide)
      have named : view.schema.id ≠ "" := h.first .namelessTrait (by decide)
      rw [apply_set_of_writable (declares (by decide)) writable, TraitsData.apply_set,
        if_neg named, if_pos nameless]
      rfl

theorem accepts_or_exists_isFirst (view : TraitView) (key : String) (value : PropertyValue) :
    view.Accepts key value ∨ ∃ fault : SetFault, fault.IsFirst view key value := by
  rw [accepts_iff]
  by_cases faulty : ∃ fault : SetFault, fault.Applies view key value
  · obtain ⟨fault, applies⟩ := faulty
    exact .inr (SetFault.exists_isFirst applies)
  · exact .inl (not_exists.1 faulty)

theorem set_eq_ok_iff : ((set key value).apply view).1 = .ok () ↔ view.Accepts key value := by
  rcases accepts_or_exists_isFirst view key value with accepts | ⟨fault, first⟩
  · obtain ⟨d, writable⟩ := Option.isSome_iff_exists.1 accepts.writable
    simp only [apply_set_of_accepts accepts writable, accepts]
  · have refused : ¬ view.Accepts key value := fun accepts =>
      accepts_iff.1 accepts fault first.applies
    simp [apply_set_of_isFirst first, refused]

theorem set_eq_error_iff {e : AssetError} :
    ((set key value).apply view).1 = .error e ↔
      ∃ fault : SetFault, fault.IsFirst view key value ∧ fault.error view key value = e := by
  simp only [SetFault.isFirst_iff]
  refine eq_error_iff_of_first (fun nothing => ⟨(), ?_⟩) fun fault first => ?_
  · exact set_eq_ok_iff.2 (accepts_iff.2 nothing)
  · exact apply_set_of_isFirst (SetFault.isFirst_iff.2 first)

theorem shows_set (accepts : view.Accepts key value) :
    let after := ((set key value).apply view).2
    after.schema = view.schema ∧ after.read key = .ok (some value) ∧
      after.status key = .found ∧ after.isImbued = true ∧
      ∃ d new, view.data = some d ∧ after.data = some new ∧
        (∀ traitId other, (traitId, other) ≠ (view.schema.id, key) →
          new.get? traitId other = d.get? traitId other) ∧
        ∀ traitId, traitId ≠ view.schema.id → new.hasTrait traitId = d.hasTrait traitId := by
  obtain ⟨d, writable⟩ := Option.isSome_iff_exists.1 accepts.writable
  obtain ⟨property, declared, right⟩ := TraitSchema.declares_iff.1 accepts.declared
  have new := Store.readable_put writable (d.put view.schema.id key value)
  rw [apply_set_of_accepts accepts writable]
  intro after
  have seen : after.data = some (d.put view.schema.id key value) := new
  have stored : after.stored? key = some value := by
    rw [stored?_eq seen, TraitsData.get?_put, if_pos rfl]
  refine ⟨rfl, ?_, ?_, ?_, d, _, Store.readable_eq_writable writable, seen, ?_, ?_⟩
  · have reads : after.read key = .ok (after.stored? key) := read_eq declared
    rw [reads, stored]
  · have isDeclared : after.schema.property? key = some property := declared
    rw [status, stored, isDeclared]
    exact if_pos right.symm
  · rw [isImbued, seen, Option.any_some]
    exact TraitsData.hasTrait_alter_iff.2 (.inl rfl)
  · intro traitId other elsewhere
    rw [TraitsData.get?_put, if_neg elsewhere]
  · intro traitId foreign
    rw [Bool.eq_iff_iff]
    exact TraitsData.hasTrait_alter_iff.trans (or_iff_right foreign)

/-- A property is set if nothing speaks against it, and otherwise the first thing
that does is reported. Once it is set it is found, with just that value, and no
other value and no other trait has come, gone or changed. -/
theorem set_checks_then_stores (view : TraitView) (key : String) (value : PropertyValue) :
    let done := (set key value).apply view
    (done.1 = .ok () ↔
      view.schema.Declares key value.kind ∧ view.store.writable.isSome = true ∧
        view.schema.id ≠ "" ∧ key ≠ "") ∧
    (∀ e, done.1 = .error e ↔
      ∃ fault : SetFault, fault.IsFirst view key value ∧ fault.error view key value = e) ∧
    (done.1 = .ok () →
      done.2.schema = view.schema ∧ done.2.read key = .ok (some value) ∧
      done.2.status key = .found ∧ done.2.isImbued = true ∧
      ∃ d new, view.data = some d ∧ done.2.data = some new ∧
        (∀ traitId other, (traitId, other) ≠ (view.schema.id, key) →
          new.get? traitId other = d.get? traitId other) ∧
        ∀ traitId, traitId ≠ view.schema.id → new.hasTrait traitId = d.hasTrait traitId) := by
  refine ⟨set_eq_ok_iff.trans ?_, fun e => set_eq_error_iff,
    fun succeeded => shows_set (set_eq_ok_iff.1 succeeded)⟩
  exact ⟨fun ⟨declared, writable, traitId, named⟩ => ⟨declared, writable, traitId, named⟩,
    fun ⟨declared, writable, traitId, named⟩ => ⟨declared, writable, traitId, named⟩⟩

/-- Text for a property without a name, which is declared as a number first, of a
trait without a name, through a reference that only reads: the kind is reported. -/
theorem set_checks_then_stores_nameless :
    let view : TraitView := ⟨⟨"", [⟨"", .int, ""⟩, ⟨"", .str, ""⟩]⟩, .shared (.data {})⟩
    (∃ fault : SetFault, fault.IsFirst view "" (.str "x") ∧
      fault.error view "" (.str "x") =
        .type "property '' expects a value of type 'int', got 'str'") ∧
    let blob : TraitView := ⟨.blob, .exclusive (.data {})⟩
    ((set "url" (.str "x://y")).apply blob).2.read "url" = .ok (some (.str "x://y")) ∧
      ((set "url" (.str "x://y")).apply blob).2.isImbued = true := by
  intro view
  obtain ⟨-, refused, -⟩ := set_checks_then_stores view "" (.str "x")
  refine ⟨(refused _).1 (by decide +kernel), ?_⟩
  intro blob
  obtain ⟨-, -, shown⟩ := set_checks_then_stores blob "url" (.str "x://y")
  obtain ⟨-, read, -, imbued, -⟩ := shown rfl
  exact ⟨read, imbued⟩

end TraitView

end AssetLink
