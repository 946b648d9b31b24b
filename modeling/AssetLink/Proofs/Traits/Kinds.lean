import AssetLink.Proofs.Traits.Names
import Mathlib.Data.Set.Function
import Mathlib.Logic.Relation

/-!
The kinds of values. A view sets a property only to values of the kind that its
trait declares, and it reads the same declaration that it checks. So where the
values of a trait are written through its views only, no view of it ever meets a
value of another kind, whatever is written to other traits.
-/

namespace AssetLink

open Json

namespace TraitsData

/-- Each value that is stored where one of the traits declares a property is of
the kind declared. -/
def Kinded (schemas : Set TraitSchema) (d : TraitsData) : Prop :=
  ∀ schema ∈ schemas, ∀ key property value, schema.property? key = some property →
    d.get? schema.id key = some value → value.kind = property.kind

variable {schemas : Set TraitSchema} {d : TraitsData}

theorem kinded_empty : Kinded schemas {} :=
  fun _ _ _ _ _ _ none => nomatch none

theorem Kinded.of_get?_eq (kinded : d.Kinded schemas) {new : TraitsData}
    (same : ∀ schema ∈ schemas, ∀ key, new.get? schema.id key = d.get? schema.id key) :
    new.Kinded schemas := fun schema member key property value declared stored =>
  kinded schema member key property value declared ((same schema member key).symm.trans stored)

theorem Kinded.put (distinct : schemas.InjOn TraitSchema.id) (kinded : d.Kinded schemas)
    {schema : TraitSchema} (member : schema ∈ schemas) {key : String} {property : PropertyDef}
    (declared : schema.property? key = some property) {value : PropertyValue}
    (right : value.kind = property.kind) : (d.put schema.id key value).Kinded schemas := by
  intro other isOther otherKey otherProperty stored otherDeclared found
  rw [get?_put] at found
  split at found
  · next place =>
      -- Another trait of the same id would be free to declare another kind.
      cases distinct isOther member (Prod.ext_iff.1 place).1
      cases (Prod.ext_iff.1 place).2
      cases found
      cases otherDeclared.symm.trans declared
      exact right
  · exact kinded other isOther otherKey otherProperty stored otherDeclared found

theorem Kinded.addTrait (traitId : String) (kinded : d.Kinded schemas) :
    ((addTrait traitId).apply d).2.Kinded schemas :=
  kinded.of_get?_eq fun schema _ key => get?_addTrait traitId d schema.id key

theorem Kinded.set (distinct : schemas.InjOn TraitSchema.id) (kinded : d.Kinded schemas)
    {schema : TraitSchema} (member : schema ∈ schemas) {key : String} {property : PropertyDef}
    (declared : schema.property? key = some property) {value : PropertyValue}
    (right : value.kind = property.kind) :
    ((set schema.id key value).apply d).2.Kinded schemas := by
  rw [apply_set]
  split
  · exact kinded
  · split
    · exact kinded
    · exact kinded.put distinct member declared right

end TraitsData

namespace DataWrite

def target? : DataWrite → Option String
  | addTrait _ | addTraits _ => none
  | set traitId _ _ => some traitId
  | exchange traitId _ _ => traitId.text?

theorem get?_apply_of_target?_ne (write : DataWrite) {other : String}
    (ne : write.target? ≠ some other) (d : TraitsData) (key : String) :
    (write.change.apply d).2.get? other key = d.get? other key := by
  cases write with
  | addTrait traitId => exact TraitsData.get?_addTrait traitId d other key
  | addTraits traitIds =>
      rw [change, TraitsData.apply_addTraits]
      split
      · rfl
      · exact TraitsData.get?_foldl_imbue traitIds d other key
  | set traitId _ value =>
      exact TraitsData.get?_set_of_ne (mt (congrArg some) ne) _ value d key
  | exchange traitId _ value =>
      rw [change, Exchange.apply_set]
      split
      · rfl
      · next read =>
          rw [target?, Exchange.text?_of_arguments read] at ne
          exact TraitsData.get?_set_of_ne (mt (congrArg some) ne) _ _ d key

end DataWrite

theorem ViewWrite.isValid_apply (write : ViewWrite) (view : TraitView) :
    (write.change.apply view).2.isValid = view.isValid := by
  cases write with
  | imbue => rw [change, TraitView.apply_imbue, TraitView.isValid_onData]
  | set key value =>
      rw [change, TraitView.apply_set]
      split
      · rfl
      · split
        · exact TraitView.isValid_onData _ view
        · rfl

namespace TraitView

variable {schemas : Set TraitSchema}

theorem status_ne_invalidValue {view : TraitView} {d : TraitsData} (seen : view.data = some d)
    (kinded : d.Kinded schemas) (member : view.schema ∈ schemas) (key : String) :
    view.status key ≠ .invalidValue := by
  rw [status, stored?_eq seen]
  split
  · nofun
  · next value property stored declared =>
      rw [if_pos (kinded view.schema member key property value declared stored)]
      nofun
  · nofun

theorem exists_readStr {view : TraitView} {d : TraitsData} (seen : view.data = some d)
    (kinded : d.Kinded schemas) (member : view.schema ∈ schemas) {key : String}
    {property : PropertyDef} (declared : view.schema.property? key = some property)
    (isStr : property.kind = .str) :
    ∃ text?, view.readStr key = .ok text? ∧ d.get? view.schema.id key = text?.map .str := by
  rw [readStr, read_eq declared, stored?_eq seen]
  cases stored : d.get? view.schema.id key with
  | none => exact ⟨none, rfl, rfl⟩
  | some value =>
      have right := kinded view.schema member key property value declared stored
      rw [isStr] at right
      cases value with
      | str text => exact ⟨some text, rfl, rfl⟩
      | _ => nomatch right

end TraitView

namespace TraitsData

variable {schemas : Set TraitSchema} {d new : TraitsData}

/-- A write through a view of one of the traits, or one past the views that sets a
property of none of them. Either may be refused. -/
inductive TypedWrite (schemas : Set TraitSchema) : TraitsData → TraitsData → Prop
  | view (view : TraitView) {d new : TraitsData} (member : view.schema ∈ schemas)
      (seen : view.data = some d) (write : ViewWrite)
      (left : (write.change.apply view).2.data = some new) : TypedWrite schemas d new
  | past {d : TraitsData} (write : DataWrite)
      (foreign : ∀ schema ∈ schemas, write.target? ≠ some schema.id) :
      TypedWrite schemas d (write.change.apply d).2

theorem TypedWrite.exists_view {view : TraitView} (member : view.schema ∈ schemas)
    (seen : view.data = some d) (write : ViewWrite) :
    ∃ next, TypedWrite schemas d next ∧ (write.change.apply view).2.data = some next := by
  have valid : (write.change.apply view).2.isValid = true := by
    rw [write.isValid_apply, TraitView.isValid, seen, Option.isSome_some]
  obtain ⟨next, left⟩ := Option.isSome_iff_exists.1 valid
  exact ⟨next, .view view member seen write left, left⟩

theorem Kinded.write (distinct : schemas.InjOn TraitSchema.id) (kinded : d.Kinded schemas)
    (written : TypedWrite schemas d new) : new.Kinded schemas := by
  cases written with
  | view view member seen write left =>
      have before : ∀ e ∈ view.data, e.Kinded schemas := by
        intro e isSeen
        cases seen.symm.trans isSeen
        exact kinded
      cases write with
      | imbue => exact TraitView.forall_data_imbue (fun _ => Kinded.addTrait _) before new left
      | set key value =>
          refine TraitView.forall_data_set (fun property declared right d kinded => ?_)
            before new left
          exact kinded.set distinct member (TraitView.declared_eq_ok_iff.1 declared) right
  | past write foreign =>
      exact kinded.of_get?_eq fun schema member key =>
        write.get?_apply_of_target?_ne (foreign schema member) d key

theorem Kinded.writes (distinct : schemas.InjOn TraitSchema.id) (kinded : d.Kinded schemas)
    (written : Relation.ReflTransGen (TypedWrite schemas) d new) : new.Kinded schemas := by
  induction written with
  | refl => exact kinded
  | tail _ last ih => exact ih.write distinct last

/-- What is written through the views of several traits, and past them to other
traits only, keeps the kinds that the traits declare. So no view of them finds an
invalid value, and none fails to read a text that it declares. -/
theorem typed_writes_keep_kinds (distinct : schemas.InjOn TraitSchema.id)
    (kinded : d.Kinded schemas)
    (written : Relation.ReflTransGen (TypedWrite schemas) d new) :
    new.Kinded schemas ∧
    ∀ view : TraitView, view.schema ∈ schemas → view.data = some new →
      (∀ key, view.status key ≠ .invalidValue) ∧
      (∀ key property, view.schema.property? key = some property → property.kind = .str →
        ∃ text?, view.readStr key = .ok text? ∧
          new.get? view.schema.id key = text?.map .str) ∧
      (view.schema = .blob → ∃ url? mimeType?,
        view.readStr "url" = .ok url? ∧ view.readStr "mimeType" = .ok mimeType?) ∧
      ∀ write : ViewWrite, ∃ next, TypedWrite schemas new next ∧
        (write.change.apply view).2.data = some next := by
  have kept : new.Kinded schemas := kinded.writes distinct written
  refine ⟨kept, fun view member seen => ⟨TraitView.status_ne_invalidValue seen kept member,
    fun key property => TraitView.exists_readStr seen kept member, fun isBlob => ?_,
    TypedWrite.exists_view member seen⟩⟩
  have declared : ∀ key property, TraitSchema.blob.property? key = some property →
      property.kind = .str → ∃ text?, view.readStr key = .ok text? :=
    fun key property declared isStr =>
      (TraitView.exists_readStr seen kept member (isBlob ▸ declared) isStr).imp fun _ h => h.1
  obtain ⟨url?, url⟩ := declared "url" _ rfl rfl
  obtain ⟨mimeType?, mimeType⟩ := declared "mimeType" _ rfl rfl
  exact ⟨url?, mimeType?, url, mimeType⟩

/-- A trait that declares its width twice. -/
def frame : TraitSchema where
  id := "frame"
  properties := [⟨"width", .int, "Width in pixels"⟩, ⟨"width", .str, "Width in words"⟩]

def framed : TraitsData :=
  put {} "frame" "width" (.int 640)

def located : TraitsData :=
  framed.put "blob" "url" (.str "x://y")

def foreign : TraitsData :=
  located.put "other" "width" (.bool true)

theorem distinct_blob_frame : Set.InjOn TraitSchema.id {TraitSchema.blob, frame} := by
  rintro _ (rfl | rfl) _ (rfl | rfl) same
  · rfl
  · exact absurd same (by decide)
  · exact absurd same (by decide)
  · rfl

/-- A location is set, a width in words is refused, and a foreign width is set. -/
theorem typedWrites_foreign :
    Relation.ReflTransGen (TypedWrite {TraitSchema.blob, frame}) framed foreign := by
  have set : TypedWrite {TraitSchema.blob, frame} framed located :=
    .view ⟨.blob, .exclusive (.data framed)⟩ (.inl rfl) rfl (.set "url" (.str "x://y")) (by cbv)
  have refused : TypedWrite {TraitSchema.blob, frame} located located :=
    .view ⟨frame, .data located⟩ (.inr rfl) rfl (.set "width" (.str "wide")) (by cbv)
  have past : TypedWrite {TraitSchema.blob, frame} located foreign :=
    .past (.exchange (.str "other") (.str "width") (.bool true)) (by
      rintro _ (rfl | rfl) <;> decide)
  exact .tail (.tail (.single set) refused) past

theorem kinded_framed : framed.Kinded {TraitSchema.blob, frame} := by
  have declared : frame.property? "width" = some ⟨"width", .int, "Width in pixels"⟩ := rfl
  exact kinded_empty.put distinct_blob_frame (.inr rfl) declared rfl

theorem typed_writes_keep_kinds_foreign :
    (Set.InjOn TraitSchema.id {TraitSchema.blob, frame} ∧
      framed.Kinded {TraitSchema.blob, frame} ∧
      Relation.ReflTransGen (TypedWrite {TraitSchema.blob, frame}) framed foreign) ∧
    foreign.Kinded {TraitSchema.blob, frame} ∧
    (∀ key, TraitView.status ⟨frame, .data foreign⟩ key ≠ .invalidValue) ∧
    (∃ text?, TraitView.readStr ⟨.blob, .data foreign⟩ "url" = .ok text? ∧
      foreign.get? "blob" "url" = text?.map .str) ∧
    ∃ url? mimeType?, TraitView.readStr ⟨.blob, .data foreign⟩ "url" = .ok url? ∧
      TraitView.readStr ⟨.blob, .data foreign⟩ "mimeType" = .ok mimeType? := by
  obtain ⟨kept, views⟩ :=
    typed_writes_keep_kinds distinct_blob_frame kinded_framed typedWrites_foreign
  obtain ⟨frames, -, -⟩ := views ⟨frame, .data foreign⟩ (.inr rfl) rfl
  obtain ⟨-, texts, blob, -⟩ := views ⟨.blob, .data foreign⟩ (.inl rfl) rfl
  exact ⟨⟨distinct_blob_frame, kinded_framed, typedWrites_foreign⟩, kept, frames,
    texts "url" _ rfl rfl, blob rfl⟩

end TraitsData

end AssetLink
