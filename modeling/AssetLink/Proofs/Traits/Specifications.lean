import AssetLink.Proofs.Traits.Names
import AssetLink.Proofs.Traits.Table
import Mathlib.Logic.Relation

/-!
Specifications under writes. No writer takes anything away, neither on the data
itself nor through a view of a store around the specification. So the traits that
a specification was made with stay present in its data, and so does everything
that was added to it since.
-/

namespace AssetLink

open Json

namespace TraitsData

/-- What the data has, traits and properties, is there in the new data too. The
values may be others. -/
structure PresentIn (d new : TraitsData) : Prop where
  traits : ∀ traitId, d.hasTrait traitId = true → new.hasTrait traitId = true
  properties : ∀ traitId key,
    d.hasProperty traitId key = true → new.hasProperty traitId key = true

namespace PresentIn

theorem refl (d : TraitsData) : d.PresentIn d :=
  ⟨fun _ present => present, fun _ _ present => present⟩

theorem trans {d e new : TraitsData} (first : d.PresentIn e) (next : e.PresentIn new) :
    d.PresentIn new :=
  ⟨fun traitId present => next.traits traitId (first.traits traitId present),
    fun traitId key present => next.properties traitId key (first.properties traitId key present)⟩

theorem imbue (d : TraitsData) (traitId : String) : d.PresentIn (d.imbue traitId) where
  traits _ present := hasTrait_alter_iff.2 (.inr present)
  properties other key present := by
    rw [hasProperty_iff] at present ⊢
    rwa [get?_imbue]

theorem foldl_imbue (traitIds : List String) (d : TraitsData) :
    d.PresentIn (traitIds.foldl TraitsData.imbue d) := by
  induction traitIds generalizing d with
  | nil => exact refl d
  | cons first rest ih => exact (imbue d first).trans (ih _)

theorem put (d : TraitsData) (traitId key : String) (value : PropertyValue) :
    d.PresentIn (d.put traitId key value) where
  traits _ present := hasTrait_alter_iff.2 (.inr present)
  properties other otherKey present := by
    rw [hasProperty_iff] at present ⊢
    rw [get?_put]
    split
    · exact ⟨value, rfl⟩
    · exact present

theorem set (d : TraitsData) (traitId key : String) (value : PropertyValue) :
    d.PresentIn ((TraitsData.set traitId key value).apply d).2 := by
  rw [apply_set]
  split
  · exact refl d
  · split
    · exact refl d
    · exact put d traitId key value

end PresentIn

end TraitsData

theorem DataWrite.presentIn (write : DataWrite) (d : TraitsData) :
    d.PresentIn (write.change.apply d).2 := by
  cases write with
  | addTrait traitId =>
      rw [change, TraitsData.apply_addTrait]
      split
      · exact .refl d
      · exact .imbue d traitId
  | addTraits traitIds =>
      rw [change, TraitsData.apply_addTraits]
      split
      · exact .refl d
      · exact .foldl_imbue traitIds d
  | set traitId key value => exact .set d traitId key value
  | exchange traitId key value =>
      rw [change, Exchange.apply_set]
      split
      · exact .refl d
      · exact .set d _ _ _

namespace ViewWrite

theorem presentIn (write : ViewWrite) {view : TraitView} {d new : TraitsData}
    (seen : view.data = some d) (left : (write.change.apply view).2.data = some new) :
    d.PresentIn new := by
  have before : ∀ e ∈ view.data, d.PresentIn e := by
    intro e isSeen
    cases seen.symm.trans isSeen
    exact .refl d
  cases write with
  | imbue =>
      exact TraitView.forall_data_imbue
        (fun e kept => kept.trans (DataWrite.presentIn (.addTrait _) e)) before new left
  | set key value =>
      exact TraitView.forall_data_set
        (fun _ _ _ e kept => kept.trans (.set e _ key value)) before new left

theorem store_apply (write : ViewWrite) {view : TraitView} {p : Store → Prop}
    (here : p view.store) (put : ∀ new, p (view.store.put new)) :
    p (write.change.apply view).2.store := by
  have onData : ∀ change, p ((TraitView.onData change).apply view).2.store := by
    intro change
    rw [TraitView.apply_onData]
    cases view.store.writable with
    | none => exact here
    | some d => exact put _
  cases write with
  | imbue =>
      rw [change, TraitView.apply_imbue]
      exact onData _
  | set key value =>
      rw [change, TraitView.apply_set]
      split
      · exact here
      · split
        · exact onData _
        · exact here

end ViewWrite

namespace Store

def specification? : Store → Option Specification
  | data _ | missing => none
  | specification s => some s
  | present inner | shared inner | exclusive inner | boxed inner => inner.specification?

variable {store : Store} {s : Specification}

theorem readable_of_specification? (h : store.specification? = some s) :
    store.readable = some s.data := by
  induction store with
  | data => cases h
  | specification => cases h; rfl
  | missing => cases h
  | present inner ih | shared inner ih | exclusive inner ih | boxed inner ih => exact ih h

theorem specification?_put (h : store.specification? = some s) (new : TraitsData) :
    ∃ t, (store.put new).specification? = some t ∧ t.traitIds = s.traitIds := by
  induction store with
  | data => cases h
  | specification => cases h; exact ⟨_, rfl, rfl⟩
  | missing => cases h
  | shared inner => exact ⟨s, h, rfl⟩
  | present inner ih | exclusive inner ih | boxed inner ih => exact ih h

end Store

theorem ViewWrite.exists_specification (write : ViewWrite) {view : TraitView} {s : Specification}
    (held : view.store.specification? = some s) :
    ∃ t, (write.change.apply view).2.store.specification? = some t ∧ t.traitIds = s.traitIds :=
  write.store_apply (p := fun store => ∃ t, store.specification? = some t ∧ t.traitIds = s.traitIds)
    ⟨s, held, rfl⟩ (Store.specification?_put held)

namespace Specification

/-- One write to the data of a specification, or through a view of a store around
it. Either may be refused. -/
inductive Written : Specification → Specification → Prop
  | data {s : Specification} (write : DataWrite) : Written s ((onData write.change).apply s).2
  | view {s t : Specification} (view : TraitView) (held : view.store.specification? = some s)
      (write : ViewWrite) (left : (write.change.apply view).2.store.specification? = some t) :
      Written s t

variable {s t : Specification}

theorem Written.traitIds_eq (written : Written s t) : t.traitIds = s.traitIds := by
  cases written with
  | data write => rfl
  | view view held write left =>
      obtain ⟨kept, found, same⟩ := write.exists_specification held
      cases left.symm.trans found
      exact same

theorem Written.presentIn (written : Written s t) : s.data.PresentIn t.data := by
  cases written with
  | data write => exact write.presentIn s.data
  | view view held write left =>
      exact write.presentIn (Store.readable_of_specification? held)
        (Store.readable_of_specification? left)

theorem Written.exists_view {view : TraitView} (held : view.store.specification? = some s)
    (write : ViewWrite) :
    ∃ next, Written s next ∧ (write.change.apply view).2.store.specification? = some next := by
  obtain ⟨next, left, -⟩ := write.exists_specification held
  exact ⟨next, .view view held write left, left⟩

theorem traitIds_eq_of_writes (written : Relation.ReflTransGen Written s t) :
    t.traitIds = s.traitIds := by
  induction written with
  | refl => rfl
  | tail _ last ih => exact last.traitIds_eq.trans ih

theorem presentIn_of_writes (written : Relation.ReflTransGen Written s t) :
    s.data.PresentIn t.data := by
  induction written with
  | refl => exact .refl s.data
  | tail _ last ih => exact ih.trans last.presentIn

theorem exists_ofTraits_iff {traitIds : List String} :
    (∃ s, ofTraits traitIds = .ok s) ↔ "" ∉ traitIds := by
  rw [ofTraits, TraitsCall.ofTraits_eq]
  by_cases unnamed : "" ∈ traitIds <;> simp [unnamed, Except.map]

theorem eq_of_ofTraits {traitIds : List String} (made : ofTraits traitIds = .ok s) :
    s.traitIds = s.data.traitIds ∧ s.data = traitIds.foldl TraitsData.imbue {} := by
  rw [ofTraits, TraitsCall.ofTraits_eq] at made
  split at made
  · cases made
  · cases made
    exact ⟨rfl, rfl⟩

/-- A specification is made with the traits it is given, unless one has no name, and
with no properties. Whatever is written then, directly or through views, refused or
not, the list of its traits stays, these traits are present in its data, and nothing
that was ever present goes away. -/
theorem specification_stays_imbued (traitIds : List String) :
    ((∃ s, ofTraits traitIds = .ok s) ↔ "" ∉ traitIds) ∧
    ∀ s, ofTraits traitIds = .ok s →
      Lists s.traitIds.keys traitIds.toFinset ∧
      s.data.traitIds = s.traitIds ∧
      (∀ traitId key, s.data.get? traitId key = none) ∧
      ∀ earlier later, Relation.ReflTransGen Written s earlier →
        Relation.ReflTransGen Written earlier later →
        later.traitIds = s.traitIds ∧
        (∀ traitId ∈ s.traitIds.keys, later.data.hasTrait traitId = true) ∧
        earlier.data.PresentIn later.data ∧
        ∀ (view : TraitView) (write : ViewWrite), view.store.specification? = some later →
          ∃ next, Written later next ∧
            (write.change.apply view).2.store.specification? = some next := by
  refine ⟨exists_ofTraits_iff, fun s made => ?_⟩
  obtain ⟨fixed, fresh⟩ := eq_of_ofTraits made
  have answers := (TraitsData.Represents.empty.foldl_imbue traitIds).answers
  rw [← fresh] at answers
  have listed : Lists s.traitIds.keys traitIds.toFinset := by
    rw [fixed]
    refine ⟨answers.traitIds.1, fun traitId => (answers.traitIds.2 traitId).trans ?_⟩
    rw [TraitTable.mem_add_iff, List.mem_toFinset]
    exact or_iff_left (Finset.notMem_empty traitId)
  refine ⟨listed, fixed.symm, answers.get?, fun earlier later before after => ?_⟩
  have present := presentIn_of_writes (before.trans after)
  refine ⟨traitIds_eq_of_writes (before.trans after), fun traitId member => ?_,
    presentIn_of_writes after, fun view write held => Written.exists_view held write⟩
  refine present.traits traitId ((answers.hasTrait traitId).2 ?_)
  exact (answers.traitIds.2 traitId).1 (fixed ▸ member)

def bare : Specification where
  traitIds := .ofList ["blob", "shot"]
  data := ⟨.ofList [("blob", {}), ("shot", {})]⟩

def numbered : Specification :=
  { bare with data := bare.data.put "shot" "take" (.int 1) }

def overwritten : Specification :=
  { bare with data :=
      (numbered.data.put "shot" "take" (.str "one")).put "blob" "url" (.str "x://y") }

/-- A value is overwritten with one of another kind, an empty key is refused, and a
location is set through a view of a reference. -/
theorem writes_overwritten : Relation.ReflTransGen Written numbered overwritten := by
  have other : Written numbered
      { bare with data := numbered.data.put "shot" "take" (.str "one") } :=
    .data (.set "shot" "take" (.str "one"))
  have refused : Written { bare with data := numbered.data.put "shot" "take" (.str "one") }
      { bare with data := numbered.data.put "shot" "take" (.str "one") } :=
    .data (.exchange (.str "shot") (.str "") (.int 2))
  have location : Written { bare with data := numbered.data.put "shot" "take" (.str "one") }
      overwritten :=
    .view ⟨.blob, .exclusive (.specification _)⟩ rfl (.set "url" (.str "x://y")) (by cbv)
  exact .tail (.tail (.single other) refused) location

theorem specification_stays_imbued_overwritten :
    (ofTraits ["shot", "blob", "shot"] = .ok bare ∧
      Relation.ReflTransGen Written bare numbered ∧
      Relation.ReflTransGen Written numbered overwritten) ∧
    Lists bare.traitIds.keys ["shot", "blob", "shot"].toFinset ∧
    overwritten.traitIds = bare.traitIds ∧
    overwritten.data.hasTrait "blob" = true ∧
    overwritten.data.hasProperty "shot" "take" = true ∧
    ∃ next, Written overwritten next ∧
      (ViewWrite.imbue.change.apply
        ⟨.blob, .boxed (.specification overwritten)⟩).2.store.specification? = some next := by
  have made : ofTraits ["shot", "blob", "shot"] = .ok bare := by cbv
  have first : Relation.ReflTransGen Written bare numbered :=
    .single (.data (.set "shot" "take" (.int 1)))
  obtain ⟨-, stays⟩ := specification_stays_imbued ["shot", "blob", "shot"]
  obtain ⟨listed, -, -, run⟩ := stays bare made
  obtain ⟨fixed, imbued, present, more⟩ := run numbered overwritten first writes_overwritten
  exact ⟨⟨made, first, writes_overwritten⟩, listed, fixed, imbued "blob" (by decide),
    present.properties "shot" "take" (by decide),
    more ⟨.blob, .boxed (.specification overwritten)⟩ .imbue rfl⟩

end Specification

end AssetLink
