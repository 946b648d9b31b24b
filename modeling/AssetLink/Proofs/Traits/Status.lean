import AssetLink.Proofs.Traits.Viewing

/-!
What a view says of a property. Its status and its two reads go by one stored value
and by the first definition of the key, so each of them can be told from the
others. Where the key is not declared the reads fail, and the status says only
whether a value is stored.
-/

namespace AssetLink

namespace TraitView

variable {view : TraitView} {key : String} {kind : PropertyKind}

/-- A value is stored where the view looks for the property. -/
def Stores (view : TraitView) (key : String) (value : PropertyValue) : Prop :=
  ∃ d, view.data = some d ∧ d.get? view.schema.id key = some value

section Declared

variable (declares : view.schema.Declares key kind)

include declares

theorem status_of_declares :
    view.status key =
      (view.stored? key).elim .missing fun value =>
        if value.kind = kind then .found else .invalidValue := by
  obtain ⟨property, declared, rfl⟩ := TraitSchema.declares_iff.1 declares
  rw [status, declared]
  cases view.stored? key <;> rfl

theorem read_of_declares : view.read key = .ok (view.stored? key) := by
  obtain ⟨property, declared, -⟩ := TraitSchema.declares_iff.1 declares
  exact read_eq declared

theorem read_eq_iff {value? : Option PropertyValue} :
    view.read key = .ok value? ↔ view.stored? key = value? := by
  rw [read_of_declares declares, Except.ok.injEq]

theorem status_eq_missing_iff : view.status key = .missing ↔ view.read key = .ok none := by
  rw [status_of_declares declares, read_eq_iff declares]
  cases view.stored? key with
  | none => exact iff_of_true rfl rfl
  | some value => by_cases right : value.kind = kind <;> simp [right]

theorem status_eq_found_iff :
    view.status key = .found ↔ ∃ value, view.read key = .ok (some value) ∧ value.kind = kind := by
  rw [status_of_declares declares]
  simp only [read_eq_iff declares]
  cases view.stored? key with
  | none => simp
  | some value => by_cases right : value.kind = kind <;> simp [right]

theorem status_eq_invalidValue_iff :
    view.status key = .invalidValue ↔
      ∃ value, view.read key = .ok (some value) ∧ value.kind ≠ kind := by
  rw [status_of_declares declares]
  simp only [read_eq_iff declares]
  cases view.stored? key with
  | none => simp
  | some value => by_cases right : value.kind = kind <;> simp [right]

theorem readStr_of_declares :
    view.readStr key =
      match view.stored? key with
      | none => .ok none
      | some (.str text) => .ok (some text)
      | some other => .error (.kindMismatch key PropertyKind.str.name other.kind.name) := by
  rw [readStr, read_of_declares declares]
  rfl

theorem readStr_eq_none_iff : view.readStr key = .ok none ↔ view.status key = .missing := by
  rw [status_eq_missing_iff declares, read_eq_iff declares, readStr_of_declares declares]
  cases view.stored? key with
  | none => exact iff_of_true rfl rfl
  | some value => cases value <;> simp

theorem readStr_eq_some_iff {text : String} :
    view.readStr key = .ok (some text) ↔ view.Stores key (.str text) := by
  rw [Stores, ← stored?_eq_some_iff, readStr_of_declares declares]
  cases view.stored? key with
  | none => simp
  | some value => cases value <;> simp

theorem readStr_eq_error_iff {e : AssetError} :
    view.readStr key = .error e ↔
      ∃ value, view.Stores key value ∧ value.kind ≠ .str ∧
        e = .kindMismatch key PropertyKind.str.name value.kind.name := by
  simp only [Stores, ← stored?_eq_some_iff]
  rw [readStr_of_declares declares]
  cases view.stored? key with
  | none => simp
  | some value => cases value <;> simp [PropertyValue.kind, eq_comm]

theorem exists_readStr_eq_error_iff (isStr : kind = .str) :
    (∃ e, view.readStr key = .error e) ↔ view.status key = .invalidValue := by
  subst isStr
  rw [status_eq_invalidValue_iff declares]
  simp only [readStr_eq_error_iff declares, read_eq_iff declares, Stores, ← stored?_eq_some_iff]
  grind

end Declared

section Undeclared

variable (undeclared : ∀ property ∈ view.schema.properties, property.key ≠ key)

include undeclared

theorem read_of_undeclared : view.read key = .error (TraitView.undeclared view.schema key) := by
  rw [read, declared_of_undeclared undeclared]
  rfl

theorem readStr_of_undeclared :
    view.readStr key = .error (TraitView.undeclared view.schema key) := by
  rw [readStr, read_of_undeclared undeclared]
  rfl

theorem set_of_undeclared (value : PropertyValue) :
    (set key value).apply view = (.error (TraitView.undeclared view.schema key), view) := by
  rw [apply_set, declared_of_undeclared undeclared]

theorem status_of_undeclared :
    view.status key = (view.stored? key).elim .missing fun _ => .found := by
  rw [status, TraitSchema.property?_eq_none_iff.2 undeclared]
  cases view.stored? key <;> rfl

theorem status_eq_found_iff_of_undeclared :
    view.status key = .found ↔ ∃ value, view.Stores key value := by
  simp only [status_of_undeclared undeclared, Stores, ← stored?_eq_some_iff]
  cases view.stored? key <;> simp

theorem status_eq_missing_iff_of_undeclared :
    view.status key = .missing ↔ ¬ ∃ value, view.Stores key value := by
  simp only [status_of_undeclared undeclared, Stores, ← stored?_eq_some_iff]
  cases view.stored? key <;> simp

theorem status_ne_invalidValue_of_undeclared : view.status key ≠ .invalidValue := by
  rw [status_of_undeclared undeclared]
  cases view.stored? key <;> nofun

end Undeclared

theorem status_of_detached (detached : view.store.readable = none) (key : String) :
    view.status key = .missing := by
  have nothing : view.stored? key = none := by rw [stored?, data, detached, Option.bind_none]
  rw [status, nothing]

/-- Status and reads of a property agree: of a declared one they say alike whether
it is set and to what kind of value; of any other only the status says something,
and never that a value is invalid. -/
theorem status_tells_reads (view : TraitView) (key : String) :
    let noText (kind : PropertyKind) : AssetError :=
      .type s!"property '{key}' expects a value of type '{PropertyKind.str.name}', got '{kind.name}'"
    (∀ kind, view.schema.Declares key kind →
      (view.status key = .missing ↔ view.read key = .ok none) ∧
      (view.status key = .found ↔
        ∃ value, view.read key = .ok (some value) ∧ value.kind = kind) ∧
      (view.status key = .invalidValue ↔
        ∃ value, view.read key = .ok (some value) ∧ value.kind ≠ kind) ∧
      (view.readStr key = .ok none ↔ view.status key = .missing) ∧
      (∀ text, view.readStr key = .ok (some text) ↔ view.Stores key (.str text)) ∧
      (∀ e, view.readStr key = .error e ↔
        ∃ value, view.Stores key value ∧ value.kind ≠ .str ∧
          e = noText value.kind) ∧
      (kind = .str →
        ((∃ e, view.readStr key = .error e) ↔ view.status key = .invalidValue))) ∧
    ((∀ property ∈ view.schema.properties, property.key ≠ key) →
      let refused : AssetError :=
        .inputValidation s!"'{key}' is not a property of trait '{view.schema.id}'"
      view.read key = .error refused ∧ view.readStr key = .error refused ∧
      (∀ value, ((set key value).apply view).1 = .error refused) ∧
      (view.status key = .found ↔ ∃ value, view.Stores key value) ∧
      (view.status key = .missing ↔ ¬ ∃ value, view.Stores key value) ∧
      view.status key ≠ .invalidValue) ∧
    (view.store.readable = none →
      view.status key = .missing ∧ ∀ kind, view.schema.Declares key kind →
        view.read key = .ok none ∧ view.readStr key = .ok none) := by
  intro noText
  refine ⟨fun kind declares => ⟨status_eq_missing_iff declares, status_eq_found_iff declares,
    status_eq_invalidValue_iff declares, readStr_eq_none_iff declares,
    fun text => readStr_eq_some_iff declares, fun e => readStr_eq_error_iff declares,
    exists_readStr_eq_error_iff declares⟩, fun undeclared => ?_, fun detached => ?_⟩
  · exact ⟨read_of_undeclared undeclared, readStr_of_undeclared undeclared,
      fun value => congrArg Prod.fst (set_of_undeclared undeclared value),
      status_eq_found_iff_of_undeclared undeclared, status_eq_missing_iff_of_undeclared undeclared,
      status_ne_invalidValue_of_undeclared undeclared⟩
  · have missing := status_of_detached detached key
    exact ⟨missing, fun kind declares =>
      ⟨(status_eq_missing_iff declares).1 missing, (readStr_eq_none_iff declares).2 missing⟩⟩

/-- A number was written where a text is declared, and a value where nothing is. -/
theorem status_tells_reads_foreign :
    let d : TraitsData := (TraitsData.put {} "blob" "url" (.int 3)).put "blob" "size" (.int 3)
    let view : TraitView := ⟨.blob, .present (.shared (.data d))⟩
    view.schema.Declares "url" .str ∧ view.status "url" = .invalidValue ∧
    view.read "url" = .ok (some (.int 3)) ∧
    view.readStr "url" =
      .error (.type "property 'url' expects a value of type 'str', got 'int'") ∧
    view.status "mimeType" = .missing ∧ view.readStr "mimeType" = .ok none ∧
    view.status "size" = .found ∧
    view.read "size" = .error (.inputValidation "'size' is not a property of trait 'blob'") := by
  intro d view
  have url : view.schema.Declares "url" .str := ⟨[], _, _, rfl, rfl, rfl, nofun⟩
  have mimeType : view.schema.Declares "mimeType" .str :=
    ⟨[_], _, _, rfl, rfl, rfl, by decide⟩
  have size : ∀ property ∈ view.schema.properties, property.key ≠ "size" := by decide
  have read : view.read "url" = .ok (some (.int 3)) := by decide +kernel
  have empty : view.readStr "mimeType" = .ok none := by decide +kernel
  have stored : view.Stores "size" (.int 3) := ⟨d, rfl, by decide +kernel⟩
  obtain ⟨declared, -, -⟩ := status_tells_reads view "url"
  obtain ⟨-, -, invalid, -, -, refused, -⟩ := declared .str url
  obtain ⟨declared, -, -⟩ := status_tells_reads view "mimeType"
  obtain ⟨-, -, -, missing, -⟩ := declared .str mimeType
  obtain ⟨-, undeclared, -⟩ := status_tells_reads view "size"
  obtain ⟨unread, -, -, found, -⟩ := undeclared size
  have wrong : view.Stores "url" (.int 3) := ⟨d, rfl, by decide +kernel⟩
  exact ⟨url, invalid.2 ⟨_, read, nofun⟩, read, (refused _).2 ⟨_, wrong, nofun, by decide +kernel⟩,
    missing.1 empty, empty, found.2 ⟨_, stored⟩, unread.trans (by decide +kernel)⟩

end TraitView

end AssetLink
