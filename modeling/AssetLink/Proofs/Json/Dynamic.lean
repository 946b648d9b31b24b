import AssetLink.Proofs.Json.Acceptance
import AssetLink.Proofs.Json.RoundTrip
import AssetLink.Proofs.Traits.LastWrites

/-!
Properties written and read with dynamic values. A write passes all its checks or
changes nothing, and is read back as the value that was passed in, until another
write to the same place passes.
-/

namespace AssetLink

namespace Json.Exchange

structure DynamicWrite where
  traitId : Value
  key : Value
  value : Value

inductive WriteFault
  | traitIdKind
  | keyKind
  | value
  | namelessTrait
  | namelessKey

namespace WriteFault

def rank : WriteFault → Nat
  | traitIdKind => 0
  | keyKind => 1
  | value => 2
  | namelessTrait => 3
  | namelessKey => 4

def Applies (write : DynamicWrite) : WriteFault → Prop
  | traitIdKind => ∀ text, write.traitId ≠ .str text
  | keyKind => ∀ text, write.key ≠ .str text
  | value => ¬ write.value.Storable
  | namelessTrait => write.traitId = .str ""
  | namelessKey => write.key = .str ""

def error (write : DynamicWrite) : WriteFault → AssetError
  | traitIdKind => .type s!"trait id must be a string, got '{write.traitId.kindName}'"
  | keyKind => .type s!"property key must be a string, got '{write.key.kindName}'"
  | value => refusal write.value
  | namelessTrait => .inputValidation "trait id must not be empty"
  | namelessKey => .inputValidation "property key must not be empty"

end WriteFault

theorem expectText_str (argument text : String) : expectText argument (.str text) = .ok text := rfl

theorem expectText_eq_error_iff {argument : String} {value : Value} {e : AssetError} :
    expectText argument value = .error e ↔
      (∀ text, value ≠ .str text) ∧ e = .nonStringArgument argument value.kindName := by
  cases value <;> simp [expectText, Value.text?, eq_comm]

namespace DynamicWrite

variable {write : DynamicWrite} {place : String × String} {value : Value} {d : TraitsData}
  {writes : List DynamicWrite}

def change (write : DynamicWrite) : Change TraitsData Unit :=
  set write.traitId write.key write.value

structure Puts (write : DynamicWrite) (place : String × String) (value : Value) : Prop where
  traitIdText : write.traitId = .str place.1
  keyText : write.key = .str place.2
  passed : write.value = value
  storable : value.Storable
  traitNamed : place.1 ≠ ""
  keyNamed : place.2 ≠ ""

theorem exists_puts_iff :
    (∃ place, write.Puts place write.value) ↔ ∀ fault : WriteFault, ¬ fault.Applies write := by
  constructor
  · rintro ⟨place, puts⟩ (_ | _ | _ | _ | _) applies
    · exact applies _ puts.traitIdText
    · exact applies _ puts.keyText
    · exact applies puts.storable
    · exact puts.traitNamed (Value.str.inj (puts.traitIdText.symm.trans applies))
    · exact puts.keyNamed (Value.str.inj (puts.keyText.symm.trans applies))
  · intro nothing
    obtain ⟨traitId, traitIdText⟩ := not_forall_not.1 (nothing .traitIdKind)
    obtain ⟨key, keyText⟩ := not_forall_not.1 (nothing .keyKind)
    refine ⟨(traitId, key), traitIdText, keyText, rfl, not_not.1 (nothing .value), ?_, ?_⟩
    · rintro rfl
      exact nothing .namelessTrait traitIdText
    · rintro rfl
      exact nothing .namelessKey keyText

theorem apply_change {traitId key : String} {p : PropertyValue}
    (traitIdText : write.traitId = .str traitId) (keyText : write.key = .str key)
    (stored : toProperty write.value = .ok p) (d : TraitsData) :
    write.change.apply d = (TraitsData.set traitId key p).apply d := by
  have checked : arguments write.traitId write.key write.value = .ok (traitId, key, p) :=
    arguments_eq_ok_iff.2 ⟨traitIdText, keyText, stored⟩
  rw [change, apply_set, checked]

theorem Puts.apply_change (puts : write.Puts place value) (d : TraitsData) :
    ∃ p, toProperty value = .ok p ∧
      write.change.apply d = (.ok (), d.put place.1 place.2 p) := by
  obtain ⟨p, stored⟩ := exists_toProperty_iff.2 puts.storable
  refine ⟨p, stored, ?_⟩
  rw [← puts.passed] at stored
  rw [DynamicWrite.apply_change puts.traitIdText puts.keyText stored, TraitsData.apply_set,
    if_neg puts.traitNamed, if_neg puts.keyNamed]

theorem apply_change_of_first {fault : WriteFault}
    (first : MinimalFor (WriteFault.Applies write) WriteFault.rank fault) (d : TraitsData) :
    write.change.apply d = (.error (fault.error write), d) := by
  have earlier (other : WriteFault) (less : other.rank < fault.rank) : ¬ other.Applies write :=
    first.not_prop_of_lt less
  have traitIdText (late : 0 < fault.rank) : ∃ text, write.traitId = .str text :=
    not_forall_not.1 (earlier .traitIdKind late)
  have keyText (late : 1 < fault.rank) : ∃ text, write.key = .str text :=
    not_forall_not.1 (earlier .keyKind late)
  have stored (late : 2 < fault.rank) : ∃ p, toProperty write.value = .ok p :=
    exists_toProperty_iff.2 (not_not.1 (earlier .value late))
  cases fault with
  | traitIdKind =>
      rw [change, apply_set, arguments, expectText_eq_error_iff.2 ⟨first.prop, rfl⟩]
      rfl
  | keyKind =>
      obtain ⟨traitId, traitIdText⟩ := traitIdText (by decide)
      rw [change, apply_set, arguments, traitIdText, expectText_str,
        expectText_eq_error_iff.2 ⟨first.prop, rfl⟩]
      rfl
  | value =>
      obtain ⟨traitId, traitIdText⟩ := traitIdText (by decide)
      obtain ⟨key, keyText⟩ := keyText (by decide)
      rw [change, apply_set, arguments, traitIdText, keyText, expectText_str, expectText_str,
        toProperty_eq_error_iff.2 ⟨first.prop, rfl⟩]
      rfl
  | namelessTrait =>
      obtain ⟨key, keyText⟩ := keyText (by decide)
      obtain ⟨p, stored⟩ := stored (by decide)
      rw [DynamicWrite.apply_change first.prop keyText stored, TraitsData.apply_set, if_pos rfl]
      rfl
  | namelessKey =>
      obtain ⟨traitId, traitIdText⟩ := traitIdText (by decide)
      obtain ⟨p, stored⟩ := stored (by decide)
      have named : traitId ≠ "" := by
        rintro rfl
        exact earlier .namelessTrait (by decide) traitIdText
      rw [DynamicWrite.apply_change traitIdText first.prop stored, TraitsData.apply_set,
        if_neg named, if_pos rfl]
      rfl

theorem puts_or_first (write : DynamicWrite) :
    (∃ place, write.Puts place write.value) ∨
      ∃ fault, MinimalFor (WriteFault.Applies write) WriteFault.rank fault := by
  rw [exists_puts_iff]
  by_cases faulty : ∃ fault : WriteFault, fault.Applies write
  · exact .inr (exists_minimalFor_of_wellFoundedLT _ _ faulty)
  · exact .inl (not_exists.1 faulty)

theorem change_eq_ok_iff :
    (write.change.apply d).1 = .ok () ↔ ∃ place, write.Puts place write.value := by
  rcases puts_or_first write with ⟨place, puts⟩ | ⟨fault, first⟩
  · obtain ⟨p, -, done⟩ := puts.apply_change d
    exact iff_of_true (by rw [done]) ⟨place, puts⟩
  · rw [apply_change_of_first first, exists_puts_iff]
    exact iff_of_false nofun fun nothing => nothing fault first.prop

theorem change_eq_error_iff {e : AssetError} :
    (write.change.apply d).1 = .error e ↔
      ∃ fault, MinimalFor (WriteFault.Applies write) WriteFault.rank fault ∧
        fault.error write = e := by
  refine eq_error_iff_of_first (fun nothing => ⟨(), ?_⟩) fun fault first => ?_
  · exact change_eq_ok_iff.2 (exists_puts_iff.2 nothing)
  · rw [apply_change_of_first first]

theorem Puts.place_eq {other : String × String} {otherValue : Value}
    (puts : write.Puts place value) (otherPuts : write.Puts other otherValue) : place = other := by
  have sameTrait := puts.traitIdText.symm.trans otherPuts.traitIdText
  have sameKey := puts.keyText.symm.trans otherPuts.keyText
  exact Prod.ext (Value.str.inj sameTrait) (Value.str.inj sameKey)

theorem get_change (write : DynamicWrite) (d : TraitsData) (place : String × String) :
    let read (d : TraitsData) := get d (.str place.1) (.str place.2)
    (∀ value, write.Puts place value → read (write.change.apply d).2 = .ok (some value)) ∧
    ((∀ value, ¬ write.Puts place value) → read (write.change.apply d).2 = read d) := by
  intro read
  rcases puts_or_first write with ⟨other, puts⟩ | ⟨fault, first⟩
  · obtain ⟨p, stored, done⟩ := puts.apply_change d
    have reads (d : TraitsData) : read d = (d.get? place.1 place.2).mapM ofProperty := rfl
    rw [done, reads, reads, TraitsData.get?_put]
    refine ⟨fun value put => ?_, fun silent => ?_⟩
    · rw [if_pos (put.place_eq puts), ← put.passed]
      exact option_mapM_eq_ok_iff.2 (.some (toProperty_eq_ok_iff.1 stored))
    · rw [if_neg fun same : place = other => silent write.value (same ▸ puts)]
  · rw [apply_change_of_first first]
    refine ⟨fun value put => ?_, fun _ => rfl⟩
    exact absurd first.prop (exists_puts_iff.1 ⟨place, put.passed ▸ put⟩ fault)

def run (d : TraitsData) (writes : List DynamicWrite) : TraitsData :=
  writes.foldl (fun d write => (write.change.apply d).2) d

theorem get_run (writes : List DynamicWrite) (d : TraitsData) (place : String × String) :
    let read (d : TraitsData) := get d (.str place.1) (.str place.2)
    (∀ value, LastPut Puts writes place value → read (run d writes) = .ok (some value)) ∧
    ((∀ write ∈ writes, ∀ value, ¬ write.Puts place value) → read (run d writes) = read d) := by
  intro read
  induction writes using List.reverseRecOn with
  | nil => exact ⟨fun value last => absurd last not_lastPut_nil, fun _ => rfl⟩
  | append_singleton writes last ih =>
      obtain ⟨puts, keeps⟩ := get_change last (run d writes) place
      have step : run d (writes ++ [last]) = (last.change.apply (run d writes)).2 := by
        rw [run, List.foldl_append]
        rfl
      rw [step]
      refine ⟨fun value lastPut => ?_, fun silent => ?_⟩
      · rcases lastPut_concat_iff.1 lastPut with put | ⟨before, silent⟩
        · exact puts value put
        · exact (keeps silent).trans (ih.1 value before)
      · rw [List.forall_mem_append, List.forall_mem_singleton] at silent
        exact (keeps silent.2).trans (ih.2 silent.1)

end DynamicWrite

open DynamicWrite (run)

theorem get_eq_error_iff {d : TraitsData} {traitId key : Value} {e : AssetError} :
    get d traitId key = .error e ↔
      (∀ text, traitId ≠ .str text) ∧
        e = .type s!"trait id must be a string, got '{traitId.kindName}'" ∨
      ∃ text, traitId = .str text ∧
        ((∀ text, key ≠ .str text) ∧
          e = .type s!"property key must be a string, got '{key.kindName}'" ∨
        ∃ keyText, key = .str keyText ∧ ∃ x, d.get? text keyText = some (.float x) ∧
          (x.isNaN = true ∨ x = .infinity ∨ x = Binary64.infinity.neg) ∧
          e = .type s!"float {x.text} has no dynamic representation") := by
  simp only [get, except_bind_eq_error_iff, expectText_eq_error_iff, expectText_eq_ok_iff,
    option_mapM_eq_error_iff, ofProperty_eq_error_iff, Binary64.isFinite_eq_false_iff]
  refine or_congr .rfl (exists_congr fun text => and_congr_right' (or_congr .rfl
    (exists_congr fun keyText => and_congr_right' ?_)))
  constructor
  · rintro ⟨_, found, x, rfl, special⟩
    exact ⟨x, found, special⟩
  · rintro ⟨x, found, special⟩
    exact ⟨_, found, x, rfl, special⟩

/-- A write is made if its names are texts that are not empty and its value is one
that can be stored, and otherwise the first fault is reported. Read afterwards, each
place gives the value that was put there last, or what it gave before if none was.
Only names that are no texts and floats that are not finite cannot be read. -/
theorem get_returns_last_set (d : TraitsData) (writes : List DynamicWrite) :
    (∀ (write : DynamicWrite) (s : TraitsData),
      ((write.change.apply s).1 = .ok () ↔ ∃ place, write.Puts place write.value) ∧
      ∀ e, (write.change.apply s).1 = .error e ↔
        ∃ fault, MinimalFor (WriteFault.Applies write) WriteFault.rank fault ∧
          fault.error write = e) ∧
    (∀ place value, LastPut DynamicWrite.Puts writes place value →
      get (run d writes) (.str place.1) (.str place.2) = .ok (some value)) ∧
    (∀ place : String × String, (∀ write ∈ writes, ∀ value, ¬ write.Puts place value) →
      get (run d writes) (.str place.1) (.str place.2) = get d (.str place.1) (.str place.2)) ∧
    ∀ traitId key e, get (run d writes) traitId key = .error e ↔
      (∀ text, traitId ≠ .str text) ∧
        e = .type s!"trait id must be a string, got '{traitId.kindName}'" ∨
      ∃ text, traitId = .str text ∧
        ((∀ text, key ≠ .str text) ∧
          e = .type s!"property key must be a string, got '{key.kindName}'" ∨
        ∃ keyText, key = .str keyText ∧ ∃ x, (run d writes).get? text keyText = some (.float x) ∧
          (x.isNaN = true ∨ x = .infinity ∨ x = Binary64.infinity.neg) ∧
          e = .type s!"float {x.text} has no dynamic representation") :=
  ⟨fun _ _ => ⟨DynamicWrite.change_eq_ok_iff, fun _ => DynamicWrite.change_eq_error_iff⟩,
    fun place => (DynamicWrite.get_run writes d place).1,
    fun place => (DynamicWrite.get_run writes d place).2,
    fun _ _ _ => get_eq_error_iff⟩

/-- A value is overwritten, and two writes are refused afterwards, the last of them
for its value although it has no names either. A NaN that was there stays unreadable. -/
theorem get_returns_last_set_between_refused :
    let d : TraitsData := ⟨.ofList [("t", ⟨.ofList [("x", .float .nan)]⟩)]⟩
    let nameless : DynamicWrite := ⟨.str "", .str "", .null⟩
    let writes : List DynamicWrite :=
      [⟨.str "t", .str "k", .bool true⟩, ⟨.str "t", .str "k", .int 1⟩,
        ⟨.str "t", .str "k", .int 0x8000000000000000⟩, nameless]
    get (run d writes) (.str "t") (.str "k") = .ok (some (.int 1)) ∧
      get (run d writes) (.str "t") (.str "x") = get d (.str "t") (.str "x") ∧
      get (run d writes) (.str "t") (.str "x") =
        .error (.type "float NaN has no dynamic representation") ∧
      ∃ fault, MinimalFor (WriteFault.Applies nameless) WriteFault.rank fault ∧
        fault.error nameless = .type "type 'null' is not supported" := by
  intro d nameless writes
  obtain ⟨checked, last, kept, failed⟩ := get_returns_last_set d writes
  have tooLarge (place : String × String) (value : Value) :
      ¬ DynamicWrite.Puts ⟨.str "t", .str "k", .int 0x8000000000000000⟩ place value := by
    rintro ⟨-, -, rfl, ⟨-, less⟩, -, -⟩
    exact absurd less (by decide)
  have unsupported (place : String × String) (value : Value) : ¬ nameless.Puts place value := by
    rintro ⟨-, -, rfl, storable, -, -⟩
    exact storable
  have elsewhere (write : DynamicWrite) (key : write.key = .str "k") (value : Value) :
      ¬ write.Puts ("t", "x") value := fun puts =>
    absurd (Value.str.inj (key.symm.trans puts.keyText)) (by decide)
  refine ⟨last ("t", "k") (.int 1) ?_, kept ("t", "x") ?_, ?_, ?_⟩
  · have puts : DynamicWrite.Puts ⟨.str "t", .str "k", .int 1⟩ ("t", "k") (.int 1) :=
      ⟨rfl, rfl, rfl, ⟨by decide, by decide⟩, by decide, by decide⟩
    refine ⟨[⟨.str "t", .str "k", .bool true⟩], _, _, rfl, puts, ?_⟩
    simp only [List.forall_mem_cons]
    exact ⟨tooLarge _, unsupported _, List.forall_mem_nil _⟩
  · simp only [writes, List.forall_mem_cons]
    exact ⟨elsewhere _ rfl, elsewhere _ rfl, elsewhere _ rfl, unsupported _,
      List.forall_mem_nil _⟩
  · have stored : (run d writes).get? "t" "x" = some (.float .nan) := by cbv
    exact (failed _ _ _).2 (.inr ⟨"t", rfl, .inr ⟨"x", rfl, .nan, stored, .inl rfl, rfl⟩⟩)
  · exact ((checked nameless d).2 _).1 rfl

end Json.Exchange

end AssetLink
