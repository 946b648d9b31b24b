import AssetLink.Proofs.Json.Codecs
import Mathlib.Data.Fintype.Basic
import Mathlib.Tactic.FinCases

/-!
Integer literals read as properties. A literal that is carried as an integer
becomes that integer or is refused, whichever way it is read; a literal past the
words of sixty-four bits, or a zero with a sign, is a float to every reader.
-/

namespace AssetLink.Json

def digitChar (d : Digit) : Char :=
  Nat.digitChar d.val

theorem digit?_digitChar : ∀ d : Digit, digit? (digitChar d) = some d := by decide

/-- A numeral with neither fraction nor exponent, and without a zero in front of
other digits. -/
structure IntegerLiteral where
  negative : Bool
  digits : List Digit
  nonempty : digits ≠ []
  plain : digits.head? = some 0 → digits = [0]

namespace IntegerLiteral

def numeral (l : IntegerLiteral) : Numeral :=
  ⟨l.negative, l.digits, none, none⟩

def document (l : IntegerLiteral) : Document :=
  .number l.numeral

def value (l : IntegerLiteral) : Int :=
  if l.negative then -(naturalOf l.digits) else naturalOf l.digits

def text (l : IntegerLiteral) : String :=
  .ofList ((if l.negative then ['-'] else []) ++ l.digits.map digitChar)

/-- The literal denotes one of the integers that a word can hold, with a sign or
without, and is not a zero with a sign. -/
structure Carried (l : IntegerLiteral) : Prop where
  signed : l.negative = true → l.value ≠ 0
  lower : -0x8000000000000000 ≤ l.value
  upper : l.value ≤ wordLimit

theorem takeDigits_digits (digits : List Digit) :
    takeDigits (digits.map digitChar) = (digits, []) := by
  induction digits with
  | nil => rfl
  | cons d rest ih => rw [List.map_cons, takeDigits, digit?_digitChar, ih]

theorem numeral?_digits (l : IntegerLiteral) :
    numeral? l.negative (l.digits.map digitChar) = some (l.numeral, []) := by
  have written : l.digits ≠ [] ∧ (l.digits.head? = some 0 → l.digits = [0]) :=
    ⟨l.nonempty, l.plain⟩
  simp only [numeral?, takeDigits_digits, guard, if_pos written]
  rfl

theorem valueAt_digit (fuel : Nat) (d : Digit) (rest : List Char) :
    valueAt (fuel + 1) (digitChar d :: rest) =
      orBroken .number (numeral? false (digitChar d :: rest)) := by
  fin_cases d <;> rfl

theorem valueAt_minus (fuel : Nat) (rest : List Char) :
    valueAt (fuel + 1) ('-' :: rest) = orBroken .number (numeral? true rest) := rfl

theorem read_text (l : IntegerLiteral) : read l.text = (l.document, false) := by
  have literal : ∀ fuel, valueAt (fuel + 1) l.text.toList = (l.document, []) := by
    intro fuel
    have number := l.numeral?_digits
    rw [text, String.toList_ofList]
    cases sign : l.negative with
    | true =>
      rw [sign] at number
      rw [if_pos rfl, List.singleton_append, valueAt_minus, number]
      rfl
    | false =>
      rw [sign] at number
      rw [if_neg Bool.false_ne_true, List.nil_append]
      obtain ⟨d, rest, digits⟩ := List.exists_cons_of_ne_nil l.nonempty
      rw [digits, List.map_cons] at number ⊢
      rw [valueAt_digit, number]
      rfl
  rw [read, literal]
  rfl

theorem readText_text {α : Type} (reader : Document → Reading α) (l : IntegerLiteral) :
    readText reader l.text = reader l.document := by
  simp only [readText, read_text]
  cases reader l.document <;> rfl

theorem number?_of_carried {l : IntegerLiteral} (carried : l.Carried) :
    l.numeral.number? = some (.int l.value) :=
  if_pos ⟨rfl, carried.signed, carried.lower, carried.upper⟩

theorem number?_of_not_carried {l : IntegerLiteral} (free : ¬ l.Carried) :
    l.numeral.number? = l.numeral.float?.map .float :=
  if_neg fun h => free ⟨h.2.1, h.2.2.1, h.2.2.2⟩

theorem ofDocument_of_carried {l : IntegerLiteral} (carried : l.Carried) :
    PropertyValue.ofDocument l.document =
      (Exchange.int64? l.value).elim (mismatch (.integerOutOfRange l.value)) (.ok ∘ .int) := by
  rw [document, PropertyValue.ofDocument, Json.numeral, number?_of_carried carried]
  rfl

theorem value_of_carried {l : IntegerLiteral} (carried : l.Carried) (room : Nat) :
    l.document.value room = .ok (.int l.value) := by
  rw [document, Document.value, Json.numeral, number?_of_carried carried]
  rfl

theorem ofDocument_eq_ok_iff_of_not_carried {l : IntegerLiteral} (free : ¬ l.Carried)
    {p : PropertyValue} :
    PropertyValue.ofDocument l.document = .ok p ↔
      ∃ x, l.numeral.float? = some x ∧ .float x.val = p := by
  rw [document, PropertyValue.ofDocument, Json.numeral, number?_of_not_carried free]
  cases l.numeral.float? <;>
    simp [malformed, bind, Except.bind, pure, Except.pure]

end IntegerLiteral

/-- The place of one property in a document of trait data whose other members are
all read. The members behind it have other names, so that it stays. -/
structure Slot where
  traitId : String
  key : String
  traitName : Document
  keyName : Document
  /-- The traits before and behind. -/
  before : List (Document × Document)
  after : List (Document × Document)
  /-- The properties of the trait before and behind. -/
  front : List (Document × Document)
  back : List (Document × Document)
  traitRead : traitName.name = .ok traitId
  keyRead : keyName.name = .ok key
  traitsRead : ∀ member ∈ before ++ after,
    ∃ entry, Document.ReadAs TraitProperties.ofDocument member entry
  propertiesRead : ∀ member ∈ front ++ back,
    ∃ entry, Document.ReadAs PropertyValue.ofDocument member entry
  lastTrait : ∀ member ∈ after, member.1.name ≠ .ok traitId
  lastKey : ∀ member ∈ back, member.1.name ≠ .ok key

namespace Slot

def properties (slot : Slot) (property : Document) : Document :=
  .object (slot.front ++ (slot.keyName, property) :: slot.back)

def fill (slot : Slot) (property : Document) : Document :=
  .object (slot.before ++ (slot.traitName, slot.properties property) :: slot.after)

end Slot

theorem Document.exists_dictionaryOf_of_last {α : Type} {read : Document → Reading α}
    {before after : List (Document × Document)} {name document : Document} {key : String} {a : α}
    (others : ∀ member ∈ before ++ after, ∃ entry, ReadAs read member entry)
    (named : name.name = .ok key) (isRead : read document = .ok a)
    (last : ∀ member ∈ after, member.1.name ≠ .ok key) :
    ∃ d, (object (before ++ (name, document) :: after)).dictionaryOf read = .ok d ∧
      d.get? key = some a := by
  rw [List.forall_mem_append] at others
  obtain ⟨first, eachFirst⟩ := exists_forall₂_of_forall_exists others.1
  obtain ⟨later, eachLater⟩ := exists_forall₂_of_forall_exists others.2
  have each : List.Forall₂ (ReadAs read) (before ++ (name, document) :: after)
      (first ++ (key, a) :: later) :=
    List.rel_append eachFirst (.cons ⟨named, isRead⟩ eachLater)
  refine ⟨_, dictionaryOf_object_eq_ok_iff.2 ⟨_, each, rfl⟩, ?_⟩
  refine Dictionary.get?_ofList_last a first fun entry listed same => ?_
  obtain ⟨member, present, readAs⟩ :=
    exists_of_forall₂_of_mem (R := flip (ReadAs read)) eachLater.flip listed
  exact last member present (same ▸ readAs.1)

namespace Slot

theorem exists_data_of_fill (slot : Slot) {property : Document} {p : PropertyValue}
    (h : PropertyValue.ofDocument property = .ok p) :
    ∃ d, TraitsData.ofDocument (slot.fill property) = .ok d ∧
      d.get? slot.traitId slot.key = some p := by
  obtain ⟨values, readValues, found⟩ := Document.exists_dictionaryOf_of_last
    slot.propertiesRead slot.keyRead h slot.lastKey
  have readTrait : TraitProperties.ofDocument (slot.properties property) = .ok ⟨values⟩ :=
    TraitProperties.ofDocument_eq_ok_iff.2 readValues
  obtain ⟨traits, readTraits, present⟩ := Document.exists_dictionaryOf_of_last
    slot.traitsRead slot.traitRead readTrait slot.lastTrait
  refine ⟨⟨traits⟩, TraitsData.ofDocument_eq_ok_iff.2 readTraits, ?_⟩
  rw [TraitsData.get?, TraitsData.properties?, present]
  exact found

theorem ofDocument_fill_ne_ok (slot : Slot) {property : Document}
    (h : ∀ p, PropertyValue.ofDocument property ≠ .ok p) (d : TraitsData) :
    TraitsData.ofDocument (slot.fill property) ≠ .ok d := by
  intro readData
  obtain ⟨trait, -, readTrait⟩ := Document.exists_entry_of_dictionaryOf
    (TraitsData.ofDocument_eq_ok_iff.1 readData)
    (List.mem_append_right slot.before List.mem_cons_self)
  obtain ⟨entry, -, readProperty⟩ := Document.exists_entry_of_dictionaryOf
    (TraitProperties.ofDocument_eq_ok_iff.1 readTrait)
    (List.mem_append_right slot.front List.mem_cons_self)
  exact h entry.2 readProperty

end Slot

namespace IntegerLiteral

/-- Alone, as a property of trait data and by way of a value, the literal is read
as the same property. -/
structure ReadsAs (l : IntegerLiteral) (slot : Slot) (p : PropertyValue) : Prop where
  alone : readText PropertyValue.ofDocument l.text = .ok p
  inData : ∃ d, TraitsData.ofDocument (slot.fill l.document) = .ok d ∧
    d.get? slot.traitId slot.key = some p
  exchanged : ∃ v, readText (Document.value Document.maxDepth) l.text = .ok v ∧
    Exchange.toProperty v = .ok p

/-- In none of the three ways is the literal read as a property, and the integer
is named where it stands alone. -/
structure Refused (l : IntegerLiteral) (slot : Slot) : Prop where
  alone : readText PropertyValue.ofDocument l.text = mismatch (.integerOutOfRange l.value)
  inData : ∀ d, TraitsData.ofDocument (slot.fill l.document) ≠ .ok d
  exchanged : ∃ v, readText (Document.value Document.maxDepth) l.text = .ok v ∧
    Exchange.toProperty v = .error (Exchange.outOfRange l.value)

theorem readsAs_iff {l : IntegerLiteral} {slot : Slot} {p : PropertyValue} :
    l.ReadsAs slot p ↔ PropertyValue.ofDocument l.document = .ok p := by
  constructor
  · exact fun reads => (readText_text PropertyValue.ofDocument l).symm.trans reads.alone
  · intro h
    obtain ⟨v, isValue, exchanged⟩ := Document.property_eq_ok_iff_toProperty.1 h
    exact ⟨readText_text PropertyValue.ofDocument l ▸ h, slot.exists_data_of_fill h, v,
      readText_text (Document.value Document.maxDepth) l ▸ isValue, exchanged⟩

theorem refused_of_carried {l : IntegerLiteral} (carried : l.Carried)
    (past : Exchange.int64? l.value = none) (slot : Slot) : l.Refused slot := by
  have fault : PropertyValue.ofDocument l.document = mismatch (.integerOutOfRange l.value) := by
    rw [ofDocument_of_carried carried, past]
    rfl
  refine ⟨readText_text PropertyValue.ofDocument l ▸ fault, slot.ofDocument_fill_ne_ok ?_,
    .int l.value, ?_, ?_⟩
  · intro p h
    cases fault.symm.trans h
  · rw [readText_text, value_of_carried carried]
  · rw [Exchange.toProperty, past]
    rfl

/-- A literal that is carried as an integer becomes that integer if a property
can hold it and is refused otherwise; any other literal becomes the float that it
is read as, if there is one. -/
theorem integer_literal_readings (l : IntegerLiteral) (slot : Slot) :
    (l.Carried → -0x8000000000000000 ≤ l.value ∧ l.value < 0x8000000000000000 →
      ∃ i : Int64, i.toInt = l.value ∧ l.ReadsAs slot (.int i)) ∧
    (l.Carried → ¬ (-0x8000000000000000 ≤ l.value ∧ l.value < 0x8000000000000000) →
      l.Refused slot) ∧
    (¬ l.Carried → ∀ p, l.ReadsAs slot p ↔ ∃ x, l.numeral.float? = some x ∧ .float x.val = p) := by
  refine ⟨fun carried range => ?_, fun carried past => ?_, fun free p => ?_⟩
  · have held : Exchange.int64? l.value = some (.ofInt l.value) := if_pos range
    refine ⟨.ofInt l.value, (Exchange.int64?_eq_some_iff.1 held).symm, readsAs_iff.2 ?_⟩
    rw [ofDocument_of_carried carried, held]
    rfl
  · exact refused_of_carried carried (if_neg past) slot
  · rw [readsAs_iff, ofDocument_eq_ok_iff_of_not_carried free]

def lowest : IntegerLiteral where
  negative := true
  digits := [9, 2, 2, 3, 3, 7, 2, 0, 3, 6, 8, 5, 4, 7, 7, 5, 8, 0, 8]
  nonempty := by decide
  plain := by decide

def pastHighest : IntegerLiteral where
  negative := false
  digits := [9, 2, 2, 3, 3, 7, 2, 0, 3, 6, 8, 5, 4, 7, 7, 5, 8, 0, 8]
  nonempty := by decide
  plain := by decide

def sampleSlot : Slot where
  traitId := "t"
  key := "k"
  traitName := .string [.char 't']
  keyName := .string [.unit 0x6B]
  before := [(.string [.char 'a'], .object [])]
  after := []
  front := [(.string [.char 'k'], .bool true)]
  back := []
  traitRead := rfl
  keyRead := rfl
  traitsRead := by
    rw [List.append_nil, List.forall_mem_singleton]
    exact ⟨("a", {}), rfl, rfl⟩
  propertiesRead := by
    rw [List.append_nil, List.forall_mem_singleton]
    exact ⟨("k", .bool true), rfl, rfl⟩
  lastTrait := fun _ none => nomatch none
  lastKey := fun _ none => nomatch none

theorem lowest_and_pastHighest_readings :
    lowest.Carried ∧ (∃ i : Int64, i.toInt = -0x8000000000000000 ∧
        lowest.ReadsAs sampleSlot (.int i)) ∧
      pastHighest.Carried ∧ pastHighest.Refused sampleSlot := by
  have low : lowest.Carried := ⟨by decide, by decide, by decide⟩
  have high : pastHighest.Carried := ⟨by decide, by decide, by decide⟩
  exact ⟨low, (integer_literal_readings lowest sampleSlot).1 low (by decide), high,
    (integer_literal_readings pastHighest sampleSlot).2.1 high (by decide)⟩

def minusZero : IntegerLiteral where
  negative := true
  digits := [0]
  nonempty := by decide
  plain := by decide

def pastWords : IntegerLiteral where
  negative := false
  digits := [1, 8, 4, 4, 6, 7, 4, 4, 0, 7, 3, 7, 0, 9, 5, 5, 1, 6, 1, 6]
  nonempty := by decide
  plain := by decide

/-- Neither a zero with a sign nor the first integer past a word is read as an
integer or refused. -/
theorem minusZero_and_pastWords_are_floats :
    minusZero.text = "-0" ∧ minusZero.value = 0 ∧
      minusZero.ReadsAs sampleSlot (.float Binary64.zero.neg) ∧
      pastWords.text = "18446744073709551616" ∧ pastWords.value = 0x10000000000000000 ∧
      pastWords.ReadsAs sampleSlot (.float ⟨0x43F0000000000000⟩) := by
  have zero : minusZero.numeral.float? = some ⟨Binary64.zero.neg, by decide⟩ := by decide +kernel
  have word : pastWords.numeral.float? = some ⟨⟨0x43F0000000000000⟩, by decide⟩ := by
    decide +kernel
  have freeZero : ¬ minusZero.Carried := fun carried => carried.signed rfl rfl
  have freeWord : ¬ pastWords.Carried := fun carried => absurd carried.upper (by decide)
  exact ⟨by decide, by decide,
    readsAs_iff.2 ((ofDocument_eq_ok_iff_of_not_carried freeZero).2 ⟨_, zero, rfl⟩),
    by decide, by decide,
    readsAs_iff.2 ((ofDocument_eq_ok_iff_of_not_carried freeWord).2 ⟨_, word, rfl⟩)⟩

end IntegerLiteral

end AssetLink.Json
