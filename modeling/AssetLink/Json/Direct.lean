import AssetLink.Json.Exchange
import AssetLink.Json.Reading

/-!
Values written to and read from JSON directly. A property is its bare scalar, a
trait's properties and trait data are objects, and an error is an object of its
kind and its message. Reading does not look at the names it reads.
-/

namespace AssetLink

open Json

def PropertyKind.ofDocument : Document → Reading PropertyKind :=
  Document.variant PropertyKind.ofName? (PropertyKind.all.map PropertyKind.name)

namespace PropertyValue

def ofDocument : Document → Reading PropertyValue
  | .bool value => .ok (.bool value)
  | .string pieces => return .str (← literal pieces)
  | .number n => do
      match ← numeral n with
      | .int value => (Exchange.int64? value).elim (mismatch (.integerOutOfRange value)) (.ok ∘ int)
      | .float value => return .float value.val
  | other => other.refuse "a string, integer, float or boolean"

/-- Infinite floats and NaN are written as null. -/
def serialize : PropertyValue → Value
  | str text => .str text
  | int value => .int value.toInt
  | float value => (finite? value).elim .null .float
  | bool value => .bool value

end PropertyValue

namespace TraitProperties

def ofDocument (document : Document) : Reading TraitProperties := do
  return ⟨← document.dictionaryOf PropertyValue.ofDocument⟩

def serialize (p : TraitProperties) : Value :=
  .ofDictionary (p.values.map PropertyValue.serialize)

end TraitProperties

namespace TraitsData

def ofDocument (document : Document) : Reading TraitsData := do
  return ⟨← document.dictionaryOf TraitProperties.ofDocument⟩

def serialize (d : TraitsData) : Value :=
  .ofDictionary (d.traits.map TraitProperties.serialize)

end TraitsData

namespace AssetError

def expected : String := "adjacently tagged enum AssetIoError"

def kindOfDocument : Document → Reading ErrorKind :=
  Document.variant ErrorKind.ofName? (ErrorKind.all.map ErrorKind.name)

def firstOfDocument : Document → Reading ErrorKind :=
  Document.variantName ErrorKind.ofName? (ErrorKind.all.map ErrorKind.name)

/-- The fields of an error's object, in the order in which they are written. -/
inductive Field
  | kind
  | message

def field? (name : String) : Option Field :=
  if name = "kind" then some .kind
  else if name = "message" then some .message
  else none

/-- A document that no one looks at still has to be well formed. -/
def skip : Document → Reading Unit
  | .broken => malformed
  | .array items => skipAll items
  | .object members => skipMembers members
  | _ => .ok ()
where
  skipAll : List Document → Reading Unit
    | [] => .ok ()
    | item :: rest => do skip item; skipAll rest
  skipMembers : List (Document × Document) → Reading Unit
    | [] => .ok ()
    | (.string _, value) :: rest => do skip value; skipMembers rest
    | _ => malformed

def nextField : List (Document × Document) →
    Reading (Option (Field × Document × List (Document × Document)))
  | [] => .ok none
  | (key, value) :: rest => do
      match field? (← key.name) with
      | some field => return some (field, value, rest)
      | none => do skip value; nextField rest

def noFurtherField (members : List (Document × Document)) : Reading Unit := do
  match ← nextField members with
  | none => return ()
  | some (.kind, _) => mismatch (.duplicateField "kind")
  | some (.message, _) => mismatch (.duplicateField "message")

/-- A value that is set aside until it is known what it stands for is read
completely. -/
def setAside (document : Document) : Reading Unit := do
  discard (document.value (Document.maxDepth - 1))

def ofMembers (members : List (Document × Document)) : Reading AssetError := do
  match ← nextField members with
  | none => mismatch (.missingField "kind")
  | some (.kind, first, rest) =>
      let kind ← kindOfDocument first
      match ← nextField rest with
      | none => mismatch (.missingField "message")
      | some (.kind, _) => mismatch (.duplicateField "kind")
      | some (.message, second, rest) =>
          let message ← second.text
          noFurtherField rest
          return ⟨kind, message⟩
  | some (.message, first, rest) =>
      setAside first
      match ← nextField rest with
      | none => mismatch (.missingField "kind")
      | some (.message, _) => mismatch (.duplicateField "message")
      | some (.kind, second, rest) =>
          let kind ← kindOfDocument second
          let message ← first.text
          noFurtherField rest
          return ⟨kind, message⟩

/-- An error is an object with a kind and a message, in either order, or a list
of the two. -/
def ofDocument : Document → Reading AssetError
  | .object members => ofMembers members
  | .array [] => mismatch (.wrongLength 0 expected)
  | .array [kind] => do
      discard (firstOfDocument kind)
      mismatch (.wrongLength 1 expected)
  | .array (kind :: message :: rest) => do
      let kind ← firstOfDocument kind
      let message ← message.text
      if rest.isEmpty then return ⟨kind, message⟩ else malformed
  | other => other.refuse expected

def serialize (e : AssetError) : Value :=
  .ofDictionary (.ofList [("kind", .str e.kind.name), ("message", .str e.message)])

end AssetError

end AssetLink
