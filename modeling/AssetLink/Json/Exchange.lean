import AssetLink.Json.Value
import AssetLink.Traits.Data

/-!
Exchange with callers whose values are dynamic. What they pass in is checked
completely before any data is touched, and only what a property can hold is let
through in either direction.
-/

namespace AssetLink.Json.Exchange

def int64? (n : Int) : Option Int64 :=
  if -0x8000000000000000 ≤ n ∧ n < 0x8000000000000000 then some (.ofInt n) else none

def outOfRange (n : Int) : AssetError :=
  .type s!"integer {n} is out of range for a 64-bit signed property"

def toProperty : Value → Except AssetError PropertyValue
  | .str text => .ok (.str text)
  | .bool value => .ok (.bool value)
  | .int n => (int64? n).elim (.error (outOfRange n)) fun i => .ok (.int i)
  | .float x => .ok (.float x.val)
  | other => .error (.unsupportedKind other.kindName)

def notRepresentable (x : Binary64) : AssetError :=
  .type s!"float {x.text} has no dynamic representation"

/-- Infinite floats and NaN have no dynamic form. -/
def ofProperty : PropertyValue → Except AssetError Value
  | .str text => .ok (.str text)
  | .int i => .ok (.int i.toInt)
  | .float x => (finite? x).elim (.error (notRepresentable x)) fun x => .ok (.float x)
  | .bool value => .ok (.bool value)

def expectText (argument : String) (value : Value) : Except AssetError String :=
  value.text?.elim (.error (.nonStringArgument argument value.kindName)) .ok

def get (data : TraitsData) (traitId key : Value) : Except AssetError (Option Value) := do
  let traitId ← expectText "trait id" traitId
  let key ← expectText "property key" key
  (data.get? traitId key).mapM ofProperty

def set (traitId key value : Value) : Change TraitsData Unit := do
  let traitId ← expectText "trait id" traitId
  let key ← expectText "property key" key
  let value ← toProperty value
  TraitsData.set traitId key value

def expectMembers (fault : String → AssetError) (value : Value) :
    Except AssetError (Dictionary Value) :=
  value.members?.elim (.error (fault value.kindName)) .ok

def notAnObject (kind : String) : AssetError :=
  .type s!"traits data must be an object, got '{kind}'"

def propertiesNotAnObject (traitId kind : String) : AssetError :=
  .type s!"properties of trait '{traitId}' must be an object, got '{kind}'"

def addTrait (traitId : String) (properties : Value) : Change TraitsData Unit := do
  let members ← expectMembers (propertiesNotAnObject traitId) properties
  TraitsData.addTrait traitId
  members.entries.forM fun (key, value) => do
    TraitsData.set traitId key (← toProperty value)

/-- Trait data from an object of objects, traits and properties in key order. -/
def ofJson (value : Value) : Except AssetError TraitsData := do
  let members ← expectMembers notAnObject value
  Change.build (members.entries.forM fun (traitId, properties) => addTrait traitId properties) {}

def ofEntries {α : Type} (convert : α → Except AssetError Value) (d : Dictionary α) :
    Except AssetError Value := do
  let members ← d.entries.mapM fun (key, value) => return (key, ← convert value)
  return .object members

def toJson (data : TraitsData) : Except AssetError Value :=
  ofEntries (fun properties => ofEntries ofProperty properties.values) data.traits

end AssetLink.Json.Exchange
