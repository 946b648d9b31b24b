import AssetLink.Dictionary
import AssetLink.Json.Number

/-!
What a JSON document stands for. Integers and floats are different kinds. An object
has its members in key order.
-/

namespace AssetLink.Json

inductive Value
  | null
  | bool (value : Bool)
  | int (value : Int)
  | float (value : FiniteBinary64)
  | str (text : String)
  | array (items : List Value)
  | object (members : List (String × Value))

namespace Value

def kindName : Value → String
  | null => "null"
  | bool _ => "bool"
  | int _ => "int"
  | float _ => "float"
  | str _ => "str"
  | array _ => "array"
  | object _ => "object"

/-- Every object lists each key once, in key order. -/
inductive Canonical : Value → Prop
  | null : Canonical null
  | bool (value : Bool) : Canonical (bool value)
  | int (value : Int) : Canonical (int value)
  | float (value : FiniteBinary64) : Canonical (float value)
  | str (text : String) : Canonical (str text)
  | array {items : List Value} (each : ∀ item ∈ items, Canonical item) :
      Canonical (array items)
  | object {members : List (String × Value)}
      (sorted : members.Pairwise (fun a b => a.1 < b.1))
      (each : ∀ member ∈ members, Canonical member.2) : Canonical (object members)

def ofNumber : Number → Value
  | .int value => int value
  | .float value => float value

def ofDictionary (d : Dictionary Value) : Value :=
  object d.entries

def members? : Value → Option (Dictionary Value)
  | object members => some (.ofList members)
  | _ => none

def text? : Value → Option String
  | str text => some text
  | _ => none

end Value

end AssetLink.Json
