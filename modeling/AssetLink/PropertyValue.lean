import AssetLink.Dictionary
import AssetLink.AssetError
import AssetLink.Number.Shortest

/-!
Property values. A value is exactly one of text, integer, float and boolean;
there is no null, since an absent property is a missing key.
-/

namespace AssetLink

inductive PropertyKind
  | str
  | int
  | float
  | bool
deriving DecidableEq, Repr

namespace PropertyKind

def all : List PropertyKind := [str, int, float, bool]

def name : PropertyKind → String
  | str => "str"
  | int => "int"
  | float => "float"
  | bool => "bool"

def ofName? (name : String) : Option PropertyKind :=
  all.find? (·.name == name)

end PropertyKind

inductive PropertyValue
  | str (text : String)
  | int (value : Int64)
  | float (value : Binary64)
  | bool (value : Bool)
deriving DecidableEq

abbrev InfoDictionary := Dictionary PropertyValue

namespace PropertyValue

def kind : PropertyValue → PropertyKind
  | str _ => .str
  | int _ => .int
  | float _ => .float
  | bool _ => .bool

def text : PropertyValue → String
  | str text => text
  | int value => toString value.toInt
  | float value => value.text
  | bool value => if value then "true" else "false"

/-- Values of different kinds are never the same, and floats are the same when
they are the same number. -/
def same : PropertyValue → PropertyValue → Bool
  | str a, str b => a == b
  | int a, int b => a == b
  | float a, float b => a.sameNumber b
  | bool a, bool b => a == b
  | _, _ => false

def asStr? : PropertyValue → Option String
  | str text => some text
  | _ => none

def asInt? : PropertyValue → Option Int64
  | int value => some value
  | _ => none

def asFloat? : PropertyValue → Option Binary64
  | float value => some value
  | _ => none

def asBool? : PropertyValue → Option Bool
  | bool value => some value
  | _ => none

def wrongKind (expected : PropertyKind) (value : PropertyValue) : AssetError :=
  .type s!"expected a value of type '{expected.name}', got '{value.kind.name}'"

def expectStr (value : PropertyValue) : Except AssetError String :=
  value.asStr?.elim (.error (value.wrongKind .str)) .ok

def expectInt (value : PropertyValue) : Except AssetError Int64 :=
  value.asInt?.elim (.error (value.wrongKind .int)) .ok

def expectFloat (value : PropertyValue) : Except AssetError Binary64 :=
  value.asFloat?.elim (.error (value.wrongKind .float)) .ok

def expectBool (value : PropertyValue) : Except AssetError Bool :=
  value.asBool?.elim (.error (value.wrongKind .bool)) .ok

end PropertyValue

end AssetLink
