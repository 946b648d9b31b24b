import AssetLink.Dictionary
import AssetLink.Number.Binary64

/-!
Values of TOML documents. A date or time is kept by its canonical text.
-/

namespace AssetLink.Toml

inductive Value
  | string (text : String)
  | integer (value : Int64)
  | float (value : Binary64)
  | boolean (value : Bool)
  | datetime (text : String)
  | array (items : List Value)
  | table (entries : List (String × Value))

namespace Value

def text? : Value → Option String
  | string text => some text
  | _ => none

end Value

end AssetLink.Toml
