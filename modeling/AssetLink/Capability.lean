/-!
The two kinds of implementation that plugins provide and hosts use.
-/

namespace AssetLink

inductive Capability
  | manager
  | uiDelegate
deriving DecidableEq, Repr

namespace Capability

def name : Capability → String
  | manager => "manager"
  | uiDelegate => "UI delegate"

def typeName : Capability → String
  | manager => "Manager"
  | uiDelegate => "UIDelegate"

/-- The name of the field that says which implementation an event is about. -/
def field : Capability → String
  | manager => "manager"
  | uiDelegate => "ui_delegate"

def lack (c : Capability) : String :=
  s!"it does not provide a {c.typeName}Plugin"

def refusal (c : Capability) (identifier path : String) : String :=
  s!"Plugin '{identifier}' from '{path}' is not a {c.name} plugin as {c.lack}"

end Capability

end AssetLink
