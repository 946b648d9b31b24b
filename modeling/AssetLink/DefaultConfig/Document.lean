import AssetLink.Toml.Document

/-!
What the file that names the default manager says, before anything in it is
checked: a manager's part and a UI delegate's part, each of which may be left
out. Inside the values that are kept a table that presents a date or time stands
for it.
-/

namespace AssetLink

structure ConfigDocument where
  identifier : Option Toml.Value := none
  pluginPaths : Option Toml.Value := none
  settings : Dictionary Toml.Value := {}
  uiDelegateSettings : Dictionary Toml.Value := {}

namespace ConfigDocument

/-- The key under which a date or time is presented as a table. -/
def datetimeKey : String := "$__toml_private_datetime"

mutual

/-- A value with what its tables stand for. A table presents a date or time if
its first key says so, and then has to hold its text. -/
def settle? : Toml.Value → Option Toml.Value
  | .array items => .array <$> settleItems? items
  | .table ((key, value) :: rest) => do
      if key = datetimeKey then Toml.wholeDatetime? (← value.text?)
      else return .table ((key, ← settle? value) :: (← settleEntries? rest))
  | value => some value

def settleItems? : List Toml.Value → Option (List Toml.Value)
  | [] => some []
  | first :: rest => return (← settle? first) :: (← settleItems? rest)

def settleEntries? : List (String × Toml.Value) → Option (List (String × Toml.Value))
  | [] => some []
  | (key, value) :: rest => return (key, ← settle? value) :: (← settleEntries? rest)

end

def entries? : Toml.Value → Option (List (String × Toml.Value))
  | .table entries => some entries
  | .datetime text => some [(datetimeKey, .string text)]
  | _ => none

def table? (value : Toml.Value) : Option (Dictionary Toml.Value) :=
  (entries? value).map .ofList

def settings? : Option Toml.Value → Option (Dictionary Toml.Value)
  | some value => do return .ofList (← settleEntries? (← entries? value))
  | none => some {}

/-- A manager's part is a table, or a list of the identifier, the plugin paths
and possibly the settings. -/
def withManager? (document : ConfigDocument) : Toml.Value → Option ConfigDocument
  | .array (identifier :: pluginPaths :: rest) => do
      return { document with
        identifier := ← settle? identifier
        pluginPaths := ← settle? pluginPaths
        settings := ← settings? rest.head? }
  | value => do
      let entries ← table? value
      return { document with
        identifier := ← (entries.get? "identifier").mapM settle?
        pluginPaths := ← (entries.get? "plugin_paths").mapM settle?
        settings := ← settings? (entries.get? "settings") }

def withUIDelegate? (document : ConfigDocument) : Toml.Value → Option ConfigDocument
  | .array items => do
      return { document with uiDelegateSettings := ← settings? items.head? }
  | value => do
      let entries ← table? value
      return { document with
        uiDelegateSettings := ← settings? (entries.get? "settings") }

def ofEntries? (entries : Dictionary Toml.Value) : Option ConfigDocument := do
  let document ← (entries.get? "manager").elim (some {}) (withManager? {})
  (entries.get? "uiDelegate").elim (some document) document.withUIDelegate?

def parse? (text : String) : Option ConfigDocument := do
  ofEntries? (.ofList (← Toml.parse? text))

end ConfigDocument

end AssetLink
