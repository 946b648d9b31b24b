import AssetLink.Toml.Text
import AssetLink.Toml.Value

/-!
Tables while they are written. How a table came to be decides what may still be
added to it: a header opens a table once, also one that so far was only implied
by a longer header; dotted keys extend only what dotted keys made.
-/

namespace AssetLink.Toml

inductive Origin
  | header
  | implied
  | dotted
deriving DecidableEq, Repr

inductive Item
  | value (value : Value)
  | table (origin : Origin) (entries : List (String × Item))
  | tables (tables : List (List (String × Item)))

abbrev Entries := List (String × Item)

namespace Entries

def erase (key : String) (entries : Entries) : Entries :=
  entries.filter fun entry => entry.1 != key

def replace (key : String) (item : Item) (entries : Entries) : Entries :=
  entries.map fun entry => if entry.1 == key then (key, item) else entry

def add (key : String) (item : Item) (entries : Entries) : Entries :=
  entries ++ [(key, item)]

def onLast? (change : Entries → Option Entries) (tables : List Entries) :
    Option (List Entries) := do
  let last ← tables.getLast?
  return tables.dropLast ++ [← change last]

def define? (key : String) (value : Value) (entries : Entries) : Option Entries :=
  if (entries.lookup key).isSome then none else some (entries.add key (.value value))

/-- Set what a dotted key names. The table that the last part goes into has to
be one that dotted keys made. -/
def defineDotted? (name : String) (value : Value) : List String → Entries → Option Entries
  | [], entries => entries.define? name value
  | step :: path, entries =>
      match entries.lookup step with
      | none => do
          let inner ← defineDotted? name value path []
          return entries.add step (.table .dotted inner)
      | some (.table .dotted inner) => do
          let inner ← defineDotted? name value path inner
          return entries.replace step (.table .dotted inner)
      | some (.table .implied inner) => do
          guard (path ≠ [])
          let inner ← defineDotted? name value path inner
          return entries.replace step (.table .implied inner)
      | some (.tables tables) => do
          guard (path ≠ [])
          let tables ← onLast? (defineDotted? name value path) tables
          return entries.replace step (.tables tables)
      | some (.table .header _) => none
      | some (.value _) => none

def atPath? (change : Entries → Option Entries) : List String → Entries → Option Entries
  | [], entries => change entries
  | step :: path, entries =>
      match entries.lookup step with
      | none => do
          let inner ← atPath? change path []
          return entries.add step (.table .implied inner)
      | some (.table origin inner) => do
          let inner ← atPath? change path inner
          return entries.replace step (.table origin inner)
      | some (.tables tables) => do
          let tables ← onLast? (atPath? change path) tables
          return entries.replace step (.tables tables)
      | some (.value _) => none

/-- Open a table. One that was implied so far goes behind all others. -/
def openTable? (name : String) (entries : Entries) : Option Entries :=
  match entries.lookup name with
  | none => some (entries.add name (.table .header []))
  | some (.table .implied inner) => some ((entries.erase name).add name (.table .header inner))
  | some _ => none

def appendTable? (name : String) (entries : Entries) : Option Entries :=
  match entries.lookup name with
  | none => some (entries.add name (.tables [[]]))
  | some (.tables tables) => some (entries.replace name (.tables (tables ++ [[]])))
  | some _ => none

end Entries

mutual

def Item.toValue : Item → Value
  | .value value => value
  | .table _ entries => .table (entryValues entries)
  | .tables tables => .array (tableValues tables)

def entryValues : List (String × Item) → List (String × Value)
  | [] => []
  | (key, item) :: rest => (key, item.toValue) :: entryValues rest

def tableValues : List (List (String × Item)) → List Value
  | [] => []
  | entries :: rest => .table (entryValues entries) :: tableValues rest

end

end AssetLink.Toml
