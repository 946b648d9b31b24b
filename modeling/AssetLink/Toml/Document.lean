import AssetLink.Toml.Datetime
import AssetLink.Toml.Number
import AssetLink.Toml.Table

/-!
Documents: lines that set a key, open a table or append to a list of tables.
-/

namespace AssetLink.Toml

def scalar : Scan Value :=
  .string <$> string
    <|> (do Scan.literal "true"; return .boolean true)
    <|> (do Scan.literal "false"; return .boolean false)
    <|> datetime
    <|> float
    <|> integer

mutual

/-- A value in which at most `room` lists and inline tables are open at once. -/
def value : (room : Nat) → Scan Value
  | 0 => scalar
  | room + 1 => do
      match ← Scan.peek with
      | some '[' => do
          Scan.char '['
          let cs ← get
          return .array (← listItems room (cs.length + 1) true)
      | some '{' => do
          Scan.char '{'
          let cs ← get
          return .table (entryValues (← inlineEntries room (cs.length + 1) true []))
      | _ => scalar
termination_by room => (room, 0)

def listItems (room : Nat) : (fuel : Nat) → Bool → Scan (List Value)
  | 0, _ => failure
  | fuel + 1, ready => do
      listGap
      match ← Scan.peek with
      | some ']' => do
          Scan.char ']'
          return []
      | some ',' => do
          if ready then failure
          Scan.char ','
          listItems room fuel true
      | _ => do
          if !ready then failure
          let first ← value room
          return first :: (← listItems room fuel false)
termination_by fuel => (room, fuel + 1)

/-- Entries up to the closing brace, on one line and without a comma before
it. -/
def inlineEntries (room : Nat) : (fuel : Nat) → Bool → Entries → Scan Entries
  | 0, _, _ => failure
  | fuel + 1, first, entries => do
      blanks
      match ← Scan.optional (Scan.char '}') with
      | some _ => return entries
      | none => do
          if !first then Scan.char ','
          let key ← key
          Scan.char '='
          blanks
          let value ← value room
          let entries ← StateT.lift (entries.defineDotted? key.name value key.path)
          inlineEntries room fuel false entries
termination_by fuel => (room, fuel + 1)

end

inductive Line
  | empty
  | entry (key : Key) (value : Value)
  | header (key : Key)
  | append (key : Key)

def appendLine : Scan Line := do
  Scan.literal "[["
  let key ← key
  Scan.literal "]]"
  return .append key

def headerLine : Scan Line := do
  Scan.char '['
  let key ← key
  Scan.char ']'
  return .header key

def entryLine : Scan Line := do
  let key ← key
  Scan.char '='
  blanks
  return .entry key (← value (maxDepth - 1))

def line : Scan Line := do
  blanks
  let line ←
    match ← Scan.peek with
    | some '[' => appendLine <|> headerLine
    | some '#' => pure .empty
    | some '\n' => pure .empty
    | some '\r' => pure .empty
    | none => pure .empty
    | _ => entryLine
  lineEnd
  return line

/-- A document while it is read, and the path of the table that entries go
into. -/
structure Draft where
  root : Entries
  current : List String

namespace Draft

def empty : Draft := ⟨[], []⟩

def add? (draft : Draft) : Line → Option Draft
  | .empty => some draft
  | .entry key value => do
      let root ←
        Entries.atPath? (Entries.defineDotted? key.name value key.path) draft.current draft.root
      return { draft with root }
  | .header key => do
      let root ← Entries.atPath? (Entries.openTable? key.name) key.path draft.root
      return ⟨root, key.path ++ [key.name]⟩
  | .append key => do
      let root ← Entries.atPath? (Entries.appendTable? key.name) key.path draft.root
      return ⟨root, key.path ++ [key.name]⟩

end Draft

def addLines? : Nat → Draft → List Char → Option Draft
  | 0, _, _ => none
  | _ + 1, draft, [] => some draft
  | fuel + 1, draft, cs => do
      let (line, rest) ← line cs
      addLines? fuel (← draft.add? line) rest

/-- The entries of a document. A byte order mark in front of it is passed
over. -/
def parse? (text : String) : Option (List (String × Value)) := do
  let cs :=
    match text.toList with
    | '\uFEFF' :: rest => rest
    | cs => cs
  let draft ← addLines? (cs.length + 1) .empty cs
  return entryValues draft.root

end AssetLink.Toml
