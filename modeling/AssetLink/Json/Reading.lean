import AssetLink.Json.Value
import AssetLink.Json.Grammar
import AssetLink.Number.Shortest
import AssetLink.Text.Quoted

/-!
Reading documents as values of a type. A reader goes through a document from
left to right and reports the first fault: malformed text, or a value that the
type does not take.
-/

namespace AssetLink.Json

inductive Found
  | null
  | bool (value : Bool)
  | number (value : Number)
  | string (text : String)
  | sequence
  | map

inductive Mismatch
  | wrongType (found : Found) (expected : String)
  | integerOutOfRange (value : Int)
  | unknownVariant (name : String) (expected : List String)
  | missingField (name : String)
  | duplicateField (name : String)
  | wrongLength (length : Nat) (expected : String)

inductive ReadFault
  | malformed
  | mismatch (cause : Mismatch)

/-- The text of a float in messages. It has a point or an exponent with its sign:
digits are written positionally from five zeros behind the point to sixteen in
front of it. -/
def floatText (x : Binary64) : String :=
  let decimal := x.shortest .even
  let digits := toString decimal.digits
  let count := digits.length
  let point : Int := count + decimal.exponent
  let body :=
    if decimal.digits = 0 then "0.0"
    else if -5 < point ∧ point ≤ 16 then
      let text := Binary64.positional decimal
      if 0 ≤ decimal.exponent then text ++ ".0" else text
    else
      let mantissa :=
        match digits.toList with
        | first :: second :: rest => String.ofList (first :: '.' :: second :: rest)
        | short => String.ofList short
      mantissa ++ (if 0 < point then "e+" else "e") ++ toString (point - 1)
  if x.isNegative then "-" ++ body else body

def Found.description : Found → String
  | null => "null"
  | bool true => "boolean `true`"
  | bool false => "boolean `false`"
  | number (.int value) => s!"integer `{value}`"
  | number (.float value) => s!"floating point `{floatText value.val}`"
  | string text => s!"string {Text.quoted text}"
  | sequence => "sequence"
  | map => "map"

def Mismatch.message : Mismatch → String
  | wrongType found expected => s!"invalid type: {found.description}, expected {expected}"
  | integerOutOfRange value => s!"integer {value} is out of range for a 64-bit signed property"
  | unknownVariant name expected =>
      s!"unknown variant `{name}`, expected one of " ++
        ", ".intercalate (expected.map fun variant => s!"`{variant}`")
  | missingField name => s!"missing field `{name}`"
  | duplicateField name => s!"duplicate field `{name}`"
  | wrongLength length expected => s!"invalid length {length}, expected {expected}"

abbrev Reading := Except ReadFault

def malformed {α : Type} : Reading α :=
  .error .malformed

def mismatch {α : Type} (cause : Mismatch) : Reading α :=
  .error (.mismatch cause)

def numeral (n : Numeral) : Reading Number :=
  n.number?.elim malformed .ok

def literal (pieces : List Piece) : Reading String :=
  (Piece.text? pieces).elim malformed fun text => .ok (.ofList text)

namespace Document

/-- What the document is, as far as a reader that refuses it looks: a scalar is
read, a list or an object only opened. -/
def found : Document → Reading Found
  | null => .ok .null
  | bool value => .ok (.bool value)
  | number n => return .number (← numeral n)
  | string pieces => return .string (← literal pieces)
  | array _ => .ok .sequence
  | object _ => .ok .map
  | broken => malformed

def refuse {α : Type} (document : Document) (expected : String) : Reading α := do
  mismatch (.wrongType (← document.found) expected)

def text (document : Document) : Reading String :=
  match document with
  | string pieces => literal pieces
  | other => other.refuse "a string"

def name : Document → Reading String
  | string pieces => literal pieces
  | _ => malformed

def listOf {α : Type} (item : Document → Reading α) : Document → Reading (List α)
  | array items => items.mapM item
  | other => other.refuse "a sequence"

/-- Of members with the same name the last one stays, but each is read. -/
def dictionaryOf {α : Type} (member : Document → Reading α) : Document → Reading (Dictionary α)
  | object members => do
      let entries ← members.mapM fun (key, value) => return (← key.name, ← member value)
      return .ofList entries
  | other => other.refuse "a map"

mutual

/-- What a document stands for. `room` is how many lists and objects may be
open at once. -/
def value (room : Nat) : Document → Reading Value
  | null => .ok .null
  | bool value => .ok (.bool value)
  | number n => return .ofNumber (← numeral n)
  | string pieces => return .str (← literal pieces)
  | array items =>
      match room with
      | 0 => malformed
      | room + 1 => return .array (← valueItems room items)
  | object members =>
      match room with
      | 0 => malformed
      | room + 1 => return .ofDictionary (.ofList (← valueMembers room members))
  | broken => malformed

def valueItems (room : Nat) : List Document → Reading (List Value)
  | [] => .ok []
  | first :: rest => return (← first.value room) :: (← valueItems room rest)

def valueMembers (room : Nat) : List (Document × Document) → Reading (List (String × Value))
  | [] => .ok []
  | (key, value) :: rest => do
      let entry := (← key.name, ← value.value room)
      return entry :: (← valueMembers room rest)

end

def maxDepth : Nat := 127

def variantOf {α : Type} (ofName? : String → Option α) (names : List String) (name : String) :
    Reading α :=
  (ofName? name).elim (mismatch (.unknownVariant name names)) .ok

def variantName {α : Type} (ofName? : String → Option α) (names : List String) :
    Document → Reading α
  | string pieces => do variantOf ofName? names (← literal pieces)
  | other => other.refuse "variant identifier"

/-- One of finitely many names, alone or as the name of an object's only member,
which is null. -/
def variant {α : Type} (ofName? : String → Option α) (names : List String) :
    Document → Reading α
  | string pieces => do variantOf ofName? names (← literal pieces)
  | object ((key, value) :: rest) => do
      let chosen ← variantOf ofName? names (← key.name)
      match value with
      | null => if rest.isEmpty then return chosen else malformed
      | other => other.refuse "unit"
  | _ => malformed

end Document

def readText {α : Type} (reader : Document → Reading α) (text : String) : Reading α := do
  let (document, trailing) := read text
  let result ← reader document
  if trailing then malformed else return result

end AssetLink.Json
